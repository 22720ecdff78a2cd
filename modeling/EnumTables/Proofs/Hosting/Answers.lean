import EnumTables.Hosting.Source
import EnumTables.Proofs.Json.Shape
import EnumTables.Proofs.Results

/-!
# Answers of the hosting service

Which answers are of use and what they say, and which ones are faults: said of the answers
themselves, not of the order in which the program looks into them.  A request gets an answer or fails;
a listing has entries or is a fault; an entry is a source, or is passed over, or is a fault; and a
description of a file holds a text or is a fault.  Main statements: the program finds exactly these.
-/

namespace EnumTables

open Json (valueOf?)

namespace Hosting

/-! ## Answers to requests -/

section Requests

variable (w : World) (r : Request)

/-- The status of an answer is that of an error of the client or of the server. -/
def IsRefusal (a : Response) : Prop := 400 ≤ a.status ∧ a.status < 600

/-- The request is answered with this value. -/
def Gives (v : Json) : Prop :=
  ∃ a, w.respond r.url = .ok a ∧ ¬ IsRefusal a ∧ Json.ofText w.nesting a.body = .ok v

/-- The request meets this fault. -/
inductive Fails : Fault → Prop
  /-- No answer comes. -/
  | lost {e : Fault} (fault : w.respond r.url = .error e) : Fails e
  /-- The status is that of an error, whatever the body is. -/
  | refused {a : Response} (answered : w.respond r.url = .ok a) (refusal : IsRefusal a) :
      Fails (.transport (.status a.status a.reason a.url))
  /-- The body is not JSON. -/
  | malformed {a : Response} {e : Json.Error} (answered : w.respond r.url = .ok a)
      (proper : ¬ IsRefusal a) (fault : Json.ofText w.nesting a.body = .error e)
      (malformed : e.cause.isMalformed = true) : Fails (.transport (.body e))
  /-- There is a number with too many digits in the body. -/
  | tooLong {a : Response} {e : Json.Error} {n : Nat} (answered : w.respond r.url = .ok a)
      (proper : ¬ IsRefusal a) (fault : Json.ofText w.nesting a.body = .error e)
      (limit : e.cause = .tooManyDigits n) : Fails (.value e.message)
  /-- The body is nested too deep. -/
  | tooDeep {a : Response} {e : Json.Error} (answered : w.respond r.url = .ok a)
      (proper : ¬ IsRefusal a) (fault : Json.ofText w.nesting a.body = .error e)
      (limit : e.cause = .arrayTooDeep ∨ e.cause = .objectTooDeep) : Fails (.runtime e.message)

/-- The value in the world's answer to a request. -/
def answer : Except Fault Json := do
  let response ← w.respond r.url
  bodyOf w.nesting response

variable {w r} {v : Json} {e : Fault}

theorem bodyOf_of_isRefusal {a : Response} (refusal : IsRefusal a) (nesting : Nat) :
    bodyOf nesting a = .error (.transport (.status a.status a.reason a.url)) := if_pos refusal

theorem bodyOf_of_not_isRefusal {a : Response} (proper : ¬ IsRefusal a) (nesting : Nat) :
    bodyOf nesting a = (Json.ofText nesting a.body).mapError bodyFault := if_neg proper

/-- A body that cannot be read is a fault by its cause. -/
theorem bodyOf_of_error {a : Response} {nesting : Nat} {e : Json.Error} (proper : ¬ IsRefusal a)
    (fault : Json.ofText nesting a.body = .error e) : bodyOf nesting a = .error (bodyFault e) := by
  rw [bodyOf_of_not_isRefusal proper, fault]
  rfl

theorem bodyFault_of_isMalformed {e : Json.Error} (h : e.cause.isMalformed = true) :
    bodyFault e = .transport (.body e) := if_pos h

theorem bodyFault_of_tooManyDigits {e : Json.Error} {n : Nat} (h : e.cause = .tooManyDigits n) :
    bodyFault e = .value e.message := by
  rw [bodyFault, Json.Error.isTooDeep, h]
  rfl

theorem bodyFault_of_tooDeep {e : Json.Error}
    (h : e.cause = .arrayTooDeep ∨ e.cause = .objectTooDeep) : bodyFault e = .runtime e.message := by
  rw [bodyFault, Json.Error.isTooDeep]
  rcases h with h | h
  · rw [h]
    rfl
  · rw [h]
    rfl

theorem answer_eq_ok_iff : answer w r = .ok v ↔ Gives w r v := by
  rw [answer, bind_eq_ok_iff, Gives]
  refine exists_congr fun a ↦ and_congr_right fun _ ↦ ?_
  by_cases refusal : IsRefusal a
  · rw [bodyOf_of_isRefusal refusal]
    simp [refusal]
  · rw [bodyOf_of_not_isRefusal refusal, mapError_eq_ok_iff]
    simp [refusal]

theorem answer_eq_error_iff : answer w r = .error e ↔ Fails w r e := by
  rw [answer, bind_eq_error_iff]
  constructor
  · rintro (lost | ⟨a, answered, failed⟩)
    · exact .lost lost
    by_cases refusal : IsRefusal a
    · rw [bodyOf_of_isRefusal refusal] at failed
      cases failed
      exact .refused answered refusal
    · rw [bodyOf_of_not_isRefusal refusal, mapError_eq_error_iff] at failed
      obtain ⟨cause, fault, rfl⟩ := failed
      rcases cause with ⟨cause, line, column, offset⟩
      cases cause with
      | tooManyDigits n => exact .tooLong answered refusal fault rfl
      | arrayTooDeep => exact .tooDeep answered refusal fault (.inl rfl)
      | objectTooDeep => exact .tooDeep answered refusal fault (.inr rfl)
      | _ => exact .malformed answered refusal fault rfl
  · intro failed
    cases failed with
    | lost fault => exact .inl fault
    | refused answered refusal => exact .inr ⟨_, answered, bodyOf_of_isRefusal refusal _⟩
    | malformed answered proper fault malformed =>
      refine .inr ⟨_, answered, ?_⟩
      rw [bodyOf_of_error proper fault, bodyFault_of_isMalformed malformed]
    | tooLong answered proper fault limit =>
      refine .inr ⟨_, answered, ?_⟩
      rw [bodyOf_of_error proper fault, bodyFault_of_tooManyDigits limit]
    | tooDeep answered proper fault limit =>
      refine .inr ⟨_, answered, ?_⟩
      rw [bodyOf_of_error proper fault, bodyFault_of_tooDeep limit]

/-- Every request is answered or fails. -/
theorem gives_or_fails (w : World) (r : Request) : (∃ v, Gives w r v) ∨ ∃ e, Fails w r e := by
  cases h : answer w r with
  | ok v => exact .inl ⟨v, answer_eq_ok_iff.mp h⟩
  | error e => exact .inr ⟨e, answer_eq_error_iff.mp h⟩

end Requests

/-! ## Listings -/

/-- The listing has these entries: the items of its tree, or the characters or the names in it; none
if there is no tree. -/
inductive Lists : Json → List Json → Prop
  | items {listing : List (RawText × Json)} {items : List Json}
      (tree : valueOf? listing "tree" = some (.arr items)) : Lists (.obj listing) items
  | characters {listing : List (RawText × Json)} {s : RawText}
      (tree : valueOf? listing "tree" = some (.str s)) :
      Lists (.obj listing) (s.points.map fun p ↦ .str ⟨[p]⟩)
  | names {listing members : List (RawText × Json)}
      (tree : valueOf? listing "tree" = some (.obj members)) :
      Lists (.obj listing) (members.map fun m ↦ .str m.1)
  | treeless {listing : List (RawText × Json)} (tree : valueOf? listing "tree" = none) :
      Lists (.obj listing) []

/-- The listing has no entries, because of this fault. -/
inductive Unlisted : Json → Fault → Prop
  | notObject {v : Json} (kind : v.kind ≠ .obj) : Unlisted v (.shape (.notObject v.kind))
  | notIterable {listing : List (RawText × Json)} {v : Json} (tree : valueOf? listing "tree" = some v)
      (kind : v.kind ≠ .arr ∧ v.kind ≠ .str ∧ v.kind ≠ .obj) :
      Unlisted (.obj listing) (.shape (.notIterable v.kind))

theorem shaped_eq_ok_iff {α : Type} {x : Except Json.ShapeError α} {a : α} :
    shaped x = .ok a ↔ x = .ok a := mapError_eq_ok_iff

theorem shaped_eq_error_iff {α : Type} {x : Except Json.ShapeError α} {e : Fault} :
    shaped x = .error e ↔ ∃ e', x = .error e' ∧ .shape e' = e := mapError_eq_error_iff

theorem treeEntries_eq_ok_iff {listing : Json} {entries : List Json} :
    treeEntries listing = .ok entries ↔ Lists listing entries := by
  simp only [treeEntries, bind_eq_ok_iff, shaped_eq_ok_iff, Json.get?_eq_ok_iff]
  constructor
  · rintro ⟨_, ⟨members, rfl, rfl⟩, iterated⟩
    cases tree : valueOf? members "tree" with
    | none =>
      rw [tree] at iterated
      cases iterated
      exact .treeless tree
    | some v =>
      rw [tree, Option.getD_some, Json.elements_eq_ok_iff] at iterated
      rcases iterated with rfl | ⟨s, rfl, rfl⟩ | ⟨names, rfl, rfl⟩
      · exact .items tree
      · exact .characters tree
      · exact .names tree
  · intro lists
    cases lists with
    | items tree => exact ⟨_, ⟨_, rfl, tree⟩, rfl⟩
    | characters tree => exact ⟨_, ⟨_, rfl, tree⟩, rfl⟩
    | names tree => exact ⟨_, ⟨_, rfl, tree⟩, rfl⟩
    | treeless tree => exact ⟨_, ⟨_, rfl, tree⟩, rfl⟩

theorem treeEntries_eq_error_iff {listing : Json} {e : Fault} :
    treeEntries listing = .error e ↔ Unlisted listing e := by
  simp only [treeEntries, bind_eq_error_iff, shaped_eq_ok_iff, shaped_eq_error_iff,
    Json.get?_eq_ok_iff, Json.get?_eq_error_iff]
  constructor
  · rintro (⟨_, ⟨kind, rfl⟩, rfl⟩ | ⟨_, ⟨members, rfl, rfl⟩, _, iterated, rfl⟩)
    · exact .notObject kind
    · cases tree : valueOf? members "tree" with
      | none =>
        rw [tree] at iterated
        cases iterated
      | some v =>
        rw [tree, Option.getD_some, Json.elements_eq_error_iff] at iterated
        obtain ⟨kind, rfl⟩ := iterated
        exact .notIterable tree kind
  · intro unlisted
    cases unlisted with
    | notObject kind => exact .inl ⟨_, ⟨kind, rfl⟩, rfl⟩
    | notIterable tree kind =>
      exact .inr ⟨_, ⟨_, rfl, tree⟩, _, Json.elements_eq_error_iff.mpr ⟨kind, rfl⟩, rfl⟩

/-- Every listing has entries or none because of a fault. -/
theorem lists_or_unlisted (listing : Json) :
    (∃ entries, Lists listing entries) ∨ ∃ e, Unlisted listing e := by
  cases h : treeEntries listing with
  | ok entries => exact .inl ⟨entries, treeEntries_eq_ok_iff.mp h⟩
  | error e => exact .inr ⟨e, treeEntries_eq_error_iff.mp h⟩

/-! ## Entries -/

section Entries

variable (search : String → Except Fault (RawText → Bool)) (pattern : String)

/-- The entry is that of a file. -/
def IsFile (entry : List (RawText × Json)) : Prop := valueOf? entry "type" = some (.str "blob")

/-- The entry is that of a source: a file in whose path, given as it stands in an address, the pattern
occurs. -/
inductive IsSourceAt : Json → String → Prop
  | mk {entry : List (RawText × Json)} {path : RawText} {occurs : RawText → Bool}
      (file : IsFile entry) (path_eq : valueOf? entry "path" = some (.str path))
      (read : search pattern = .ok occurs) (found : occurs path = true) :
      IsSourceAt (.obj entry) path.inAddress

/-- The entry is that of something else than a file, or of a file in whose path, which counts as empty
if there is none, the pattern does not occur. -/
inductive IsPassedOver : Json → Prop
  | other {entry : List (RawText × Json)} (other : ¬ IsFile entry) : IsPassedOver (.obj entry)
  | unmatched {entry : List (RawText × Json)} {path : RawText} {occurs : RawText → Bool}
      (file : IsFile entry) (path_eq : (valueOf? entry "path").getD (.str "") = .str path)
      (read : search pattern = .ok occurs) (absent : occurs path = false) :
      IsPassedOver (.obj entry)

/-- The entry cannot be judged, because of this fault. -/
inductive Misjudged : Json → Fault → Prop
  | notObject {v : Json} (kind : v.kind ≠ .obj) : Misjudged v (.shape (.notObject v.kind))
  /-- The pattern is none; that is seen at the first file. -/
  | badPattern {entry : List (RawText × Json)} {e : Fault} (file : IsFile entry)
      (fault : search pattern = .error e) : Misjudged (.obj entry) e
  | notText {entry : List (RawText × Json)} {path : Json} {occurs : RawText → Bool}
      (file : IsFile entry) (path_eq : valueOf? entry "path" = some path)
      (read : search pattern = .ok occurs) (kind : path.kind ≠ .str) :
      Misjudged (.obj entry) (.shape (.notSearchable path.kind))
  /-- There is no path, and the pattern occurs in the empty one. -/
  | pathless {entry : List (RawText × Json)} {occurs : RawText → Bool} (file : IsFile entry)
      (path_eq : valueOf? entry "path" = none) (read : search pattern = .ok occurs)
      (found : occurs "" = true) : Misjudged (.obj entry) (.shape (.missingMember "path"))

/-- The path of an entry that is a source, or the fault that the entry meets. -/
def judge (entry : Json) : Except Fault (Option String) := do
  if ← isSource search pattern entry then
    let path ← shaped (entry.member "path")
    return some path.display.inAddress
  else return none

variable {search pattern} {entry : Json} {members : List (RawText × Json)}

theorem judge_of_kind (kind : entry.kind ≠ .obj) :
    judge search pattern entry = .error (.shape (.notObject entry.kind)) := by
  cases entry with
  | obj members => exact absurd rfl kind
  | null | bool | int | float | str | arr => rfl

/-- Of an entry that is an object, a file is judged by its path. -/
theorem isSource_obj : isSource search pattern (.obj members) =
    if ((valueOf? members "type").getD .null).isText "blob" then
      pathMatches search pattern ((valueOf? members "path").getD (.str ""))
    else .ok false := by
  rw [isSource, Json.get?_obj]
  rfl

theorem judge_of_not_isFile (other : ¬ IsFile members) :
    judge search pattern (.obj members) = .ok none := by
  rw [judge, isSource_obj, if_neg (mt Json.getD_isText_iff.mp other)]
  rfl

theorem judge_of_isFile (file : IsFile members) : judge search pattern (.obj members) = (do
    if ← pathMatches search pattern ((valueOf? members "path").getD (.str "")) then
      let path ← shaped ((Json.obj members).member "path")
      return some path.display.inAddress
    else return none) := by
  rw [judge, isSource_obj, if_pos (Json.getD_isText_iff.mpr file)]

variable {path : Json} {s : RawText} {occurs : RawText → Bool} {found : String} {e : Fault}

theorem pathMatches_of_error (fault : search pattern = .error e) :
    pathMatches search pattern path = .error e := by
  rw [pathMatches, fault]
  rfl

theorem pathMatches_str (read : search pattern = .ok occurs) :
    pathMatches search pattern (.str s) = .ok (occurs s) := by
  rw [pathMatches, read]
  rfl

theorem pathMatches_of_kind (read : search pattern = .ok occurs) (kind : path.kind ≠ .str) :
    pathMatches search pattern path = .error (.shape (.notSearchable path.kind)) := by
  rw [pathMatches, read]
  cases path with
  | str s => exact absurd rfl kind
  | null | bool | int | float | arr | obj => rfl

theorem IsSourceAt.judge_eq (h : IsSourceAt search pattern entry found) :
    judge search pattern entry = .ok (some found) := by
  cases h with
  | mk file path_eq read found =>
    rw [judge_of_isFile file, path_eq, Option.getD_some, pathMatches_str read, found, Json.member,
      path_eq]
    rfl

theorem IsPassedOver.judge_eq (h : IsPassedOver search pattern entry) :
    judge search pattern entry = .ok none := by
  cases h with
  | other other => exact judge_of_not_isFile other
  | unmatched file path_eq read absent =>
    rw [judge_of_isFile file, path_eq, pathMatches_str read, absent]
    rfl

theorem Misjudged.judge_eq (h : Misjudged search pattern entry e) :
    judge search pattern entry = .error e := by
  cases h with
  | notObject kind => exact judge_of_kind kind
  | badPattern file fault =>
    rw [judge_of_isFile file, pathMatches_of_error fault]
    rfl
  | notText file path_eq read kind =>
    rw [judge_of_isFile file, path_eq, Option.getD_some, pathMatches_of_kind read kind]
    rfl
  | pathless file path_eq read found =>
    rw [judge_of_isFile file, path_eq, Option.getD_none, pathMatches_str read, found, Json.member,
      path_eq]
    rfl

/-- Every entry is a source, or is passed over, or cannot be judged. -/
theorem judged_or (search : String → Except Fault (RawText → Bool)) (pattern : String)
    (entry : Json) : (∃ found, IsSourceAt search pattern entry found) ∨
      IsPassedOver search pattern entry ∨ ∃ e, Misjudged search pattern entry e := by
  by_cases object : entry.kind = .obj
  · cases entry with
    | obj members =>
      by_cases file : IsFile members
      · cases read : search pattern with
        | error e => exact .inr (.inr ⟨e, .badPattern file read⟩)
        | ok occurs =>
          cases path_eq : valueOf? members "path" with
          | none =>
            cases found : occurs "" with
            | true => exact .inr (.inr ⟨_, .pathless file path_eq read found⟩)
            | false => exact .inr (.inl (.unmatched file (by rw [path_eq]; rfl) read found))
          | some path =>
            by_cases text : path.kind = .str
            · cases path with
              | str s =>
                cases found : occurs s with
                | true => exact .inl ⟨_, .mk file path_eq read found⟩
                | false => exact .inr (.inl (.unmatched file (by rw [path_eq]; rfl) read found))
              | null | bool | int | float | arr | obj => cases text
            · exact .inr (.inr ⟨_, .notText file path_eq read text⟩)
      · exact .inr (.inl (.other file))
    | null | bool | int | float | str | arr => cases object
  · exact .inr (.inr ⟨_, .notObject object⟩)

/-- The entries that are sources are those with these paths, in their order; the others are passed
over. -/
inductive Selects (search : String → Except Fault (RawText → Bool)) (pattern : String) :
    List Json → List String → Prop
  | nil : Selects search pattern [] []
  | source {entry : Json} {path : String} {entries : List Json} {paths : List String}
      (source : IsSourceAt search pattern entry path) (rest : Selects search pattern entries paths) :
      Selects search pattern (entry :: entries) (path :: paths)
  | other {entry : Json} {entries : List Json} {paths : List String}
      (other : IsPassedOver search pattern entry) (rest : Selects search pattern entries paths) :
      Selects search pattern (entry :: entries) paths

variable {entries : List Json} {paths : List String}

theorem sourcePaths_cons (entry : Json) (entries : List Json) :
    sourcePaths search pattern (entry :: entries) = (do
      let found ← judge search pattern entry
      return found.toList ++ (← sourcePaths search pattern entries)) := by
  rw [sourcePaths, judge]
  simp only [bind_assoc]
  refine bind_congr fun source ↦ ?_
  cases source <;> simp

theorem Selects.sourcePaths_eq (h : Selects search pattern entries paths) :
    sourcePaths search pattern entries = .ok paths := by
  induction h with
  | nil => rfl
  | source source _ ih =>
    rw [sourcePaths_cons, source.judge_eq, ih]
    rfl
  | other other _ ih =>
    rw [sourcePaths_cons, other.judge_eq, ih]
    rfl

/-- An entry that cannot be judged stops the selection, whatever stands behind it. -/
theorem Selects.sourcePaths_eq_error (h : Selects search pattern entries paths)
    (fault : Misjudged search pattern entry e) (rest : List Json) :
    sourcePaths search pattern (entries ++ entry :: rest) = .error e := by
  induction h with
  | nil =>
    rw [List.nil_append, sourcePaths_cons, fault.judge_eq]
    rfl
  | source source _ ih =>
    rw [List.cons_append, sourcePaths_cons, source.judge_eq, ih]
    rfl
  | other other _ ih =>
    rw [List.cons_append, sourcePaths_cons, other.judge_eq, ih]
    rfl

/-- All entries are judged, or there is a first that cannot be. -/
theorem exists_selects_or (search : String → Except Fault (RawText → Bool)) (pattern : String)
    (entries : List Json) : (∃ paths, Selects search pattern entries paths) ∨
      ∃ done entry rest paths e, entries = done ++ entry :: rest ∧
        Selects search pattern done paths ∧ Misjudged search pattern entry e := by
  induction entries with
  | nil => exact .inl ⟨[], .nil⟩
  | cons entry entries ih =>
    rcases judged_or search pattern entry with ⟨found, source⟩ | other | ⟨e, fault⟩
    · rcases ih with ⟨paths, rest⟩ | ⟨done, x, rest, paths, e, rfl, selected, fault⟩
      · exact .inl ⟨_, .source source rest⟩
      · exact .inr ⟨_ :: done, x, rest, _, e, rfl, .source source selected, fault⟩
    · rcases ih with ⟨paths, rest⟩ | ⟨done, x, rest, paths, e, rfl, selected, fault⟩
      · exact .inl ⟨_, .other other rest⟩
      · exact .inr ⟨_ :: done, x, rest, _, e, rfl, .other other selected, fault⟩
    · exact .inr ⟨[], entry, entries, [], e, rfl, .nil, fault⟩

end Entries

/-! ## Descriptions of files -/

open Text

/-- The description of a file holds this text: the content is the base64 of bytes, which stand for
the text, with replacement characters where they are not UTF-8. -/
def Holds (file : Json) (text : String) : Prop :=
  ∃ members content bytes, file = .obj members ∧
    valueOf? members "content" = some (.str (.ofString content)) ∧
    Base64.decode content = .ok bytes ∧ text = Utf8.decodeReplacing bytes

/-- The description of a file holds no text, because of this fault. -/
inductive Undecoded : Json → Fault → Prop
  | array {items : List Json} : Undecoded (.arr items) (.shape .arrayIndex)
  | text {s : RawText} : Undecoded (.str s) (.shape .textIndex)
  | notIndexable {file : Json} (kind : file.kind ≠ .arr ∧ file.kind ≠ .str ∧ file.kind ≠ .obj) :
      Undecoded file (.shape (.notIndexable file.kind))
  | missing {members : List (RawText × Json)} (content : valueOf? members "content" = none) :
      Undecoded (.obj members) (.shape (.missingMember "content"))
  | notText {members : List (RawText × Json)} {v : Json}
      (content : valueOf? members "content" = some v) (kind : v.kind ≠ .str) :
      Undecoded (.obj members) (.shape (.notDecodable v.kind))
  /-- There is a surrogate in the content, which is therefore not ASCII. -/
  | surrogate {members : List (RawText × Json)} {s : RawText}
      (content : valueOf? members "content" = some (.str s)) (raw : ∀ t : String, s ≠ t) :
      Undecoded (.obj members) (.base64 .notAscii)
  | notBase64 {members : List (RawText × Json)} {s : String} {e : Base64.Error}
      (content : valueOf? members "content" = some (.str s)) (fault : Base64.decode s = .error e) :
      Undecoded (.obj members) (.base64 e)

variable {file : Json} {text : String} {e : Fault}

theorem contentOf_of_member {s : RawText} (h : file.member "content" = .ok (.str s)) :
    contentOf file = decodeContent s := by
  rw [contentOf, h]
  rfl

theorem member_content {members : List (RawText × Json)} {v : Json}
    (h : valueOf? members "content" = some v) : (Json.obj members).member "content" = .ok v :=
  Json.member_eq_ok_iff.mpr ⟨members, rfl, h⟩

theorem decodeContent_of_ok {content : String} {bytes : List UInt8}
    (decoded : Base64.decode content = .ok bytes) :
    decodeContent content = .ok (Utf8.decodeReplacing bytes) := by
  rw [decodeContent, RawText.toString?_ofString]
  change (do return Utf8.decodeReplacing (← (Base64.decode content).mapError Fault.base64)) = _
  rw [decoded]
  rfl

theorem decodeContent_of_error {content : String} {e : Base64.Error}
    (fault : Base64.decode content = .error e) : decodeContent content = .error (.base64 e) := by
  rw [decodeContent, RawText.toString?_ofString]
  change (do return Utf8.decodeReplacing (← (Base64.decode content).mapError Fault.base64)) = _
  rw [fault]
  rfl

theorem Holds.contentOf_eq (h : Holds file text) : contentOf file = .ok text := by
  obtain ⟨members, content, bytes, rfl, content_eq, decoded, rfl⟩ := h
  rw [contentOf_of_member (member_content content_eq), decodeContent_of_ok decoded]

theorem Undecoded.contentOf_eq (h : Undecoded file e) : contentOf file = .error e := by
  cases h with
  | array => rfl
  | text => rfl
  | notIndexable kind =>
    cases file with
    | arr => exact absurd rfl kind.1
    | str => exact absurd rfl kind.2.1
    | obj => exact absurd rfl kind.2.2
    | null | bool | int | float => rfl
  | missing content =>
    rw [contentOf, Json.member, content]
    rfl
  | @notText members v content kind =>
    rw [contentOf, Json.member, content]
    cases v with
    | str => exact absurd rfl kind
    | null | bool | int | float | arr | obj => rfl
  | @surrogate members s content raw =>
    have unshown : s.toString? = none := by
      cases shown : s.toString? with
      | none => rfl
      | some t => exact absurd (RawText.toString?_eq_some_iff.mp shown) (raw t)
    rw [contentOf_of_member (member_content content), decodeContent, unshown]
  | notBase64 content fault =>
    rw [contentOf_of_member (member_content content), decodeContent_of_error fault]

/-- Every description holds a text or is a fault. -/
theorem holds_or_undecoded (file : Json) : (∃ text, Holds file text) ∨ ∃ e, Undecoded file e := by
  cases file with
  | arr => exact .inr ⟨_, .array⟩
  | str => exact .inr ⟨_, .text⟩
  | null | bool | int | float => exact .inr ⟨_, .notIndexable ⟨nofun, nofun, nofun⟩⟩
  | obj members =>
    cases content : valueOf? members "content" with
    | none => exact .inr ⟨_, .missing content⟩
    | some v =>
      by_cases kind : v.kind = .str
      · cases v with
        | str s =>
          by_cases proper : ∃ t : String, s = t
          · obtain ⟨t, rfl⟩ := proper
            cases decoded : Base64.decode t with
            | ok bytes => exact .inl ⟨_, members, t, bytes, rfl, content, decoded, rfl⟩
            | error e => exact .inr ⟨_, .notBase64 content decoded⟩
          · exact .inr ⟨_, .surrogate content (not_exists.mp proper)⟩
        | null | bool | int | float | arr | obj => cases kind
      · exact .inr ⟨_, .notText content kind⟩

end Hosting

end EnumTables
