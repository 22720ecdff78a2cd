import EnumTables.Proofs.Act
import EnumTables.Proofs.Hosting.Answers
import EnumTables.Proofs.Lists

/-!
# Fetching the sources of a commit

The tree is asked for first, then all its entries are judged, then the sources among them are asked
for one after the other.  Main statement: a fetch sends exactly these requests up to the one that
meets a fault, ends with that fault or with the texts of all sources, and tells the database
nothing.
-/

namespace EnumTables.Hosting

open Json (valueOf?)

/-! ## Requests and their answers -/

section Answers

variable (w : World) (client : Client) (commit : Commit)

/-- The request for the tree of a commit. -/
def treeRequest : Request :=
  client.request s!"{commit.path}/git/trees/{commit.sha}" [("recursive", .int 1)]

/-- The request for a file at a commit. -/
def contentRequest (path : String) : Request :=
  client.request s!"{commit.path}/contents/{path}" [("ref", .str commit.sha)]

/-- The entries of the tree of a commit. -/
def treeAt : Except Fault (List Json) := do
  let listing ← answer w (treeRequest client commit)
  treeEntries listing

/-- The text of a file at a commit. -/
def textAt (path : String) : Except Fault String := do
  let file ← answer w (contentRequest client commit path)
  contentOf file

end Answers

/-- The path of an entry that is a file with the pattern in its path. -/
def sourcePath? (search : String → Except Fault (RawText → Bool)) (pattern : String) :
    Json → Option String
  | .obj members =>
    match valueOf? members "type", valueOf? members "path", search pattern with
    | some (.str type), some (.str path), .ok occurs =>
      if type = .ofString "blob" ∧ occurs path then some path.inAddress else none
    | _, _, _ => none
  | _ => none

theorem IsSourceAt.sourcePath?_eq {search : String → Except Fault (RawText → Bool)}
    {pattern path : String} {entry : Json} (h : IsSourceAt search pattern entry path) :
    sourcePath? search pattern entry = some path := by
  cases h with
  | mk file path_eq read found =>
    rw [sourcePath?, show valueOf? _ "type" = _ from file, path_eq, read]
    exact if_pos ⟨rfl, found⟩

theorem IsPassedOver.sourcePath?_eq {search : String → Except Fault (RawText → Bool)}
    {pattern : String} {entry : Json} (h : IsPassedOver search pattern entry) :
    sourcePath? search pattern entry = none := by
  cases h with
  | @other members other =>
    rw [sourcePath?]
    split
    · rename_i type _ _ typed _ _
      apply if_neg
      rintro ⟨rfl, -⟩
      exact other typed
    · rfl
  | @unmatched members path occurs file path_eq read absent =>
    rw [sourcePath?, read]
    cases located : valueOf? members "path" with
    | none =>
      cases valueOf? members "type" with
      | none => rfl
      | some type => cases type <;> rfl
    | some v =>
      rw [located, Option.getD_some] at path_eq
      rw [path_eq, show valueOf? members "type" = _ from file]
      apply if_neg
      rintro ⟨-, found⟩
      exact absurd found (by simp [absent])

/-- The paths of the sources are those that are found entry by entry. -/
theorem Selects.eq_filterMap {search : String → Except Fault (RawText → Bool)}
    {pattern : String} {entries : List Json} {paths : List String}
    (h : Selects search pattern entries paths) :
    paths = entries.filterMap (sourcePath? search pattern) := by
  induction h with
  | nil => rfl
  | source source _ ih => rw [List.filterMap_cons_some source.sourcePath?_eq, ← ih]
  | other other _ ih => rw [List.filterMap_cons_none other.sourcePath?_eq, ← ih]

/-! ## What a fetch has to do -/

section Fetch

variable (w : World) (client : Client) (commit : Commit) (pattern : String)

/-- The answer to the request for a file holds this text. -/
def HasText (path text : String) : Prop :=
  ∃ file, Gives w (contentRequest client commit path) file ∧ Holds file text

/-- The request for a file fails, or the answer to it holds no text. -/
def LacksText (path : String) (e : Fault) : Prop :=
  Fails w (contentRequest client commit path) e ∨
    ∃ file, Gives w (contentRequest client commit path) file ∧ Undecoded file e

/-- The requests of a fetch, and the fault or the texts that it ends with. -/
inductive Fetches : List Request → Except Fault (List String) → Prop
  /-- The listing of the tree cannot be had. -/
  | unanswered {e : Fault} (fault : Fails w (treeRequest client commit) e) :
      Fetches [treeRequest client commit] (.error e)
  /-- The listing has no entries. -/
  | unlisted {listing : Json} {e : Fault} (given : Gives w (treeRequest client commit) listing)
      (fault : Unlisted listing e) : Fetches [treeRequest client commit] (.error e)
  /-- An entry cannot be judged. -/
  | misjudged {listing entry : Json} {done rest : List Json} {paths : List String} {e : Fault}
      (given : Gives w (treeRequest client commit) listing)
      (listed : Lists listing (done ++ entry :: rest))
      (selected : Selects w.search pattern done paths)
      (fault : Misjudged w.search pattern entry e) :
      Fetches [treeRequest client commit] (.error e)
  /-- A source cannot be had. -/
  | unread {listing : Json} {entries : List Json} {done rest texts : List String} {path : String}
      {e : Fault} (given : Gives w (treeRequest client commit) listing)
      (listed : Lists listing entries)
      (selected : Selects w.search pattern entries (done ++ path :: rest))
      (read : List.Forall₂ (HasText w client commit) done texts)
      (fault : LacksText w client commit path e) :
      Fetches (treeRequest client commit :: (done ++ [path]).map (contentRequest client commit))
        (.error e)
  /-- All sources are read. -/
  | complete {listing : Json} {entries : List Json} {paths texts : List String}
      (given : Gives w (treeRequest client commit) listing) (listed : Lists listing entries)
      (selected : Selects w.search pattern entries paths)
      (read : List.Forall₂ (HasText w client commit) paths texts) :
      Fetches (treeRequest client commit :: paths.map (contentRequest client commit)) (.ok texts)

end Fetch

/-! ## What can happen -/

section Cases

variable {w : World} {client : Client} {commit : Commit} {path text : String} {e : Fault}

theorem HasText.textAt_eq (h : HasText w client commit path text) :
    textAt w client commit path = .ok text := by
  obtain ⟨file, given, holds⟩ := h
  rw [textAt, answer_eq_ok_iff.mpr given]
  exact holds.contentOf_eq

theorem LacksText.textAt_eq (h : LacksText w client commit path e) :
    textAt w client commit path = .error e := by
  rcases h with failed | ⟨file, given, undecoded⟩
  · rw [textAt, answer_eq_error_iff.mpr failed]
    rfl
  · rw [textAt, answer_eq_ok_iff.mpr given]
    exact undecoded.contentOf_eq

variable (w client commit)

/-- A file can be had or not. -/
theorem hasText_or_lacksText (path : String) :
    (∃ text, HasText w client commit path text) ∨ ∃ e, LacksText w client commit path e := by
  rcases gives_or_fails w (contentRequest client commit path) with ⟨file, given⟩ | ⟨e, failed⟩
  · rcases holds_or_undecoded file with ⟨text, holds⟩ | ⟨e, undecoded⟩
    · exact .inl ⟨text, file, given, holds⟩
    · exact .inr ⟨e, .inr ⟨file, given, undecoded⟩⟩
  · exact .inr ⟨e, .inl failed⟩

variable {w client commit} in
/-- The text of a file is read if and only if the answer to the request for the file holds it. -/
theorem textAt_eq_ok_iff :
    textAt w client commit path = .ok text ↔ HasText w client commit path text := by
  refine ⟨fun read ↦ ?_, HasText.textAt_eq⟩
  rcases hasText_or_lacksText w client commit path with ⟨t, has⟩ | ⟨e, lacks⟩
  · obtain rfl := Except.ok.inj (has.textAt_eq.symm.trans read)
    exact has
  · cases lacks.textAt_eq.symm.trans read

variable {w client commit} in
theorem textAt_eq_error_iff :
    textAt w client commit path = .error e ↔ LacksText w client commit path e := by
  refine ⟨fun failed ↦ ?_, LacksText.textAt_eq⟩
  rcases hasText_or_lacksText w client commit path with ⟨t, has⟩ | ⟨e', lacks⟩
  · cases has.textAt_eq.symm.trans failed
  · obtain rfl := Except.error.inj (lacks.textAt_eq.symm.trans failed)
    exact lacks

/-- All files can be had, or there is a first one that cannot. -/
theorem exists_read_or (paths : List String) :
    (∃ texts, List.Forall₂ (HasText w client commit) paths texts) ∨
      ∃ done path rest texts e, paths = done ++ path :: rest ∧
        List.Forall₂ (HasText w client commit) done texts ∧ LacksText w client commit path e := by
  induction paths with
  | nil => exact .inl ⟨[], .nil⟩
  | cons path paths ih =>
    rcases hasText_or_lacksText w client commit path with ⟨text, first⟩ | ⟨e, fault⟩
    · rcases ih with ⟨texts, rest⟩ | ⟨done, p, rest, texts, e, rfl, read, fault⟩
      · exact .inl ⟨_, .cons first rest⟩
      · exact .inr ⟨_ :: done, p, rest, _, e, rfl, .cons first read, fault⟩
    · exact .inr ⟨[], path, paths, [], e, rfl, .nil, fault⟩

/-- There is something that a fetch has to do, whatever the answers are. -/
theorem exists_fetches (pattern : String) :
    ∃ requests result, Fetches w client commit pattern requests result := by
  rcases gives_or_fails w (treeRequest client commit) with ⟨listing, given⟩ | ⟨e, failed⟩
  · rcases lists_or_unlisted listing with ⟨entries, listed⟩ | ⟨e, unlisted⟩
    · rcases exists_selects_or w.search pattern entries with
        ⟨paths, selected⟩ | ⟨done, entry, rest, paths, e, rfl, selected, fault⟩
      · rcases exists_read_or w client commit paths with
          ⟨texts, read⟩ | ⟨done, path, rest, texts, e, rfl, read, fault⟩
        · exact ⟨_, _, .complete given listed selected read⟩
        · exact ⟨_, _, .unread given listed selected read fault⟩
      · exact ⟨_, _, .misjudged given listed selected fault⟩
    · exact ⟨_, _, .unlisted given unlisted⟩
  · exact ⟨_, _, .unanswered failed⟩

end Cases

/-! ## What a fetch does -/

variable {w : World} {past : Trace} {client : Client} {commit : Commit} {path : String}
  {paths : List String}

/-- To fetch a path is one request. -/
theorem run_fetch (params : List (String × Json)) : (fetch client path params).run w past =
    ⟨[.request (client.request path params)], answer w (client.request path params)⟩ := by
  rw [fetch, answer, Act.run_bind, Act.run_send]
  cases w.respond (client.request path params).url <;> rfl

/-- To fetch a file is one request. -/
theorem run_fetchContent : (fetchContent client commit path).run w past =
    ⟨[.request (contentRequest client commit path)], textAt w client commit path⟩ := by
  rw [fetchContent, textAt, Act.run_bind, run_fetch, ← contentRequest]
  cases answer w (contentRequest client commit path) <;> rfl

/-- Files are asked for one after the other. -/
theorem run_fetchContents_of_read {texts : List String}
    (read : List.Forall₂ (HasText w client commit) paths texts) :
    (fetchContents client commit paths).run w past =
      ⟨(paths.map (contentRequest client commit)).map .request, .ok texts⟩ := by
  induction read generalizing past with
  | nil => rfl
  | @cons path text paths texts first rest ih =>
    have begun : ((fetchContent client commit path).run w past).result = .ok text := by
      rw [run_fetchContent, first.textAt_eq]
    rw [fetchContents, Act.run_bind_of_ok begun, Act.run_bind_of_ok (congrArg Run.result ih), ih,
      run_fetchContent]
    simp

/-- After a file that cannot be had no further one is asked for. -/
theorem run_fetchContents_of_lacksText {done rest texts : List String} {e : Fault}
    (read : List.Forall₂ (HasText w client commit) done texts)
    (fault : LacksText w client commit path e) :
    (fetchContents client commit (done ++ path :: rest)).run w past =
      ⟨((done ++ [path]).map (contentRequest client commit)).map .request, .error e⟩ := by
  induction read generalizing past with
  | nil =>
    have failed : ((fetchContent client commit path).run w past).result = .error e := by
      rw [run_fetchContent, fault.textAt_eq]
    rw [List.nil_append, fetchContents, Act.run_bind_of_error failed, run_fetchContent]
    rfl
  | @cons p text done texts first rest ih =>
    have begun : ((fetchContent client commit p).run w past).result = .ok text := by
      rw [run_fetchContent, first.textAt_eq]
    rw [List.cons_append, fetchContents, Act.run_bind_of_ok begun,
      Act.run_bind_of_error (congrArg Run.result ih), ih, run_fetchContent]
    rfl

/-- To list the sources is one request and perhaps a record in the log. -/
theorem exists_run_listPaths (w : World) (past : Trace) (client : Client) (commit : Commit)
    (pattern : String) : ∃ logs : Trace, logs.OnlyLogs ∧
      (listPaths client commit pattern).run w past =
        ⟨.request (treeRequest client commit) :: logs,
          treeAt w client commit >>= sourcePaths w.search pattern⟩ := by
  rw [treeAt, listPaths, Act.run_bind, run_fetch, ← treeRequest]
  cases answer w (treeRequest client commit) with
  | error e => exact ⟨[], .nil, rfl⟩
  | ok listing =>
    cases listing with
    | obj members =>
      have ended (past : Trace) : (do
          let entries ← Act.ofExcept (treeEntries (.obj members))
          Act.ofExcept (sourcePaths (← Act.search) pattern entries)).run w past =
            ⟨[], treeEntries (.obj members) >>= sourcePaths w.search pattern⟩ := by
        rw [Act.run_bind, Act.run_ofExcept]
        cases treeEntries (.obj members) <;> rfl
      simp only [Json.get?_obj]
      rw [Act.run_bind_of_ok (a := valueOf? members "truncated") rfl]
      split
      · rw [Act.run_bind_of_ok (a := ()) rfl, ended]
        exact ⟨_, .singleton _, rfl⟩
      · rw [ended]
        exact ⟨[], .nil, rfl⟩
    | null | bool | int | float | str | arr => exact ⟨[], .nil, rfl⟩

/-! ## The whole fetch -/

section Sources

variable {pattern : String} {e : Fault}

/-- Without the paths of the sources the request for the tree is the only one. -/
theorem run_sources_of_error
    (h : treeAt w client commit >>= sourcePaths w.search pattern = .error e) :
    let r := (sources client commit pattern).run w past
    r.result = .error e ∧ r.events.requests = [treeRequest client commit] ∧
      r.events.commands = [] := by
  obtain ⟨logs, onlyLogs, listed⟩ := exists_run_listPaths w past client commit pattern
  have failed : ((listPaths client commit pattern).run w past).result = .error e := by
    rw [listed, h]
  rw [sources, Act.run_bind_of_error failed, listed]
  exact ⟨rfl, congrArg (treeRequest client commit :: ·) onlyLogs.requests_eq_nil,
    onlyLogs.commands_eq_nil⟩

/-- With the paths of the sources the requests for these come behind the one for the tree. -/
theorem run_sources_of_ok {rs : List Request} {result : Except Fault (List String)}
    (h : treeAt w client commit >>= sourcePaths w.search pattern = .ok paths)
    (read : ∀ past, (fetchContents client commit paths).run w past = ⟨rs.map .request, result⟩) :
    let r := (sources client commit pattern).run w past
    r.result = result ∧ r.events.requests = treeRequest client commit :: rs ∧
      r.events.commands = [] := by
  obtain ⟨logs, onlyLogs, listed⟩ := exists_run_listPaths w past client commit pattern
  have found : ((listPaths client commit pattern).run w past).result = .ok paths := by
    rw [listed, h]
  rw [sources, Act.run_bind_of_ok found, Act.run_bind_of_ok (a := ()) rfl, read, listed]
  refine ⟨rfl, ?_, ?_⟩
  · rw [Trace.requests_append, Trace.requests_append, Trace.requests_map_request]
    change treeRequest client commit :: (Trace.requests logs ++ rs) = _
    rw [onlyLogs.requests_eq_nil, List.nil_append]
  · rw [Trace.commands_append, Trace.commands_append, Trace.commands_map_request]
    change Trace.commands logs ++ [] = []
    rw [onlyLogs.commands_eq_nil, List.nil_append]

theorem treeAt_of_lists {listing : Json} {entries : List Json}
    (given : Gives w (treeRequest client commit) listing) (listed : Lists listing entries) :
    treeAt w client commit = .ok entries := by
  rw [treeAt, answer_eq_ok_iff.mpr given]
  exact treeEntries_eq_ok_iff.mpr listed

/-- A fetch does what it has to do: it sends its requests, logs, and tells the database nothing. -/
theorem Fetches.run_sources {requests : List Request} {result : Except Fault (List String)}
    (h : Fetches w client commit pattern requests result) (past : Trace) :
    let r := (sources client commit pattern).run w past
    r.result = result ∧ r.events.requests = requests ∧ r.events.commands = [] := by
  cases h with
  | unanswered fault =>
    apply run_sources_of_error
    rw [treeAt, answer_eq_error_iff.mpr fault]
    rfl
  | unlisted given fault =>
    apply run_sources_of_error
    rw [treeAt, answer_eq_ok_iff.mpr given]
    change treeEntries _ >>= _ = _
    rw [treeEntries_eq_error_iff.mpr fault]
    rfl
  | @misjudged listing entry done rest paths e given listed selected fault =>
    apply run_sources_of_error
    rw [treeAt_of_lists given listed]
    exact selected.sourcePaths_eq_error fault rest
  | unread given listed selected read fault =>
    apply run_sources_of_ok
    · rw [treeAt_of_lists given listed]
      exact selected.sourcePaths_eq
    · intro past
      exact run_fetchContents_of_lacksText read fault
  | complete given listed selected read =>
    apply run_sources_of_ok
    · rw [treeAt_of_lists given listed]
      exact selected.sourcePaths_eq
    · intro past
      exact run_fetchContents_of_read read

/-- A fetch tells the database nothing. -/
theorem commands_sources (w : World) (past : Trace) (client : Client) (commit : Commit)
    (pattern : String) : ((sources client commit pattern).run w past).events.commands = [] := by
  obtain ⟨requests, result, fetches⟩ := exists_fetches w client commit pattern
  exact (fetches.run_sources past).2.2

/-- What a fetch has to do is one thing only. -/
theorem Fetches.unique {requests requests' : List Request}
    {result result' : Except Fault (List String)}
    (h : Fetches w client commit pattern requests result)
    (h' : Fetches w client commit pattern requests' result') :
    requests = requests' ∧ result = result' := by
  obtain ⟨result_eq, requests_eq, -⟩ := h.run_sources []
  obtain ⟨result_eq', requests_eq', -⟩ := h'.run_sources []
  exact ⟨requests_eq.symm.trans requests_eq', result_eq.symm.trans result_eq'⟩

end Sources

/-! ## What a fetch is made of -/

section MadeOf

open Act

variable {p : Event → Prop} (requests : ∀ r, p (.request r))

include requests

theorem madeOf_fetch (path : String) (params : List (String × Json)) :
    (fetch client path params).MadeOf p :=
  (MadeOf.send (requests _)).bind fun _ ↦ (MadeOf.read _).bind fun _ ↦ .ofExcept _

theorem madeOf_fetchContents (paths : List String) :
    (fetchContents client commit paths).MadeOf p := by
  induction paths with
  | nil => exact .pure _
  | cons path paths ih =>
    have file : (fetchContent client commit path).MadeOf p :=
      (madeOf_fetch requests _ _).bind fun _ ↦ .ofExcept _
    exact file.bind fun _ ↦ ih.bind fun _ ↦ .pure _

variable (logs : ∀ record, p (.log record))

include logs

/-- A fetch consists of requests and log records. -/
theorem madeOf_sources (pattern : String) : (sources client commit pattern).MadeOf p := by
  have listed : (listPaths client commit pattern).MadeOf p := by
    refine (madeOf_fetch requests _ _).bind fun listing ↦ ?_
    refine (MadeOf.ofExcept _).bind fun truncated ↦ ?_
    have judged : (do
        let entries ← ofExcept (treeEntries listing)
        ofExcept (sourcePaths (← search) pattern entries)).MadeOf p :=
      (MadeOf.ofExcept _).bind fun _ ↦ (MadeOf.read _).bind fun _ ↦ .ofExcept _
    split
    · exact (MadeOf.emit (logs _)).bind fun _ ↦ judged
    · exact judged
  refine listed.bind fun paths ↦ (MadeOf.emit (logs _)).bind fun _ ↦ ?_
  exact madeOf_fetchContents requests paths

end MadeOf

end EnumTables.Hosting
