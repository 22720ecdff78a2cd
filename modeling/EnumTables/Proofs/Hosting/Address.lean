import EnumTables.Proofs.Hosting.Fetch
import EnumTables.Proofs.Lists
import EnumTables.Proofs.Text.Utf8
import Mathlib.Data.List.TakeWhile

/-!
# The addresses of files

An address is a scheme, an authority, a path and perhaps a query and a fragment.  The path ends with
the first question mark or number sign, and a percent sign in it stands with two hexadecimal digits
for one byte.  The address of a file is written without any of this in mind.  Main statement: the
address that is requested for a file denotes the path of the file if and only if none of the three
marks is in that path, and then no other such file has this address.
-/

namespace EnumTables

/-! ## Reading an address -/

namespace Address

/-- Characters before the end of a scheme. -/
def inScheme (c : Char) : Bool := c ≠ ':' && c ≠ '/' && c ≠ '?' && c ≠ '#'

/-- Characters before the end of an authority. -/
def inAuthority (c : Char) : Bool := c ≠ '/' && c ≠ '?' && c ≠ '#'

/-- Characters before the end of a path. -/
def inPath (c : Char) : Bool := c ≠ '?' && c ≠ '#'

/-- The path component of an address with an authority. -/
def path? (url : List Char) : Option (List Char) :=
  match url.dropWhile inScheme with
  | ':' :: '/' :: '/' :: rest => some ((rest.dropWhile inAuthority).takeWhile inPath)
  | _ => none

/-- The bytes that a component stands for.  Every character but the percent sign stands for its own
bytes. -/
def bytes? : List Char → Option (List UInt8)
  | [] => some []
  | '%' :: high :: low :: cs => do
    let high ← Text.hexValue? high
    let low ← Text.hexValue? low
    let bytes ← bytes? cs
    return UInt8.ofNat (16 * high + low) :: bytes
  | '%' :: _ => none
  | c :: cs => (bytes? cs).map (String.utf8EncodeChar c ++ ·)

/-- The path component of an address denotes a text. -/
def Denotes (url text : String) : Prop :=
  ∃ component, path? url.toList = some component ∧
    bytes? component = some (Text.Utf8.encode text)

/-- None of the marks is in a text that mean something else in a path. -/
def IsPlain (s : String) : Prop := ∀ c ∈ s.toList, inPath c = true ∧ c ≠ '%'

instance instDecidableIsPlain (s : String) : Decidable (IsPlain s) :=
  List.decidableBAll (fun c ↦ inPath c = true ∧ c ≠ '%') s.toList

/-! ## The bytes of a component -/

variable {cs url base more : List Char} {bytes : List UInt8} {s : String}

theorem bytes?_cons {c : Char} (plain : c ≠ '%') :
    bytes? (c :: cs) = (bytes? cs).map (String.utf8EncodeChar c ++ ·) := by
  rw [bytes?]
  · rintro high low cs rfl
    exact absurd rfl plain
  · rintro rfl
    exact absurd rfl plain

/-- Without percent signs a component stands for its own bytes. -/
theorem bytes?_eq_some (plain : '%' ∉ cs) : bytes? cs = some (cs.flatMap String.utf8EncodeChar) := by
  induction cs with
  | nil => rfl
  | cons c cs ih =>
    obtain ⟨first, rest⟩ := List.ne_and_not_mem_of_not_mem_cons plain
    rw [bytes?_cons first.symm, ih rest, Option.map_some, List.flatMap_cons]

theorem length_utf8EncodeChar_pos (c : Char) : 0 < (String.utf8EncodeChar c).length := by
  rw [String.length_utf8EncodeChar]
  exact Char.utf8Size_pos c

/-- A component stands for no more bytes than its characters have, and for fewer if there is a percent
sign in it. -/
theorem length_bytes? (h : bytes? cs = some bytes) :
    bytes.length ≤ (cs.flatMap String.utf8EncodeChar).length ∧
      ('%' ∈ cs → bytes.length < (cs.flatMap String.utf8EncodeChar).length) := by
  fun_induction bytes? cs generalizing bytes with
  | case1 =>
    obtain rfl := Option.some.inj h
    exact ⟨Nat.le_refl _, nofun⟩
  | case2 high low cs ih =>
    obtain ⟨n, -, h⟩ := Option.bind_eq_some_iff.mp h
    obtain ⟨m, -, h⟩ := Option.bind_eq_some_iff.mp h
    obtain ⟨rest, read, h⟩ := Option.bind_eq_some_iff.mp h
    obtain rfl := Option.some.inj h
    have shorter : (UInt8.ofNat (16 * n + m) :: rest).length <
        (('%' :: high :: low :: cs).flatMap String.utf8EncodeChar).length := by
      have percent := length_utf8EncodeChar_pos '%'
      have first := length_utf8EncodeChar_pos high
      have most := (ih read).1
      simp only [List.flatMap_cons, List.length_append, List.length_cons]
      omega
    exact ⟨Nat.le_of_lt shorter, fun _ ↦ shorter⟩
  | case3 => nomatch h
  | case4 c cs _ other ih =>
    obtain ⟨rest, read, rfl⟩ := Option.map_eq_some_iff.mp h
    obtain ⟨most, less⟩ := ih read
    simp only [List.flatMap_cons, List.length_append]
    refine ⟨by omega, fun member ↦ ?_⟩
    have later : '%' ∈ cs := (List.mem_cons.mp member).resolve_left fun same ↦ other same.symm
    have := less later
    omega

/-! ## The path of a longer address -/

/-- Behind an address without a query and a fragment its path goes on. -/
theorem path?_append (h : path? url = some base) (whole : ∀ c ∈ url, inPath c = true) :
    path? (url ++ '/' :: more) = some (base ++ ('/' :: more).takeWhile inPath) := by
  unfold path? at h
  split at h
  · rename_i rest found
    obtain rfl := Option.some.inj h
    have inside : ∀ c ∈ rest.dropWhile inAuthority, inPath c = true := fun c member ↦ by
      have member : c ∈ url.dropWhile inScheme := by
        rw [found]
        exact List.mem_cons_of_mem _ (List.mem_cons_of_mem _ (List.mem_cons_of_mem _
          ((List.dropWhile_sublist inAuthority).subset member)))
      exact whole c ((List.dropWhile_sublist inScheme).subset member)
    rw [path?, dropWhile_append_cons (by decide), found]
    simp only [List.cons_append]
    rw [dropWhile_append_cons (by decide), List.takeWhile_append_of_pos inside,
      List.takeWhile_eq_self_iff.mpr inside]
  · nomatch h

/-- A path that ends early or holds a percent sign does not denote what is written. -/
theorem denotes_iff {fixed text : List Char} (path : path? url = some (fixed ++ text.takeWhile inPath))
    (plain : '%' ∉ fixed) : Denotes (String.ofList url) (String.ofList (fixed ++ text)) ↔
      ∀ c ∈ text, inPath c = true ∧ c ≠ '%' := by
  rw [Denotes, String.toList_ofList, Text.Utf8.encode, String.toList_ofList]
  constructor
  · rintro ⟨component, read, denoted⟩
    obtain rfl := Option.some.inj (path.symm.trans read)
    obtain ⟨most, less⟩ := length_bytes? denoted
    have split : text.takeWhile inPath ++ text.dropWhile inPath = text :=
      List.takeWhile_append_dropWhile
    have size := congrArg (fun cs ↦ (cs.flatMap String.utf8EncodeChar).length) split
    simp only [List.flatMap_append, List.length_append] at size most less
    have whole : text.dropWhile inPath = [] := by
      cases cut : text.dropWhile inPath with
      | nil => rfl
      | cons c rest =>
        -- what is cut off is missing among the bytes
        have mark := length_utf8EncodeChar_pos c
        rw [cut, List.flatMap_cons, List.length_append] at size
        omega
    rw [whole, List.append_nil] at split
    rw [split] at most less
    have unescaped : '%' ∉ text := fun member ↦ by
      have := less (List.mem_append_right fixed member)
      omega
    exact fun c member ↦ ⟨List.takeWhile_eq_self_iff.mp split c member,
      fun same ↦ unescaped (same ▸ member)⟩
  · intro marks
    have inside : text.takeWhile inPath = text :=
      List.takeWhile_eq_self_iff.mpr fun c member ↦ (marks c member).1
    rw [inside] at path
    refine ⟨_, path, bytes?_eq_some fun member ↦ ?_⟩
    rcases List.mem_append.mp member with member | member
    · exact plain member
    · exact (marks _ member).2 rfl

/-- An address denotes one text at most. -/
theorem Denotes.unique {url text text' : String} (h : Denotes url text) (h' : Denotes url text') :
    text = text' := by
  obtain ⟨component, path, denoted⟩ := h
  obtain ⟨component', path', denoted'⟩ := h'
  obtain rfl := Option.some.inj (path.symm.trans path')
  have same := Option.some.inj (denoted.symm.trans denoted')
  rw [← Text.Utf8.decodeReplacing_encode text, same, Text.Utf8.decodeReplacing_encode]

end Address

/-! ## The requests of a fetch -/

namespace Hosting

open Address

/-- The client's address has this path, and neither a query nor a fragment. -/
structure Client.IsAt (c : Client) (base : String) : Prop where
  path : path? c.apiUrl.toList = some base.toList
  whole : ∀ d ∈ c.apiUrl.toList, inPath d = true
  plain : '%' ∉ base.toList

/-- The path by which the service knows a file, below its own. -/
def filePath (commit : Commit) (path : String) : String := s!"{commit.path}/contents/{path}"

/-- The paths of the sources in the tree of a commit; none if the tree cannot be had. -/
def listedPaths (w : World) (client : Client) (commit : Commit) (pattern : String) : List String :=
  ((treeAt w client commit).toOption.getD []).filterMap (sourcePath? w.search pattern)

theorem listedPaths_of_lists {w : World} {client : Client} {commit : Commit} {pattern : String}
    {listing : Json} {entries : List Json} (given : Gives w (treeRequest client commit) listing)
    (listed : Lists listing entries) : listedPaths w client commit pattern =
      entries.filterMap (sourcePath? w.search pattern) := by
  rw [listedPaths, treeAt_of_lists given listed]
  rfl

section Requests

variable {w : World} {past : Trace} {client : Client} {commit : Commit} {base path : String}

/-- What stands before a file's own path, behind the first slash. -/
def folder (commit : Commit) : List Char :=
  "repos/".toList ++ commit.owner.toList ++ '/' :: (commit.repository.toList ++
    "/contents/".toList)

theorem folder_eq (commit : Commit) : folder commit = "repos/".toList ++ commit.owner.toList ++
    '/' :: (commit.repository.toList ++ "/contents/".toList) := rfl

theorem toList_filePath (commit : Commit) (path : String) :
    (filePath commit path).toList = '/' :: (folder commit ++ path.toList) := by
  have joined : filePath commit path =
      "/repos/" ++ commit.owner ++ "/" ++ commit.repository ++ "/contents/" ++ path := rfl
  rw [joined, folder_eq]
  simp only [String.toList_append, List.append_assoc, List.cons_append]
  rfl

theorem isPlain_folder (owner : IsPlain commit.owner) (repository : IsPlain commit.repository) :
    ∀ c ∈ '/' :: folder commit, inPath c = true ∧ c ≠ '%' := by
  have fixed : IsPlain "/repos///contents/" := by decide +kernel
  change ∀ c ∈ '/' :: "repos/".toList ++ '/' :: "/contents/".toList,
    inPath c = true ∧ c ≠ '%' at fixed
  intro c member
  simp only [folder_eq, List.mem_cons, List.mem_append] at member
  simp only [List.mem_cons, List.mem_append] at fixed
  rcases member with member | (member | member) | member | member | member
  · exact fixed c (.inl (.inl member))
  · exact fixed c (.inl (.inr member))
  · exact owner c member
  · exact fixed c (.inr (.inl member))
  · exact repository c member
  · exact fixed c (.inr (.inr member))

/-- The address that a file is asked for under denotes the file's path if and only if no mark in that
path means something else. -/
theorem denotes_contentRequest_iff (service : client.IsAt base) (owner : IsPlain commit.owner)
    (repository : IsPlain commit.repository) :
    Denotes (contentRequest client commit path).url (base ++ filePath commit path) ↔
      IsPlain path := by
  have plain := isPlain_folder owner repository
  have url : (contentRequest client commit path).url =
      String.ofList (client.apiUrl.toList ++ '/' :: (folder commit ++ path.toList)) := by
    rw [← toList_filePath, ← String.toList_append, String.ofList_toList]
    rfl
  have target : base ++ filePath commit path =
      String.ofList (base.toList ++ '/' :: folder commit ++ path.toList) := by
    rw [← String.ofList_toList (s := base ++ _), String.toList_append, toList_filePath,
      List.append_assoc, List.cons_append]
  have component : path? (client.apiUrl.toList ++ '/' :: (folder commit ++ path.toList)) =
      some (base.toList ++ '/' :: folder commit ++ path.toList.takeWhile inPath) := by
    rw [path?_append service.path service.whole, ← List.cons_append,
      List.takeWhile_append_of_pos fun c member ↦ (plain c member).1, List.append_assoc]
  rw [url, target, denotes_iff component, IsPlain]
  intro member
  rcases List.mem_append.mp member with member | member
  · exact service.plain member
  · exact (plain _ member).2 rfl

/-- A fetch asks for a beginning of the listed files, and for all of them if it succeeds. -/
theorem exists_requests_sources (w : World) (past : Trace) (client : Client) (commit : Commit)
    (pattern : String) :
    let r := (sources client commit pattern).run w past
    let listed := listedPaths w client commit pattern
    ∃ paths, paths <+: listed ∧ (∀ texts, r.result = .ok texts → paths = listed) ∧
      r.events.requests = treeRequest client commit :: paths.map (contentRequest client commit) := by
  intro r listed
  obtain ⟨requests, result, fetches⟩ := exists_fetches w client commit pattern
  obtain ⟨returned, requested, -⟩ := fetches.run_sources past
  rw [show r.result = result from returned, show r.events.requests = requests from requested]
  cases fetches with
  | unanswered | unlisted | misjudged => exact ⟨[], List.nil_prefix, nofun, rfl⟩
  | @unread _ _ done rest _ path _ given lists selected _ _ =>
    refine ⟨done ++ [path], ⟨rest, ?_⟩, nofun, rfl⟩
    rw [show listed = _ from listedPaths_of_lists given lists, ← selected.eq_filterMap]
    simp
  | @complete _ _ paths _ given lists selected _ =>
    have all : paths = listed := by
      rw [show listed = _ from listedPaths_of_lists given lists, ← selected.eq_filterMap]
    exact ⟨paths, all ▸ List.prefix_refl _, fun _ _ ↦ all, rfl⟩

/-- A fetch asks for the listed files in turn, up to the first that cannot be had.  The address that
a file is asked for under denotes the path of the file if and only if there is no question mark,
number sign or percent sign in that path, and files without these marks share no address. -/
theorem requests_addressed (w : World) (past : Trace) (client : Client) (commit : Commit)
    (pattern base : String) (service : client.IsAt base) (owner : IsPlain commit.owner)
    (repository : IsPlain commit.repository) :
    let r := (sources client commit pattern).run w past
    let listed := listedPaths w client commit pattern
    let url := fun path ↦ (contentRequest client commit path).url
    ∃ paths, paths <+: listed ∧ (∀ texts, r.result = .ok texts → paths = listed) ∧
      r.events.requests.map Request.url =
        (treeRequest client commit).url :: paths.map url ∧
      (∀ p ∈ paths, Denotes (url p) (base ++ filePath commit p) ↔ IsPlain p) ∧
      ∀ p ∈ paths, ∀ q ∈ paths, IsPlain p → IsPlain q →
        ∀ text, Denotes (url p) text → Denotes (url q) text → p = q := by
  intro r listed url
  have addressed (p : String) : Denotes (url p) (base ++ filePath commit p) ↔ IsPlain p :=
    denotes_contentRequest_iff service owner repository
  obtain ⟨paths, begun, whole, requests⟩ := exists_requests_sources w past client commit pattern
  refine ⟨paths, begun, whole, ?_, fun p _ ↦ addressed p, ?_⟩
  · rw [requests, List.map_cons, List.map_map]
    rfl
  · intro p _ q _ plain plain' text denotes denotes'
    have first := denotes.unique ((addressed p).mpr plain)
    have second := denotes'.unique ((addressed q).mpr plain')
    have same := congrArg String.toList (first.symm.trans second)
    rw [String.toList_append, String.toList_append] at same
    have same := List.append_cancel_left same
    rw [toList_filePath, toList_filePath] at same
    exact String.toList_inj.mp (List.append_cancel_left (List.cons.inj same).2)

/-- A world with two sources in every tree, one of them with a number sign in its name. -/
def sharpSource : World where
  environment := []
  files _ := none
  respond url :=
    if url = "https://api.github.com/repos/acme/shop/git/trees/1a2b" then
      .ok ⟨url, 200, "OK", "\x7b\"tree\":[\x7b\"type\":\"blob\",\"path\":\"enums/A b.java\"\x7d," ++
        "\x7b\"type\":\"blob\",\"path\":\"enums/C#.java\"\x7d]\x7d"⟩
    else .ok ⟨url, 200, "OK", "\x7b\"content\":\"\"\x7d"⟩
  failure _ _ := none

/-- Only one of the two files is asked for under an address that denotes its path. -/
theorem requests_addressed_sharp :
    let client := Client.ofSettings {}
    let commit : Commit := ⟨"acme", "shop", "1a2b"⟩
    let url := fun path ↦ (contentRequest client commit path).url
    listedPaths sharpSource client commit defaultSourcePattern =
        ["enums/A b.java", "enums/C#.java"] ∧
      Denotes (url "enums/A b.java") "/repos/acme/shop/contents/enums/A b.java" ∧
      ¬ Denotes (url "enums/C#.java") "/repos/acme/shop/contents/enums/C#.java" := by
  intro client commit url
  have listed : listedPaths sharpSource client commit defaultSourcePattern =
      ["enums/A b.java", "enums/C#.java"] := by decide +kernel
  have inPaths : client.apiUrl.toList.all inPath = true := by decide +kernel
  have service : client.IsAt "" := ⟨by decide +kernel, List.all_eq_true.mp inPaths, by decide⟩
  obtain ⟨paths, -, whole, -, addressed, -⟩ := requests_addressed sharpSource [] client commit
    defaultSourcePattern "" service (by decide +kernel) (by decide +kernel)
  have read : ((sources client commit defaultSourcePattern).run sharpSource []).result =
      .ok ["", ""] := eq_ok_of_toOption (by decide +kernel)
  obtain rfl := (whole _ read).trans listed
  refine ⟨listed, ?_, fun denotes ↦ ?_⟩
  · exact (addressed "enums/A b.java" List.mem_cons_self).mpr (by decide +kernel)
  · have member : "enums/C#.java" ∈ ["enums/A b.java", "enums/C#.java"] := by decide
    exact absurd ((addressed _ member).mp denotes) (by decide +kernel)

/-- A number sign in a file's name ends the path, and a percent sign with two digits makes the address
that of another file. -/
theorem address_of_other_file :
    let client := Client.ofSettings {}
    let commit : Commit := ⟨"acme", "shop", "1a2b"⟩
    let url := fun path ↦ (contentRequest client commit path).url
    Denotes (url "enums/C#.java") (filePath commit "enums/C") ∧
      Denotes (url "enums/%41.java") (filePath commit "enums/A.java") ∧
      ¬ ∀ path, Denotes (url path) (filePath commit path) := by
  intro client commit url
  have cut : Denotes (url "enums/C#.java") (filePath commit "enums/C") :=
    ⟨"/repos/acme/shop/contents/enums/C".toList, by decide +kernel, by decide +kernel⟩
  have other : Denotes (url "enums/%41.java") (filePath commit "enums/A.java") :=
    ⟨"/repos/acme/shop/contents/enums/%41.java".toList, by decide +kernel, by decide +kernel⟩
  refine ⟨cut, other, fun all ↦ ?_⟩
  have same := cut.unique (all "enums/C#.java")
  exact absurd same (by decide +kernel)

end Requests

end Hosting

end EnumTables
