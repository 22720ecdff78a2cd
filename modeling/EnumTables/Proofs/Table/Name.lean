import EnumTables.Proofs.Table.WellFormed
import Mathlib

/-!
# Class names and table names

An enum is named as classes are: a capital first, then letters and digits, all of them of ASCII.
Every segment of its table's name begins with what was a capital.  Main statement: with a capital in
front of every segment and without the underscores the table's name is the enum's again, so that no
two enums share a table's name; and a name of ASCII that is a table's already stays as it is.
-/

namespace EnumTables

/-! ## Names and their segments -/

/-- Whether a text is written like a class's name: a capital, then letters and digits. -/
def isClassName (s : String) : Bool :=
  match s.toList with
  | [] => false
  | c :: cs => c.isUpper && cs.all Char.isAlphanum

/-- A text with its first letter as a capital. -/
def capitalize : List Char → List Char
  | [] => []
  | c :: cs => c.toUpper :: cs

/-- The segments of a table's name, each with a capital, one after the other. -/
def joinSegments (name : String) : String :=
  String.ofList ((name.toList.splitOn '_').flatMap capitalize)

variable {c : Char} {cs : List Char} {name : String}

theorem exists_of_isClassName (h : isClassName name = true) :
    ∃ c cs, name.toList = c :: cs ∧ c.isUpper = true ∧ ∀ d ∈ cs, d.isAlphanum = true := by
  rw [isClassName] at h
  split at h
  · cases h
  · rename_i c cs chars
    obtain ⟨capital, rest⟩ := (Bool.and_eq_true _ _).mp h
    exact ⟨c, cs, chars, capital, List.all_eq_true.mp rest⟩

/-! ## Characters -/

theorem toNat_lt_of_isAlphanum (h : c.isAlphanum = true) : c.toNat < 0x80 := by
  change (c.isAlpha || c.isDigit) = true at h
  rw [Bool.or_eq_true, Text.isAlpha_iff, Text.isUpper_iff, Text.isLower_iff, Text.isDigit_iff] at h
  omega

theorem isAlphanum_of_isUpper (h : c.isUpper = true) : c.isAlphanum = true := by
  simp [Char.isAlphanum, Char.isAlpha, h]

/-- No letter and no digit is lower-cased into the mark between segments. -/
theorem toLower_ne_underscore (h : c.isAlphanum = true) : c.toLower ≠ '_' := by
  by_cases upper : c.isUpper = true
  · intro same
    have alpha : c.toLower.isAlpha = true := by
      rw [Char.isAlpha_toLower_eq_isAlpha]
      simp [Char.isAlpha, upper]
    rw [same] at alpha
    exact absurd alpha (by decide)
  · rw [Char.toLower_eq_of_not_isUpper upper]
    rintro rfl
    exact absurd h (by decide)

theorem toUpper_toLower_of_isUpper (h : c.isUpper = true) : c.toLower.toUpper = c := by
  rw [Char.toUpper_toLower_eq_toUpper, Char.toUpper_eq_of_not_isLower]
  exact Char.not_isLower_of_isUpper h

/-! ## The segments of a table's name -/

theorem splitCapitals_cons (c : Char) (cs : List Char) :
    splitCapitals (c :: cs) = (if c.isUpper then ['_', c] else [c]) ++ splitCapitals cs :=
  List.flatMap_cons

theorem splitCapitals_eq_self (lower : ∀ c ∈ cs, c.isUpper = false) : splitCapitals cs = cs := by
  induction cs with
  | nil => rfl
  | cons c cs ih =>
    obtain ⟨first, rest⟩ := List.forall_mem_cons.mp lower
    rw [splitCapitals_cons, first, ih rest]
    rfl

/-- Nothing but underscores is added to a name. -/
theorem mem_of_mem_splitCapitals (h : c ∈ splitCapitals cs) : c = '_' ∨ c ∈ cs := by
  obtain ⟨d, member, here⟩ := List.mem_flatMap.mp h
  split at here
  · rcases List.mem_cons.mp here with rfl | here
    · exact .inl rfl
    · rw [List.mem_singleton.mp here]
      exact .inr member
  · rw [List.mem_singleton.mp here]
    exact .inr member

theorem ascii_splitCapitals (ascii : ∀ c ∈ cs, c.toNat < 0x80) :
    ∀ c ∈ splitCapitals cs, c.toNat < 0x80 := by
  intro c member
  rcases mem_of_mem_splitCapitals member with rfl | member
  · decide
  · exact ascii c member

/-- In front of what is no underscore the first piece of a text grows by that. -/
theorem splitOn_cons_of_ne {piece : List Char} {pieces : List (List Char)} (other : c ≠ '_')
    (split : cs.splitOn '_' = piece :: pieces) :
    (c :: cs).splitOn '_' = (c :: piece) :: pieces := by
  rw [List.splitOn] at split ⊢
  rw [List.splitOnP_cons_eq_if_modifyHead, if_neg (by simpa using other), split,
    List.modifyHead_cons]

theorem splitOn_underscore_cons (cs : List Char) :
    ('_' :: cs).splitOn '_' = [] :: cs.splitOn '_' := by
  rw [List.splitOn, List.splitOnP_cons_eq_if_modifyHead, if_pos (by decide)]
  rfl

/-- What is left of a name behind a character: the end of that character's segment, and further
segments that give back the capitals. -/
theorem exists_splitOn_splitCapitals (name : ∀ d ∈ cs, d.isAlphanum = true) :
    ∃ piece pieces, ((splitCapitals cs).map Char.toLower).splitOn '_' = piece :: pieces ∧
      piece ++ pieces.flatMap capitalize = cs := by
  induction cs with
  | nil => exact ⟨[], [], rfl, rfl⟩
  | cons d cs ih =>
    obtain ⟨first, rest⟩ := List.forall_mem_cons.mp name
    obtain ⟨piece, pieces, split, joined⟩ := ih rest
    have grown := splitOn_cons_of_ne (toLower_ne_underscore first) split
    rw [splitCapitals_cons]
    by_cases upper : d.isUpper = true
    · -- the capital begins a segment of its own
      refine ⟨[], (d.toLower :: piece) :: pieces, ?_, ?_⟩
      · rw [if_pos upper, ← grown, ← splitOn_underscore_cons]
        rfl
      · rw [List.nil_append, List.flatMap_cons, capitalize, toUpper_toLower_of_isUpper upper,
          List.cons_append, joined]
    · refine ⟨d :: piece, pieces, ?_, ?_⟩
      · rw [Char.toLower_eq_of_not_isUpper upper] at grown
        rw [if_neg upper, ← grown, List.singleton_append, List.map_cons,
          Char.toLower_eq_of_not_isUpper upper]
      · rw [List.cons_append, joined]

/-! ## There and back -/

theorem toList_snakeCase_of_ascii (chars : name.toList = c :: cs)
    (ascii : ∀ d ∈ c :: cs, d.toNat < 0x80) :
    (snakeCase name).toList = c.toLower :: (splitCapitals cs).map Char.toLower := by
  obtain ⟨first, rest⟩ := List.forall_mem_cons.mp ascii
  rw [snakeCase, chars]
  simp only [String.toList_ofList]
  rw [Text.lower_of_ascii (List.forall_mem_cons.mpr ⟨first, ascii_splitCapitals rest⟩),
    List.map_cons]

/-- The name of a class is had back from the segments of its table's name. -/
theorem joinSegments_snakeCase_of_isClassName (h : isClassName name = true) :
    joinSegments (snakeCase name) = name := by
  obtain ⟨c, cs, chars, capital, rest⟩ := exists_of_isClassName h
  have alphanum := isAlphanum_of_isUpper capital
  have ascii : ∀ d ∈ c :: cs, d.toNat < 0x80 := List.forall_mem_cons.mpr
    ⟨toNat_lt_of_isAlphanum alphanum, fun d member ↦ toNat_lt_of_isAlphanum (rest d member)⟩
  obtain ⟨piece, pieces, split, joined⟩ := exists_splitOn_splitCapitals rest
  rw [joinSegments, toList_snakeCase_of_ascii chars ascii,
    splitOn_cons_of_ne (toLower_ne_underscore alphanum) split, List.flatMap_cons, capitalize,
    List.cons_append, joined, toUpper_toLower_of_isUpper capital, ← chars, String.ofList_toList]

/-- A name of ASCII without capitals is its table's name. -/
theorem snakeCase_eq_self (ascii : ∀ c ∈ name.toList, c.toNat < 0x80)
    (lower : ∀ c ∈ name.toList, c.isUpper = false) : snakeCase name = name := by
  rw [← String.toList_inj]
  cases chars : name.toList with
  | nil =>
    rw [snakeCase, chars]
    rfl
  | cons c cs =>
    rw [chars] at ascii lower
    obtain ⟨first, rest⟩ := List.forall_mem_cons.mp lower
    have kept : ∀ d ∈ cs, d.toLower = d := fun d member ↦
      Char.toLower_eq_of_not_isUpper (by simp [rest d member])
    rw [toList_snakeCase_of_ascii chars ascii, splitCapitals_eq_self rest,
      Char.toLower_eq_of_not_isUpper (by simp [first]), List.map_congr_left kept, List.map_id']

theorem toNat_toLower_lt (h : c.toNat < 0x80) : c.toLower.toNat < 0x80 := by
  by_cases upper : c.isUpper = true
  · have lowered : c.toLower.isLower = true := by
      rw [Char.isLower_toLower_eq_isAlpha]
      simp [Char.isAlpha, upper]
    have bounds := Text.isLower_iff.mp lowered
    omega
  · rwa [Char.toLower_eq_of_not_isUpper upper]

theorem ascii_snakeCase (ascii : ∀ c ∈ name.toList, c.toNat < 0x80) :
    ∀ c ∈ (snakeCase name).toList, c.toNat < 0x80 := by
  cases chars : name.toList with
  | nil =>
    rw [snakeCase, chars]
    exact List.forall_mem_nil _
  | cons c cs =>
    rw [chars] at ascii
    rw [toList_snakeCase_of_ascii chars ascii, ← List.map_cons]
    intro d member
    obtain ⟨e, here, rfl⟩ := List.mem_map.mp member
    obtain ⟨first, rest⟩ := List.forall_mem_cons.mp ascii
    rcases List.mem_cons.mp here with rfl | here
    · exact toNat_toLower_lt first
    · exact toNat_toLower_lt (ascii_splitCapitals rest e here)

/-- The name of a class is read back from its table's name, so the tables of two enums that are
named as classes are share a name only if the enums do.  The name of a table that is named after a
name of ASCII is its own table's name. -/
theorem joinSegments_snakeCase :
    (∀ name, isClassName name = true → joinSegments (snakeCase name) = name) ∧
    (∀ (d e : Declaration) (columns columns' : List String),
      isClassName d.name = true → isClassName e.name = true →
      (d.toTable columns).tableId = (e.toTable columns').tableId → d.name = e.name) ∧
    ∀ name : String, (∀ c ∈ name.toList, c.toNat < 0x80) →
      snakeCase (snakeCase name) = snakeCase name := by
  refine ⟨fun _ ↦ joinSegments_snakeCase_of_isClassName, ?_, ?_⟩
  · intro d e columns columns' named named' same
    have segments : joinSegments (snakeCase d.name) = joinSegments (snakeCase e.name) :=
      congrArg joinSegments same
    rwa [joinSegments_snakeCase_of_isClassName named,
      joinSegments_snakeCase_of_isClassName named'] at segments
  · intro name ascii
    exact snakeCase_eq_self (ascii_snakeCase ascii) fun _ ↦ isUpper_eq_false_of_mem_snakeCase

/-- A name with a run of capitals, a digit and a segment of one letter; two names that differ in the
case of a letter; and a name that is none of a class. -/
theorem joinSegments_snakeCase_acronym :
    snakeCase "HTTPServer2X" = "h_t_t_p_server2_x" ∧
      joinSegments "h_t_t_p_server2_x" = "HTTPServer2X" ∧
      (Declaration.toTable ⟨"IOUnit", []⟩ enumColumns).tableId ≠
        (Declaration.toTable ⟨"IoUnit", []⟩ enumColumns).tableId ∧
      snakeCase (snakeCase "_Some-name") = snakeCase "_Some-name" := by
  have table : snakeCase "HTTPServer2X" = "h_t_t_p_server2_x" := by decide +kernel
  obtain ⟨back, apart, again⟩ := joinSegments_snakeCase
  refine ⟨table, ?_, fun same ↦ ?_, again "_Some-name" (by simp)⟩
  · rw [← table]
    exact back "HTTPServer2X" (by decide +kernel)
  · have named := apart ⟨"IOUnit", []⟩ ⟨"IoUnit", []⟩ enumColumns enumColumns (by decide +kernel)
      (by decide +kernel) same
    exact absurd named (by decide)

end EnumTables
