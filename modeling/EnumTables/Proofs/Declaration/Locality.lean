import EnumTables.Proofs.Declaration.Keyword
import EnumTables.Proofs.Lists
import Mathlib.Data.List.TakeWhile

/-!
# What follows a declaration

The header of a declaration and its value section are read off a beginning of the text.  Main
statement: what is read of a text is read of every longer text, so nothing behind the first
semicolon of the section makes a difference.
-/

namespace EnumTables

namespace Declaration

variable {inWord : Bool} {c : Char} {cs name rest : List Char}

/-! ## Headers in longer texts -/

/-- A header that does not reach to the end of a text is a header of every longer text. -/
theorem header?_append (h : header? cs = some (name, rest)) (inside : rest ≠ [])
    (tail : List Char) : header? (cs ++ tail) = some (name, rest ++ tail) := by
  unfold header? at h
  split at h
  · rename_i b cs
    simp only at h
    split at h
    · rename_i found
      obtain ⟨rfl, rfl⟩ := Prod.mk.inj (Option.some.inj h)
      have blanks : cs.dropWhile Text.isBlank ≠ [] := by
        intro none
        rw [none] at inside
        exact inside rfl
      simp only [List.cons_append, header?, dropWhile_append_of_ne_nil blanks,
        takeWhile_append_of_ne_nil inside, dropWhile_append_of_ne_nil inside, if_pos found]
    · cases h
  · cases h

/-- Where a header is found the keyword stands, hence its first letter. -/
theorem mem_of_findHeader? {found : List Char × List Char}
    (h : findHeader? inWord cs = some found) : 'e' ∈ cs := by
  induction cs generalizing inWord with
  | nil => cases h
  | cons c cs ih =>
    by_cases here : inWord = false ∧ OpensHeader (c :: cs)
    · obtain ⟨-, b, after, keyworded, -⟩ := here
      rw [keyworded]
      exact List.mem_append_left _ (by decide)
    · rw [findHeader?_cons_of_not_opensHeader here] at h
      exact List.mem_cons_of_mem c (ih h)

/-- Where the keyword and a blank stand but no header, nothing but blanks follows. -/
theorem forall_isBlank_of_header?_eq_none {b : Char} {after : List Char}
    (none : header? (keyword ++ b :: after) = none) (blank : Text.isBlank b = true) :
    ∀ d ∈ after, Text.isBlank d = true := by
  have unnamed : (after.dropWhile Text.isBlank).takeWhile (fun d ↦ !Text.isBlank d) = [] := by
    simpa [keyword, header?, blank] using none
  have last := List.head?_dropWhile_not Text.isBlank after
  cases rest : after.dropWhile Text.isBlank with
  | nil => exact List.dropWhile_eq_nil_iff.mp rest
  | cons d ds =>
    rw [rest, List.head?_cons] at last
    rw [rest, List.takeWhile_cons_of_pos (by simpa using last)] at unnamed
    cases unnamed

/-- Where a longer text makes a header of what is none, the text ends within the keyword or within
the blanks behind it, so that no other keyword follows. -/
theorem notMem_of_header?_append {tail : List Char} (none : header? (c :: cs) = none)
    (some : header? (c :: cs ++ tail) ≠ .none) : 'e' ∉ cs := by
  obtain ⟨b, after, keyworded, blank⟩ : OpensHeader (c :: cs ++ tail) :=
    Classical.byContradiction fun closed ↦ some (header?_eq_none closed)
  rcases cs with _ | ⟨n, _ | ⟨u, _ | ⟨m, _ | ⟨b', cs⟩⟩⟩⟩
  all_goals
    simp only [keyword, List.cons_append, List.nil_append, List.cons.injEq] at keyworded
  · decide
  · obtain ⟨rfl, rfl, -⟩ := keyworded
    decide
  · obtain ⟨rfl, rfl, rfl, -⟩ := keyworded
    decide
  · obtain ⟨rfl, rfl, rfl, rfl, -⟩ := keyworded
    decide
  · obtain ⟨rfl, rfl, rfl, rfl, rfl, -⟩ := keyworded
    have blanks := forall_isBlank_of_header?_eq_none none blank
    intro letter
    have more : 'e' ∈ b' :: cs := by simpa using letter
    rcases List.mem_cons.mp more with rfl | more
    · exact absurd blank (by decide)
    · exact absurd (blanks 'e' more) (by decide)

/-- A header that is found before the end of a text is found in every longer text. -/
theorem findHeader?_append (h : findHeader? inWord cs = some (name, rest)) (inside : rest ≠ [])
    (tail : List Char) : findHeader? inWord (cs ++ tail) = some (name, rest ++ tail) := by
  induction cs generalizing inWord with
  | nil => cases h
  | cons c cs ih =>
    rw [findHeader?] at h
    split at h
    · rename_i found header
      cases h
      cases inWord with
      | true => cases header
      | false =>
        rw [List.cons_append, findHeader?, ← List.cons_append]
        simp only [Bool.false_eq_true, if_false] at header ⊢
        rw [header?_append header inside]
    · rename_i header
      -- the head of the text is passed over in the longer text too
      have passed : (if inWord then none else header? (c :: cs ++ tail)) = none := by
        cases inWord with
        | true => rfl
        | false =>
          refine Classical.byContradiction fun some ↦ ?_
          exact notMem_of_header?_append header some (mem_of_findHeader? h)
      rw [List.cons_append, findHeader?, ← List.cons_append, passed]
      exact ih h

theorem valueSection?_append {body : List Char} (h : valueSection? cs = some body)
    (tail : List Char) : valueSection? (cs ++ tail) = some body := by
  obtain ⟨inside, rest, rfl⟩ := valueSection?_eq_some_iff.mp h
  refine valueSection?_eq_some_iff.mpr ⟨inside, rest ++ tail, ?_⟩
  rw [List.append_assoc, List.cons_append]

/-! ## Declarations in longer texts -/

/-- What is read of a text is read of every longer text. -/
theorem parse?_append {s : String} {d : Declaration} (h : parse? s = some d) (t : String) :
    parse? (s ++ t) = some d := by
  obtain ⟨name, rest, body, header, before, rfl⟩ := parse?_eq_some_iff.mp h
  have inside : rest ≠ [] := by
    rintro rfl
    cases before
  refine parse?_eq_some_iff.mpr ⟨name, rest ++ t.toList, body, ?_, ?_, rfl⟩
  · rw [String.toList_append]
    exact findHeader?_append header inside t.toList
  · exact valueSection?_append before t.toList

/-- Behind the semicolon there may be another declaration, with arguments, in a comment that does
not end. -/
theorem parse?_append_unclosed :
    let s := "enum Color \x7b RED, GREEN;"
    let d : Declaration := ⟨"Color", [["RED", "0"], ["GREEN", "1"]]⟩
    parse? s = some d ∧ parse? (s ++ " \x7d /* enum Size \x7b SMALL(1); \x7d \"") = some d := by
  intro s d
  have read : parse? s = some d := by decide +kernel
  exact ⟨read, parse?_append read _⟩

end Declaration

end EnumTables
