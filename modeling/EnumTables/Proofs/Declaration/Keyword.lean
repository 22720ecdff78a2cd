import EnumTables.Proofs.Declaration.Layout
import EnumTables.Proofs.Lists

/-!
# Comments in front of a declaration

The header is looked for in the text as it stands, so a comment is passed over only if the keyword
does not stand in it.  Main statement: a blank or a comment makes no difference to any text behind
it if and only if it has no keyword, as a word of its own with a blank behind it.
-/

namespace EnumTables

namespace Declaration

/-- The keyword of a declaration. -/
def keyword : List Char := ['e', 'n', 'u', 'm']

/-- The text begins with the keyword and a blank. -/
def OpensHeader (cs : List Char) : Prop :=
  ∃ b after, cs = keyword ++ b :: after ∧ Text.isBlank b = true

/-- The keyword stands in the text as a word of its own, with a blank behind it; `inWord` says
whether the character before the text is a word character. -/
def HasKeyword (inWord : Bool) (cs : List Char) : Prop :=
  ∃ before rest, cs = before ++ rest ∧ OpensHeader rest ∧
    (before.getLast?.map Text.isWord).getD inWord = false

variable {inWord : Bool} {c : Char} {cs : List Char}

/-! ## Texts with the keyword -/

theorem not_hasKeyword_nil : ¬ HasKeyword inWord [] := by
  rintro ⟨before, rest, split, ⟨b, after, rfl, -⟩, -⟩
  have lengths := congrArg List.length split
  simp at lengths

/-- The keyword stands at the head of a text or behind its first character. -/
theorem hasKeyword_cons_iff : HasKeyword inWord (c :: cs) ↔
    (inWord = false ∧ OpensHeader (c :: cs)) ∨ HasKeyword (Text.isWord c) cs := by
  have last (before : List Char) : ((c :: before).getLast?.map Text.isWord).getD inWord =
      (before.getLast?.map Text.isWord).getD (Text.isWord c) := by
    rw [List.getLast?_cons]
    cases before.getLast? <;> rfl
  constructor
  · rintro ⟨before, rest, split, opens, free⟩
    rcases before with _ | ⟨d, before⟩
    · rw [List.nil_append] at split
      subst split
      exact .inl ⟨free, opens⟩
    · obtain ⟨rfl, rfl⟩ := List.cons.inj split
      rw [last] at free
      exact .inr ⟨before, rest, rfl, opens, free⟩
  · rintro (⟨free, opens⟩ | ⟨before, rest, rfl, opens, free⟩)
    · exact ⟨[], c :: cs, rfl, opens, free⟩
    · refine ⟨c :: before, rest, rfl, opens, ?_⟩
      rw [last]
      exact free

theorem OpensHeader.append (h : OpensHeader cs) (tail : List Char) : OpensHeader (cs ++ tail) := by
  obtain ⟨b, after, rfl, blank⟩ := h
  exact ⟨b, after ++ tail, by rw [List.append_assoc, List.cons_append], blank⟩

theorem HasKeyword.append (h : HasKeyword inWord cs) (tail : List Char) :
    HasKeyword inWord (cs ++ tail) := by
  obtain ⟨before, rest, rfl, opens, free⟩ := h
  exact ⟨before, rest ++ tail, List.append_assoc .., opens.append tail, free⟩

/-- Where the keyword and a blank stand in front of a character that the keyword has not, they end
there, or that character is the blank. -/
theorem opensHeader_or_of_append (cs : List Char) {x : Char} {rest : List Char}
    (new : x ∉ keyword) (h : OpensHeader (cs ++ x :: rest)) :
    OpensHeader cs ∨ cs = keyword ∧ Text.isBlank x = true := by
  obtain ⟨b, after, same, blank⟩ := h
  simp only [keyword, List.mem_cons, List.not_mem_nil, or_false, not_or] at new
  rcases cs with _ | ⟨e, _ | ⟨n, _ | ⟨u, _ | ⟨m, cs⟩⟩⟩⟩
  all_goals simp only [keyword, List.cons_append, List.nil_append, List.cons.injEq] at same
  · exact absurd same.1 new.1
  · exact absurd same.2.1 new.2.1
  · exact absurd same.2.2.1 new.2.2.1
  · exact absurd same.2.2.2.1 new.2.2.2
  · obtain ⟨rfl, rfl, rfl, rfl, same⟩ := same
    rcases cs with _ | ⟨d, cs⟩
    · obtain ⟨rfl, -⟩ := List.cons.inj same
      exact .inr ⟨rfl, blank⟩
    · obtain ⟨rfl, -⟩ := List.cons.inj same
      exact .inl ⟨d, cs, rfl, blank⟩

/-- Behind a blank or a comment the end of a line adds no keyword. -/
theorem hasKeyword_spelling_append_iff (f : Filler) :
    HasKeyword false (f.spelling ++ ['\n']) ↔ HasKeyword false f.spelling := by
  refine ⟨?_, fun h ↦ h.append ['\n']⟩
  rintro ⟨before, rest, split, ⟨b, after, rfl, blank⟩, free⟩
  rcases List.eq_nil_or_concat after with rfl | ⟨after, x, rfl⟩
  · -- the keyword would be the end of the filler, but no filler ends with a letter
    have ends : f.spelling = before ++ keyword := by
      rw [← List.append_assoc] at split
      exact (List.append_inj' split rfl).1
    have last : f.spelling.getLast? = some 'm' := by
      rw [ends, List.getLast?_append]
      rfl
    cases f with
    | blank c h =>
      obtain rfl : c = 'm' := Option.some.inj last
      exact absurd h (by decide)
    | lineComment body oneLine =>
      have line : (Filler.lineComment body oneLine).spelling = ('/' :: '/' :: body) ++ ['\n'] := rfl
      rw [line, List.getLast?_concat] at last
      exact absurd last (by decide)
    | blockComment body unclosed =>
      have block : (Filler.blockComment body unclosed).spelling =
          ('/' :: '*' :: body ++ ['*']) ++ ['/'] := by simp [Filler.spelling]
      rw [block, List.getLast?_concat] at last
      exact absurd last (by decide)
  · refine ⟨before, keyword ++ b :: after, ?_, ⟨b, after, rfl, blank⟩, free⟩
    have split : f.spelling ++ ['\n'] = (before ++ (keyword ++ b :: after)) ++ [x] := by
      rw [split]
      simp
    exact (List.append_inj' split rfl).1

/-! ## The search for a header -/

/-- A header begins with the keyword and a blank. -/
theorem header?_eq_none (h : ¬ OpensHeader cs) : header? cs = none := by
  unfold header?
  split
  · rename_i b cs
    have noBlank : Text.isBlank b = false :=
      Bool.eq_false_iff.mpr fun blank ↦ h ⟨b, cs, rfl, blank⟩
    simp [noBlank]
  · rfl

/-- From a character at which no header can begin the search goes on with the next one. -/
theorem findHeader?_cons_of_not_opensHeader (h : ¬ (inWord = false ∧ OpensHeader (c :: cs))) :
    findHeader? inWord (c :: cs) = findHeader? (Text.isWord c) cs := by
  have passed : (if inWord then none else header? (c :: cs)) = none := by
    cases inWord with
    | true => rfl
    | false => exact header?_eq_none fun opens ↦ h ⟨rfl, opens⟩
  rw [findHeader?, passed]

/-- A line without the keyword is passed over. -/
theorem findHeader?_append_of_not_hasKeyword (h : ¬ HasKeyword inWord (cs ++ ['\n']))
    (rest : List Char) : findHeader? inWord (cs ++ '\n' :: rest) = findHeader? false rest := by
  induction cs generalizing inWord with
  | nil => cases inWord <;> rfl
  | cons c cs ih =>
    rw [List.cons_append, hasKeyword_cons_iff, not_or] at h
    rw [List.cons_append, findHeader?_cons_of_not_opensHeader]
    · exact ih h.2
    · rintro ⟨rfl, opens⟩
      refine h.1 ⟨rfl, ?_⟩
      rcases opensHeader_or_of_append (c :: cs) (by decide) opens with opens | ⟨same, blank⟩
      · exact opens.append ['\n']
      · exact ⟨'\n', [], by rw [← List.cons_append, same], blank⟩

/-- Where the keyword stands with two semicolons and a blank between them behind it, a header is
found in front of the last semicolon. -/
theorem exists_header?_of_opensHeader (h : OpensHeader cs) :
    ∃ name rest, header? (cs ++ [';', ' ', ';']) = some (name, rest) ∧ ';' ∈ rest := by
  obtain ⟨b, after, rfl, blank⟩ := h
  obtain ⟨kept, skipped⟩ : ∃ kept, (after ++ [';', ' ', ';']).dropWhile Text.isBlank =
      kept ++ [';', ' ', ';'] := ⟨_, dropWhile_append_cons (by decide)⟩
  have named : (kept ++ [';', ' ', ';']).takeWhile (fun c ↦ !Text.isBlank c) ≠ [] := by
    have first := List.head?_dropWhile_not Text.isBlank (after ++ [';', ' ', ';'])
    rw [skipped] at first
    rcases kept with _ | ⟨d, kept⟩
    · decide
    · have proper : Text.isBlank d = false := by simpa using first
      simp [proper]
  obtain ⟨kept', ended⟩ : ∃ kept', (kept ++ [';'] ++ [' ', ';']).dropWhile
      (fun c ↦ !Text.isBlank c) = kept' ++ [' ', ';'] := ⟨_, dropWhile_append_cons (by decide)⟩
  rw [List.append_assoc, List.singleton_append] at ended
  refine ⟨(kept ++ [';', ' ', ';']).takeWhile (fun c ↦ !Text.isBlank c), kept' ++ [' ', ';'], ?_,
    by simp⟩
  simp only [keyword, List.cons_append, List.nil_append, header?, skipped, ended, blank]
  simp [named]

/-- Where a text has the keyword, a header is found in front of the last semicolon. -/
theorem exists_findHeader?_of_hasKeyword (h : HasKeyword inWord cs) : ∃ name rest,
    findHeader? inWord (cs ++ [';', ' ', ';']) = some (name, rest) ∧ ';' ∈ rest := by
  induction cs generalizing inWord with
  | nil => exact absurd h not_hasKeyword_nil
  | cons c cs ih =>
    rw [List.cons_append]
    by_cases here : inWord = false ∧ OpensHeader (c :: cs)
    · obtain ⟨rfl, opens⟩ := here
      obtain ⟨name, rest, header, semicolon⟩ := exists_header?_of_opensHeader opens
      rw [List.cons_append] at header
      exact ⟨name, rest, by simp [findHeader?, header], semicolon⟩
    · rw [findHeader?_cons_of_not_opensHeader]
      · exact ih ((hasKeyword_cons_iff.mp h).resolve_left here)
      · rintro ⟨free, opens⟩
        rcases opensHeader_or_of_append (c :: cs) (by decide) opens with opens | ⟨-, blank⟩
        · exact here ⟨free, opens⟩
        · exact absurd blank (by decide)

/-! ## Reading behind a blank or a comment -/

/-- A blank or a comment in a line of its own makes no difference to what is read from any text
behind it if and only if the keyword does not stand in it. -/
theorem forall_parse?_filler_append_iff (f : Filler) :
    (∀ s : String, parse? (String.ofList f.spelling ++ "\n" ++ s) = parse? s) ↔
      ¬ HasKeyword false f.spelling := by
  have characters (s : String) :
      (String.ofList f.spelling ++ "\n" ++ s).toList = f.spelling ++ '\n' :: s.toList := by
    simp
  constructor
  · intro same keyworded
    obtain ⟨name, rest, header, semicolon⟩ := exists_findHeader?_of_hasKeyword
      ((hasKeyword_spelling_append_iff f).mpr keyworded)
    obtain ⟨body, before⟩ := Option.ne_none_iff_exists'.mp
      (mt valueSection?_eq_none_iff.mp (not_not_intro semicolon))
    have header : findHeader? false
        (String.ofList f.spelling ++ "\n" ++ "; ;").toList = some (name, rest) := by
      rw [characters, List.append_cons]
      exact header
    have read := parse?_eq_some_iff.mpr ⟨name, rest, body, header, before, rfl⟩
    rw [same] at read
    exact absurd (Option.isSome_of_eq_some read) (by decide +kernel)
  · intro free s
    have passed := findHeader?_append_of_not_hasKeyword
      (mt (hasKeyword_spelling_append_iff f).mp free) s.toList
    rw [parse?, read?, characters, passed]
    rfl

/-- A comment in which the keyword stands is taken for the declaration. -/
theorem parse?_keyword_in_comment : ¬ ∀ (f : Filler) (s : String),
    parse? (String.ofList f.spelling ++ "\n" ++ s) = parse? s := by
  intro same
  have unclosed : ¬ ['*', '/'] <:+: "* The enum of colours. ".toList := by decide +kernel
  have equal := same (.blockComment _ unclosed) "enum Color \x7b RED; \x7d"
  have commented : parse? (String.ofList ('/' :: '*' :: ("* The enum of colours. ".toList ++
      ['*', '/'])) ++ "\n" ++ "enum Color \x7b RED; \x7d") = some ⟨"of", [["RED", "0"]]⟩ := by
    decide +kernel
  have alone : parse? "enum Color \x7b RED; \x7d" = some ⟨"Color", [["RED", "0"]]⟩ := by
    decide +kernel
  rw [Filler.spelling, commented, alone] at equal
  exact absurd equal (by decide)

end Declaration

end EnumTables
