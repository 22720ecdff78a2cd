import EnumTables.Declaration.Token
import EnumTables.Text.Blank

/-!
# Lexemes

A text is cut into lexemes, of which comments and blanks are dropped and all others are tokens.  The
kinds of lexemes are tried in a fixed order, so that a mark that opens no complete comment or quoted
text is a character by itself.  Main statement: the spellings of the lexemes of a text, put one
after the other, are the text.
-/

namespace EnumTables

/-- A piece of a text. -/
inductive Lexeme where
  /-- Two slashes and what follows them on the line. -/
  | lineComment (body : List Char)
  /-- What stands between a slash and a star and the next star and slash. -/
  | blockComment (body : List Char)
  /-- A run of blanks. -/
  | blank (run : List Char)
  /-- What stands between two equal marks on one line. -/
  | quoted (mark : Char) (body : List Char)
  /-- Digits, with a point and further digits if digits follow the point. -/
  | number (run : List Char)
  /-- A letter, underscore or dollar sign, and those and digits after it. -/
  | identifier (run : List Char)
  | openParen
  | closeParen
  | comma
  | other (c : Char)
deriving DecidableEq, Repr

namespace Lexeme

/-- The characters that a lexeme was read from. -/
def spelling : Lexeme → List Char
  | .lineComment body => '/' :: '/' :: body
  | .blockComment body => '/' :: '*' :: (body ++ ['*', '/'])
  | .blank run => run
  | .quoted mark body => mark :: (body ++ [mark])
  | .number run => run
  | .identifier run => run
  | .openParen => ['(']
  | .closeParen => [')']
  | .comma => [',']
  | .other c => [c]

/-- The kind and the text of the token that a lexeme is, if it is one. -/
def token? : Lexeme → Option (TokenKind × List Char)
  | .lineComment _ | .blockComment _ | .blank _ => none
  | .quoted _ body => some (.string, body)
  | .number run => some (.number, run)
  | .identifier run => some (.identifier, run)
  | .openParen => some (.openParen, ['('])
  | .closeParen => some (.closeParen, [')'])
  | .comma => some (.comma, [','])
  | .other c => some (.other, [c])

/-- The text up to the next star and slash, and the text after them. -/
def closeComment? : List Char → Option (List Char × List Char)
  | '*' :: '/' :: rest => some ([], rest)
  | c :: cs => (closeComment? cs).map fun (body, rest) ↦ (c :: body, rest)
  | [] => none

/-- The comment at the head of a text. -/
def comment? : List Char → Option (Lexeme × List Char)
  | '/' :: '/' :: cs => some (.lineComment (cs.takeWhile (· ≠ '\n')), cs.dropWhile (· ≠ '\n'))
  | '/' :: '*' :: cs => (closeComment? cs).map fun (body, rest) ↦ (.blockComment body, rest)
  | _ => none

/-- The quoted text that begins with the mark `mark`, which is already taken. -/
def quoted? (mark : Char) (cs : List Char) : Option (Lexeme × List Char) :=
  let inside (c : Char) : Bool := c ≠ mark && c ≠ '\n'
  match cs.dropWhile inside with
  | c :: rest => if c = mark then some (.quoted mark (cs.takeWhile inside), rest) else none
  | [] => none

/-- Characters that begin an identifier. -/
def isIdentifierStart (c : Char) : Bool := c.isAlpha || c = '_' || c = '$'

/-- Characters that continue an identifier. -/
def isIdentifierRest (c : Char) : Bool := isIdentifierStart c || c.isDigit

/-- The point and the digits that may follow the whole part of a number. -/
def fraction : List Char → List Char × List Char
  | '.' :: cs =>
    if (cs.takeWhile Char.isDigit).isEmpty then ([], '.' :: cs)
    else ('.' :: cs.takeWhile Char.isDigit, cs.dropWhile Char.isDigit)
  | cs => ([], cs)

/-- The number that begins with the digits at the head of a text. -/
def numberAt (cs : List Char) : Lexeme × List Char :=
  let (places, rest) := fraction (cs.dropWhile Char.isDigit)
  (.number (cs.takeWhile Char.isDigit ++ places), rest)

/-- The lexeme of one character, no longer one beginning with it. -/
def ofChar (c : Char) : Lexeme :=
  if c = '(' then .openParen
  else if c = ')' then .closeParen
  else if c = ',' then .comma
  else .other c

/-- The lexeme at the head of the text `c :: cs`, comments aside. -/
def plain (c : Char) (cs : List Char) : Lexeme × List Char :=
  if Text.isBlank c then
    (.blank (c :: cs.takeWhile Text.isBlank), cs.dropWhile Text.isBlank)
  else if c.isDigit then numberAt (c :: cs)
  else if isIdentifierStart c then
    (.identifier (c :: cs.takeWhile isIdentifierRest), cs.dropWhile isIdentifierRest)
  else if c = '"' ∨ c = '\'' then (quoted? c cs).getD (.other c, cs)
  else (ofChar c, cs)

/-- The lexeme at the head of the text `c :: cs`, and the text after it. -/
def next (c : Char) (cs : List Char) : Lexeme × List Char :=
  (comment? (c :: cs)).getD (plain c cs)

theorem spelling_of_closeComment? {cs body rest : List Char}
    (h : closeComment? cs = some (body, rest)) : body ++ '*' :: '/' :: rest = cs := by
  fun_induction closeComment? cs generalizing body with
  | case1 rest => simp_all
  | case2 c cs hc ih =>
    obtain ⟨⟨b, r⟩, hb, he⟩ := Option.map_eq_some_iff.mp h
    simp only [Prod.mk.injEq] at he
    obtain ⟨rfl, rfl⟩ := he
    simp [ih hb]
  | case3 => simp at h

theorem spelling_of_comment? {cs rest : List Char} {x : Lexeme}
    (h : comment? cs = some (x, rest)) : x.spelling ++ rest = cs := by
  unfold comment? at h
  split at h
  · simp only [Option.some.injEq, Prod.mk.injEq] at h
    obtain ⟨rfl, rfl⟩ := h
    simp [spelling]
  · obtain ⟨⟨body, r⟩, hb, he⟩ := Option.map_eq_some_iff.mp h
    simp only [Prod.mk.injEq] at he
    obtain ⟨rfl, rfl⟩ := he
    simp [spelling, spelling_of_closeComment? hb]
  · simp at h

theorem spelling_of_quoted? {mark : Char} {cs rest : List Char} {x : Lexeme}
    (h : quoted? mark cs = some (x, rest)) : x.spelling ++ rest = mark :: cs := by
  have split := List.takeWhile_append_dropWhile (p := fun c ↦ c ≠ mark && c ≠ '\n') (l := cs)
  simp only [quoted?] at h
  split at h
  next c r hc =>
    split at h
    · simp only [Option.some.injEq, Prod.mk.injEq] at h
      obtain ⟨rfl, rfl⟩ := h
      subst c
      rw [hc] at split
      simp only [spelling, List.cons_append, List.append_assoc, List.nil_append]
      rw [split]
    · simp at h
  next => simp at h

theorem fraction_append (cs : List Char) : (fraction cs).1 ++ (fraction cs).2 = cs := by
  unfold fraction
  split
  · split <;> simp
  · rfl

theorem spelling_numberAt (cs : List Char) :
    (numberAt cs).1.spelling ++ (numberAt cs).2 = cs := by
  simp [numberAt, spelling, fraction_append]

@[simp] theorem spelling_ofChar (c : Char) : (ofChar c).spelling = [c] := by
  unfold ofChar
  repeat' split
  all_goals simp_all [spelling]

theorem spelling_plain (c : Char) (cs : List Char) :
    (plain c cs).1.spelling ++ (plain c cs).2 = c :: cs := by
  unfold plain
  split
  · simp [spelling]
  split
  · exact spelling_numberAt _
  split
  · simp [spelling]
  split
  · cases h : quoted? c cs with
    | none => simp [spelling]
    | some r => simpa using spelling_of_quoted? h
  · simp

/-- A lexeme's spelling and the text after it are the text it was read from. -/
theorem spelling_next (c : Char) (cs : List Char) :
    (next c cs).1.spelling ++ (next c cs).2 = c :: cs := by
  unfold next
  cases h : comment? (c :: cs) with
  | none => simpa using spelling_plain c cs
  | some r => simpa using spelling_of_comment? h

/-- No lexeme is empty. -/
theorem spelling_next_ne_nil (c : Char) (cs : List Char) : (next c cs).1.spelling ≠ [] := by
  intro h
  unfold next at h
  cases hc : comment? (c :: cs) with
  | some r =>
    rw [hc] at h
    unfold comment? at hc
    split at hc
    · simp only [Option.some.injEq] at hc
      subst hc
      simp [spelling] at h
    · obtain ⟨r', -, rfl⟩ := Option.map_eq_some_iff.mp hc
      simp [spelling] at h
    · simp at hc
  | none =>
    rw [hc] at h
    simp only [Option.getD_none] at h
    unfold plain at h
    split at h
    · simp [spelling] at h
    split at h
    · rename_i hd
      simp [numberAt, spelling, hd] at h
    split at h
    · simp [spelling] at h
    split at h
    · cases hq : quoted? c cs with
      | none => simp [hq, spelling] at h
      | some r =>
        simp only [hq, Option.getD_some] at h
        simp only [quoted?] at hq
        split at hq
        · split at hq
          · simp only [Option.some.injEq] at hq
            subst hq
            simp [spelling] at h
          · simp at hq
        · simp at hq
    · simp at h

/-- The text after a lexeme is shorter than the text it was read from. -/
theorem length_next_lt (c : Char) (cs : List Char) :
    (next c cs).2.length < (c :: cs).length := by
  have whole := congrArg List.length (spelling_next c cs)
  have some := List.length_pos_iff.mpr (spelling_next_ne_nil c cs)
  rw [List.length_append] at whole
  omega

end Lexeme

/-- The lexemes of a text. -/
def lexemes : List Char → List Lexeme
  | [] => []
  | c :: cs => (Lexeme.next c cs).1 :: lexemes (Lexeme.next c cs).2
termination_by cs => cs.length
decreasing_by exact Lexeme.length_next_lt c cs

@[simp] theorem lexemes_nil : lexemes [] = [] := by rw [lexemes]

theorem lexemes_cons (c : Char) (cs : List Char) :
    lexemes (c :: cs) = (Lexeme.next c cs).1 :: lexemes (Lexeme.next c cs).2 := by
  rw [lexemes]

/-- Nothing of a text is lost: it is the spellings of its lexemes one after the other. -/
theorem flatMap_spelling_lexemes (cs : List Char) : (lexemes cs).flatMap Lexeme.spelling = cs := by
  fun_induction lexemes cs with
  | case1 => rfl
  | case2 c cs ih => rw [List.flatMap_cons, ih, Lexeme.spelling_next]

/-- The tokens among lexemes of which the first begins after `position` characters. -/
def place (position : Nat) : List Lexeme → List Token
  | [] => []
  | x :: xs =>
    let rest := place (position + x.spelling.length) xs
    match x.token? with
    | some (kind, text) => ⟨kind, String.ofList text, position⟩ :: rest
    | none => rest

/-- The tokens of a text. -/
def tokens (cs : List Char) : List Token := place 0 (lexemes cs)

/-- The tokens of a text. -/
def tokenize (s : String) : List Token := tokens s.toList

end EnumTables
