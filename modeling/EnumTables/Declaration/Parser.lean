import EnumTables.Declaration.Entry
import EnumTables.Declaration.Lexer
import EnumTables.Text.Word

/-!
# Enum declarations

The first enum declaration of a text: the keyword `enum`, blanks, a name up to the next blank, and a
value section from there to the first semicolon.

    enum Status { OK(0, "Green"), NG(1, "Red"); }
    enum Color { RED, GREEN, BLUE; }
-/

namespace EnumTables

/-- An enum's name and its constants in the order of the declaration. -/
structure Declaration where
  name : String
  values : List Values
deriving DecidableEq, Repr

/-- A declaration as it was read from a text. -/
structure Reading extends Declaration where
  /-- The constants that were left out because not all of their arguments are literals. -/
  skipped : List String
deriving DecidableEq, Repr

namespace Declaration

/-- The name after the keyword `enum` at the head of a text, and the text after it. -/
def header? : List Char → Option (List Char × List Char)
  | 'e' :: 'n' :: 'u' :: 'm' :: b :: cs =>
    let rest := cs.dropWhile Text.isBlank
    let name := rest.takeWhile fun c ↦ !Text.isBlank c
    if Text.isBlank b && !name.isEmpty then some (name, rest.dropWhile fun c ↦ !Text.isBlank c)
    else none
  | _ => none

/-- The first header of a text in which the keyword does not continue a word; `inWord` says whether
the character before the text is a word character. -/
def findHeader? (inWord : Bool) : List Char → Option (List Char × List Char)
  | [] => none
  | c :: cs =>
    match if inWord then none else header? (c :: cs) with
    | some found => some found
    | none => findHeader? (Text.isWord c) cs

/-- The part of a text before the first semicolon, if there is one. -/
def valueSection? : List Char → Option (List Char)
  | [] => none
  | c :: cs => if c = ';' then some [] else (valueSection? cs).map (c :: ·)

/-- Read the tokens of a value section. -/
def ofTokens (name : String) (ts : List Token) : Reading :=
  if hasArguments ts then
    { name, values := entries ts, skipped := (findings ts).filterMap Finding.skipped? }
  else { name, values := bareEntries ts, skipped := [] }

/-- Read the first declaration of a text.  There is none if no header is found or no semicolon
follows it; a section without a constant gives a declaration without values. -/
def read? (source : String) : Option Reading := do
  let (name, rest) ← findHeader? false source.toList
  let cs ← valueSection? rest
  return ofTokens (String.ofList name) (tokens cs)

/-- The first declaration of a text. -/
def parse? (source : String) : Option Declaration := (read? source).map Reading.toDeclaration

/-- The section is what stands before the first semicolon. -/
theorem valueSection?_eq_some_iff {cs body : List Char} :
    valueSection? cs = some body ↔ ';' ∉ body ∧ ∃ rest, cs = body ++ ';' :: rest := by
  induction cs generalizing body with
  | nil => simp [valueSection?]
  | cons c cs ih =>
    by_cases h : c = ';'
    · subst h
      cases body with
      | nil => simp [valueSection?]
      | cons b body => simp [valueSection?]; intro hb; grind
    · cases body with
      | nil => simp [valueSection?, h]
      | cons b body => simp [valueSection?, h, ih]; grind

/-- There is no section if and only if there is no semicolon. -/
theorem valueSection?_eq_none_iff {cs : List Char} : valueSection? cs = none ↔ ';' ∉ cs := by
  induction cs with
  | nil => simp [valueSection?]
  | cons c cs ih =>
    by_cases h : c = ';'
    · simp [valueSection?, h]
    · simp [valueSection?, h, ih, Ne.symm h]

/-- A declaration is a header and a section that follows it. -/
theorem parse?_eq_some_iff {source : String} {d : Declaration} : parse? source = some d ↔
    ∃ name rest body, findHeader? false source.toList = some (name, rest) ∧
      valueSection? rest = some body ∧
      (ofTokens (String.ofList name) (tokens body)).toDeclaration = d := by
  unfold parse? read?
  constructor
  · intro h
    obtain ⟨r, read, rfl⟩ := Option.map_eq_some_iff.mp h
    obtain ⟨⟨name, rest⟩, header, read⟩ := Option.bind_eq_some_iff.mp read
    obtain ⟨body, before, read⟩ := Option.bind_eq_some_iff.mp read
    obtain rfl := Option.some.inj read
    exact ⟨name, rest, body, header, before, rfl⟩
  · rintro ⟨name, rest, body, header, before, rfl⟩
    simp [header, before]

end Declaration

end EnumTables
