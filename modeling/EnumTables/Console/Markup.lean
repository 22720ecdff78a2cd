import EnumTables.Console.Action
import EnumTables.Console.Style

/-!
# Console markup

Text for the console may hold tags in square brackets.  A tag is a bracketed text whose first
character is a lower-case letter, `#`, `/` or `@`; one that begins with a slash closes the tag of
its name, or the innermost one if it has no name.  The name of a tag is a style, and two spellings of
one style are one name.  A tag that begins with `@` names an action, which is read when the tag is
closed.  Backslashes before a bracketed text escape it: each pair stands for one backslash, and one
left over keeps the brackets as text.

`render` gives the text without its tags, `escape` writes a text so that it is rendered as itself.
-/

namespace EnumTables.Markup

/-- What is wrong with a text. -/
inductive Error where
  /-- A closing tag names a tag that is not open; `position` characters come before it. -/
  | notOpen (tag : String) (position : Nat)
  /-- A closing tag without a name stands where no tag is open. -/
  | nothingOpen (position : Nat)
  /-- The action of a tag cannot be read. -/
  | action (e : Console.Action.Error)
  /-- A component of a colour is left out. -/
  | missingComponent
deriving DecidableEq, Repr

/-- What is wrong, in words. -/
def Error.message : Error → String
  | .notOpen tag position =>
    s!"closing tag '[{tag}]' at position {position} doesn't match any open tag"
  | .nothingOpen position => s!"closing tag '[/]' at position {position} has nothing to close"
  | .action e => e.message
  | .missingComponent => "invalid literal for int() with base 10: ''"

/-- Characters that a tag may begin with. -/
def beginsTag (c : Char) : Bool := c.isLower || c = '#' || c = '/' || c = '@'

/-- The body of a bracketed tag and the text after it, the opening bracket already taken. -/
def tag? : List Char → Option (List Char × List Char)
  | [] => none
  | c :: cs =>
    let inside (c : Char) : Bool := c ≠ '[' && c ≠ ']'
    if beginsTag c then
      match cs.dropWhile inside with
      | ']' :: rest => some (c :: cs.takeWhile inside, rest)
      | _ => none
    else none

/-- A part of a text with markup. -/
inductive Part where
  /-- A character outside all tags. -/
  | char (c : Char)
  /-- A bracketed text and the number of backslashes before it. -/
  | bracket (backslashes : Nat) (body : List Char)
deriving DecidableEq, Repr

/-- The characters that a part was read from. -/
def Part.spelling : Part → List Char
  | .char c => [c]
  | .bracket backslashes body => List.replicate backslashes '\\' ++ '[' :: (body ++ [']'])

/-- The bracketed text that begins with the text, backslashes before it included, and the text
after it; `backslashes` came before the text. -/
def bracket? (backslashes : Nat) : List Char → Option (Part × List Char)
  | '\\' :: cs => bracket? (backslashes + 1) cs
  | '[' :: cs => (tag? cs).map fun (body, rest) ↦ (.bracket backslashes body, rest)
  | _ => none

/-- The part at the head of the text `c :: cs`, and the text after it. -/
def next (c : Char) (cs : List Char) : Part × List Char :=
  (bracket? 0 (c :: cs)).getD (.char c, cs)

theorem spelling_of_tag? {cs body rest : List Char} (h : tag? cs = some (body, rest)) :
    body ++ ']' :: rest = cs := by
  cases cs with
  | nil => simp [tag?] at h
  | cons c cs =>
    have whole := List.takeWhile_append_dropWhile (p := fun c ↦ c ≠ '[' && c ≠ ']') (l := cs)
    simp only [tag?] at h
    split at h
    · split at h
      next r hr =>
        simp only [Option.some.injEq, Prod.mk.injEq] at h
        obtain ⟨rfl, rfl⟩ := h
        rw [hr] at whole
        rw [List.cons_append, whole]
      next => simp at h
    · simp at h

theorem spelling_of_bracket? {n : Nat} {cs rest : List Char} {x : Part}
    (h : bracket? n cs = some (x, rest)) :
    x.spelling ++ rest = List.replicate n '\\' ++ cs := by
  fun_induction bracket? n cs with
  | case1 n cs ih => simpa [List.replicate_succ'] using ih h
  | case2 n cs =>
    obtain ⟨⟨body, r⟩, hb, he⟩ := Option.map_eq_some_iff.mp h
    simp only [Prod.mk.injEq] at he
    obtain ⟨rfl, rfl⟩ := he
    simp [Part.spelling, spelling_of_tag? hb]
  | case3 => simp at h

/-- A part's spelling and the text after it are the text it was read from. -/
theorem spelling_next (c : Char) (cs : List Char) :
    (next c cs).1.spelling ++ (next c cs).2 = c :: cs := by
  unfold next
  cases h : bracket? 0 (c :: cs) with
  | none => simp [Part.spelling]
  | some r => simpa using spelling_of_bracket? h

/-- The text after a part is shorter than the text it was read from. -/
theorem length_next_lt (c : Char) (cs : List Char) :
    (next c cs).2.length < (c :: cs).length := by
  have whole := congrArg List.length (spelling_next c cs)
  have some : 0 < (next c cs).1.spelling.length := by
    refine List.length_pos_iff.mpr ?_
    cases (next c cs).1 <;> simp [Part.spelling]
  rw [List.length_append] at whole
  omega

/-- The parts of a text. -/
def parts : List Char → List Part
  | [] => []
  | c :: cs => (next c cs).1 :: parts (next c cs).2
termination_by cs => cs.length
decreasing_by exact length_next_lt c cs

@[simp] theorem parts_nil : parts [] = [] := by rw [parts]

/-- A tag that is open. -/
structure OpenTag where
  name : List Char
  /-- What stands after the equals sign, if there is one. -/
  argument : List Char
deriving DecidableEq, Repr

/-- The name of a tag as it is compared. -/
def tagName (name : List Char) : Except Error (List Char) :=
  (Console.canonicalName name).mapError fun _ ↦ .missingComponent

/-- The tag that a bracketed text opens. -/
def OpenTag.ofBody (body : List Char) : Except Error OpenTag :=
  (tagName (body.takeWhile (· ≠ '='))).map fun name ↦ ⟨name, (body.dropWhile (· ≠ '=')).drop 1⟩

/-- Check a tag that is closed: its action, if it names one, must be readable. -/
def OpenTag.check (t : OpenTag) : Except Error Unit :=
  if t.name.head? = some '@' then (Console.Action.check t.argument).mapError .action
  else .ok ()

/-- The name that a closing tag gives, its slash taken. -/
def closedName (body : List Char) : List Char :=
  Text.trimRight (Text.trimLeft (body.takeWhile (· ≠ '=')))

/-- The tag of a name that is closed first. -/
def innermost? (name : List Char) (opened : List OpenTag) : Option OpenTag :=
  opened.find? fun t ↦ t.name = name

/-- The open tags after a closing tag, the innermost first.  Its slash is taken. -/
def closeTag (opened : List OpenTag) (position : Nat) (body : List Char) :
    Except Error (List OpenTag) := do
  let name := closedName body
  if name.isEmpty then
    match opened with
    | [] => .error (.nothingOpen position)
    | t :: rest => t.check.map fun _ ↦ rest
  else
    match innermost? (← tagName name) opened with
    | some t => t.check.map fun _ ↦ opened.eraseP fun u ↦ u.name = t.name
    | none => .error (.notOpen (String.ofList ('/' :: body)) position)

/-- The open tags after a tag, the innermost first; `position` characters came before the tag. -/
def applyTag (opened : List OpenTag) (position : Nat) (body : List Char) :
    Except Error (List OpenTag) :=
  match body with
  | '/' :: name => closeTag opened position name
  | _ => (OpenTag.ofBody body).map (· :: opened)

/-- The text of parts without their tags.  `opened` holds the open tags, and `position` characters
came before. -/
def renderFrom (opened : List OpenTag) (position : Nat) : List Part → Except Error (List Char)
  | [] => .ok []
  | .char '\\' :: .char '[' :: ps =>
    renderFrom opened (position + 1) (.char '[' :: ps)
  | .char c :: ps => (renderFrom opened (position + 1) ps).map (c :: ·)
  | .bracket backslashes body :: ps => do
    let kept := List.replicate (backslashes / 2) '\\'
    let after := position + backslashes + body.length + 2
    if backslashes % 2 = 1 then
      let rest ← renderFrom opened after ps
      return kept ++ '[' :: (body ++ ']' :: rest)
    else
      let opened ← applyTag opened (position + backslashes) body
      let rest ← renderFrom opened after ps
      return kept ++ rest

/-- The controls that the console does not show: bell, backspace, vertical tab, form feed and
carriage return. -/
def isStripped (c : Char) : Bool :=
  c = '\x07' || c = '\x08' || c = '\x0B' || c = '\x0C' || c = '\r'

/-- The text that markup stands for. -/
def render (s : String) : Except Error String :=
  (renderFrom [] 0 (parts s.toList)).map fun cs ↦
    String.ofList (cs.filter fun c ↦ !isStripped c)

/-- A part written so that it stands for its own characters. -/
def Part.escape : Part → List Char
  | .char c => [c]
  | .bracket backslashes body =>
    List.replicate (2 * backslashes + 1) '\\' ++ '[' :: (body ++ [']'])

/-- Protect a backslash at the end of a text from what may follow it. -/
def protectEnd (cs : List Char) : List Char :=
  match cs.reverse with
  | '\\' :: '\\' :: _ => cs
  | '\\' :: _ => cs ++ ['\\']
  | _ => cs

/-- Write a text so that its brackets are not read as tags. -/
def escape (s : String) : String :=
  String.ofList (protectEnd ((parts s.toList).flatMap Part.escape))

end EnumTables.Markup
