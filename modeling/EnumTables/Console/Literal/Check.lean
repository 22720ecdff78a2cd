import EnumTables.Console.Literal.Token

/-!
# Checking literals

The tokens of a text are read from left to right as an expression.  Where a token cannot stand, the
text is refused; where two operands meet inside brackets, or one equals sign stands for a comparison,
the reason is given as soon as the second operand is complete.  An expression that reads well is a
literal if it names, calls and computes nothing.
-/

namespace EnumTables.Console.Literal

/-- What may come next. -/
inductive Phase where
  /-- A member, or the end of the bracket. -/
  | member
  /-- An operand. -/
  | operand
  /-- An operand or the negation of one. -/
  | condition
  /-- An operand after a star. -/
  | starred
  /-- The value of a member whose key was read. -/
  | value
  /-- A name after a point. -/
  | attribute
  /-- What may follow an operand. -/
  | complete
deriving DecidableEq, Repr

/-- Reading inside one bracket, or outside of all. -/
structure Frame where
  /-- The bracket, if there is one. -/
  bracket : Option Char
  /-- Whether the bracket holds the arguments of a call. -/
  isCall : Bool
  /-- What a failure inside the bracket means, if it does not speak for itself. -/
  failure : Option Error
  phase : Phase
  /-- Whether a member was read before. -/
  hasMembers : Bool
  /-- Whether a member has a star before it. -/
  hasStar : Bool
  /-- Whether the members have keys. -/
  isDictionary : Bool
  /-- Whether the key of this member was read. -/
  hasKey : Bool
  /-- The name that this member is so far, if it is one. -/
  lone : Option String
  /-- Whether this member begins with a name that is a keyword in some places. -/
  isSoft : Bool
  /-- Whether a quoted text comes immediately before. -/
  isText : Bool
  /-- Whether a condition waits for its other branch. -/
  isConditional : Bool
  /-- What is wrong once another operand is complete. -/
  pending : Option Error
  /-- Whether that operand is complete. -/
  isRipe : Bool
  /-- Whether failures inside that operand do not speak for themselves. -/
  isQuiet : Bool
  /-- Whether the text is malformed, but goes on after a name as if that were not there. -/
  isDoomed : Bool
deriving DecidableEq, Repr

namespace Frame

/-- The beginning of a bracket. -/
def start (bracket : Option Char) (isCall : Bool) (failure : Option Error) : Frame :=
  { bracket, isCall, failure, phase := .member, hasMembers := false, hasStar := false,
    isDictionary := false, hasKey := false, lone := none, isSoft := false, isText := false,
    isConditional := false, pending := none, isRipe := false, isQuiet := false, isDoomed := false }

/-- A reason, unless a failure means something else here. -/
def refuse (f : Frame) (e : Error) : Error := f.failure.getD e

/-- What a token means that cannot stand in its place. -/
def fail (f : Frame) : Error :=
  f.refuse <|
    if f.isRipe then f.pending.getD .malformed
    else if f.phase = .starred && (f.isCall || !f.hasMembers) then .badStar
    else .malformed

/-- What a failure means inside a bracket that begins here. -/
def inner (f : Frame) : Option Error :=
  match f.failure, f.pending with
  | some e, _ => some e
  | none, some e => if f.isRipe then some e else if f.isQuiet then some .malformed else none
  | none, none => none

/-- Wait for an operand. -/
def await (f : Frame) (phase : Phase) : Frame :=
  { f with phase, lone := none, isText := false }

/-- An operand was read. -/
def complete (f : Frame) : Frame :=
  { f with phase := .complete, lone := none, isText := false, isRipe := f.pending.isSome }

/-- A member is over and another one may come. -/
def separate (f : Frame) : Frame :=
  { f with phase := .member, hasMembers := true, hasKey := false, lone := none, isSoft := false,
           isText := false }

/-- Whether the operand at hand must not be the end of a member, and why. -/
def unfinished? (f : Frame) : Option Error :=
  if f.pending.isSome then f.pending
  else if f.isConditional then some .missingElse
  else if f.isDictionary && !f.hasKey then some .missingColon
  else none

/-- Whether the operand at hand must not be the last one in its bracket, and why. -/
def unclosable? (f : Frame) : Option Error :=
  if f.unfinished?.isSome then f.unfinished?
  else if f.isDoomed then some .malformed
  else if f.hasStar && f.bracket = some '(' && !f.isCall && !f.hasMembers then some .loneStar
  else none

/-- Names that are no longer called without parentheses. -/
def statements : List String := ["print", "exec"]

/-- What it means that another operand follows a complete one.  A name alone may be followed by what
would be a statement's operands, and these are read on their own. -/
def juxtaposed (f : Frame) (isText : Bool) : Except Error Frame :=
  if f.pending.isSome then .error f.fail
  else if f.isConditional then .error (f.refuse .missingElse)
  else
    match f.lone with
    | some name =>
      if statements.contains name then
        .ok { f with pending := some (.missingCall name), isQuiet := false }
      else if isText || f.isSoft || f.bracket.isNone then
        .ok { f with phase := .member, isDoomed := true, lone := none, isSoft := false }
      else .ok { f with pending := some .missingComma, isQuiet := false }
    | none =>
      if f.isSoft then .error f.fail
      else if f.bracket.isNone then .ok { f with pending := some .malformed, isQuiet := true }
      else .ok { f with pending := some .missingComma, isQuiet := true }

end Frame

/-- Words that are no operands. -/
def keywords : List String :=
  ["and", "as", "assert", "async", "await", "break", "class", "continue", "def", "del", "elif",
   "else", "except", "finally", "for", "from", "global", "if", "import", "in", "is", "lambda",
   "nonlocal", "not", "or", "pass", "raise", "return", "try", "while", "with", "yield"]

/-- Names that are keywords in some places. -/
def softKeywords : List String := ["_", "case", "match"]

/-- Names of constants. -/
def constants : List String := ["None", "True", "False"]

/-- Operators between two operands. -/
def binarySigns : List String :=
  ["+", "-", "*", "/", "//", "%", "@", "**", "<<", ">>", "&", "|", "^", "<", ">", "<=", ">=", "==",
   "!="]

/-- Read a name as an operand. -/
def Frame.name (f : Frame) (name : String) : Frame :=
  let opens := f.phase = .member && f.pending.isNone && !constants.contains name
  { f.complete with lone := if opens then some name else none,
                    isSoft := f.isSoft || (opens && softKeywords.contains name) }

/-- Read a token where an operand may begin; the frames around the bracket come after it. -/
def readOperand (f : Frame) (outer : List Frame) : Token → Except Error (List Frame)
  | .name "not" =>
    if f.phase = .operand || f.phase = .starred then .error f.fail
    else .ok (f.await .condition :: outer)
  | .name name => if keywords.contains name then .error f.fail else .ok (f.name name :: outer)
  | .number _ => .ok (f.complete :: outer)
  | .text => .ok ({ f.complete with isText := true } :: outer)
  | .opening c => .ok (Frame.start (some c) false f.inner :: f :: outer)
  | .sign s =>
    if s = "+" || s = "-" || s = "~" then
      .ok (f.await (if f.phase = .starred then .starred else .operand) :: outer)
    else if s = "..." then .ok (f.complete :: outer)
    else .error f.fail
  | .closing _ | .brokenLine => .error f.fail

/-- Close a bracket. -/
def close (f : Frame) : List Frame → Except Error (List Frame)
  | outer :: rest => .ok (outer.complete :: rest)
  | [] => .error f.fail

/-- Read an equals sign after an operand: it gives an argument of a call its name, and elsewhere
stands for a comparison. -/
def readEquals (f : Frame) : Except Error Frame :=
  if f.pending.isSome || f.isDoomed || f.lone.isNone || f.bracket.isNone then .error f.fail
  else if f.isCall then .ok (f.await .condition)
  else if f.isDictionary then .error f.fail
  else .ok { f.await .operand with pending := some .assignment, isQuiet := true }

/-- Read a colon after an operand. -/
def readColon (f : Frame) : Except Error Frame :=
  if f.pending.isSome || f.isDoomed || f.isConditional || f.bracket ≠ some '{' || f.hasKey ||
      (f.hasMembers && !f.isDictionary) then .error f.fail
  else .ok { f.await .value with isDictionary := true, hasKey := true }

/-- Read a sign after a complete operand; `beside` reads it as the beginning of another one. -/
def readSign (f : Frame) (outer : List Frame) (beside : Except Error (List Frame)) (s : String) :
    Except Error (List Frame) :=
  if binarySigns.contains s then .ok (f.await .operand :: outer)
  else if s = "." then .ok ({ f with phase := .attribute } :: outer)
  else if s = "," then
    match f.unfinished? with
    | some e => .error (f.refuse e)
    | none => .ok (f.separate :: outer)
  else if s = "=" then (readEquals f).map (· :: outer)
  else if s = ":" then (readColon f).map (· :: outer)
  else if s = "~" || s = "..." then beside
  else .error f.fail

/-- Read a name after a complete operand; `following` is the token after it, and `beside` reads it
as the beginning of another operand. -/
def readWord (f : Frame) (outer : List Frame) (following : Option Token)
    (beside : Except Error (List Frame)) : String → Except Error (List Frame)
  | "if" =>
    if f.pending.isSome then .error f.fail
    else if f.isConditional then .error (f.refuse .missingElse)
    else .ok ({ f.await .condition with isConditional := true } :: outer)
  | "else" =>
    if f.isConditional && f.pending.isNone then
      .ok ({ f.await .condition with isConditional := false } :: outer)
    else .error f.fail
  | "and" | "or" => .ok (f.await .condition :: outer)
  | "in" => .ok (f.await .operand :: outer)
  | "is" =>
    .ok (f.await (if following = some (.name "not") then .condition else .operand) :: outer)
  | "not" => if following = some (.name "in") then .ok (f :: outer) else beside
  | name => if keywords.contains name then .error f.fail else beside

/-- Read a token after a complete operand; `following` is the token after it. -/
def readAfter (f : Frame) (outer : List Frame) (following : Option Token) (t : Token) :
    Except Error (List Frame) :=
  let beside : Except Error (List Frame) := do
    readOperand { ← f.juxtaposed (t = .text) with phase := .member } outer t
  match t with
  | .sign s => readSign f outer beside s
  | .name name => readWord f outer following beside name
  | .closing _ =>
    match f.unclosable? with
    | some e => .error (f.refuse e)
    | none => close f outer
  | .opening '(' =>
    .ok (Frame.start (some '(') true f.inner :: { f with lone := none } :: outer)
  | .opening _ | .number _ => beside
  | .text => if f.isText then .ok (f :: outer) else beside
  | .brokenLine => .error .brokenLine

/-- Read a token. -/
def read (f : Frame) (outer : List Frame) (following : Option Token) (t : Token) :
    Except Error (List Frame) :=
  match f.phase, t with
  | _, .brokenLine => .error .brokenLine
  | .member, .closing _ =>
    if f.isDoomed || f.bracket.isNone then .error f.fail else close f outer
  | .member, .sign "*" =>
    if f.bracket.isNone || f.isDoomed then .error f.fail
    else .ok ({ f.await .starred with hasStar := true } :: outer)
  | .value, .closing _ | .value, .sign "," => .error (f.refuse .missingValue)
  | .attribute, .name name =>
    if keywords.contains name then .error f.fail else .ok (f.complete :: outer)
  | .attribute, _ => .error f.fail
  | .complete, t => readAfter f outer following t
  | _, t => readOperand f outer t

/-- Read tokens to the end. -/
def readAll (f : Frame) (outer : List Frame) : List Token → Except Error Unit
  | [] =>
    match f.bracket, f.phase with
    | some c, _ => .error (.neverClosed c)
    | none, .complete => (f.unclosable?.map .error).getD (.ok ())
    | none, .member => if f.hasMembers && !f.isDoomed then .ok () else .error .malformed
    | none, _ => .error .malformed
  | t :: ts =>
    match read f outer ts.head? t with
    | .error e => .error e
    | .ok [] => .error .malformed
    | .ok (f :: outer) => readAll f outer ts

/-- Whether a sign stands before a number of its own, or between a real and an imaginary one. -/
def isSignOfNumber (before : Option Token) (after : List Token) : Bool :=
  match before, after with
  | some (.number imaginary), .number other :: _ => !imaginary && other
  | some (.closing _), _ | some .text, _ | some (.name _), _ => false
  | _, .number _ :: _ => true
  | _, _ => false

/-- Whether well-formed tokens are those of a literal; `before` is the token before them. -/
def isLiteralFrom (before : Option Token) : List Token → Bool
  | [] => true
  | t :: ts =>
    let here := match t with
      | .name name => constants.contains name || name = "set"
      | .sign s => s = "," || s = ":" || s = "..." || ((s = "+" || s = "-") && isSignOfNumber before ts)
      | .opening '(' =>
        match before, ts with
        | some (.name "set"), .closing _ :: _ => true
        | some (.name _), _ | some (.number _), _ | some .text, _ | some (.closing _), _ => false
        | _, _ => true
      | _ => true
    here && isLiteralFrom (some t) ts

/-- Check that a text is a literal. -/
def check (cs : List Char) : Except Error Unit := do
  let ts ← tokens cs
  readAll (Frame.start none false none) [] ts
  if isLiteralFrom none ts then .ok () else .error .notLiteral

end EnumTables.Console.Literal
