/-!
# Tokens

The tokens of a value section: identifiers, numerals, quoted texts, the three punctuation marks that
frame an argument list, and every other character by itself.
-/

namespace EnumTables

/-- The kinds of tokens. -/
inductive TokenKind where
  | identifier
  | number
  | string
  | openParen
  | closeParen
  | comma
  | other
deriving DecidableEq, Repr

/-- A token of a text. -/
structure Token where
  kind : TokenKind
  /-- The characters of the token; those of a string are without its marks. -/
  text : String
  /-- The number of characters before the token. -/
  position : Nat
deriving DecidableEq, Repr

namespace Token

/-- Characters that begin a constant's name. -/
def isConstantStart (c : Char) : Bool := c.isUpper || c = '_'

/-- Characters that continue a constant's name. -/
def isConstantRest (c : Char) : Bool := c.isUpper || c.isDigit || c = '_'

/-- Whether a text is written like a constant's name, in capitals, digits and underscores. -/
def isConstantName (s : String) : Bool :=
  match s.toList with
  | [] => false
  | c :: cs => isConstantStart c && cs.all isConstantRest

/-- Whether a token names a constant. -/
def isConstant (t : Token) : Bool := t.kind = .identifier && isConstantName t.text

/-- Whether a token is a literal: a numeral, a quoted text, `true` or `false`. -/
def isLiteral (t : Token) : Bool :=
  t.kind = .number || t.kind = .string ||
    t.kind = .identifier && (t.text = "true" || t.text = "false")

/-- A literal names no constant. -/
theorem isConstant_eq_false_of_isLiteral {t : Token} (h : t.isLiteral = true) :
    t.isConstant = false := by
  obtain ⟨kind, text, position⟩ := t
  cases kind <;> simp_all [isLiteral, isConstant]
  rcases h with rfl | rfl <;> decide

end Token

end EnumTables
