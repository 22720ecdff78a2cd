import EnumTables.Text.Quoted

/-!
# Raw texts

A text that comes from outside can hold surrogates: code points that are no characters, and that
neither a text nor its bytes in UTF-8 can have.  Two surrogates that would make a character together
are not that character.
-/

namespace EnumTables

/-- A character or a surrogate. -/
inductive CodePoint where
  | char (c : Char)
  /-- The surrogate with this number among them. -/
  | surrogate (n : Fin 0x800)
deriving DecidableEq, Repr

namespace CodePoint

/-- The number of a code point. -/
def toNat : CodePoint → Nat
  | .char c => c.toNat
  | .surrogate n => 0xD800 + n

/-- The code point with a number. -/
def ofNat (n : Nat) : CodePoint :=
  if h : 0xD800 ≤ n ∧ n < 0xE000 then .surrogate ⟨n - 0xD800, by omega⟩ else .char (Char.ofNat n)

def char? : CodePoint → Option Char
  | .char c => some c
  | .surrogate _ => none

def isSurrogate : CodePoint → Bool
  | .char _ => false
  | .surrogate _ => true

/-- The characters of a code point, where these characters stand for a surrogate. -/
def spell (spelled : Nat → List Char) : CodePoint → List Char
  | .char c => [c]
  | .surrogate n => spelled (0xD800 + n)

end CodePoint

/-- A text with code points of any kind. -/
structure RawText where
  points : List CodePoint
deriving DecidableEq, Repr

namespace RawText

/-- The text as a raw one. -/
@[coe]
def ofString (s : String) : RawText := ⟨s.toList.map .char⟩

instance instCoe : Coe String RawText := ⟨ofString⟩

instance instAppend : Append RawText := ⟨fun s t ↦ ⟨s.points ++ t.points⟩⟩

instance instInhabited : Inhabited RawText := ⟨⟨[]⟩⟩

def isEmpty (t : RawText) : Bool := t.points.isEmpty

/-- Texts with a separator between them. -/
def intercalate (separator : RawText) : List RawText → RawText
  | [] => ⟨[]⟩
  | [t] => t
  | t :: ts => t ++ separator ++ intercalate separator ts

/-- The text that a raw one is, if it has no surrogates. -/
def toString? (t : RawText) : Option String := (t.points.mapM CodePoint.char?).map String.ofList

/-- The text with certain characters in the place of surrogates. -/
def spell (spelled : Nat → List Char) (t : RawText) : String :=
  String.ofList (t.points.flatMap (CodePoint.spell spelled))

/-- The text with surrogates as numeric escapes, as they are written to the standard error output. -/
def escaped (t : RawText) : String := t.spell Text.escapeCode

/-- The three bytes of a surrogate, percent-encoded. -/
def percentEncoded (n : Nat) : List Char :=
  [0xE0 + n / 0x1000, 0x80 + n / 0x40 % 0x40, 0x80 + n % 0x40].flatMap fun byte ↦
    '%' :: (Text.hexDigits 2 byte).map Char.toUpper

/-- The text as it stands in an address, with the bytes of surrogates. -/
def inAddress (t : RawText) : String := t.spell percentEncoded

/-- The text between the marks of a quoted one; surrogates are not printable. -/
def quoted (t : RawText) : String :=
  let mark := Text.quoteMark (t.points.filterMap CodePoint.char?)
  let chars : CodePoint → List Char
    | .char c => Text.escapeChar mark c
    | .surrogate n => Text.escapeCode (0xD800 + n)
  String.ofList (mark :: t.points.flatMap chars ++ [mark])

/-- The surrogates that keep a text from being encoded: the number of the first one, and the places
where they begin and end. -/
structure EncodingError where
  surrogate : Nat
  first : Nat
  last : Nat
deriving DecidableEq, Repr

/-- What is wrong, in words: a single surrogate is shown, several are given by their places. -/
def EncodingError.message (e : EncodingError) : String :=
  let place := if e.first = e.last then
      s!"character '{String.ofList (Text.escapeCode e.surrogate)}' in position {e.first}"
    else s!"characters in position {e.first}-{e.last}"
  s!"'utf-8' codec can't encode {place}: surrogates not allowed"

/-- The text that is to be encoded, which must not have surrogates. -/
def encodable (t : RawText) : Except EncodingError String :=
  match t.points.dropWhile (!·.isSurrogate) with
  | .surrogate n :: ps =>
    let first := (t.points.takeWhile (!·.isSurrogate)).length
    .error ⟨0xD800 + n, first, first + (ps.takeWhile CodePoint.isSurrogate).length⟩
  | _ => .ok t.escaped

@[simp] theorem points_ofString (s : String) : (s : RawText).points = s.toList.map .char := rfl

theorem ofString_inj {s t : String} : (s : RawText) = t ↔ s = t := by
  constructor
  · intro same
    have points : s.toList.map CodePoint.char = t.toList.map CodePoint.char :=
      congrArg RawText.points same
    exact String.toList_inj.mp ((List.map_inj_right fun _ _ ↦ CodePoint.char.inj).mp points)
  · rintro rfl
    rfl

theorem toString?_ofString (s : String) : (s : RawText).toString? = some s := by
  have all (cs : List Char) : (cs.map CodePoint.char).mapM CodePoint.char? = some cs := by
    induction cs with
    | nil => rfl
    | cons c cs ih => rw [List.map_cons, List.mapM_cons, ih]; rfl
  rw [toString?, points_ofString, all, Option.map_some, String.ofList_toList]

theorem eq_map_char_of_mapM {ps : List CodePoint} {cs : List Char}
    (h : ps.mapM CodePoint.char? = some cs) : ps = cs.map .char := by
  induction ps generalizing cs with
  | nil =>
    cases h
    rfl
  | cons p ps ih =>
    rw [List.mapM_cons, Option.bind_eq_bind, Option.bind_eq_some_iff] at h
    obtain ⟨c, first, h⟩ := h
    obtain ⟨rest, later, ⟨⟩⟩ := Option.bind_eq_some_iff.mp h
    cases p with
    | surrogate n => cases first
    | char c' =>
      cases first
      rw [ih later, List.map_cons]

theorem toString?_eq_some_iff {t : RawText} {s : String} : t.toString? = some s ↔ t = s := by
  constructor
  · intro shown
    obtain ⟨cs, all, rfl⟩ := Option.map_eq_some_iff.mp shown
    have points : t.points = (String.ofList cs).toList.map .char := by
      rw [String.toList_ofList, eq_map_char_of_mapM all]
    exact congrArg RawText.mk points
  · rintro rfl
    exact toString?_ofString s

end RawText

end EnumTables
