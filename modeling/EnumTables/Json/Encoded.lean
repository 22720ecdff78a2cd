import EnumTables.Text.Utf8
import EnumTables.Text.WideUnits

/-!
# JSON in bytes

The encoding of a JSON text is seen from its first bytes: a byte-order mark, or else the places of
the zero bytes, since a JSON text begins with two ASCII characters.  Surrogates may be encoded as
characters are.
-/

namespace EnumTables.Json

open Text

/-- The text that bytes spell, in the encoding that their beginning shows. -/
def decodeBytes? : List UInt8 → Option RawText
  | 0x00 :: 0x00 :: 0xFE :: 0xFF :: rest => decode32? .big rest
  | 0xFF :: 0xFE :: 0x00 :: 0x00 :: rest => decode32? .little rest
  | 0xFE :: 0xFF :: rest => decode16? .big rest
  | 0xFF :: 0xFE :: rest => decode16? .little rest
  | 0xEF :: 0xBB :: 0xBF :: rest => Utf8.decodeRaw? rest
  | [a, b] =>
    if a = 0 then decode16? .big [a, b]
    else if b = 0 then decode16? .little [a, b]
    else Utf8.decodeRaw? [a, b]
  | a :: b :: c :: d :: rest =>
    let bytes := a :: b :: c :: d :: rest
    if a = 0 then if b = 0 then decode32? .big bytes else decode16? .big bytes
    else if b = 0 then if c = 0 ∧ d = 0 then decode32? .little bytes else decode16? .little bytes
    else Utf8.decodeRaw? bytes
  | bytes => Utf8.decodeRaw? bytes

end EnumTables.Json
