import EnumTables.Digest.Sha1
import EnumTables.Digest.Sha256
import EnumTables.Text.Hex

/-!
# Keyed digests

The keyed-hash message authentication code over the digests of this library, all of which work on
blocks of 64 bytes.
-/

namespace EnumTables.Digest

/-- The digest functions that a message can be signed with. -/
inductive Algorithm where
  | sha1
  | sha256
deriving DecidableEq, Repr

/-- The digest of a message. -/
def Algorithm.digest : Algorithm → List UInt8 → List UInt8
  | .sha1 => Sha1.digest
  | .sha256 => Sha256.digest

/-- The algorithm of a name. -/
def Algorithm.ofName? : String → Option Algorithm
  | "sha1" => some .sha1
  | "sha256" => some .sha256
  | _ => none

/-- A key as one block: a key longer than a block is digested first. -/
def blockKey (algorithm : Algorithm) (key : List UInt8) : List UInt8 :=
  let key := if key.length ≤ 64 then key else algorithm.digest key
  key ++ List.replicate (64 - key.length) 0

/-- The authentication code of a message under a key. -/
def hmac (algorithm : Algorithm) (key message : List UInt8) : List UInt8 :=
  let key := blockKey algorithm key
  algorithm.digest (key.map (· ^^^ 0x5c) ++ algorithm.digest (key.map (· ^^^ 0x36) ++ message))

/-- The authentication code in hexadecimal. -/
def hmacHex (algorithm : Algorithm) (key message : List UInt8) : String :=
  Text.hex (hmac algorithm key message)

/-- A digest has 40 hexadecimal digits for SHA-1 and 64 for SHA-256. -/
theorem length_hmacHex (algorithm : Algorithm) (key message : List UInt8) :
    (hmacHex algorithm key message).toList.length =
      match algorithm with
      | .sha1 => 40
      | .sha256 => 64 := by
  have h (bytes : List UInt8) : (Text.hex bytes).toList.length = 2 * bytes.length := by
    induction bytes <;> simp_all [Text.hex]; omega
  cases algorithm <;> simp [hmacHex, h, hmac, Algorithm.digest]

end EnumTables.Digest
