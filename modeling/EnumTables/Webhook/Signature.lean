import EnumTables.Act
import EnumTables.Digest.Hmac
import EnumTables.Text.Utf8

/-!
# Signatures

A delivery is signed with a keyed digest of its body.  The signature names the digest, then after an
equals sign gives it in hexadecimal.
-/

namespace EnumTables.Webhook

/-- Why a signature is not accepted. -/
inductive Rejection where
  | noSignature
  | noSecret
  | unsupported (algorithm : String)
  | mismatch
deriving DecidableEq, Repr

/-- What is logged of a rejection; a signature that does not match is not logged. -/
def Rejection.message? : Rejection → Option String
  | .noSignature => some "Bad request, no signature header supplied"
  | .noSecret => some "Webhook secret is not configured"
  | .unsupported algorithm => some s!"Unsupported signature format: {algorithm}"
  | .mismatch => none

/-- The parts of a signature before and after its first equals sign. -/
def splitSignature (signature : String) : String × String :=
  let cs := signature.toList
  (String.ofList (cs.takeWhile (· ≠ '=')), String.ofList ((cs.dropWhile (· ≠ '=')).drop 1))

/-- Check the signature of a body.  An empty signature counts as none, and so does an empty
secret.  The digests are compared as bytes, since a signature can hold any characters. -/
def check (secret : String) (body : List UInt8) (signature : Option String) :
    Except Rejection Unit :=
  match signature.filter (· ≠ "") with
  | none => .error .noSignature
  | some signature =>
    if secret = "" then .error .noSecret
    else
      let (name, digest) := splitSignature signature
      match Digest.Algorithm.ofName? name with
      | none => .error (.unsupported name)
      | some algorithm =>
        if digest = "" then .error (.unsupported name)
        else
          let expected := Digest.hmacHex algorithm (Text.Utf8.encode secret) body
          if Text.Utf8.encode expected = Text.Utf8.encode digest then .ok ()
          else .error .mismatch

/-- Whether the signature of a body is accepted. -/
def accepts (secret : String) (body : List UInt8) (signature : Option String) : Bool :=
  (check secret body signature).isOk

/-- Check the signature of a body and log why it is rejected. -/
def verify (secret : String) (body : List UInt8) (signature : Option String) : Act Bool := do
  match check secret body signature with
  | .ok () => return true
  | .error r =>
    match r.message? with
    | some message => Act.log .error .webhook message
    | none => pure ()
    return false

/-- What is logged aside, the check gives its answer. -/
theorem result_verify (secret : String) (body : List UInt8) (signature : Option String)
    (w : World) (past : Trace) :
    ((verify secret body signature).run w past).result = .ok (accepts secret body signature) := by
  unfold verify accepts
  cases check secret body signature with
  | ok u => cases u; rfl
  | error r => cases r <;> rfl

end EnumTables.Webhook
