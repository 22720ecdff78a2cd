import EnumTables.Proofs.Text.Utf8
import EnumTables.Webhook.Signature

/-!
# Accepted signatures

A signature names a digest function and gives a digest, with an equals sign between them.  Main
statement: for each key and body exactly two signatures are accepted, one for each digest function,
and none at all while no key is configured.  No other spelling of these two is accepted, since the
digits of a digest are written in one way only.
-/

namespace EnumTables

open Digest

/-! ## Digests in hexadecimal -/

/-- A hexadecimal digit in lower case. -/
def Text.IsHexDigit (c : Char) : Prop := c.isDigit = true ∨ 'a' ≤ c ∧ c ≤ 'f'

namespace Text

theorem isHexDigit_digitChar {n : Nat} (below : n < 16) : IsHexDigit (Nat.digitChar n) := by
  unfold IsHexDigit
  revert n
  decide

theorem isHexDigit_of_mem_hexDigits {count n : Nat} {c : Char} (h : c ∈ hexDigits count n) :
    IsHexDigit c := by
  induction count generalizing n with
  | zero => nomatch h
  | succ count ih =>
    rcases List.mem_append.mp h with h | h
    · exact ih h
    · rw [List.mem_singleton.mp h]
      exact isHexDigit_digitChar (Nat.mod_lt n (by decide))

theorem isHexDigit_of_mem_hex {bytes : List UInt8} {c : Char} (h : c ∈ (hex bytes).toList) :
    IsHexDigit c := by
  rw [hex, String.toList_ofList] at h
  obtain ⟨b, -, h⟩ := List.mem_flatMap.mp h
  exact isHexDigit_of_mem_hexDigits h

end Text

namespace Digest.Algorithm

/-- The name of a digest function in a signature. -/
def name : Algorithm → String
  | .sha1 => "sha1"
  | .sha256 => "sha256"

/-- How many hexadecimal digits a digest has. -/
def digits : Algorithm → Nat
  | .sha1 => 40
  | .sha256 => 64

theorem ofName?_eq_some_iff {s : String} {a : Algorithm} : ofName? s = some a ↔ s = a.name := by
  constructor
  · intro h
    unfold ofName? at h
    split at h
    · obtain rfl := Option.some.inj h
      rfl
    · obtain rfl := Option.some.inj h
      rfl
    · nomatch h
  · rintro rfl
    cases a <;> rfl

theorem equals_notMem_name (a : Algorithm) : '=' ∉ a.name.toList := by
  cases a <;> decide

end Digest.Algorithm

namespace Webhook

/-! ## The parts of a signature -/

theorem splitSignature_append {name : String} (unbroken : '=' ∉ name.toList) (digest : String) :
    splitSignature (name ++ "=" ++ digest) = (name, digest) := by
  have before : ∀ c ∈ name.toList, Decidable.decide (c ≠ '=') = true := by
    intro c member
    refine decide_eq_true fun same ↦ ?_
    exact unbroken (same ▸ member)
  have chars : (name ++ "=" ++ digest).toList = name.toList ++ '=' :: digest.toList := by simp
  rw [splitSignature, chars, List.takeWhile_append_of_pos before,
    List.dropWhile_append_of_pos before]
  simp

/-- A text with something behind its first equals sign is made of its parts. -/
theorem eq_splitSignature {s : String} (h : (splitSignature s).2 ≠ "") :
    s = (splitSignature s).1 ++ "=" ++ (splitSignature s).2 := by
  have whole : s.toList.takeWhile (· ≠ '=') ++ s.toList.dropWhile (· ≠ '=') = s.toList :=
    List.takeWhile_append_dropWhile
  have stops := List.head?_dropWhile_not (fun c ↦ Decidable.decide (c ≠ '=')) s.toList
  rw [← String.toList_inj]
  simp only [splitSignature, String.toList_append, String.toList_ofList] at h ⊢
  cases rest : s.toList.dropWhile (· ≠ '=') with
  | nil =>
    rw [rest] at h
    exact absurd rfl h
  | cons c cs =>
    rw [rest] at whole stops
    obtain rfl : c = '=' := by simpa using stops
    rw [List.append_assoc]
    exact whole.symm

/-- Texts can be compared as bytes. -/
theorem encode_inj {s t : String} : Text.Utf8.encode s = Text.Utf8.encode t ↔ s = t := by
  constructor
  · intro h
    rw [← Text.Utf8.decodeReplacing_encode s, h, Text.Utf8.decodeReplacing_encode]
  · rintro rfl
    rfl

/-! ## Acceptance -/

variable {secret : String} {body : List UInt8} {signature : String}

/-- The signature of a body with a digest function. -/
def sign (a : Algorithm) (secret : String) (body : List UInt8) : String :=
  a.name ++ "=" ++ hmacHex a (Text.Utf8.encode secret) body

theorem splitSignature_sign (a : Algorithm) : splitSignature (sign a secret body) =
    (a.name, hmacHex a (Text.Utf8.encode secret) body) :=
  splitSignature_append a.equals_notMem_name _

theorem sign_ne_empty (a : Algorithm) : sign a secret body ≠ "" := by
  intro empty
  have equals : '=' ∈ (sign a secret body).toList := by simp [sign]
  rw [empty] at equals
  nomatch equals

theorem hmacHex_ne_empty (a : Algorithm) (key : List UInt8) : hmacHex a key body ≠ "" := by
  intro empty
  have length := length_hmacHex a key body
  rw [empty] at length
  cases a <;> nomatch length

/-- What the check makes of a signature, once there are a signature and a secret. -/
theorem check_some (configured : secret ≠ "") (proper : signature ≠ "") :
    check secret body (some signature) = .ok () ↔ ∃ a, signature = sign a secret body := by
  have given : (some signature).filter (· ≠ "") = some signature := by simp [proper]
  rw [check, given]
  simp only [if_neg configured]
  constructor
  · intro accepted
    split at accepted
    · nomatch accepted
    · rename_i a known
      split at accepted
      · nomatch accepted
      · rename_i some
        split at accepted
        · rename_i same
          refine ⟨a, ?_⟩
          rw [eq_splitSignature some, Algorithm.ofName?_eq_some_iff.mp known, sign,
            encode_inj.mp same]
        · nomatch accepted
  · rintro ⟨a, rfl⟩
    rw [splitSignature_sign, Algorithm.ofName?_eq_some_iff.mpr rfl]
    simp only [if_neg (hmacHex_ne_empty a _), if_pos]

/-- The check accepts the signatures that are made with the configured key. -/
theorem check_eq_ok_iff {signature? : Option String} : check secret body signature? = .ok () ↔
    secret ≠ "" ∧ ∃ a, signature? = some (sign a secret body) := by
  cases signature? with
  | none => exact iff_of_false nofun (by simp)
  | some signature =>
    by_cases empty : signature = ""
    · rw [empty]
      refine iff_of_false nofun ?_
      rintro ⟨-, a, same⟩
      exact sign_ne_empty a (Option.some.inj same).symm
    · by_cases unconfigured : secret = ""
      · have given : (some signature).filter (· ≠ "") = some signature := by simp [empty]
        rw [check, given, unconfigured]
        exact iff_of_false nofun fun h ↦ h.1 rfl
      · simp only [check_some unconfigured empty, ne_eq, unconfigured, not_false_eq_true, true_and,
          Option.some.injEq]

theorem accepts_eq_true_iff {signature? : Option String} :
    accepts secret body signature? = true ↔ check secret body signature? = .ok () := by
  rw [accepts]
  cases check secret body signature? with
  | ok => exact iff_of_true rfl rfl
  | error e => exact iff_of_false nofun nofun

/-- The form of a signature: the name of a digest function, an equals sign, and the digits of a
digest in lower case. -/
def IsSpelled (signature : String) : Prop :=
  ∃ (a : Algorithm) (digest : String), signature = a.name ++ "=" ++ digest ∧
    digest.toList.length = a.digits ∧ ∀ c ∈ digest.toList, Text.IsHexDigit c

theorem isSpelled_sign (a : Algorithm) : IsSpelled (sign a secret body) := by
  refine ⟨a, _, rfl, ?_, fun c member ↦ Text.isHexDigit_of_mem_hex member⟩
  rw [length_hmacHex]
  cases a <;> rfl

theorem sign_sha256_ne_sign_sha1 : sign .sha256 secret body ≠ sign .sha1 secret body := by
  intro same
  have parts := congrArg Prod.fst (congrArg splitSignature same)
  rw [splitSignature_sign, splitSignature_sign] at parts
  have names : Algorithm.sha256.name = Algorithm.sha1.name := parts
  exact absurd names (by decide)

/-- A signature is accepted if and only if a key is configured and the signature is one of two texts
that differ, and these are spelled in the form of a signature. -/
theorem verify_eq_true_iff (secret : String) (body : List UInt8) (w : World) (past : Trace) :
    let key := Text.Utf8.encode secret
    let strong := "sha256=" ++ hmacHex .sha256 key body
    let weak := "sha1=" ++ hmacHex .sha1 key body
    (∀ signature? : Option String, ((verify secret body signature?).run w past).result = .ok true ↔
      secret ≠ "" ∧ (signature? = some strong ∨ signature? = some weak)) ∧
    strong ≠ weak ∧ IsSpelled strong ∧ IsSpelled weak := by
  intro key strong weak
  have strong_eq : sign .sha256 secret body = strong := rfl
  have weak_eq : sign .sha1 secret body = weak := rfl
  refine ⟨fun signature? ↦ ?_, sign_sha256_ne_sign_sha1, isSpelled_sign .sha256,
    isSpelled_sign .sha1⟩
  rw [result_verify, Except.ok.injEq, accepts_eq_true_iff, check_eq_ok_iff]
  refine and_congr_right fun _ ↦ ⟨?_, ?_⟩
  · rintro ⟨a, same⟩
    cases a with
    | sha1 => exact .inr same
    | sha256 => exact .inl same
  · rintro (same | same)
    · exact ⟨.sha256, same⟩
    · exact ⟨.sha1, same⟩

end Webhook

end EnumTables
