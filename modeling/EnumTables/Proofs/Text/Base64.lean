import EnumTables.Text.Base64

/-!
# Texts in base64

The standard encoding with padding, three bytes in four characters, and what the lenient reading
makes of it.  Main statement: bytes that are encoded are read back, also where characters that mean
nothing, such as the ends of lines, were put between those of the encoding.
-/

namespace EnumTables.Text.Base64

/-! ## The encoding -/

/-- The characters for the values below 64, in order. -/
def alphabet : List Char :=
  "ABCDEFGHIJKLMNOPQRSTUVWXYZabcdefghijklmnopqrstuvwxyz0123456789+/".toList

/-- The character for six bits. -/
def digit (v : Nat) : Char := alphabet.getD v '='

/-- The encoding of bytes; its last group is filled up with padding. -/
def encode : List UInt8 → List Char
  | [] => []
  | [a] => [digit (a.toNat / 4), digit (a.toNat % 4 * 16), '=', '=']
  | [a, b] =>
    [digit (a.toNat / 4), digit (a.toNat % 4 * 16 + b.toNat / 16), digit (b.toNat % 16 * 4), '=']
  | a :: b :: c :: bytes =>
    digit (a.toNat / 4) :: digit (a.toNat % 4 * 16 + b.toNat / 16) ::
      digit (b.toNat % 16 * 4 + c.toNat / 64) :: digit (c.toNat % 64) :: encode bytes

/-- An ASCII character that means nothing in base64, such as the end of a line. -/
def IsNoise (c : Char) : Prop := c.toNat < 0x80 ∧ c ∉ alphabet ∧ c ≠ '='

instance (c : Char) : Decidable (IsNoise c) := inferInstanceAs (Decidable (_ ∧ _ ∧ _))

/-- The second text is the first one with noise put in at any places. -/
inductive Interspersed : List Char → List Char → Prop
  | nil : Interspersed [] []
  | keep (c : Char) {cs ds : List Char} (rest : Interspersed cs ds) :
    Interspersed (c :: cs) (c :: ds)
  | insert {c : Char} {cs ds : List Char} (noise : IsNoise c) (rest : Interspersed cs ds) :
    Interspersed cs (c :: ds)

/-! ## Single characters -/

variable {g : Group} {written v : Nat} {cs ds : List Char}

theorem value?_digit (below : v < 64) : value? (digit v) = some v := by
  revert v
  decide +kernel

theorem digit_ne_padding (below : v < 64) : digit v ≠ '=' := by
  revert v
  decide +kernel

theorem toNat_digit_lt (v : Nat) : (digit v).toNat < 0x80 := by
  rw [digit, List.getD_eq_getElem?_getD]
  cases found : alphabet[v]? with
  | none => decide
  | some c =>
    have each : alphabet.all (fun c ↦ c.toNat < 0x80) = true := by decide +kernel
    exact of_decide_eq_true (List.all_eq_true.mp each c (List.mem_of_getElem? found))

theorem IsNoise.value?_eq_none {c : Char} (h : IsNoise c) : value? c = none := by
  obtain ⟨ascii, other, -⟩ := h
  have each : ∀ n < 0x80, Char.ofNat n ∉ alphabet → value? (Char.ofNat n) = none := by
    decide +kernel
  have char := each c.toNat ascii
  rw [Char.ofNat_toNat] at char
  exact char other

/-- A character of the encoding brings its six bits. -/
theorem decodeFrom_digit (below : v < 64) : decodeFrom g written (digit v :: cs) =
    (decodeFrom (g.push v).2 (written + (g.push v).1.length) cs).map ((g.push v).1 ++ ·) := by
  rw [decodeFrom, if_neg (digit_ne_padding below), value?_digit below]

/-! ## Noise -/

/-- Noise does not matter, not even between padding. -/
theorem decodeFrom_interspersed (h : Interspersed cs ds) :
    decodeFrom g written ds = decodeFrom g written cs := by
  induction h generalizing g written with
  | nil => rfl
  | keep c rest ih => simp only [decodeFrom, ih]
  | insert noise rest ih => rw [decodeFrom_skip noise.2.2 noise.value?_eq_none, ih]

/-! ## Bytes -/

/-- The first two characters of a group complete a byte. -/
theorem decodeFrom_two {u : Nat} (first : u < 64) (second : v < 64) :
    decodeFrom .empty written (digit u :: digit v :: cs) =
      (decodeFrom ⟨2, 0, v % 16⟩ (written + 1) cs).map (UInt8.ofNat (u * 4 + v / 16) :: ·) := by
  rw [decodeFrom_digit first, decodeFrom_digit second]
  change Except.map _ (Except.map _ (decodeFrom ⟨2, 0, v % 16⟩ (written + 1) cs)) = _
  cases decodeFrom ⟨2, 0, v % 16⟩ (written + 1) cs <;> rfl

/-- The third character completes a byte. -/
theorem decodeFrom_third {bits : Nat} (below : v < 64) :
    decodeFrom ⟨2, 0, bits⟩ written (digit v :: cs) =
      (decodeFrom ⟨3, 0, v % 4⟩ (written + 1) cs).map (UInt8.ofNat (bits * 16 + v / 4) :: ·) := by
  rw [decodeFrom_digit below]
  rfl

/-- The last character completes a byte and the group. -/
theorem decodeFrom_fourth {bits : Nat} (below : v < 64) :
    decodeFrom ⟨3, 0, bits⟩ written (digit v :: cs) =
      (decodeFrom .empty (written + 1) cs).map (UInt8.ofNat (bits * 64 + v) :: ·) := by
  rw [decodeFrom_digit below]
  rfl

/-- The bytes that were encoded are read back. -/
theorem decodeFrom_encode (bytes : List UInt8) :
    decodeFrom .empty written (encode bytes) = .ok bytes := by
  induction bytes using encode.induct generalizing written with
  | case1 => rfl
  | case2 a =>
    have := a.toNat_lt
    have whole : a.toNat / 4 * 4 + a.toNat % 4 * 16 / 16 = a.toNat := by omega
    rw [encode, decodeFrom_two (by omega) (by omega), whole, UInt8.ofNat_toNat]
    rfl
  | case3 a b =>
    have := a.toNat_lt
    have := b.toNat_lt
    have first : a.toNat / 4 * 4 + (a.toNat % 4 * 16 + b.toNat / 16) / 16 = a.toNat := by omega
    have second : (a.toNat % 4 * 16 + b.toNat / 16) % 16 * 16 + b.toNat % 16 * 4 / 4 = b.toNat := by
      omega
    rw [encode, decodeFrom_two (by omega) (by omega), decodeFrom_third (by omega), first, second,
      UInt8.ofNat_toNat, UInt8.ofNat_toNat]
    rfl
  | case4 a b c bytes ih =>
    have := a.toNat_lt
    have := b.toNat_lt
    have := c.toNat_lt
    have first : a.toNat / 4 * 4 + (a.toNat % 4 * 16 + b.toNat / 16) / 16 = a.toNat := by omega
    have second : (a.toNat % 4 * 16 + b.toNat / 16) % 16 * 16 +
        (b.toNat % 16 * 4 + c.toNat / 64) / 4 = b.toNat := by omega
    have third : (b.toNat % 16 * 4 + c.toNat / 64) % 4 * 64 + c.toNat % 64 = c.toNat := by omega
    rw [encode, decodeFrom_two (by omega) (by omega), decodeFrom_third (by omega),
      decodeFrom_fourth (by omega), first, second, third, UInt8.ofNat_toNat, UInt8.ofNat_toNat,
      UInt8.ofNat_toNat, ih]
    rfl

/-! ## Texts -/

theorem toNat_lt_of_mem_encode {bytes : List UInt8} {c : Char} (h : c ∈ encode bytes) :
    c.toNat < 0x80 := by
  have padding : Char.toNat '=' < 0x80 := by decide
  induction bytes using encode.induct with
  | case1 => nomatch h
  | case2 a =>
    simp only [encode, List.mem_cons, List.not_mem_nil, or_false] at h
    rcases h with rfl | rfl | rfl | rfl <;> simp only [toNat_digit_lt, padding]
  | case3 a b =>
    simp only [encode, List.mem_cons, List.not_mem_nil, or_false] at h
    rcases h with rfl | rfl | rfl | rfl <;> simp only [toNat_digit_lt, padding]
  | case4 a b c bytes ih =>
    simp only [encode, List.mem_cons] at h
    rcases h with rfl | rfl | rfl | rfl | h
    · exact toNat_digit_lt _
    · exact toNat_digit_lt _
    · exact toNat_digit_lt _
    · exact toNat_digit_lt _
    · exact ih h

theorem Interspersed.toNat_lt (h : Interspersed cs ds) (ascii : ∀ c ∈ cs, c.toNat < 0x80) :
    ∀ c ∈ ds, c.toNat < 0x80 := by
  induction h with
  | nil => exact ascii
  | keep c rest ih =>
    obtain ⟨first, ascii⟩ := List.forall_mem_cons.mp ascii
    exact List.forall_mem_cons.mpr ⟨first, ih ascii⟩
  | insert noise rest ih => exact List.forall_mem_cons.mpr ⟨noise.1, ih ascii⟩

/-- Encoded bytes are read back, whatever noise was put in. -/
theorem decode_of_interspersed {bytes : List UInt8} {s : String}
    (h : Interspersed (encode bytes) s.toList) : decode s = .ok bytes := by
  have ascii : s.toList.all (·.toNat < 0x80) = true := by
    rw [List.all_eq_true]
    exact fun c hc ↦ decide_eq_true (h.toNat_lt (fun _ ↦ toNat_lt_of_mem_encode) c hc)
  rw [decode, if_pos ascii, decodeFrom_interspersed h, decodeFrom_encode]

/-- A text without its noise is the text that the noise was put into. -/
theorem interspersed_filter (ds : List Char) :
    Interspersed (ds.filter fun c ↦ ¬ IsNoise c) ds := by
  induction ds with
  | nil => exact .nil
  | cons c ds ih =>
    by_cases noise : IsNoise c
    · rw [List.filter_cons_of_neg (by simpa using noise)]
      exact .insert noise ih
    · rw [List.filter_cons_of_pos (by simpa using noise)]
      exact .keep c ih

end EnumTables.Text.Base64
