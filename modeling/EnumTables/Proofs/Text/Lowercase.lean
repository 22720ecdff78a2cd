import EnumTables.Proofs.Text.Character
import EnumTables.Text.Lowercase

/-!
# No capitals in lower case

The lower-case form of a text has no capital letter of ASCII, though some letters outside of ASCII
are lower-cased into ASCII.  A text of ASCII is lower-cased character by character.
-/

namespace EnumTables.Text

theorem isUpper_toLower (c : Char) : c.toLower.isUpper = false := by
  rw [Bool.eq_false_iff, ne_eq, isUpper_iff]
  unfold Char.toLower
  split
  · rename_i capital
    have first : 0x41 ≤ c.val.toNat := UInt32.le_iff_toNat_le.mp capital.1
    have last : c.val.toNat ≤ 0x5A := UInt32.le_iff_toNat_le.mp capital.2
    have lowered : (c.val + 0x20).toNat = c.val.toNat + 0x20 := by
      rw [UInt32.toNat_add]
      change (c.val.toNat + 0x20) % 2 ^ 32 = _
      omega
    change ¬ (0x41 ≤ (c.val + 0x20).toNat ∧ (c.val + 0x20).toNat ≤ 0x5A)
    omega
  · rename_i other
    rintro ⟨first, last⟩
    exact other ⟨UInt32.le_iff_toNat_le.mpr first, UInt32.le_iff_toNat_le.mpr last⟩

/-- A number is the code point of its character, or of none, for which the null character stands. -/
theorem toNat_ofNat_eq_or (n : Nat) : (Char.ofNat n).toNat = n ∨ (Char.ofNat n).toNat = 0 := by
  by_cases valid : n.isValidChar
  · exact .inl (toNat_ofNat valid)
  · rw [Char.ofNat, dif_neg valid]
    exact .inr rfl

/-- No run of capitals is lower-cased into the capitals of ASCII. -/
theorem lt_first_add_shift : ∀ r ∈ caseRuns, 0x5A < r.first + r.shift := by
  decide +kernel

theorem isUpper_eq_false_of_mem_lowerChar {c d : Char} (h : d ∈ lowerChar c) :
    d.isUpper = false := by
  unfold lowerChar at h
  split at h
  · rw [List.mem_singleton.mp h]
    exact isUpper_toLower c
  split at h
  · rcases List.mem_cons.mp h with rfl | h
    · rfl
    · rw [List.mem_singleton.mp h]
      rfl
  split at h
  · rename_i r found
    have behind := lt_first_add_shift r (List.mem_of_find?_eq_some found)
    have held := List.find?_some found
    simp only [CaseRun.holds, Bool.and_eq_true, decide_eq_true_eq] at held
    rw [List.mem_singleton.mp h, Bool.eq_false_iff, ne_eq, isUpper_iff]
    rcases toNat_ofNat_eq_or (c.toNat + r.shift).toNat with code | code
    · omega
    · omega
  · rename_i outside _ _
    rw [List.mem_singleton.mp h, Bool.eq_false_iff, ne_eq, isUpper_iff]
    omega

theorem isUpper_eq_false_of_mem_lowerFrom {before cs : List Char} {c : Char}
    (h : c ∈ lowerFrom before cs) : c.isUpper = false := by
  induction cs generalizing before with
  | nil => nomatch h
  | cons d cs ih =>
    rw [lowerFrom] at h
    rcases List.mem_append.mp h with h | h
    · split at h
      · split at h
        · rw [List.mem_singleton.mp h]
          rfl
        · rw [List.mem_singleton.mp h]
          rfl
      · exact isUpper_eq_false_of_mem_lowerChar h
    · exact ih h

/-- There are no capitals of ASCII in lower case. -/
theorem isUpper_eq_false_of_mem_lower {cs : List Char} {c : Char} (h : c ∈ lower cs) :
    c.isUpper = false :=
  isUpper_eq_false_of_mem_lowerFrom h

theorem lowerFrom_of_ascii {before cs : List Char} (ascii : ∀ c ∈ cs, c.toNat < 0x80) :
    lowerFrom before cs = cs.map Char.toLower := by
  induction cs generalizing before with
  | nil => rfl
  | cons c cs ih =>
    obtain ⟨first, rest⟩ := List.forall_mem_cons.mp ascii
    have sigma : c ≠ 'Σ' := by
      rintro rfl
      exact absurd first (by decide)
    rw [lowerFrom, if_neg sigma, lowerChar, if_pos first, ih rest, List.singleton_append,
      List.map_cons]

/-- In a text of ASCII every character is lower-cased on its own. -/
theorem lower_of_ascii {cs : List Char} (ascii : ∀ c ∈ cs, c.toNat < 0x80) :
    lower cs = cs.map Char.toLower :=
  lowerFrom_of_ascii ascii

end EnumTables.Text
