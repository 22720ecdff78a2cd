/-!
# Sets of characters as ranges of code points

A property of characters from the Unicode standard is kept as a list of closed ranges of code
points.
-/

namespace EnumTables.Text

/-- A set of characters, given by closed ranges of code points. -/
abbrev Ranges := List (Nat × Nat)

namespace Ranges

/-- The range that a character lies in. -/
def find? (rs : Ranges) (c : Char) : Option (Nat × Nat) :=
  List.find? (fun r ↦ r.1 ≤ c.toNat && c.toNat ≤ r.2) rs

/-- Whether a character lies in one of the ranges. -/
def holds (rs : Ranges) (c : Char) : Bool :=
  rs.any fun r ↦ r.1 ≤ c.toNat && c.toNat ≤ r.2

/-- A character lies in a set exactly when one of its ranges contains the code point. -/
theorem holds_iff {rs : Ranges} {c : Char} :
    rs.holds c = true ↔ ∃ r ∈ rs, r.1 ≤ c.toNat ∧ c.toNat ≤ r.2 := by
  simp [holds]

end Ranges

end EnumTables.Text
