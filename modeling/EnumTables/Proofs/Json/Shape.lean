import EnumTables.Json.Shape

/-!
# Values of expected and unexpected shape

What it means that a look-up in a JSON value succeeds, and when it fails, and how.
-/

namespace EnumTables.Json

variable {v x : Json} {name : String} {members : List (RawText × Json)} {items : List Json}
  {e : ShapeError}

theorem get?_eq_ok_iff {found : Option Json} :
    v.get? name = .ok found ↔ ∃ members, v = .obj members ∧ valueOf? members name = found := by
  cases v with
  | obj members => simp
  | null | bool | int | float | str | arr => simp [get?]

/-- Only an object may lack a member. -/
theorem get?_eq_error_iff : v.get? name = .error e ↔ v.kind ≠ .obj ∧ e = .notObject v.kind := by
  cases v <;> simp [get?, kind, eq_comm]

theorem member_eq_ok_iff :
    v.member name = .ok x ↔ ∃ members, v = .obj members ∧ valueOf? members name = some x := by
  cases v with
  | obj members =>
    cases found : valueOf? members name <;> simp [member, found]
  | null | bool | int | float | str | arr => simp [member]

/-- A value has items if it is an array, a text or an object. -/
theorem elements_eq_ok_iff : v.elements = .ok items ↔
    v = .arr items ∨ (∃ s, v = .str s ∧ items = s.points.map fun p ↦ .str ⟨[p]⟩) ∨
      ∃ members, v = .obj members ∧ items = members.map fun m ↦ .str m.1 := by
  cases v <;> simp [elements, eq_comm]

theorem elements_eq_error_iff : v.elements = .error e ↔
    (v.kind ≠ .arr ∧ v.kind ≠ .str ∧ v.kind ≠ .obj) ∧ e = .notIterable v.kind := by
  cases v <;> simp [elements, kind, eq_comm]

/-! ## Members that may be missing -/

variable {o : Option Json}

theorem getD_isText_iff {s : String} : (o.getD .null).isText s = true ↔ o = some (.str s) := by
  rw [isText_iff]
  cases o with
  | none => simp
  | some v => simp

end EnumTables.Json
