/-!
# Results

What the result of a composed computation says about its parts.
-/

namespace EnumTables

variable {ε δ α β : Type} {x : Except ε α}

theorem eq_ok_of_toOption {a : α} (h : x.toOption = some a) : x = .ok a := by
  cases x with
  | ok a' => exact congrArg Except.ok (Option.some.inj h)
  | error e => nomatch h

/-- A sequence of two steps succeeds if and only if both do. -/
theorem bind_eq_ok_iff {f : α → Except ε β} {b : β} :
    (x >>= f) = .ok b ↔ ∃ a, x = .ok a ∧ f a = .ok b := by
  cases x with
  | ok a =>
    constructor
    · intro h
      exact ⟨a, rfl, h⟩
    · rintro ⟨_, ⟨⟩, h⟩
      exact h
  | error e =>
    constructor
    · nofun
    · rintro ⟨_, h, -⟩
      nomatch h

theorem map_eq_ok_iff {f : α → β} {b : β} : x.map f = .ok b ↔ ∃ a, x = .ok a ∧ f a = b := by
  cases x with
  | ok a =>
    constructor
    · rintro ⟨⟩
      exact ⟨a, rfl, rfl⟩
    · rintro ⟨_, ⟨⟩, rfl⟩
      rfl
  | error e =>
    constructor
    · nofun
    · rintro ⟨_, h, -⟩
      nomatch h

/-- To change the value changes no failure. -/
theorem map_eq_error_iff {f : α → β} {e : ε} : x.map f = .error e ↔ x = .error e := by
  cases x with
  | ok a => exact ⟨nofun, nofun⟩
  | error e' =>
    constructor
    · rintro ⟨⟩
      rfl
    · rintro ⟨⟩
      rfl

/-- To change the error changes no success. -/
theorem mapError_eq_ok_iff {f : ε → δ} {a : α} : x.mapError f = .ok a ↔ x = .ok a := by
  cases x with
  | ok a' =>
    constructor
    · rintro ⟨⟩
      rfl
    · rintro ⟨⟩
      rfl
  | error e => exact ⟨nofun, nofun⟩

theorem mapError_eq_error_iff {f : ε → δ} {e : δ} :
    x.mapError f = .error e ↔ ∃ e', x = .error e' ∧ f e' = e := by
  cases x with
  | ok a =>
    constructor
    · nofun
    · rintro ⟨_, h, -⟩
      nomatch h
  | error e' =>
    constructor
    · rintro ⟨⟩
      exact ⟨e', rfl, rfl⟩
    · rintro ⟨_, ⟨⟩, rfl⟩
      rfl

/-- A sequence of two steps fails where the first step that fails does. -/
theorem bind_eq_error_iff {f : α → Except ε β} {e : ε} :
    (x >>= f) = .error e ↔ x = .error e ∨ ∃ a, x = .ok a ∧ f a = .error e := by
  cases x with
  | ok a =>
    constructor
    · intro h
      exact .inr ⟨a, rfl, h⟩
    · rintro (h | ⟨_, ⟨⟩, h⟩)
      · nomatch h
      · exact h
  | error e' =>
    constructor
    · rintro ⟨⟩
      exact .inl rfl
    · rintro (⟨⟨⟩⟩ | ⟨_, h, -⟩)
      · rfl
      · nomatch h

section Traversal

variable {f : α → Except ε β} {xs : List α}

/-- A traversal fails at the first item that does. -/
theorem mapM_eq_error_iff {e : ε} : xs.mapM f = .error e ↔
    ∃ done x rest, xs = done ++ x :: rest ∧ (∀ a ∈ done, ∃ b, f a = .ok b) ∧ f x = .error e := by
  induction xs with
  | nil =>
    constructor
    · nofun
    · rintro ⟨done, x, rest, split, -⟩
      cases done <;> nomatch split
  | cons x xs ih =>
    rw [List.mapM_cons]
    simp only [bind_eq_error_iff]
    constructor
    · rintro (first | ⟨y, first, later | ⟨ys, -, ⟨⟩⟩⟩)
      · exact ⟨[], x, xs, rfl, nofun, first⟩
      · obtain ⟨done, a, rest, rfl, succeeded, failed⟩ := ih.mp later
        exact ⟨x :: done, a, rest, rfl, List.forall_mem_cons.mpr ⟨⟨y, first⟩, succeeded⟩, failed⟩
    · rintro ⟨_ | ⟨a, done⟩, x', rest, split, succeeded, failed⟩
      · obtain ⟨rfl, rfl⟩ := List.cons.inj split
        exact .inl failed
      · obtain ⟨rfl, rfl⟩ := List.cons.inj split
        obtain ⟨⟨y, first⟩, succeeded⟩ := List.forall_mem_cons.mp succeeded
        exact .inr ⟨y, first, .inl (ih.mpr ⟨done, x', rest, rfl, succeeded, failed⟩)⟩

/-- A traversal succeeds if every item does. -/
theorem exists_mapM_eq_ok (h : ∀ x ∈ xs, ∃ y, f x = .ok y) : ∃ ys, xs.mapM f = .ok ys := by
  cases failed : xs.mapM f with
  | ok ys => exact ⟨ys, rfl⟩
  | error e =>
    obtain ⟨done, x, rest, rfl, -, stopped⟩ := mapM_eq_error_iff.mp failed
    obtain ⟨y, succeeded⟩ := h x (List.mem_append_right done List.mem_cons_self)
    nomatch succeeded.symm.trans stopped

end Traversal

end EnumTables
