import Mathlib.Data.List.Forall2
import Mathlib.Data.List.Infix

/-!
# Lists

Facts about lists that several parts of the development use, and in which nothing of a program is
mentioned.
-/

namespace EnumTables

variable {α β γ : Type}

/-! ## Runs at the beginning -/

section Runs

variable {p : α → Bool} {c : α} {xs ys : List α}

/-- Where a run ends inside a list, it ends there in every longer list. -/
theorem dropWhile_append_of_ne_nil (ends : xs.dropWhile p ≠ []) (ys : List α) :
    (xs ++ ys).dropWhile p = xs.dropWhile p ++ ys := by
  rw [List.dropWhile_append, if_neg (by simpa using ends)]

theorem takeWhile_append_of_ne_nil (ends : xs.dropWhile p ≠ []) (ys : List α) :
    (xs ++ ys).takeWhile p = xs.takeWhile p := by
  rw [List.takeWhile_append, if_neg]
  intro whole
  have split := congrArg List.length (List.takeWhile_append_dropWhile (p := p) (l := xs))
  rw [List.length_append, whole, Nat.add_eq_left] at split
  exact ends (List.eq_nil_of_length_eq_zero split)

/-- A run ends where something comes that does not belong to it. -/
theorem dropWhile_append_cons (stops : p c = false) :
    (xs ++ c :: ys).dropWhile p = xs.dropWhile p ++ c :: ys := by
  rw [List.dropWhile_append]
  split
  · rename_i ended
    rw [List.isEmpty_iff.mp ended, List.dropWhile_cons_of_neg (by simp [stops]), List.nil_append]
  · rfl

end Runs

/-! ## What is found in a list -/

section Found

variable {f : α → Option β}

theorem filterMap_cons_eq_append (f : α → Option β) (x : α) (xs : List α) :
    (x :: xs).filterMap f = (f x).toList ++ xs.filterMap f := by
  rw [List.filterMap_cons]
  cases f x <;> rfl

/-- What is read at each place of a list, and first at its beginning. -/
theorem filterMap_range_drop (read : List α → Option β) (x : α) (xs : List α) :
    ((List.range (x :: xs).length).filterMap fun i ↦ read ((x :: xs).drop i)) =
      (read (x :: xs)).toList ++ (List.range xs.length).filterMap fun i ↦ read (xs.drop i) := by
  rw [List.length_cons, List.range_succ_eq_map, List.filterMap_cons, List.filterMap_map,
    List.drop_zero]
  cases read (x :: xs) <;> rfl

/-- A view of what is found in a list is a view of where it is found. -/
theorem map_filterMap_eq_map_filter {p : α → Bool} {g : β → γ} {h : α → γ} {l : List α}
    (selected : ∀ a, p a = (f a).isSome) (view : ∀ a b, f a = some b → g b = h a) :
    (l.filterMap f).map g = (l.filter p).map h := by
  induction l with
  | nil => rfl
  | cons a l ih =>
    cases found : f a with
    | none => simp [found, selected, ih]
    | some b => simp [found, selected, ih, view a b found]

/-- What a partial function gives on a list, against the members on which it gives something. -/
theorem forall₂_filter_filterMap (f : α → Option β) (l : List α) :
    List.Forall₂ (fun a b ↦ f a = some b) (l.filter fun a ↦ (f a).isSome) (l.filterMap f) := by
  induction l with
  | nil => exact .nil
  | cons a l ih =>
    cases given : f a with
    | none =>
      rw [List.filter_cons_of_neg (by simp [given]), List.filterMap_cons_none given]
      exact ih
    | some b =>
      rw [List.filter_cons_of_pos (by simp [given]), List.filterMap_cons_some given]
      exact .cons given ih

/-- What undoes a function on each item undoes it on a list. -/
theorem mapM_map {f : α → β} {g : β → Option α} (h : ∀ x, g (f x) = some x) (xs : List α) :
    (xs.map f).mapM g = some xs := by
  induction xs with
  | nil => rfl
  | cons x xs ih => simp [List.mapM_cons, h, ih]

end Found

/-! ## Places in a list -/

section Tails

variable {p : List α → Bool} {c : α}

theorem countP_tails_cons (c : α) (xs : List α) :
    (c :: xs).tails.countP p = xs.tails.countP p + if p (c :: xs) then 1 else 0 := by
  rw [List.tails_cons, List.countP_cons]

theorem countP_tails_le_append (xs ys : List α) :
    ys.tails.countP p ≤ (xs ++ ys).tails.countP p := by
  induction xs with
  | nil => exact Nat.le_refl _
  | cons c xs ih =>
    rw [List.cons_append, countP_tails_cons]
    exact Nat.le_add_right_of_le ih

/-- If no more is counted with a list before another than without, nothing begins in it. -/
theorem eq_false_of_countP_tails_eq {xs ys : List α}
    (same : (c :: (xs ++ ys)).tails.countP p = ys.tails.countP p) :
    p (c :: (xs ++ ys)) = false ∧ (xs ++ ys).tails.countP p = ys.tails.countP p := by
  have fewer := countP_tails_le_append (p := p) xs ys
  rw [countP_tails_cons] at same
  cases begun : p (c :: (xs ++ ys)) with
  | false =>
    rw [begun] at same
    exact ⟨rfl, same⟩
  | true =>
    rw [begun, if_pos rfl] at same
    omega

end Tails

/-! ## Lengths -/

theorem lt_foldl_max_iff {i n : Nat} {ns : List Nat} :
    i < ns.foldl max n ↔ i < n ∨ ∃ m ∈ ns, i < m := by
  induction ns generalizing n with
  | nil => simp
  | cons m ns ih =>
    have greater : i < max n m ↔ i < n ∨ i < m := by omega
    rw [List.foldl_cons, ih, greater, or_assoc]
    simp only [List.mem_cons, exists_eq_or_imp]

theorem map_fst_zip_eq_take (xs : List α) (ys : List β) :
    (xs.zip ys).map Prod.fst = xs.take ys.length := by
  induction xs generalizing ys with
  | nil => rw [List.zip_nil_left, List.take_nil, List.map_nil]
  | cons x xs ih =>
    cases ys with
    | nil => rfl
    | cons y ys => exact congrArg (x :: ·) (ih ys)

end EnumTables
