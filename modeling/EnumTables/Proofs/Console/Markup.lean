import EnumTables.Console.Markup
import EnumTables.Proofs.Results

/-!
# Markup that is rendered

A text without opening brackets holds no tags, whatever backslashes are in it.  Main statement:
if such a text stands in a tag of a style and such texts stand around the tag, the whole is rendered
without an error.
-/

namespace EnumTables.Markup

variable {cs ds body rest : List Char} {n k : Nat}

/-! ## Parts of texts without opening brackets -/

/-- A bracketed text begins with a backslash or an opening bracket. -/
theorem bracket?_cons_of_ne {c : Char} (slash : c ≠ '\\') (opening : c ≠ '[') :
    bracket? n (c :: cs) = none := by
  unfold bracket?
  split
  · rename_i h
    exact absurd (List.cons.inj h).1 slash
  · rename_i h
    exact absurd (List.cons.inj h).1 opening
  · rfl

/-- No bracketed text begins a text without opening brackets. -/
theorem bracket?_eq_none (plain : '[' ∉ cs) : bracket? n cs = none := by
  fun_induction bracket? n cs with
  | case1 n cs ih => exact ih (List.not_mem_of_not_mem_cons plain)
  | case2 n cs => exact absurd List.mem_cons_self plain
  | case3 => rfl

/-- The parts of a text without opening brackets are its characters. -/
theorem parts_eq_map_char (plain : '[' ∉ cs) : parts cs = cs.map .char := by
  induction cs with
  | nil => exact parts_nil
  | cons c cs ih =>
    rw [parts, next, bracket?_eq_none plain, Option.getD_none,
      ih (List.not_mem_of_not_mem_cons plain), List.map_cons]

/-- Backslashes before a bracketed text belong to it. -/
theorem bracket?_replicate_append (tag : tag? ds = some (body, rest)) :
    bracket? n (List.replicate k '\\' ++ '[' :: ds) = some (.bracket (n + k) body, rest) := by
  induction k generalizing n with
  | zero =>
    rw [List.replicate_zero, List.nil_append, bracket?, tag]
    rfl
  | succ k ih =>
    rw [List.replicate_succ, List.cons_append, bracket?, ih, Nat.add_right_comm, Nat.add_assoc]

/-- A bracketed text does not begin before another character than a backslash. -/
theorem bracket?_append_eq_none {c : Char} (plain : '[' ∉ cs) (member : c ∈ cs) (other : c ≠ '\\') :
    bracket? n (cs ++ ds) = none := by
  induction cs generalizing n with
  | nil => nomatch member
  | cons d cs ih =>
    by_cases same : d = '\\'
    · subst same
      rw [List.cons_append, bracket?]
      exact ih (List.not_mem_of_not_mem_cons plain) ((List.mem_cons.mp member).resolve_left other)
    · exact bracket?_cons_of_ne same (List.ne_of_not_mem_cons plain).symm

/-- The parts of a text with a bracketed text behind it are characters, the bracketed text with the
backslashes before it, and the parts of what follows. -/
theorem exists_parts_append (plain : '[' ∉ cs) (tag : tag? ds = some (body, rest)) :
    ∃ before k, cs = before ++ List.replicate k '\\' ∧
      parts (cs ++ '[' :: ds) = before.map .char ++ .bracket k body :: parts rest := by
  induction cs with
  | nil =>
    refine ⟨[], 0, rfl, ?_⟩
    rw [List.nil_append, parts, next, bracket?, tag]
    rfl
  | cons c cs ih =>
    by_cases outside : ∃ d ∈ c :: cs, d ≠ '\\'
    · obtain ⟨d, member, other⟩ := outside
      obtain ⟨before, k, split, parted⟩ := ih (List.not_mem_of_not_mem_cons plain)
      have begun : bracket? 0 (c :: cs ++ '[' :: ds) = none :=
        bracket?_append_eq_none plain member other
      refine ⟨c :: before, k, congrArg (c :: ·) split, ?_⟩
      rw [List.cons_append] at begun ⊢
      rw [parts, next, begun, Option.getD_none, parted]
      rfl
    · have slashes : c :: cs = List.replicate (c :: cs).length '\\' :=
        List.eq_replicate_of_mem fun d member ↦
          Decidable.byContradiction fun other ↦ outside ⟨d, member, other⟩
      have begun : bracket? 0 (List.replicate (c :: cs).length '\\' ++ '[' :: ds) = _ :=
        bracket?_replicate_append tag
      rw [← slashes] at begun
      refine ⟨[], (c :: cs).length, slashes, ?_⟩
      rw [List.cons_append] at begun ⊢
      rw [parts, next, begun, Nat.zero_add]
      rfl

/-- A text without opening brackets has none after it was escaped either. -/
theorem not_mem_escape {s : String} (plain : '[' ∉ s.toList) : '[' ∉ (escape s).toList := by
  have same : (s.toList.map Part.char).flatMap Part.escape = s.toList := by
    rw [List.flatMap_map]
    exact List.flatMap_singleton' _
  rw [escape, String.toList_ofList, parts_eq_map_char plain, same, protectEnd]
  split
  · exact plain
  · intro member
    rcases List.mem_append.mp member with member | member
    · exact plain member
    · exact absurd (List.mem_singleton.mp member) (by decide)
  · exact plain

/-! ## Rendering -/

/-- Parts that are rendered wherever they stand while these tags are open. -/
def Renders (opened : List OpenTag) (ps : List Part) : Prop :=
  ∀ position, ∃ cs, renderFrom opened position ps = .ok cs

variable {opened opened' : List OpenTag} {ps : List Part}

theorem renders_nil : Renders opened [] := fun _ ↦ ⟨[], by rw [renderFrom]⟩

theorem Renders.char (h : Renders opened ps) (c : Char) : Renders opened (.char c :: ps) := by
  intro position
  obtain ⟨cs, rendered⟩ := h (position + 1)
  unfold renderFrom
  split
  · rename_i same
    nomatch same
  · rename_i same
    obtain ⟨-, rfl⟩ := List.cons.inj same
    exact ⟨cs, rendered⟩
  · rename_i same
    obtain ⟨head, rfl⟩ := List.cons.inj same
    rw [rendered]
    exact ⟨_, rfl⟩
  · rename_i same
    nomatch same

theorem Renders.chars (h : Renders opened ps) (cs : List Char) :
    Renders opened (cs.map .char ++ ps) := by
  induction cs with
  | nil => exact h
  | cons c cs ih => exact ih.char c

/-- A bracketed text is kept after an odd number of backslashes and else taken as a tag. -/
theorem Renders.bracket (kept : k % 2 = 1 → Renders opened ps)
    (applied : ∀ position, applyTag opened position body = .ok opened')
    (after : Renders opened' ps) : Renders opened (.bracket k body :: ps) := by
  intro position
  rw [renderFrom]
  split
  · rename_i odd
    obtain ⟨cs, rendered⟩ := kept odd (position + k + body.length + 2)
    rw [rendered]
    exact ⟨_, rfl⟩
  · obtain ⟨cs, rendered⟩ := after (position + k + body.length + 2)
    rw [applied]
    change ∃ cs, (renderFrom opened' (position + k + body.length + 2) ps >>= fun rest ↦
      Except.ok (List.replicate (k / 2) '\\' ++ rest)) = .ok cs
    rw [rendered]
    exact ⟨_, rfl⟩

/-! ## Texts in a style -/

/-- A tag that can be opened and closed wherever it stands. -/
structure IsStyle (tag : List Char) : Prop where
  read : ∀ rest, tag? (tag ++ ']' :: rest) = some (tag, rest)
  opens : ∀ opened position, applyTag opened position tag = .ok (⟨tag, []⟩ :: opened)
  closes : OpenTag.check ⟨tag, []⟩ = .ok ()

theorem IsStyle.applyTag_close {tag : List Char} (style : IsStyle tag) (opened : List OpenTag)
    (position : Nat) : applyTag (⟨tag, []⟩ :: opened) position ['/'] = .ok opened := by
  change (OpenTag.check ⟨tag, []⟩).map (fun _ ↦ opened) = _
  rw [style.closes]
  rfl

/-- The styles of the messages about a sync. -/
def styles : List (List Char) :=
  ["info".toList, "muted".toList, "success".toList, "error".toList]

theorem isStyle_of_mem {tag : List Char} (h : tag ∈ styles) : IsStyle tag := by
  have named : ∀ tag ∈ styles, (OpenTag.ofBody tag).toOption = some ⟨tag, []⟩ := by
    decide +kernel
  have opens := eq_ok_of_toOption (named tag h)
  simp only [styles, List.mem_cons, List.not_mem_nil, or_false] at h
  rcases h with rfl | rfl | rfl | rfl
  all_goals exact ⟨fun _ ↦ rfl, fun opened _ ↦ congrArg (Except.map (· :: opened)) opens, rfl⟩

/-- The tag that closes a style. -/
theorem tag?_close (after : List Char) : tag? ('/' :: ']' :: after) = some (['/'], after) := rfl

/-- A text in a style is rendered if no further bracket opens in it or around it, and no backslash
comes before it. -/
theorem exists_render {s : String} {before tag inside after : List Char} (style : IsStyle tag)
    (text : s.toList = before ++ '[' :: (tag ++ ']' :: (inside ++ '[' :: '/' :: ']' :: after)))
    (plain : '[' ∉ before) (free : '\\' ∉ before) (plain' : '[' ∉ inside) (plain'' : '[' ∉ after) :
    ∃ t, render s = .ok t := by
  obtain ⟨outer, k, split, parted⟩ := exists_parts_append plain
    (style.read (inside ++ '[' :: '/' :: ']' :: after))
  obtain ⟨inner, j, -, parted'⟩ := exists_parts_append plain' (tag?_close after)
  have none_before : k = 0 := by
    cases k with
    | zero => rfl
    | succ k => exact absurd (split ▸ List.mem_append_right outer List.mem_cons_self) free
  have tail (opened : List OpenTag) : Renders opened (parts after) := by
    rw [parts_eq_map_char plain'', ← List.append_nil (after.map Part.char)]
    exact renders_nil.chars after
  have inStyle : Renders [⟨tag, []⟩] (parts (inside ++ '[' :: '/' :: ']' :: after)) := by
    rw [parted']
    exact (Renders.bracket (fun _ ↦ tail _) (style.applyTag_close []) (tail [])).chars inner
  have whole : Renders [] (parts s.toList) := by
    rw [text, parted, none_before]
    exact (Renders.bracket (fun odd ↦ absurd odd (by decide)) (style.opens []) inStyle).chars outer
  obtain ⟨cs, rendered⟩ := whole 0
  rw [render, rendered]
  exact ⟨_, rfl⟩

end EnumTables.Markup
