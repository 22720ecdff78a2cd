import EnumTables.Proofs.Console.Verbatim

/-!
# Escaped texts

An escaped text holds no tags: every bracketed text in it has an odd number of backslashes before it.
So an escaped text is always rendered, and it is rendered as it was if none of its backslashes stood
before an opening bracket without a tag.
-/

namespace EnumTables.Markup

variable {c : Char} {cs ds body rest : List Char} {n k position : Nat} {ps qs : List Part}
  {opened : List OpenTag}

/-! ## Parts with other numbers of backslashes -/

/-- A part with `f k` backslashes before its bracketed text in the place of `k`. -/
def Part.respell (f : Nat → Nat) : Part → Part
  | .char c => .char c
  | .bracket k body => .bracket (f k) body

theorem respell_id (ps : List Part) : ps.map (Part.respell id) = ps := by
  refine (List.map_congr_left fun x _ ↦ ?_).trans (List.map_id ps)
  cases x <;> rfl

/-- The text of parts with `f k` backslashes in the place of `k`. -/
def respelled (f : Nat → Nat) (ps : List Part) : List Char :=
  ps.flatMap fun x ↦ (x.respell f).spelling

@[simp] theorem respelled_nil (f : Nat → Nat) : respelled f [] = [] := rfl

@[simp] theorem respelled_char (f : Nat → Nat) (c : Char) (ps : List Part) :
    respelled f (.char c :: ps) = c :: respelled f ps := rfl

@[simp] theorem respelled_bracket (f : Nat → Nat) (k : Nat) (body : List Char) (ps : List Part) :
    respelled f (.bracket k body :: ps) =
      List.replicate (f k) '\\' ++ '[' :: (body ++ ']' :: respelled f ps) := by
  rw [respelled, List.flatMap_cons]
  simp [Part.respell, Part.spelling, respelled]

/-- The number of backslashes that escaping puts in the place of `k`. -/
def escapes (k : Nat) : Nat := 2 * k + 1

theorem flatMap_escape (ps : List Part) : ps.flatMap Part.escape = respelled escapes ps := by
  refine congrArg (List.flatMap · ps) (funext fun x ↦ ?_)
  cases x <;> rfl

theorem Reads.respelled_id (h : Reads cs ps) : respelled id ps = cs := by
  induction h with
  | nil => rfl
  | char outside after ih => rw [respelled_char, ih]
  | bracket tag after ih => rw [respelled_bracket, ih, id]

/-! ## Reading them again -/

theorem closes_replicate_append (n : Nat) (cs : List Char) :
    closes (List.replicate n '\\' ++ '[' :: cs) = false := by
  induction n with
  | zero => rfl
  | succ n ih =>
    rw [List.replicate_succ, List.cons_append, closes_cons, ih]
    rfl

theorem tag?_replicate_append (n : Nat) (cs : List Char) :
    tag? (List.replicate n '\\' ++ '[' :: cs) = none := by
  cases n <;> rfl

/-- A tag is a tag whatever comes behind it. -/
theorem tag?_append (h : tag? cs = some (body, rest)) (ds : List Char) :
    tag? (body ++ ']' :: ds) = some (body, ds) := by
  cases cs with
  | nil => cases h
  | cons c cs =>
    rw [tag?] at h
    split at h
    · rename_i begun
      split at h
      · obtain ⟨rfl, -⟩ := Prod.mk.inj (Option.some.inj h)
        have inside := List.all_eq_true.mp
          (List.all_takeWhile (p := fun c ↦ c ≠ '[' && c ≠ ']') (l := cs))
        rw [List.cons_append, tag?, if_pos begun, List.dropWhile_append_of_pos inside,
          List.takeWhile_append_of_pos inside]
        exact congrArg (fun cs ↦ some (c :: cs, ds)) (List.append_nil _)
      · cases h
    · cases h

namespace Reads

theorem eq_nil (h : Reads cs ps) (empty : cs = []) : ps = [] := by
  cases h with
  | nil => rfl
  | char => nomatch empty
  | bracket => simp at empty

variable (h : Reads cs ps) (f : Nat → Nat)

include h

theorem closes_respelled : closes (respelled f ps) = closes cs := by
  induction h with
  | nil => rfl
  | char outside after ih => rw [respelled_char, closes_cons, closes_cons, ih]
  | bracket tag after ih =>
    rw [respelled_bracket, closes_replicate_append, closes_replicate_append]

theorem isSome_tag?_respelled : (tag? (respelled f ps)).isSome = (tag? cs).isSome := by
  cases h with
  | nil => rfl
  | char outside after =>
    rw [respelled_char, isSome_tag?_cons, isSome_tag?_cons, after.closes_respelled]
  | bracket tag after => rw [respelled_bracket, tag?_replicate_append, tag?_replicate_append]

variable (tail : closes ds = false) (untagged : tag? ds = none)

include tail untagged

theorem bracket?_respelled_append (nonempty : cs ≠ []) (outside : bracket? n cs = none)
    (ends : cs.getLast? = some '\\' → ∀ m, bracket? m ds = none) :
    bracket? n (respelled f ps ++ ds) = none := by
  induction h generalizing n with
  | nil => exact absurd rfl nonempty
  | @char c cs ps outside' after ih =>
    by_cases slash : c = '\\'
    · subst slash
      rw [bracket?] at outside
      rw [respelled_char, List.cons_append, bracket?]
      cases cs with
      | nil =>
        rw [after.eq_nil rfl]
        exact ends rfl (n + 1)
      | cons d cs => exact ih (List.cons_ne_nil d cs) outside ends
    · by_cases opening : c = '['
      · subst opening
        have same := isSome_tag?_append tail untagged (respelled f ps)
        rw [bracket?, Option.map_eq_none_iff] at outside
        rw [after.isSome_tag?_respelled, outside] at same
        rw [respelled_char, List.cons_append, bracket?, Option.map_eq_none_iff]
        exact Option.isNone_iff_eq_none.mp (Option.isSome_eq_false_iff.mp same)
      · exact bracket?_cons_of_ne slash opening
  | bracket tag after ih =>
    rw [bracket?_replicate_append tag] at outside
    cases outside

/-- Parts that are spelled with other numbers of backslashes are read as such, also before another
text. -/
theorem respell_append (after : Reads ds qs)
    (ends : cs.getLast? = some '\\' → ∀ m, bracket? m ds = none) :
    Reads (respelled f ps ++ ds) (ps.map (Part.respell f) ++ qs) := by
  induction h with
  | nil => exact after
  | @char c cs ps outside after' ih =>
    have whole := Reads.char outside after'
    refine .char ?_ (ih fun last ↦ ends ?_)
    · exact whole.bracket?_respelled_append f tail untagged (List.cons_ne_nil c cs) outside ends
    · rw [List.getLast?_cons, last, Option.getD_some]
  | @bracket k body rest ps tag after' ih =>
    rw [respelled_bracket, List.append_assoc, List.cons_append, List.append_assoc, List.cons_append]
    refine .bracket (tag?_append tag _) (ih fun last ↦ ends ?_)
    rw [List.getLast?_append, List.getLast?_cons, List.getLast?_append, List.getLast?_cons, last]
    rfl

omit tail untagged in
/-- A text is read in one way. -/
theorem parts_eq : parts cs = ps := by
  induction h with
  | nil => exact parts_nil
  | char outside after ih => rw [parts, next, outside, Option.getD_none, ih]
  | @bracket k body rest ps tag after ih =>
    have found : bracket? 0 (List.replicate k '\\' ++ '[' :: (body ++ ']' :: rest)) = _ :=
      bracket?_replicate_append tag
    rw [Nat.zero_add] at found
    cases k with
    | zero =>
      rw [List.replicate_zero, List.nil_append] at found ⊢
      rw [parts, next, found, Option.getD_some, ih]
    | succ k =>
      rw [List.replicate_succ, List.cons_append] at found ⊢
      rw [parts, next, found, Option.getD_some, ih]

end Reads

/-! ## Rendering them -/

/-- Whether a text begins with a backslash before an opening bracket without a tag. -/
def escapesText : List Char → Bool
  | [] => false
  | c :: cs => c = '\\' && cs.head? = some '[' && !opensTag cs

/-- A text that can be escaped: no backslash stands before an opening bracket without a tag, and there
is no control that the console leaves out. -/
structure IsEscapable (cs : List Char) : Prop where
  tagged : ∀ ds, ds <:+ cs → escapesText ds = false
  visible : ∀ c ∈ cs, isStripped c = false

/-- Escaped parts are rendered wherever they stand. -/
theorem Renders.escape (h : Renders opened qs) (ps : List Part) :
    Renders opened (ps.map (Part.respell escapes) ++ qs) := by
  induction ps with
  | nil => exact h
  | cons x ps ih =>
    cases x with
    | char c => exact ih.char c
    | bracket k body =>
      intro position
      obtain ⟨cs, rendered⟩ := ih (position + escapes k + body.length + 2)
      refine ⟨List.replicate (escapes k / 2) '\\' ++ '[' :: (body ++ ']' :: cs), ?_⟩
      rw [List.map_cons, Part.respell, List.cons_append, renderFrom,
        if_pos (by rw [escapes]; omega), rendered]
      rfl

/-- A backslash is left out where it stands before an opening bracket without a tag. -/
theorem Reads.escapesText_iff (c : Char) (after : Reads cs ps) :
    escapesText (c :: cs) = true ↔
      c = '\\' ∧ (ps.map (Part.respell escapes)).head? = some (.char '[') := by
  have same : (ps.map (Part.respell escapes)).head? = some (.char '[') ↔
      ps.head? = some (.char '[') := by
    cases ps with
    | nil => rfl
    | cons x ps => cases x <;> simp [Part.respell]
  rw [same, after.head?_eq_char_iff, escapesText]
  simp only [Bool.and_eq_true, decide_eq_true_eq, Bool.not_eq_true', and_assoc]

/-- The parts of a text that can be escaped are rendered as the text after they were escaped. -/
theorem Reads.renderFrom_escape_append (h : Reads cs ps)
    (tagged : ∀ ds, ds <:+ cs → escapesText ds = false)
    (ends : cs.getLast? = some '\\' → qs.head? ≠ some (.char '[')) :
    renderFrom opened position (ps.map (Part.respell escapes) ++ qs) =
      (renderFrom opened (position + (respelled escapes ps).length) qs).map (cs ++ ·) := by
  induction h generalizing position with
  | nil =>
    change renderFrom opened position qs = _
    rw [respelled_nil, List.length_nil, Nat.add_zero]
    cases renderFrom opened position qs <;> rfl
  | @char c cs ps outside after ih =>
    have shown : ¬ (c = '\\' ∧
        (ps.map (Part.respell escapes) ++ qs).head? = some (.char '[')) := by
      rintro ⟨rfl, opening⟩
      cases ps with
      | nil =>
        obtain rfl : [] = cs := after.respelled_id
        exact ends rfl opening
      | cons x ps =>
        have escaped := (after.escapesText_iff '\\').mpr ⟨rfl, opening⟩
        exact Bool.false_ne_true ((tagged _ List.suffix_rfl).symm.trans escaped)
    rw [List.map_cons, Part.respell, List.cons_append, renderFrom_char, if_neg shown,
      ih (fun ds suffix ↦ tagged ds (suffix.trans (List.suffix_cons c cs))) fun last ↦ ends ?_,
      respelled_char, List.length_cons, Nat.add_assoc, Nat.add_comm 1]
    · cases renderFrom opened (position + ((respelled escapes ps).length + 1)) qs <;> rfl
    · rw [List.getLast?_cons, last, Option.getD_some]
  | @bracket k body rest ps tag after ih =>
    have behind : rest <:+ List.replicate k '\\' ++ '[' :: (body ++ ']' :: rest) :=
      ⟨List.replicate k '\\' ++ '[' :: (body ++ [']']), by simp⟩
    have ends' : rest.getLast? = some '\\' → qs.head? ≠ some (.char '[') := fun last ↦ by
      refine ends ?_
      rw [List.getLast?_append, List.getLast?_cons, List.getLast?_append, List.getLast?_cons, last]
      rfl
    have halved : escapes k / 2 = k := by
      rw [escapes]
      omega
    have length : position + escapes k + body.length + 2 + (respelled escapes ps).length =
        position + (respelled escapes (.bracket k body :: ps)).length := by
      rw [respelled_bracket]
      simp
      omega
    rw [List.map_cons, Part.respell, List.cons_append, renderFrom,
      if_pos (by rw [escapes]; omega), halved,
      ih (fun ds suffix ↦ tagged ds (suffix.trans behind)) ends', length]
    cases renderFrom opened (position + (respelled escapes (.bracket k body :: ps)).length) qs with
    | error e => rfl
    | ok out =>
      refine congrArg Except.ok ?_
      simp

/-! ## Escaped texts -/

theorem Reads.getLast?_respelled (h : Reads cs ps) (f : Nat → Nat) :
    (respelled f ps).getLast? = cs.getLast? := by
  induction h with
  | nil => rfl
  | char outside after ih => rw [respelled_char, List.getLast?_cons, List.getLast?_cons, ih]
  | bracket tag after ih =>
    rw [respelled_bracket]
    simp only [List.getLast?_append, List.getLast?_cons, ih, Option.some_or]

theorem protectEnd_eq_self (ends : cs.getLast? ≠ some '\\') : protectEnd cs = cs := by
  rw [← List.head?_reverse] at ends
  unfold protectEnd
  split
  · rfl
  · rename_i last
    rw [last] at ends
    exact absurd rfl ends
  · rfl

/-- A single backslash at the end of a text is doubled. -/
theorem protectEnd_append_slash (ends : cs.getLast? ≠ some '\\') :
    protectEnd (cs ++ ['\\']) = cs ++ ['\\', '\\'] := by
  have reversed : (cs ++ ['\\']).reverse = '\\' :: cs.reverse := List.reverse_concat
  rw [← List.head?_reverse] at ends
  unfold protectEnd
  split
  · rename_i last
    rw [(List.cons.inj (reversed.symm.trans last)).2] at ends
    exact absurd rfl ends
  · rw [List.append_assoc]
    rfl
  · rename_i other
    exact absurd reversed (other _)

/-- Nothing but a backslash is put behind a text. -/
theorem protectEnd_eq_or (cs : List Char) :
    protectEnd cs = cs ∨ protectEnd cs = cs ++ ['\\'] := by
  unfold protectEnd
  split
  · exact .inl rfl
  · exact .inr rfl
  · exact .inl rfl

theorem toList_escape (s : String) :
    (escape s).toList = protectEnd (respelled escapes (parts s.toList)) := by
  rw [escape, String.toList_ofList, flatMap_escape]

/-- Fixed wording needs no escaping. -/
theorem escape_eq_self {s : String} (inert : Inert s.toList) : escape s = s := by
  have characters : respelled escapes (s.toList.map Part.char) = s.toList := by
    rw [respelled, List.flatMap_map]
    exact List.flatMap_singleton' _
  have whole : (escape s).toList = s.toList := by
    rw [toList_escape, parts_eq_map_char (inert.not_mem rfl), characters,
      protectEnd_eq_self inert.getLast?_ne]
  exact String.toList_injective whole

theorem Inert.isEscapable (inert : Inert cs) : IsEscapable cs where
  tagged ds suffix := by
    cases ds with
    | nil => rfl
    | cons d ds =>
      have other : d ≠ '\\' := by
        rintro rfl
        exact inert.not_mem rfl (suffix.subset List.mem_cons_self)
      rw [escapesText, decide_eq_false other]
      rfl
  visible := inert.visible

/-- An escaped text is always rendered. -/
theorem exists_render_escape (s : String) : ∃ t, render (escape s) = .ok t := by
  have reads := reads_parts s.toList
  have rendered : Renders [] (parts (escape s).toList) := by
    rw [toList_escape]
    rcases protectEnd_eq_or (respelled escapes (parts s.toList)) with same | more
    · have whole := reads.respell_append escapes rfl rfl .nil fun _ _ ↦ rfl
      rw [List.append_nil] at whole
      rw [same, whole.parts_eq]
      exact renders_nil.escape _
    · have slash : Reads ['\\'] [.char '\\'] := .char rfl .nil
      rw [more, (reads.respell_append escapes rfl rfl slash fun _ _ ↦ rfl).parts_eq]
      exact (renders_nil.char '\\').escape _
  obtain ⟨cs, rendered⟩ := rendered 0
  exact ⟨_, map_eq_ok_iff.mpr ⟨cs, rendered, rfl⟩⟩

/-- The backslashes before a tag are none before a bracket without one. -/
theorem countP_escapesText_bracket (tag : tag? (body ++ ']' :: rest) = some (body, rest)) (k : Nat) :
    (List.replicate k '\\' ++ '[' :: (body ++ ']' :: rest)).tails.countP escapesText =
      rest.tails.countP escapesText := by
  have inner {cs : List Char} (plain : '[' ∉ cs) : (cs ++ ']' :: rest).tails.countP escapesText =
      rest.tails.countP escapesText := by
    induction cs with
    | nil => simp [escapesText]
    | cons c cs ih =>
      have other : (cs ++ ']' :: rest).head? ≠ some '[' := by
        cases cs with
        | nil => simp
        | cons d cs =>
          intro same
          exact plain (List.mem_cons_of_mem c (List.mem_cons.mpr (.inl (Option.some.inj same).symm)))
      rw [List.cons_append, countP_tails_cons, ih (List.not_mem_of_not_mem_cons plain), escapesText,
        decide_eq_false other, Bool.and_false]
      rfl
  induction k with
  | zero =>
    rw [List.replicate_zero, List.nil_append, countP_tails_cons, inner (not_mem_of_tag? tag)]
    rfl
  | succ k ih =>
    have tagged : escapesText ('\\' :: (List.replicate k '\\' ++ '[' :: (body ++ ']' :: rest))) =
        false := by
      cases k with
      | zero => simp [escapesText, opensTag, tag]
      | succ k => rfl
    rw [List.replicate_succ, List.cons_append, countP_tails_cons, ih, tagged]
    rfl

/-- No other backslash of an escaped text is left out. -/
theorem Reads.count_add_escapesText_eq (h : Reads cs ps) {out : List Char}
    (rendered : renderFrom opened position (ps.map (Part.respell escapes)) = .ok out) :
    out.count '\\' + cs.tails.countP escapesText = cs.count '\\' := by
  induction h generalizing opened position out with
  | nil =>
    rw [List.map_nil, renderFrom] at rendered
    cases rendered
    rfl
  | @char c cs ps outside after ih =>
    rw [List.map_cons, Part.respell, renderFrom_char] at rendered
    rw [countP_tails_cons, List.count_cons]
    split at rendered
    · rename_i escaped
      have kept := ih rendered
      rw [if_pos ((escapesText_iff c after).mpr escaped), escaped.1]
      simp
      omega
    · rename_i shown
      obtain ⟨out', rendered', rfl⟩ := map_eq_ok_iff.mp rendered
      have kept := ih rendered'
      rw [if_neg (mt (escapesText_iff c after).mp shown), List.count_cons]
      omega
  | @bracket k body rest ps tag after ih =>
    obtain ⟨opened', position', out', rendered', rfl⟩ := exists_of_renderFrom_bracket rendered
    have kept := ih rendered'
    have odd : escapes k % 2 = 1 := by
      rw [escapes]
      omega
    have halved : escapes k / 2 = k := by
      rw [escapes]
      omega
    rw [countP_escapesText_bracket tag, if_pos odd, halved]
    simp only [List.count_append, List.count_replicate_self, List.count_cons, List.count_nil]
    omega

/-- A text that does not end with a backslash is rendered as it was exactly if it can be escaped. -/
theorem render_escape_iff {s : String} (ends : s.toList.getLast? ≠ some '\\') :
    render (escape s) = .ok s ↔ IsEscapable s.toList := by
  have reads := reads_parts s.toList
  have whole := reads.respell_append escapes rfl rfl .nil fun _ _ ↦ rfl
  rw [List.append_nil, List.append_nil] at whole
  have ends' : (respelled escapes (parts s.toList)).getLast? ≠ some '\\' := by
    rw [reads.getLast?_respelled]
    exact ends
  have parted : parts (escape s).toList = (parts s.toList).map (Part.respell escapes) := by
    rw [toList_escape, protectEnd_eq_self ends', whole.parts_eq]
  constructor
  · intro shown
    obtain ⟨out, rendered, left⟩ := render_eq_ok_iff.mp shown
    rw [parted] at rendered
    have slashes := count_of_filter left (c := '\\') (by decide)
    have kept := reads.count_add_escapesText_eq rendered
    have none : s.toList.tails.countP escapesText = 0 := by omega
    refine ⟨fun ds suffix ↦ ?_, visible_of_filter left⟩
    exact Bool.eq_false_iff.mpr (List.countP_eq_zero.mp none ds ((List.mem_tails ds _).mpr suffix))
  · intro escapable
    have rendered : renderFrom [] 0 ((parts s.toList).map (Part.respell escapes) ++ []) =
        .ok (s.toList ++ []) := by
      rw [reads.renderFrom_escape_append escapable.tagged fun last ↦ absurd last ends]
      rfl
    rw [List.append_nil, List.append_nil, ← parted] at rendered
    exact render_of_visible rendered escapable.visible

/-! ## Escaped texts before the end of a style -/

theorem escapesText_append_slash (cs : List Char) :
    escapesText (cs ++ ['\\']) = escapesText cs := by
  match cs with
  | [] => rfl
  | [c] => simp [escapesText]
  | c :: d :: cs =>
    have same : opensTag (d :: (cs ++ ['\\'])) = opensTag (d :: cs) := by
      rw [opensTag, opensTag, isSome_tag?_append rfl rfl]
    rw [List.cons_append, List.cons_append, escapesText, escapesText, same]
    rfl

/-- The end of a style is read with the backslashes before it. -/
theorem reads_close (k : Nat) :
    Reads (List.replicate k '\\' ++ ['[', '/', ']']) [.bracket k ['/']] :=
  @Reads.bracket k ['/'] [] [] (tag?_close []) .nil

/-- Behind an escaped text, pairs of backslashes before the end of a style are halved. -/
theorem renderFrom_escape_close_of_even {tag : List Char} (style : IsStyle tag)
    (tagged : ∀ ds, ds <:+ cs → escapesText ds = false) (ends : cs.getLast? ≠ some '\\')
    (even : k % 2 = 0) :
    renderFrom [⟨tag, []⟩] position
      (parts (respelled escapes (parts cs) ++ (List.replicate k '\\' ++ ['[', '/', ']']))) =
      .ok (cs ++ List.replicate (k / 2) '\\') := by
  have reads := reads_parts cs
  have closed (position : Nat) : renderFrom [⟨tag, []⟩] position [.bracket k ['/']] =
      .ok (List.replicate (k / 2) '\\') := by
    rw [renderFrom, if_neg (by omega), style.applyTag_close]
    change (renderFrom [] (position + k + 1 + 2) [] >>= fun rest ↦
      Except.ok (List.replicate (k / 2) '\\' ++ rest)) = _
    rw [renderFrom]
    exact congrArg Except.ok (List.append_nil _)
  have read := reads.respell_append escapes (closes_replicate_append k _)
    (tag?_replicate_append k _) (reads_close k) fun last ↦ absurd last ends
  rw [read.parts_eq, reads.renderFrom_escape_append tagged fun last ↦ absurd last ends, closed]
  rfl

/-- A text that can be escaped is rendered as it was before the end of a style, if no two backslashes
end it: a single one is doubled by escaping it. -/
theorem renderFrom_escape_close {s : String} {tag : List Char} (style : IsStyle tag)
    (escapable : IsEscapable s.toList) (ends : ¬ ['\\', '\\'] <:+ s.toList) :
    renderFrom [⟨tag, []⟩] position (parts ((escape s).toList ++ ['[', '/', ']'])) =
      .ok s.toList := by
  rw [toList_escape]
  by_cases last : s.toList.getLast? = some '\\'
  · obtain ⟨cs, text⟩ := List.getLast?_eq_some_iff.mp last
    have single : cs.getLast? ≠ some '\\' := fun last ↦ by
      obtain ⟨ds, rfl⟩ := List.getLast?_eq_some_iff.mp last
      refine ends ⟨ds, ?_⟩
      rw [text, List.append_assoc]
      rfl
    have tagged : ∀ ds, ds <:+ cs → escapesText ds = false := by
      rintro ds ⟨before, rfl⟩
      rw [← escapesText_append_slash]
      refine escapable.tagged _ ⟨before, ?_⟩
      rw [text, List.append_assoc]
    have reads := reads_parts cs
    have parted : parts s.toList = parts cs ++ [.char '\\'] := by
      have slash : Reads ['\\'] [.char '\\'] := .char rfl .nil
      have whole := reads.respell_append id rfl rfl slash fun last ↦ absurd last single
      rw [reads.respelled_id, ← text, respell_id] at whole
      exact whole.parts_eq
    have doubled : protectEnd (respelled escapes (parts s.toList)) =
        respelled escapes (parts cs) ++ ['\\', '\\'] := by
      rw [parted, respelled, List.flatMap_append]
      refine protectEnd_append_slash ?_
      rw [← respelled, reads.getLast?_respelled]
      exact single
    rw [doubled, List.append_assoc, text]
    exact renderFrom_escape_close_of_even style tagged single (k := 2) rfl
  · have same : protectEnd (respelled escapes (parts s.toList)) =
        respelled escapes (parts s.toList) := by
      refine protectEnd_eq_self ?_
      rw [(reads_parts s.toList).getLast?_respelled]
      exact last
    rw [same]
    refine (renderFrom_escape_close_of_even style escapable.tagged last (k := 0) rfl).trans ?_
    exact congrArg Except.ok (List.append_nil _)

/-! ## Escaped texts in a style -/

theorem closes_escape (s : String) : closes (escape s).toList = closes s.toList := by
  have same := (reads_parts s.toList).closes_respelled escapes
  rw [toList_escape]
  rcases protectEnd_eq_or (respelled escapes (parts s.toList)) with whole | whole
  · rw [whole, same]
  · rw [whole, closes_append rfl, same]

theorem isSome_tag?_escape (s : String) :
    (tag? (escape s).toList).isSome = (tag? s.toList).isSome := by
  have same := (reads_parts s.toList).isSome_tag?_respelled escapes
  rw [toList_escape]
  rcases protectEnd_eq_or (respelled escapes (parts s.toList)) with whole | whole
  · rw [whole, same]
  · rw [whole, isSome_tag?_append rfl rfl, same]

/-- A text and an escaped one behind it are rendered as they were in a style, if no tag begins in the
first one and it holds no escaped brackets. -/
theorem render_styled_escape {s t : String} {before tag lead : List Char} (style : tag ∈ styles)
    (plain : '[' ∉ before) (free : '\\' ∉ before) (unescaped : escapeCount lead = 0)
    (ends : lead.getLast? ≠ some '\\') (tagless : tagCount (lead ++ t.toList) = tagCount t.toList)
    (escapable : IsEscapable t.toList) (ends' : ¬ ['\\', '\\'] <:+ t.toList)
    (visible : ∀ c ∈ before ++ lead, isStripped c = false)
    (text : s.toList = styled before tag (lead ++ (escape t).toList) []) :
    render s = .ok (String.ofList (before ++ (lead ++ t.toList))) := by
  have closing : closes ((escape t).toList ++ ['[', '/', ']']) = closes t.toList := by
    rw [closes_append rfl, closes_escape]
  have tag' : (tag? ((escape t).toList ++ ['[', '/', ']'])).isSome = (tag? t.toList).isSome := by
    rw [isSome_tag?_append rfl rfl, isSome_tag?_escape]
  have rendered : renderFrom [] 0 (parts s.toList) = .ok (before ++ (lead ++ t.toList)) := by
    rw [text, styled, List.append_assoc lead]
    refine renderFrom_open_style style plain free fun position ↦ ?_
    rw [renderFrom_append_of_count, renderFrom_escape_close (isStyle_of_mem style) escapable ends']
    · rfl
    · rw [escapeCount_append ends, unescaped, Nat.zero_add]
    · have same := tagCount_append_congr closing tag' lead
      omega
    · exact fun last ↦ absurd last ends
  refine render_of_visible ?_ ?_
  · rw [String.toList_ofList]
    exact rendered
  · rw [String.toList_ofList, ← List.append_assoc]
    exact List.forall_mem_append.mpr ⟨visible, escapable.visible⟩

end EnumTables.Markup
