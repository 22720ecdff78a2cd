import EnumTables.Proofs.Console.Markup
import EnumTables.Proofs.Lists

/-!
# Texts that markup leaves alone

A text is literal if no tag begins in it, no backslash stands before an opening bracket, and it holds
no control that the console leaves out.  Main statement: a message with texts around and inside of a
style shows them as they are exactly if they are literal and no backslash comes before the closing
tag.

That literal texts are shown follows from how the parts of a text are read.  The converse is a matter
of counting.  Every backslash before an opening bracket costs the text at least one backslash; where
none stands, every tag costs an opening bracket.
-/

namespace EnumTables.Markup

variable {c : Char} {cs ds body rest out : List Char} {n k position : Nat} {ps : List Part}
  {opened : List OpenTag}

/-! ## Literal texts -/

/-- Whether a text begins with a tag. -/
def opensTag : List Char → Bool
  | [] => false
  | c :: cs => c = '[' && (tag? cs).isSome

/-- Whether a text begins with a backslash before an opening bracket. -/
def escapesBracket : List Char → Bool
  | [] => false
  | c :: cs => c = '\\' && cs.head? = some '['

/-- A text that is shown as it is. -/
structure IsLiteral (cs : List Char) : Prop where
  tagless : ∀ ds, ds <:+ cs → opensTag ds = false
  unescaped : ∀ ds, ds <:+ cs → escapesBracket ds = false
  visible : ∀ c ∈ cs, isStripped c = false

/-- The number of tags that begin in a text, backslashes before them or not. -/
def tagCount (cs : List Char) : Nat := cs.tails.countP opensTag

/-- The number of backslashes before opening brackets. -/
def escapeCount (cs : List Char) : Nat := cs.tails.countP escapesBracket

theorem isLiteral_iff : IsLiteral cs ↔
    tagCount cs = 0 ∧ escapeCount cs = 0 ∧ ∀ c ∈ cs, isStripped c = false := by
  have none_iff (p : List Char → Bool) :
      cs.tails.countP p = 0 ↔ ∀ ds, ds <:+ cs → p ds = false := by
    simp only [List.countP_eq_zero, List.mem_tails, Bool.not_eq_true]
  rw [tagCount, escapeCount, none_iff, none_iff]
  exact ⟨fun h ↦ ⟨h.tagless, h.unescaped, h.visible⟩, fun ⟨tagless, unescaped, visible⟩ ↦
    ⟨tagless, unescaped, visible⟩⟩

instance (cs : List Char) : Decidable (IsLiteral cs) :=
  haveI := List.decidableBAll (fun c ↦ isStripped c = false) cs
  decidable_of_iff' _ isLiteral_iff

/-! ## Tags in longer texts -/

/-- Whether the first bracket of a text is a closing one. -/
def closes (cs : List Char) : Bool :=
  (cs.dropWhile fun c ↦ c ≠ '[' && c ≠ ']').head? = some ']'

theorem closes_cons (c : Char) (cs : List Char) :
    closes (c :: cs) = (c ≠ '[' && (c = ']' || closes cs)) := by
  by_cases opening : c = '['
  · subst opening
    rfl
  by_cases closing : c = ']'
  · subst closing
    rfl
  · simp [closes, opening, closing]

/-- The first bracket of a text is closing no more and no less if a text comes behind it whose first
bracket is not closing. -/
theorem closes_append (tail : closes ds = false) (cs : List Char) :
    closes (cs ++ ds) = closes cs := by
  induction cs with
  | nil => exact tail
  | cons c cs ih => rw [List.cons_append, closes_cons, closes_cons, ih]

/-- A tag is a character that tags begin with and characters up to a closing bracket. -/
theorem isSome_tag?_cons (c : Char) (cs : List Char) :
    (tag? (c :: cs)).isSome = (beginsTag c && closes cs) := by
  rw [tag?, closes]
  split
  · rename_i begun
    rw [begun, Bool.true_and]
    split
    · rename_i same
      rw [same]
      rfl
    · rename_i other
      refine (decide_eq_false fun closing ↦ ?_).symm
      obtain ⟨more, same⟩ := List.head?_eq_some_iff.mp closing
      exact other more same
  · rename_i other
    rw [Bool.eq_false_iff.mpr other]
    rfl

/-- A text begins with a tag no more and no less if a text comes behind it that neither begins with
one nor closes one. -/
theorem isSome_tag?_append (tail : closes ds = false) (outside : tag? ds = none) (cs : List Char) :
    (tag? (cs ++ ds)).isSome = (tag? cs).isSome := by
  cases cs with
  | nil => exact congrArg Option.isSome outside
  | cons c cs => rw [List.cons_append, isSome_tag?_cons, isSome_tag?_cons, closes_append tail]

/-- The body of a tag has no opening bracket. -/
theorem not_mem_of_tag? (h : tag? cs = some (body, rest)) : '[' ∉ body := by
  cases cs with
  | nil => cases h
  | cons c cs =>
    rw [tag?] at h
    split at h
    · rename_i begun
      split at h
      · obtain ⟨rfl, -⟩ := Prod.mk.inj (Option.some.inj h)
        refine List.not_mem_cons_of_ne_of_not_mem ?_ fun member ↦ ?_
        · rintro rfl
          exact absurd begun (by decide)
        · exact absurd (List.all_eq_true.mp List.all_takeWhile _ member) (by decide)
      · cases h
    · cases h

/-! ## Counting tags -/

theorem tagCount_cons (c : Char) (cs : List Char) :
    tagCount (c :: cs) = tagCount cs + if opensTag (c :: cs) then 1 else 0 :=
  countP_tails_cons c cs

theorem opensTag_of_ne (other : c ≠ '[') : opensTag (c :: cs) = false := by
  rw [opensTag, decide_eq_false other, Bool.false_and]

/-- Which tags begin in a text before another one is a matter of where that one begins and of its first
bracket. -/
theorem tagCount_append_congr (closing : closes ds = closes rest)
    (tag : (tag? ds).isSome = (tag? rest).isSome) (cs : List Char) :
    tagCount (cs ++ ds) + tagCount rest = tagCount (cs ++ rest) + tagCount ds := by
  have closing' (cs : List Char) : closes (cs ++ ds) = closes (cs ++ rest) := by
    induction cs with
    | nil => exact closing
    | cons c cs ih => rw [List.cons_append, List.cons_append, closes_cons, closes_cons, ih]
  have tag' (cs : List Char) : (tag? (cs ++ ds)).isSome = (tag? (cs ++ rest)).isSome := by
    cases cs with
    | nil => exact tag
    | cons c cs =>
      rw [List.cons_append, List.cons_append, isSome_tag?_cons, isSome_tag?_cons, closing']
  induction cs with
  | nil => exact Nat.add_comm _ _
  | cons c cs ih =>
    rw [List.cons_append, List.cons_append, tagCount_cons, tagCount_cons, opensTag, opensTag, tag']
    omega

/-- The tags of two texts one after the other are theirs, if the second one neither begins with a tag's
body nor closes one. -/
theorem tagCount_append (tail : closes ds = false) (outside : tag? ds = none) (cs : List Char) :
    tagCount (cs ++ ds) = tagCount cs + tagCount ds := by
  have same : tagCount (cs ++ ds) + tagCount [] = tagCount (cs ++ []) + tagCount ds :=
    tagCount_append_congr tail (congrArg Option.isSome outside) cs
  rw [List.append_nil] at same
  exact same

/-- No tag begins in a text without opening brackets, whatever comes behind it. -/
theorem tagCount_append_of_not_mem (plain : '[' ∉ cs) (ds : List Char) :
    tagCount (cs ++ ds) = tagCount ds := by
  induction cs with
  | nil => rfl
  | cons c cs ih =>
    rw [List.cons_append, tagCount_cons, opensTag_of_ne (List.ne_of_not_mem_cons plain).symm,
      ih (List.not_mem_of_not_mem_cons plain)]
    rfl

/-- A tag counts once, with the tags of the text behind it. -/
theorem tagCount_of_tag? (h : tag? cs = some (body, rest)) :
    tagCount ('[' :: cs) = tagCount rest + 1 := by
  have plain : '[' ∉ body ++ [']'] := by
    simp only [List.mem_append, not_or]
    exact ⟨not_mem_of_tag? h, by decide⟩
  have behind : cs = (body ++ [']']) ++ rest := by
    rw [List.append_assoc]
    exact (spelling_of_tag? h).symm
  rw [tagCount_cons, opensTag, h, behind, tagCount_append_of_not_mem plain]
  rfl

/-! ## Counting escaped brackets -/

@[simp] theorem escapeCount_nil : escapeCount [] = 0 := rfl

theorem escapeCount_cons (c : Char) (cs : List Char) :
    escapeCount (c :: cs) = escapeCount cs + if escapesBracket (c :: cs) then 1 else 0 :=
  countP_tails_cons c cs

theorem escapeCount_cons_of_ne (other : c ≠ '\\') (cs : List Char) :
    escapeCount (c :: cs) = escapeCount cs := by
  rw [escapeCount_cons, escapesBracket, decide_eq_false other]
  rfl

/-- Where two texts meet, a bracket is escaped if a backslash ends the one and the bracket begins the
other. -/
theorem escapeCount_append_cons (cs ds : List Char) (c : Char) :
    escapeCount (cs ++ c :: ds) = escapeCount cs + escapeCount (c :: ds) +
      if cs.getLast? = some '\\' ∧ c = '[' then 1 else 0 := by
  induction cs with
  | nil => simp
  | cons d cs ih =>
    cases cs with
    | nil => simp [escapeCount_cons, escapesBracket]
    | cons e cs =>
      have same : escapesBracket (d :: (e :: cs ++ c :: ds)) = escapesBracket (d :: e :: cs) := rfl
      rw [List.cons_append, escapeCount_cons, ih, escapeCount_cons d, List.getLast?_cons_cons, same]
      omega

/-- No bracket is escaped where two texts meet if no backslash ends the first one. -/
theorem escapeCount_append (ends : cs.getLast? ≠ some '\\') (ds : List Char) :
    escapeCount (cs ++ ds) = escapeCount cs + escapeCount ds := by
  cases ds with
  | nil => rw [List.append_nil, escapeCount_nil, Nat.add_zero]
  | cons d ds => rw [escapeCount_append_cons, if_neg (mt And.left ends), Nat.add_zero]

theorem escapeCount_of_not_mem (free : '\\' ∉ cs) : escapeCount cs = 0 := by
  induction cs with
  | nil => rfl
  | cons c cs ih =>
    rw [escapeCount_cons_of_ne (List.ne_of_not_mem_cons free).symm,
      ih (List.not_mem_of_not_mem_cons free)]

/-! ## How parts are read -/

/-- A bracketed text is read behind all the backslashes before it. -/
theorem exists_of_bracket? {x : Part} (h : bracket? n cs = some (x, rest)) :
    ∃ k body, x = .bracket (n + k) body ∧ tag? (body ++ ']' :: rest) = some (body, rest) ∧
      cs = List.replicate k '\\' ++ '[' :: (body ++ ']' :: rest) := by
  fun_induction bracket? n cs with
  | case1 n cs ih =>
    obtain ⟨k, body, rfl, tag, rfl⟩ := ih h
    refine ⟨k + 1, body, ?_, tag, rfl⟩
    rw [Nat.add_right_comm, Nat.add_assoc]
  | case2 n cs =>
    obtain ⟨⟨body, r⟩, tag, same⟩ := Option.map_eq_some_iff.mp h
    obtain ⟨rfl, rfl⟩ := Prod.mk.inj same
    refine ⟨0, body, rfl, ?_, ?_⟩
    · rw [spelling_of_tag? tag, tag]
    · rw [spelling_of_tag? tag]
      rfl
  | case3 => cases h

/-- How the parts of a text are read one after the other. -/
inductive Reads : List Char → List Part → Prop
  | nil : Reads [] []
  | char {c : Char} {cs : List Char} {ps : List Part} (outside : bracket? 0 (c :: cs) = none)
      (after : Reads cs ps) : Reads (c :: cs) (.char c :: ps)
  | bracket {k : Nat} {body rest : List Char} {ps : List Part}
      (tag : tag? (body ++ ']' :: rest) = some (body, rest)) (after : Reads rest ps) :
      Reads (List.replicate k '\\' ++ '[' :: (body ++ ']' :: rest)) (.bracket k body :: ps)

theorem reads_parts (cs : List Char) : Reads cs (parts cs) := by
  fun_induction parts cs with
  | case1 => exact .nil
  | case2 c cs ih =>
    revert ih
    rw [next]
    cases found : bracket? 0 (c :: cs) with
    | none => exact .char found
    | some r =>
      obtain ⟨x, rest⟩ := r
      obtain ⟨k, body, same, tag, text⟩ := exists_of_bracket? found
      rw [Option.getD_some, same, text, Nat.zero_add]
      exact .bracket tag

/-- A bracket that begins a text is read as a character exactly if no tag begins there. -/
theorem Reads.head?_eq_char_iff (h : Reads cs ps) :
    ps.head? = some (.char '[') ↔ cs.head? = some '[' ∧ opensTag cs = false := by
  cases h with
  | nil => simp
  | @char c cs ps outside after =>
    by_cases opening : c = '['
    · subst opening
      rw [bracket?, Option.map_eq_none_iff] at outside
      simp [opensTag, outside]
    · simp [opening]
  | @bracket k body rest ps tag after =>
    cases k with
    | zero => simp [opensTag, tag]
    | succ k => simp [List.replicate_succ]

/-- A character is left out exactly if it is a backslash before an opening bracket. -/
theorem Reads.escapesBracket_iff (outside : bracket? 0 (c :: cs) = none) (after : Reads cs ps) :
    escapesBracket (c :: cs) = true ↔ c = '\\' ∧ ps.head? = some (.char '[') := by
  rw [after.head?_eq_char_iff, escapesBracket]
  simp only [Bool.and_eq_true, decide_eq_true_eq]
  refine and_congr_right fun slash ↦ iff_self_and.mpr fun opening ↦ ?_
  subst slash
  obtain ⟨ds, rfl⟩ := List.head?_eq_some_iff.mp opening
  rw [bracket?, bracket?, Option.map_eq_none_iff] at outside
  simp [opensTag, outside]

/-! ## What is rendered of a part -/

theorem renderFrom_char (c : Char) (ps : List Part) :
    renderFrom opened position (.char c :: ps) =
      if c = '\\' ∧ ps.head? = some (.char '[') then renderFrom opened (position + 1) ps
      else (renderFrom opened (position + 1) ps).map (c :: ·) := by
  by_cases escaped : c = '\\' ∧ ps.head? = some (.char '[')
  · obtain ⟨rfl, opening⟩ := escaped
    obtain ⟨qs, rfl⟩ := List.head?_eq_some_iff.mp opening
    rw [renderFrom, if_pos ⟨rfl, rfl⟩]
  · rw [if_neg escaped, renderFrom]
    rintro qs rfl rfl
    exact escaped ⟨rfl, rfl⟩

/-- A bracketed text leaves half of its backslashes, and is itself left if one more stands there. -/
theorem exists_of_renderFrom_bracket
    (rendered : renderFrom opened position (.bracket k body :: ps) = .ok out) :
    ∃ opened' position' out', renderFrom opened' position' ps = .ok out' ∧
      out = List.replicate (k / 2) '\\' ++
        ((if k % 2 = 1 then '[' :: (body ++ [']']) else []) ++ out') := by
  rw [renderFrom] at rendered
  split at rendered
  · rename_i odd
    obtain ⟨out', after, left⟩ := bind_eq_ok_iff.mp rendered
    refine ⟨_, _, out', after, ?_⟩
    rw [if_pos odd, List.cons_append, List.append_assoc]
    exact (Except.ok.inj left).symm
  · rename_i even
    obtain ⟨opened', -, left⟩ := bind_eq_ok_iff.mp rendered
    obtain ⟨out', after, left⟩ := bind_eq_ok_iff.mp left
    refine ⟨_, _, out', after, ?_⟩
    rw [if_neg even]
    exact (Except.ok.inj left).symm

/-! ## What rendering costs -/

theorem escapeCount_of_plain (plain : '[' ∉ cs) : escapeCount cs = 0 := by
  induction cs with
  | nil => rfl
  | cons c cs ih =>
    have other : cs.head? ≠ some '[' := fun opening ↦
      plain (List.mem_cons_of_mem c (List.mem_of_mem_head? opening))
    rw [escapeCount_cons, ih (List.not_mem_of_not_mem_cons plain), escapesBracket,
      decide_eq_false other, Bool.and_false]
    rfl

/-- Of the backslashes before a bracketed text the last one escapes the bracket. -/
theorem escapeCount_bracket (plain : '[' ∉ body) (k : Nat) (rest : List Char) :
    escapeCount (List.replicate k '\\' ++ '[' :: (body ++ ']' :: rest)) =
      escapeCount rest + if k = 0 then 0 else 1 := by
  have slashes : escapeCount (List.replicate k '\\') = 0 :=
    escapeCount_of_plain fun member ↦ nomatch List.eq_of_mem_replicate member
  rw [escapeCount_append_cons, escapeCount_cons_of_ne (by decide), escapeCount_append_cons,
    escapeCount_of_plain plain, escapeCount_cons_of_ne (by decide), slashes]
  cases k with
  | zero => simp
  | succ k => simp [List.getLast?_replicate]

/-- Every escaped bracket costs a backslash. -/
theorem Reads.count_add_escapeCount_le (h : Reads cs ps)
    (rendered : renderFrom opened position ps = .ok out) :
    out.count '\\' + escapeCount cs ≤ cs.count '\\' := by
  induction h generalizing opened position out with
  | nil =>
    rw [renderFrom] at rendered
    cases rendered
    exact Nat.le_refl _
  | @char c cs ps outside after ih =>
    rw [renderFrom_char] at rendered
    rw [escapeCount_cons, List.count_cons]
    split at rendered
    · rename_i escaped
      have kept := ih rendered
      rw [if_pos ((escapesBracket_iff outside after).mpr escaped), escaped.1]
      exact Nat.add_le_add_right kept 1
    · rename_i shown
      obtain ⟨out', rendered', rfl⟩ := map_eq_ok_iff.mp rendered
      have kept := ih rendered'
      rw [if_neg (mt (escapesBracket_iff outside after).mp shown), List.count_cons]
      omega
  | @bracket k body rest ps tag after ih =>
    obtain ⟨opened', position', out', rendered', rfl⟩ := exists_of_renderFrom_bracket rendered
    have kept := ih rendered'
    have spelled : (List.replicate k '\\' ++ '[' :: (body ++ ']' :: rest)).count '\\' =
        k + (body.count '\\' + rest.count '\\') := by
      simp
    have kept' : (if k % 2 = 1 then '[' :: (body ++ [']']) else []).count '\\' ≤
        body.count '\\' := by
      split <;> simp
    have halved : k / 2 + (if k = 0 then 0 else 1) ≤ k := by
      split <;> omega
    rw [escapeCount_bracket (not_mem_of_tag? tag), spelled, List.count_append, List.count_append,
      List.count_replicate_self]
    omega

/-- Every tag costs an opening bracket where no brackets are escaped. -/
theorem Reads.count_add_tagCount_eq (h : Reads cs ps) (unescaped : escapeCount cs = 0)
    (rendered : renderFrom opened position ps = .ok out) :
    out.count '[' + tagCount cs = cs.count '[' := by
  induction h generalizing opened position out with
  | nil =>
    rw [renderFrom] at rendered
    cases rendered
    rfl
  | @char c cs ps outside after ih =>
    rw [escapeCount_cons] at unescaped
    obtain ⟨rest, first⟩ := Nat.add_eq_zero_iff.mp unescaped
    have shown : ¬ escapesBracket (c :: cs) = true := fun escaped ↦ by simp [escaped] at first
    have outer : opensTag (c :: cs) = false := by
      by_cases opening : c = '['
      · subst opening
        exact ((Reads.char outside after).head?_eq_char_iff.mp rfl).2
      · exact opensTag_of_ne opening
    rw [renderFrom_char, if_neg (mt (escapesBracket_iff outside after).mpr shown)] at rendered
    obtain ⟨out', rendered', rfl⟩ := map_eq_ok_iff.mp rendered
    have kept := ih rest rendered'
    rw [tagCount_cons, outer, if_neg Bool.false_ne_true, List.count_cons, List.count_cons]
    omega
  | @bracket k body rest ps tag after ih =>
    have plain := not_mem_of_tag? tag
    rw [escapeCount_bracket plain] at unescaped
    obtain ⟨unescaped', bare⟩ := Nat.add_eq_zero_iff.mp unescaped
    obtain rfl : k = 0 := by
      by_contra some
      rw [if_neg some] at bare
      omega
    obtain ⟨opened', position', out', rendered', rfl⟩ := exists_of_renderFrom_bracket rendered
    have kept := ih unescaped' rendered'
    have spelled : ('[' :: (body ++ ']' :: rest)).count '[' = rest.count '[' + 1 := by
      simp [List.count_eq_zero_of_not_mem plain]
    rw [List.replicate_zero, List.nil_append, tagCount_of_tag? tag, spelled, ← kept]
    rfl

/-! ## Literal texts are rendered as they are -/

section Append

variable (unescaped : escapeCount (cs ++ ds) = escapeCount ds)
  (tagless : tagCount (cs ++ ds) = tagCount ds)
  (ends : cs.getLast? = some '\\' → escapeCount ds = 0)

include unescaped tagless ends

/-- No bracketed text begins at a character of a text in which no tag begins and no bracket is
escaped.  If a backslash ends the text, there must be no escaped brackets behind it. -/
theorem bracket?_append_eq_none_of_count (nonempty : cs ≠ []) : bracket? n (cs ++ ds) = none := by
  induction cs generalizing n with
  | nil => exact absurd rfl nonempty
  | cons c cs ih =>
    obtain ⟨shown, unescaped'⟩ := eq_false_of_countP_tails_eq unescaped
    obtain ⟨outer, tagless'⟩ := eq_false_of_countP_tails_eq tagless
    by_cases slash : c = '\\'
    · subst slash
      rw [List.cons_append, bracket?]
      cases cs with
      | cons d cs => exact ih unescaped' tagless' ends (List.cons_ne_nil d cs)
      | nil =>
        cases found : bracket? (n + 1) ds with
        | none => exact found
        | some r =>
          obtain ⟨x, rest⟩ := r
          obtain ⟨k, body, -, tag, text⟩ := exists_of_bracket? found
          have bare := ends rfl
          rw [text, escapeCount_bracket (not_mem_of_tag? tag)] at bare
          cases k with
          | zero =>
            rw [text] at shown
            simp [escapesBracket] at shown
          | succ k => simp at bare
    · by_cases opening : c = '['
      · subst opening
        rw [opensTag, decide_eq_true rfl, Bool.true_and, Option.isSome_eq_false_iff] at outer
        rw [List.cons_append, bracket?, Option.isNone_iff_eq_none.mp outer]
        rfl
      · exact bracket?_cons_of_ne slash opening

/-- Such a text is rendered as it is, whatever comes behind it. -/
theorem renderFrom_append_of_count : renderFrom opened position (parts (cs ++ ds)) =
    (renderFrom opened (position + cs.length) (parts ds)).map (cs ++ ·) := by
  induction cs generalizing position with
  | nil =>
    change renderFrom opened position (parts ds) = _
    rw [List.length_nil, Nat.add_zero]
    cases renderFrom opened position (parts ds) <;> rfl
  | cons c cs ih =>
    have outside : bracket? 0 (c :: (cs ++ ds)) = none :=
      bracket?_append_eq_none_of_count unescaped tagless ends (List.cons_ne_nil c cs)
    obtain ⟨shown, unescaped'⟩ := eq_false_of_countP_tails_eq unescaped
    obtain ⟨-, tagless'⟩ := eq_false_of_countP_tails_eq tagless
    have ends' : cs.getLast? = some '\\' → escapeCount ds = 0 := fun last ↦ by
      refine ends ?_
      rw [List.getLast?_cons, last, Option.getD_some]
    rw [List.cons_append, parts, next, outside, Option.getD_none, renderFrom_char,
      if_neg (mt (Reads.escapesBracket_iff outside (reads_parts _)).mpr (Bool.eq_false_iff.mp shown)),
      ih unescaped' tagless' ends', List.length_cons, Nat.add_assoc, Nat.add_comm 1]
    cases renderFrom opened (position + (cs.length + 1)) (parts ds) <;> rfl

end Append

/-- A tag is taken where it stands, if no backslash comes before it. -/
theorem renderFrom_tag (tag : tag? cs = some (body, rest)) :
    renderFrom opened position (parts ('[' :: cs)) =
      (applyTag opened position body >>= fun opened' ↦
        renderFrom opened' (position + body.length + 2) (parts rest)) := by
  rw [parts, next, bracket?, tag]
  change renderFrom opened position (.bracket 0 body :: parts rest) = _
  rw [renderFrom]
  cases applyTag opened position body with
  | error e => rfl
  | ok opened' =>
    change (renderFrom opened' (position + 0 + body.length + 2) (parts rest) >>= fun out ↦
      Except.ok out) = renderFrom opened' (position + body.length + 2) (parts rest)
    cases renderFrom opened' (position + body.length + 2) (parts rest) <;> rfl

/-- A literal text is rendered as it is. -/
theorem renderFrom_of_count (unescaped : escapeCount cs = 0) (tagless : tagCount cs = 0) :
    renderFrom opened position (parts cs) = .ok cs := by
  have whole : renderFrom opened position (parts (cs ++ [])) = _ :=
    renderFrom_append_of_count (by rwa [List.append_nil]) (by rwa [List.append_nil]) fun _ ↦ rfl
  rw [parts_nil, renderFrom, List.append_nil] at whole
  exact whole.trans (congrArg Except.ok (List.append_nil cs))

/-! ## Fixed wording -/

/-- Whether a character is shown wherever it stands and has no part in markup. -/
def isInert (c : Char) : Bool := c ≠ '[' && c ≠ ']' && c ≠ '\\' && !isStripped c

/-- A text of such characters. -/
def Inert (cs : List Char) : Prop := cs.all isInert = true

instance (cs : List Char) : Decidable (Inert cs) := inferInstanceAs (Decidable (_ = true))

namespace Inert

theorem append (hc : Inert cs) (hd : Inert ds) : Inert (cs ++ ds) := by
  rw [Inert, List.all_append, hc, hd]
  rfl

theorem of_cons (h : Inert (c :: cs)) : Inert cs :=
  (Bool.and_eq_true_iff.mp h).2

variable (h : Inert ds)

include h

theorem not_mem (bad : isInert c = false) : c ∉ ds := fun member ↦
  absurd (List.all_eq_true.mp h c member) (by rw [bad]; decide)

theorem visible : ∀ c ∈ ds, isStripped c = false := by
  intro c member
  have inert := List.all_eq_true.mp h c member
  simp only [isInert, Bool.and_eq_true, Bool.not_eq_true'] at inert
  exact inert.2

theorem closes_eq_false : closes ds = false := by
  refine decide_eq_false fun closing ↦ ?_
  refine h.not_mem (c := ']') rfl ?_
  exact (List.dropWhile_suffix _).subset (List.mem_of_mem_head? closing)

theorem tag?_eq_none : tag? ds = none := by
  have closed := h.closes_eq_false
  cases ds with
  | nil => rfl
  | cons c cs =>
    have inner : closes cs = false := (of_cons h).closes_eq_false
    refine Option.isNone_iff_eq_none.mp (Option.isSome_eq_false_iff.mp ?_)
    rw [isSome_tag?_cons, inner, Bool.and_false]

theorem getLast?_ne : ds.getLast? ≠ some '\\' := fun last ↦
  h.not_mem rfl (List.mem_of_getLast? last)

theorem escapeCount_eq_zero : escapeCount ds = 0 :=
  escapeCount_of_not_mem (h.not_mem rfl)

theorem tagCount_eq_zero : tagCount ds = 0 := by
  have none := tagCount_append_of_not_mem (h.not_mem (c := '[') rfl) []
  rwa [List.append_nil] at none

/-- A text is as literal as it is with fixed wording before it. -/
theorem isLiteral_append_iff : IsLiteral (ds ++ cs) ↔ IsLiteral cs := by
  rw [isLiteral_iff, isLiteral_iff, tagCount_append_of_not_mem (h.not_mem rfl),
    escapeCount_append h.getLast?_ne, h.escapeCount_eq_zero, Nat.zero_add, List.forall_mem_append]
  exact and_congr_right fun _ ↦ and_congr_right fun _ ↦ and_iff_right h.visible

/-- A text is as literal as it is with fixed wording behind it. -/
theorem append_isLiteral_iff : IsLiteral (cs ++ ds) ↔ IsLiteral cs := by
  have escapes : escapeCount (cs ++ ds) = escapeCount cs := by
    cases ds with
    | nil => rw [List.append_nil]
    | cons d ds =>
      rw [escapeCount_append_cons, h.escapeCount_eq_zero, if_neg, Nat.add_zero]
      rintro ⟨-, rfl⟩
      exact h.not_mem rfl List.mem_cons_self
  have tags : tagCount (cs ++ ds) = tagCount cs := by
    rw [tagCount_append h.closes_eq_false h.tag?_eq_none, h.tagCount_eq_zero, Nat.add_zero]
  rw [isLiteral_iff, isLiteral_iff, tags, escapes, List.forall_mem_append]
  exact and_congr_right fun _ ↦ and_congr_right fun _ ↦ and_iff_left h.visible

theorem isLiteral : IsLiteral ds := by
  have whole : IsLiteral (ds ++ []) := h.isLiteral_append_iff.mpr (by decide)
  rwa [List.append_nil] at whole

/-- A backslash ends a text with fixed wording before it exactly if it ends the text. -/
theorem getLast?_append_iff : (ds ++ cs).getLast? = some '\\' ↔ cs.getLast? = some '\\' := by
  rw [List.getLast?_append]
  cases cs.getLast? with
  | none => exact ⟨fun last ↦ absurd last h.getLast?_ne, nofun⟩
  | some c => rfl

/-- No backslash ends a text that ends in fixed wording. -/
theorem getLast?_append_ne (present : ds ≠ []) : (cs ++ ds).getLast? ≠ some '\\' := by
  rw [List.getLast?_append_of_ne_nil cs present]
  exact h.getLast?_ne

end Inert

/-! ## What is left of a text -/

section Rendered

variable {s t : String}

/-- A text is rendered as what is left of its parts without controls. -/
theorem render_eq_ok_iff : render s = .ok t ↔ ∃ out,
    renderFrom [] 0 (parts s.toList) = .ok out ∧ out.filter (fun c ↦ !isStripped c) = t.toList := by
  rw [render, map_eq_ok_iff]
  refine exists_congr fun out ↦ and_congr_right fun _ ↦ ?_
  rw [← String.toList_inj, String.toList_ofList]

/-- Where no control comes of the parts they are rendered in full. -/
theorem render_of_visible (rendered : renderFrom [] 0 (parts s.toList) = .ok t.toList)
    (visible : ∀ c ∈ t.toList, isStripped c = false) : render s = .ok t := by
  refine render_eq_ok_iff.mpr ⟨t.toList, rendered, List.filter_eq_self.mpr fun c member ↦ ?_⟩
  rw [visible c member]
  rfl

theorem visible_of_filter (left : out.filter (fun c ↦ !isStripped c) = cs) :
    ∀ c ∈ cs, isStripped c = false := by
  intro c member
  rw [← left] at member
  simpa only [Bool.not_eq_true'] using List.of_mem_filter member

/-- What is no control is left as often as it was. -/
theorem count_of_filter (left : out.filter (fun c ↦ !isStripped c) = cs)
    (visible : isStripped c = false) : out.count c = cs.count c := by
  rw [← left, List.count_filter]
  rw [visible]
  rfl

end Rendered

/-! ## Texts in a style -/

section Styled

variable {s : String} {before tag inside after : List Char}

theorem slash_not_mem_of_mem_styles (h : tag ∈ styles) : '\\' ∉ tag := by
  have free : ∀ tag ∈ styles, '\\' ∉ tag := by decide
  exact free tag h

/-- The text of a message in which a style stands for a part of it. -/
def styled (before tag inside after : List Char) : List Char :=
  before ++ '[' :: (tag ++ ']' :: (inside ++ '[' :: '/' :: ']' :: after))

theorem tagCount_styled (style : IsStyle tag) (plain : '[' ∉ before) :
    tagCount (styled before tag inside after) = tagCount inside + tagCount after + 2 := by
  rw [styled, tagCount_append_of_not_mem plain, tagCount_of_tag? (style.read _),
    tagCount_append rfl rfl, tagCount_of_tag? (tag?_close after)]
  omega

theorem escapeCount_styled (style : tag ∈ styles) (free : '\\' ∉ before) :
    escapeCount (styled before tag inside after) = escapeCount inside + escapeCount after +
      if inside.getLast? = some '\\' then 1 else 0 := by
  have ends : before.getLast? ≠ some '\\' := fun last ↦ free (List.mem_of_getLast? last)
  rw [styled, escapeCount_append ends, escapeCount_of_not_mem free,
    escapeCount_cons_of_ne (by decide), escapeCount_append_cons,
    escapeCount_of_not_mem (slash_not_mem_of_mem_styles style),
    if_neg (mt And.right (by decide)), escapeCount_cons_of_ne (by decide),
    escapeCount_append_cons, escapeCount_cons_of_ne (by decide),
    escapeCount_cons_of_ne (by decide), escapeCount_cons_of_ne (by decide)]
  simp only [and_true, Nat.zero_add, Nat.add_zero]

/-- If all backslashes and opening brackets of the texts are left, none was read as markup but those of
the style. -/
theorem counts_of_renderFrom_styled (style : tag ∈ styles)
    (rendered : renderFrom [] 0 (parts (styled before tag inside after)) = .ok out)
    (slashes : out.count '\\' = (before ++ (inside ++ after)).count '\\')
    (openings : out.count '[' = (before ++ (inside ++ after)).count '[') :
    escapeCount (styled before tag inside after) = 0 ∧
      tagCount (styled before tag inside after) = 2 := by
  have reads := reads_parts (styled before tag inside after)
  have unescaped : escapeCount (styled before tag inside after) = 0 := by
    have kept := reads.count_add_escapeCount_le rendered
    have held : (styled before tag inside after).count '\\' =
        (before ++ (inside ++ after)).count '\\' := by
      simp [styled, List.count_eq_zero_of_not_mem (slash_not_mem_of_mem_styles style)]
    omega
  have kept := reads.count_add_tagCount_eq unescaped rendered
  have read := (isStyle_of_mem style).read []
  have held : (styled before tag inside after).count '[' =
      (before ++ (inside ++ after)).count '[' + 2 := by
    simp [styled, List.count_eq_zero_of_not_mem (not_mem_of_tag? read)]
    omega
  exact ⟨unescaped, by omega⟩

variable (style : tag ∈ styles) (plain : '[' ∉ before) (free : '\\' ∉ before)

include style plain free

/-- A style is opened behind a text without tags, whatever stands in it. -/
theorem renderFrom_open_style
    (within : ∀ position, renderFrom [⟨tag, []⟩] position (parts rest) = .ok out) :
    renderFrom [] 0 (parts (before ++ '[' :: (tag ++ ']' :: rest))) = .ok (before ++ out) := by
  have isStyle := isStyle_of_mem style
  have ends : before.getLast? ≠ some '\\' := fun last ↦ free (List.mem_of_getLast? last)
  rw [renderFrom_append_of_count, renderFrom_tag (isStyle.read rest), isStyle.opens]
  · exact congrArg (Except.map (before ++ ·)) (within _)
  · rw [escapeCount_append ends, escapeCount_of_not_mem free, Nat.zero_add]
  · exact tagCount_append_of_not_mem plain _
  · exact fun last ↦ absurd last ends

/-- Literal texts around and inside of a style are rendered as they are, the tags of the style are
not. -/
theorem renderFrom_styled (literal : IsLiteral inside) (ends : inside.getLast? ≠ some '\\')
    (literal' : IsLiteral after) :
    renderFrom [] 0 (parts (styled before tag inside after)) = .ok (before ++ (inside ++ after)) := by
  obtain ⟨tagless, unescaped, -⟩ := isLiteral_iff.mp literal
  obtain ⟨tagless', unescaped', -⟩ := isLiteral_iff.mp literal'
  refine renderFrom_open_style style plain free fun position ↦ ?_
  rw [renderFrom_append_of_count, renderFrom_tag (tag?_close after),
    (isStyle_of_mem style).applyTag_close]
  · change Except.map (inside ++ ·) (renderFrom [] _ (parts after)) = _
    rw [renderFrom_of_count unescaped' tagless']
    rfl
  · rw [escapeCount_append ends, unescaped, Nat.zero_add]
  · rw [tagCount_append rfl rfl, tagless, Nat.zero_add]
  · exact fun last ↦ absurd last ends

/-- A message with a style in it shows its texts as they are exactly if they are literal and no
backslash comes before the closing tag. -/
theorem render_styled_iff (visible : ∀ c ∈ before, isStripped c = false)
    (text : s.toList = styled before tag inside after) :
    render s = .ok (String.ofList (before ++ (inside ++ after))) ↔
      IsLiteral inside ∧ inside.getLast? ≠ some '\\' ∧ IsLiteral after := by
  constructor
  · intro shown
    obtain ⟨out, rendered, left⟩ := render_eq_ok_iff.mp shown
    rw [text] at rendered
    rw [String.toList_ofList] at left
    -- Neither character that is counted is a control.
    obtain ⟨unescaped, tagged⟩ := counts_of_renderFrom_styled style rendered
      (count_of_filter left (by decide)) (count_of_filter left (by decide))
    rw [tagCount_styled (isStyle_of_mem style) plain] at tagged
    rw [escapeCount_styled style free] at unescaped
    have visible' := visible_of_filter left
    simp only [List.forall_mem_append] at visible'
    refine ⟨isLiteral_iff.mpr ⟨by omega, by omega, visible'.2.1⟩, fun last ↦ ?_,
      isLiteral_iff.mpr ⟨by omega, by omega, visible'.2.2⟩⟩
    rw [if_pos last] at unescaped
    omega
  · rintro ⟨literal, ends, literal'⟩
    refine render_of_visible ?_ ?_
    · rw [text, String.toList_ofList]
      exact renderFrom_styled style plain free literal ends literal'
    · simp only [String.toList_ofList, List.forall_mem_append]
      exact ⟨visible, literal.visible, literal'.visible⟩

end Styled

end EnumTables.Markup
