import EnumTables.Proofs.Declaration.Lexeme

/-!
# What tokens cover

The tokens of a text stand apart in it, each spelled in its place, and what is between them is
blanks and complete comments.  Main statement: from the first character to the last a text is such
gaps and the spellings of its tokens in turn, so that nothing else is passed over and no part of a
token is taken for a comment.
-/

namespace EnumTables

/-! ## Gaps and spans -/

/-- Blanks and complete comments one after the other, with the text `after` behind them.  A comment
of two slashes ends where the next line or nothing more begins, every other one with the first star
and slash. -/
inductive IsGap (after : List Char) : List Char → Prop
  | nil : IsGap after []
  | blank {c : Char} {gap : List Char} (isBlank : Text.isBlank c = true) (more : IsGap after gap) :
    IsGap after (c :: gap)
  | lineComment {body gap : List Char} (oneLine : '\n' ∉ body)
    (ends : ∀ c ∈ (gap ++ after).head?, c = '\n') (more : IsGap after gap) :
    IsGap after ('/' :: '/' :: (body ++ gap))
  | blockComment {body gap : List Char} (unclosed : ¬ ['*', '/'] <:+: body)
    (more : IsGap after gap) : IsGap after ('/' :: '*' :: (body ++ '*' :: '/' :: gap))

namespace Token

/-- The token is spelled so: a string stands between two equal marks, every other token is its
text. -/
inductive IsSpan : Token → List Char → Prop
  | quoted {text : String} {position : Nat} {mark : Char} (quote : mark = '"' ∨ mark = '\'') :
    IsSpan ⟨.string, text, position⟩ (mark :: (text.toList ++ [mark]))
  | plain {kind : TokenKind} {text : String} {position : Nat} (other : kind ≠ .string)
    (some : text.toList ≠ []) : IsSpan ⟨kind, text, position⟩ text.toList

/-- The number of characters that a token is spelled with. -/
def width (t : Token) : Nat := t.text.length + if t.kind = .string then 2 else 0

end Token

/-- A text that begins after `position` characters is the spellings of tokens, each in its place,
with gaps around them. -/
inductive Covers : Nat → List Token → List Char → Prop
  | nil {position : Nat} {gap : List Char} (last : IsGap [] gap) : Covers position [] gap
  | cons {position : Nat} {t : Token} {ts : List Token} {gap span rest : List Char}
    (before : IsGap (span ++ rest) gap) (placed : t.position = position + gap.length)
    (spelled : t.IsSpan span) (more : Covers (t.position + span.length) ts rest) :
    Covers position (t :: ts) (gap ++ (span ++ rest))

/-! ## Gaps and spans of a covered text -/

section Places

variable {t : Token} {ts : List Token} {cs span rest after gap gap' : List Char} {position : Nat}

namespace Token

theorem IsSpan.length_eq (h : t.IsSpan span) : span.length = t.width := by
  cases h with
  | quoted quote => simp [width, String.length_toList]
  | plain other some => simp [width, other, String.length_toList]

theorem IsSpan.width_pos (h : t.IsSpan span) : 0 < t.width := by
  rw [← h.length_eq]
  cases h with
  | quoted quote => exact Nat.succ_pos _
  | plain other some => exact List.length_pos_iff.mpr some

end Token

namespace IsGap

/-- Gaps that follow each other are one. -/
theorem append (h : IsGap (gap' ++ after) gap) (h' : IsGap after gap') :
    IsGap after (gap ++ gap') := by
  induction h with
  | nil => exact h'
  | blank isBlank _ ih => exact .blank isBlank ih
  | @lineComment body gap oneLine ends _ ih =>
    rw [List.cons_append, List.cons_append, List.append_assoc]
    refine .lineComment oneLine ?_ ih
    rwa [List.append_assoc]
  | @blockComment body gap unclosed _ ih =>
    rw [List.cons_append, List.cons_append, List.append_assoc, List.cons_append, List.cons_append]
    exact .blockComment unclosed ih

/-- A run of blanks is a gap. -/
theorem blanks (inside : ∀ c ∈ gap, Text.isBlank c = true) : IsGap after gap := by
  induction gap with
  | nil => exact .nil
  | cons c gap ih =>
    obtain ⟨first, rest⟩ := List.forall_mem_cons.mp inside
    exact .blank first (ih rest)

end IsGap

namespace Covers

/-- A gap in front of a covered text belongs to the gap at its beginning. -/
theorem gap_append (h : Covers (position + gap.length) ts rest) (front : IsGap rest gap) :
    Covers position ts (gap ++ rest) := by
  cases h with
  | nil last =>
    refine .nil (IsGap.append ?_ last)
    rwa [List.append_nil]
  | @cons _ t ts gap' span rest before placed spelled more =>
    rw [← List.append_assoc]
    refine .cons (front.append before) ?_ spelled more
    rw [placed, List.length_append, Nat.add_assoc]

/-- The tokens begin in the text, and none of them before another one has ended. -/
theorem positions (h : Covers position ts cs) :
    (∀ t ∈ ts, position ≤ t.position) ∧
      ts.Pairwise fun t u ↦ t.position < u.position ∧ t.position + t.width ≤ u.position := by
  induction h with
  | nil last => exact ⟨nofun, .nil⟩
  | @cons position t ts gap span rest before placed spelled more ih =>
    obtain ⟨later, apart⟩ := ih
    have wide := spelled.width_pos
    rw [spelled.length_eq] at later
    refine ⟨List.forall_mem_cons.mpr ⟨by omega, fun u member ↦ ?_⟩, .cons (fun u member ↦ ?_) apart⟩
    · have behind := later u member
      omega
    · have behind := later u member
      omega

/-- Each token is spelled in its place. -/
theorem isSpan_take_drop (h : Covers position ts cs) :
    ∀ t ∈ ts, t.IsSpan ((cs.drop (t.position - position)).take t.width) := by
  induction h with
  | nil last => nofun
  | @cons position t ts gap span rest before placed spelled more ih =>
    refine List.forall_mem_cons.mpr ⟨?_, fun u member ↦ ?_⟩
    · rw [placed, Nat.add_sub_cancel_left, List.drop_left, ← spelled.length_eq, List.take_left]
      exact spelled
    · have later := more.positions.1 u member
      have place : u.position - position =
          gap.length + (span.length + (u.position - (t.position + span.length))) := by omega
      rw [place, ← List.drop_drop, List.drop_left, ← List.drop_drop, List.drop_left]
      exact ih u member

end Covers

end Places

/-! ## Lexemes as gaps and spans -/

section Lexemes

variable {x : Lexeme} {rest chars : List Char} {kind : TokenKind}

namespace Lexeme

/-- A lexeme that is no token is a gap before what it can lead. -/
theorem Leads.isGap (h : x.Leads rest) (dropped : x.token? = none) : IsGap rest x.spelling := by
  cases h with
  | @lineComment body _ oneLine ends =>
    have gap : IsGap rest ('/' :: '/' :: (body ++ [])) := .lineComment oneLine ends .nil
    rwa [List.append_nil] at gap
  | blockComment unclosed => exact .blockComment unclosed .nil
  | blank inside ends => exact .blanks inside
  | _ => nomatch dropped

/-- A lexeme that is a token is spelled as the token is. -/
theorem Leads.isSpan (h : x.Leads rest) (kept : x.token? = some (kind, chars)) (position : Nat) :
    Token.IsSpan ⟨kind, String.ofList chars, position⟩ x.spelling := by
  -- All tokens but strings are spelled with the characters of their text.
  have plain {run : List Char} (kept : some (kind, run) = some (kind, chars))
      (other : kind ≠ .string) (some : run ≠ []) :
      Token.IsSpan ⟨kind, String.ofList chars, position⟩ run := by
    obtain ⟨-, rfl⟩ := Prod.mk.inj (Option.some.inj kept)
    have span := @Token.IsSpan.plain kind (String.ofList run) position other
    rw [String.toList_ofList] at span
    exact span some
  cases h with
  | @quoted mark body _ quote inside =>
    obtain ⟨rfl, rfl⟩ := Prod.mk.inj (Option.some.inj kept)
    have span := @Token.IsSpan.quoted (String.ofList body) position mark quote
    rwa [String.toList_ofList] at span
  | lineComment | blockComment | blank => nomatch kept
  | _ =>
    obtain ⟨rfl, -⟩ := Prod.mk.inj (Option.some.inj kept)
    exact plain kept nofun nofun

end Lexeme

/-- The tokens among the lexemes of a text cover it. -/
theorem covers_place {cs : List Char} {xs : List Lexeme} (h : lexemes cs = xs) (position : Nat) :
    Covers position (place position xs) cs := by
  induction xs generalizing cs position with
  | nil =>
    have spelled := flatMap_spelling_lexemes cs
    rw [h] at spelled
    subst spelled
    exact .nil .nil
  | cons x xs ih =>
    obtain ⟨rest, rfl, leads, others⟩ := exists_of_lexemes_eq_cons h
    have more := ih others (position + x.spelling.length)
    cases token : x.token? with
    | none =>
      simp only [place, token]
      exact more.gap_append (leads.isGap token)
    | some r =>
      simp only [place, token]
      have covers : Covers position (⟨r.1, String.ofList r.2, position⟩ :: _)
          ([] ++ (x.spelling ++ rest)) := .cons .nil rfl (leads.isSpan token position) more
      exact covers

end Lexemes

/-- From the first character to the last a text is gaps and the spellings of its tokens in turn.
The tokens stand one behind the other, and each is spelled in its place. -/
theorem tokenize_covers (s : String) :
    Covers 0 (tokenize s) s.toList ∧
    (tokenize s).Pairwise (fun t u ↦
      t.position < u.position ∧ t.position + t.width ≤ u.position) ∧
    ∀ t ∈ tokenize s, t.IsSpan ((s.toList.drop t.position).take t.width) := by
  have covers : Covers 0 (tokenize s) s.toList := covers_place rfl 0
  exact ⟨covers, covers.positions.2, covers.isSpan_take_drop⟩

/-- A mark in a comment, slashes in a string, a number with a point behind it and a comment that ends
with the text. -/
theorem tokenize_covers_comments :
    let s := "/* \" */ \"//x\"1. // end"
    tokenize s = [⟨.string, "//x", 8⟩, ⟨.number, "1", 13⟩, ⟨.other, ".", 14⟩] ∧
      Covers 0 (tokenize s) s.toList ∧
      Token.IsSpan ⟨.string, "//x", 8⟩ ((s.toList.drop 8).take 5) := by
  intro s
  have read : tokenize s = [⟨.string, "//x", 8⟩, ⟨.number, "1", 13⟩, ⟨.other, ".", 14⟩] := by
    decide +kernel
  obtain ⟨covers, -, spans⟩ := tokenize_covers s
  exact ⟨read, covers, spans ⟨.string, "//x", 8⟩ (read ▸ List.mem_cons_self)⟩

end EnumTables
