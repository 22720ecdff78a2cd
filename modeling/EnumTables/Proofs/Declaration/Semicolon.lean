import EnumTables.Proofs.Declaration.Lexeme

/-!
# The end of the value section

A value section ends at the first semicolon of the text, even where that stands inside a quoted text
or a comment.  Main statement: where it stands outside of them the section ends at the first
semicolon among the tokens, and the declaration is read from the tokens before it.
-/

namespace EnumTables

/-- Whether a token is a semicolon by itself. -/
def Token.isSemicolon (t : Token) : Bool := t.kind = .other && t.text = ";"

@[simp] theorem Token.isSemicolon_mk (position : Nat) :
    isSemicolon ⟨.other, ";", position⟩ = true := rfl

/-- The tokens before the first semicolon among them, if there is one. -/
def beforeSemicolon? (ts : List Token) : Option (List Token) :=
  if ts.any Token.isSemicolon then some (ts.takeWhile fun t ↦ !t.isSemicolon) else none

/-- The first semicolon of a text, if there is one, is a token by itself, hence not a part of a
quoted text or of a comment. -/
def SemicolonStandsFree (cs : List Char) : Prop :=
  ∀ body ∈ Declaration.valueSection? cs, ⟨.other, ";", body.length⟩ ∈ tokens cs

instance instDecidableSemicolonStandsFree (cs : List Char) : Decidable (SemicolonStandsFree cs) :=
  inferInstanceAs (Decidable (∀ body ∈ Declaration.valueSection? cs, _))

/-! ## Tokens and the lexemes that they were -/

theorem place_append (position : Nat) (xs ys : List Lexeme) :
    place position (xs ++ ys) =
      place position xs ++ place (position + (xs.flatMap Lexeme.spelling).length) ys := by
  induction xs generalizing position with
  | nil => rfl
  | cons x xs ih =>
    rw [List.cons_append, List.flatMap_cons, List.length_append, ← Nat.add_assoc]
    cases h : x.token? with
    | none => simp only [place, h, ih]
    | some r => simp only [place, h, ih, List.cons_append]

/-- A token among placed lexemes is one of them, in its place. -/
theorem exists_of_mem_place {position : Nat} {xs : List Lexeme} {t : Token}
    (h : t ∈ place position xs) :
    ∃ ys x zs chars, xs = ys ++ x :: zs ∧ x.token? = some (t.kind, chars) ∧
      t.text = String.ofList chars ∧
      t.position = position + (ys.flatMap Lexeme.spelling).length := by
  induction xs generalizing position with
  | nil => nomatch h
  | cons x xs ih =>
    have later (h : t ∈ place (position + x.spelling.length) xs) :
        ∃ ys y zs chars, x :: xs = ys ++ y :: zs ∧ y.token? = some (t.kind, chars) ∧
          t.text = String.ofList chars ∧
          t.position = position + (ys.flatMap Lexeme.spelling).length := by
      obtain ⟨ys, y, zs, chars, rfl, token, text, place⟩ := ih h
      refine ⟨x :: ys, y, zs, chars, rfl, token, text, ?_⟩
      rw [place, List.flatMap_cons, List.length_append, Nat.add_assoc]
    cases token : x.token? with
    | none =>
      simp only [place, token] at h
      exact later h
    | some r =>
      simp only [place, token, List.mem_cons] at h
      rcases h with rfl | h
      · exact ⟨[], x, xs, r.2, rfl, token, rfl, rfl⟩
      · exact later h

/-- A semicolon by itself was read from a semicolon. -/
theorem eq_other_of_isSemicolon {x : Lexeme} {t : Token} {chars : List Char}
    (token : x.token? = some (t.kind, chars)) (text : t.text = String.ofList chars)
    (h : t.isSemicolon = true) : x = .other ';' := by
  simp only [Token.isSemicolon, Bool.and_eq_true, decide_eq_true_eq] at h
  obtain ⟨kind, semicolon⟩ := h
  have spelled : chars = [';'] := by
    rw [semicolon] at text
    exact (String.ofList_injective text).symm
  cases x with
  | other c =>
    obtain ⟨-, rfl⟩ := Prod.mk.inj (Option.some.inj token)
    rw [(List.cons.inj spelled).1]
  | _ => simp_all [Lexeme.token?]

/-- Where no semicolon stands none is a token. -/
theorem isSemicolon_eq_false_of_mem_tokens {cs : List Char} (h : ';' ∉ cs) :
    ∀ t ∈ tokens cs, t.isSemicolon = false := by
  intro t ht
  refine Bool.eq_false_iff.mpr fun semicolon ↦ h ?_
  obtain ⟨ys, x, zs, chars, split, token, text, -⟩ := exists_of_mem_place ht
  obtain rfl := eq_other_of_isSemicolon token text semicolon
  rw [← flatMap_spelling_lexemes cs, split]
  simp [Lexeme.spelling]

/-! ## The first semicolon -/

/-- The tokens of a text up to its first semicolon are those of the part before it, if the semicolon
stands free. -/
theorem tokens_of_semicolonStandsFree {body rest : List Char}
    (free : ⟨.other, ";", body.length⟩ ∈ tokens (body ++ ';' :: rest)) :
    ∃ more, tokens (body ++ ';' :: rest) = tokens body ++ ⟨.other, ";", body.length⟩ :: more := by
  obtain ⟨xs, x, ys, chars, split, token, text, position⟩ := exists_of_mem_place free
  obtain rfl := eq_other_of_isSemicolon token text (Token.isSemicolon_mk _)
  -- the lexemes before the semicolon spell what stands before it
  have spelled : xs.flatMap Lexeme.spelling = body := by
    have whole := flatMap_spelling_lexemes (body ++ ';' :: rest)
    rw [split, List.flatMap_append] at whole
    refine (List.append_inj whole ?_).1
    simpa using position.symm
  rw [tokens, tokens, lexemes_of_cut split spelled, split, place_append, spelled, Nat.zero_add]
  exact ⟨_, rfl⟩

theorem beforeSemicolon?_append {ts us : List Token} {s : Token} (h : s.isSemicolon = true)
    (first : ∀ t ∈ ts, t.isSemicolon = false) : beforeSemicolon? (ts ++ s :: us) = some ts := by
  have inside : ∀ t ∈ ts, (!t.isSemicolon) = true := fun t ht ↦ by simp [first t ht]
  rw [beforeSemicolon?, if_pos (by simp [h]), List.takeWhile_append_of_pos inside,
    List.takeWhile_cons_of_neg (by simp [h]), List.append_nil]

theorem beforeSemicolon?_eq_none {ts : List Token} (h : ∀ t ∈ ts, t.isSemicolon = false) :
    beforeSemicolon? ts = none := by
  rw [beforeSemicolon?, if_neg]
  simpa using h

namespace Declaration

/-- The tokens of the value section are those before the first semicolon among the tokens, if the
first semicolon of the text stands free. -/
theorem map_tokens_valueSection? {cs : List Char} (free : SemicolonStandsFree cs) :
    (valueSection? cs).map tokens = beforeSemicolon? (tokens cs) := by
  cases h : valueSection? cs with
  | none =>
    have none_free := isSemicolon_eq_false_of_mem_tokens (valueSection?_eq_none_iff.mp h)
    rw [beforeSemicolon?_eq_none none_free]
    rfl
  | some body =>
    have free := free body h
    obtain ⟨inside, rest, rfl⟩ := valueSection?_eq_some_iff.mp h
    obtain ⟨more, split⟩ := tokens_of_semicolonStandsFree free
    rw [split, beforeSemicolon?_append (Token.isSemicolon_mk _)
      (isSemicolon_eq_false_of_mem_tokens inside)]
    rfl

/-- If the first semicolon behind the header stands outside all quoted texts and comments, the
declaration is read from the tokens before the first semicolon among them; without such a semicolon
there is none. -/
theorem parse?_of_semicolonStandsFree {source : String} {name rest : List Char}
    (found : findHeader? false source.toList = some (name, rest))
    (free : SemicolonStandsFree rest) :
    parse? source = (beforeSemicolon? (tokens rest)).map fun ts ↦
      (ofTokens (String.ofList name) ts).toDeclaration := by
  rw [← map_tokens_valueSection? free, parse?, read?, found, Option.map_map]
  change Option.map _ (valueSection? rest >>= fun cs ↦ some _) = _
  cases valueSection? rest <;> rfl

/-- A declaration whose first semicolon stands free, with another one in the comment behind it. -/
theorem parse?_label_after_semicolon :
    let source := "enum E \x7b A(1, \"x\"); \x7d // y;"
    let rest := " \x7b A(1, \"x\"); \x7d // y;".toList
    findHeader? false source.toList = some (['E'], rest) ∧ SemicolonStandsFree rest ∧
      parse? source = (beforeSemicolon? (tokens rest)).map fun ts ↦
        (ofTokens (String.ofList ['E']) ts).toDeclaration := by
  intro source rest
  have found : findHeader? false source.toList = some (['E'], rest) := by decide +kernel
  have free : SemicolonStandsFree rest := by decide +kernel
  exact ⟨found, free, parse?_of_semicolonStandsFree found free⟩

/-- A semicolon in a label ends the section nevertheless. -/
theorem parse?_semicolon_in_label : ¬ ∀ (source : String) (name rest : List Char),
    findHeader? false source.toList = some (name, rest) →
    parse? source = (beforeSemicolon? (tokens rest)).map fun ts ↦
      (ofTokens (String.ofList name) ts).toDeclaration := by
  intro claim
  have found : findHeader? false "enum E \x7b A(1, \"x;y\"), B(2); \x7d".toList =
      some (['E'], " \x7b A(1, \"x;y\"), B(2); \x7d".toList) := by decide +kernel
  have read : parse? "enum E \x7b A(1, \"x;y\"), B(2); \x7d" = some ⟨"E", [["A", "0"]]⟩ := by
    decide +kernel
  have expected : (beforeSemicolon? (tokens " \x7b A(1, \"x;y\"), B(2); \x7d".toList)).map
      (fun ts ↦ (ofTokens (String.ofList ['E']) ts).toDeclaration) =
      some ⟨"E", [["A", "1", "x;y"], ["B", "2"]]⟩ := by decide +kernel
  have same := claim _ _ _ found
  rw [read, expected] at same
  exact absurd same (by decide)

end Declaration

end EnumTables
