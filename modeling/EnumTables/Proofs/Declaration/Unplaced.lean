import EnumTables.Proofs.Declaration.Scan
import EnumTables.Proofs.Lists

/-!
# Tokens without their places

The scan of a value section looks at the kinds and the texts of tokens and never at the places where
they stand.  So it may be followed on tokens whose places are forgotten, and these are read off the
lexemes of a text one by one.
-/

namespace EnumTables

namespace Token

/-- A token as if nothing stood before it. -/
def unplaced (t : Token) : Token := { t with position := 0 }

@[simp] theorem kind_unplaced (t : Token) : t.unplaced.kind = t.kind := rfl

@[simp] theorem text_unplaced (t : Token) : t.unplaced.text = t.text := rfl

@[simp] theorem isConstant_unplaced (t : Token) : t.unplaced.isConstant = t.isConstant := rfl

@[simp] theorem isLiteral_unplaced (t : Token) : t.unplaced.isLiteral = t.isLiteral := rfl

end Token

/-! ## The scan -/

@[simp] theorem opensArguments_map_unplaced (ts : List Token) :
    opensArguments (ts.map Token.unplaced) = opensArguments ts := by
  rcases ts with _ | ⟨name, _ | ⟨paren, rest⟩⟩ <;> rfl

theorem literals?_map_unplaced (ts : List Token) :
    literals? (ts.map Token.unplaced) =
      (literals? ts).map fun (xs, rest) ↦ (xs, rest.map Token.unplaced) := by
  fun_induction literals? ts with
  | case1 t mark rest h => simp_all [literals?]
  | case2 t mark rest h hm => simp_all [literals?]
  | case3 t mark rest h hm hc ih =>
    simp_all only [List.map_cons, literals?, Token.isLiteral_unplaced, Token.kind_unplaced,
      Token.text_unplaced, Option.map_map]
    rfl
  | case4 t mark rest h hm hc => simp_all [literals?]
  | case5 ts h =>
    rcases ts with _ | ⟨t, _ | ⟨mark, rest⟩⟩
    · rfl
    · rfl
    · exact (h t mark rest rfl).elim

theorem entry_map_unplaced (ts : List Token) :
    entryOf? (ts.map Token.unplaced) =
      Option.map (fun (v, rest) ↦ (v, rest.map Token.unplaced)) (entryOf? ts) := by
  rcases ts with _ | ⟨name, _ | ⟨paren, rest⟩⟩
  · rfl
  · rfl
  · have opens := opensArguments_map_unplaced (name :: paren :: rest)
    simp only [List.map_cons] at opens ⊢
    simp only [entryOf?, opens, literals?_map_unplaced, Token.text_unplaced]
    split
    · rw [Option.map_map, Option.map_map]
      rfl
    · rfl

@[simp] theorem findings_map_unplaced (ts : List Token) :
    findings (ts.map Token.unplaced) = findings ts := by
  fun_induction findings ts with
  | case1 => rw [List.map_nil, findings]
  | case2 t ts v rest h ih =>
    have found := entry_map_unplaced (t :: ts)
    rw [h, Option.map_some] at found
    rw [findings_of_entry found, ih]
  | case3 t ts h opens ih | case4 t ts h opens ih =>
    have found := entry_map_unplaced (t :: ts)
    rw [h, Option.map_none] at found
    have opens' := opensArguments_map_unplaced (t :: ts)
    rw [List.map_cons] at found opens' ⊢
    rw [findings_cons_of_entry_eq_none found, opens', ih]
    simp [opens]

@[simp] theorem hasArguments_map_unplaced (ts : List Token) :
    hasArguments (ts.map Token.unplaced) = hasArguments ts := by
  induction ts with
  | nil => rfl
  | cons t ts ih =>
    have opens := opensArguments_map_unplaced (t :: ts)
    rw [List.map_cons] at opens
    have closes : (List.map Token.unplaced ts).drop 1 = (ts.drop 1).map Token.unplaced :=
      List.map_drop.symm
    simp only [List.map_cons, hasArguments, opens, closes, ih, List.any_map]
    rfl

@[simp] theorem bareEntries_map_unplaced (ts : List Token) :
    bareEntries (ts.map Token.unplaced) = bareEntries ts := by
  simp only [bareEntries, List.filter_map, List.map_map]
  rfl

/-- The reading of a value section does not depend on where its tokens stand. -/
theorem Declaration.ofTokens_map_unplaced (name : String) (ts : List Token) :
    ofTokens name (ts.map Token.unplaced) = ofTokens name ts := by
  simp [ofTokens, entries]

/-! ## Tokens of a text -/

/-- The token that a lexeme is, if it is one, without its place. -/
def Lexeme.unplaced? (x : Lexeme) : Option Token :=
  x.token?.map fun (kind, text) ↦ ⟨kind, String.ofList text, 0⟩

theorem map_unplaced_place (position : Nat) (xs : List Lexeme) :
    (place position xs).map Token.unplaced = xs.filterMap Lexeme.unplaced? := by
  induction xs generalizing position with
  | nil => rfl
  | cons x xs ih =>
    cases h : x.token? with
    | none => simp [place, h, ih, Lexeme.unplaced?]
    | some r => simp [place, h, ih, Lexeme.unplaced?, Token.unplaced]

/-- The tokens of a text without their places. -/
def content (cs : List Char) : List Token := (lexemes cs).filterMap Lexeme.unplaced?

@[simp] theorem content_nil : content [] = [] := by simp [content]

/-- The tokens of a text are that of its first lexeme, if it is one, and those of what follows. -/
theorem content_of_lexemes {cs ds : List Char} {x : Lexeme} (h : lexemes cs = x :: lexemes ds) :
    content cs = x.unplaced?.toList ++ content ds := by
  rw [content, h, filterMap_cons_eq_append, content]

/-- Up to their places the tokens of a text are those of its lexemes. -/
theorem map_unplaced_tokens (cs : List Char) : (tokens cs).map Token.unplaced = content cs :=
  map_unplaced_place 0 (lexemes cs)

/-- The reading of a text is that of its lexemes. -/
theorem Declaration.ofTokens_tokens (name : String) (cs : List Char) :
    ofTokens name (tokens cs) = ofTokens name (content cs) := by
  rw [← map_unplaced_tokens, ofTokens_map_unplaced]

end EnumTables
