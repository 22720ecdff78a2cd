import EnumTables.Proofs.Declaration.Unplaced
import EnumTables.Proofs.Lists
import EnumTables.Proofs.Text.Character

/-!
# Layout

What may stand between two tokens of a text without being a token: blanks and complete comments.
Main statement: a sequence of lexemes that can stand apart, written one after the other with any
such filling behind each of them, has exactly the tokens of the lexemes.
-/

namespace EnumTables

/-! ## Characters that end a run -/

/-- A character that can stand in an identifier is one of the printable characters of ASCII. -/
theorem Lexeme.toNat_of_isIdentifierRest {c : Char} (h : Lexeme.isIdentifierRest c = true) :
    0x24 ≤ c.toNat ∧ c.toNat ≤ 0x7A ∧ c.toNat ≠ 0x2F := by
  simp only [isIdentifierRest, isIdentifierStart, Bool.or_eq_true, decide_eq_true_eq,
    Text.isAlpha_iff, Text.isUpper_iff, Text.isLower_iff, Text.isDigit_iff] at h
  rcases h with (((⟨h₁, h₂⟩ | ⟨h₁, h₂⟩) | rfl) | rfl) | ⟨h₁, h₂⟩
  · omega
  · omega
  · decide
  · decide
  · omega

/-- No blank can stand in an identifier. -/
theorem Lexeme.isIdentifierRest_eq_false_of_isBlank {c : Char} (h : Text.isBlank c = true) :
    isIdentifierRest c = false := by
  refine Bool.eq_false_iff.mpr fun hc ↦ ?_
  have bounds := toNat_of_isIdentifierRest hc
  obtain ⟨r, hr, h₁, h₂⟩ := Text.Ranges.holds_iff.mp h
  simp only [Text.blanks, List.mem_cons, List.not_mem_nil, or_false] at hr
  rcases hr with rfl | rfl | rfl | rfl | rfl | rfl | rfl | rfl | rfl | rfl
  all_goals simp only at h₁ h₂
  all_goals omega

/-- A text at whose beginning every identifier and every number ends. -/
def Breaks (cs : List Char) : Prop :=
  ∀ c ∈ cs.head?, Lexeme.isIdentifierRest c = false ∧ c ≠ '.'

theorem breaks_nil : Breaks [] := fun _ h ↦ nomatch h

theorem breaks_cons {c : Char} {cs : List Char} (h : Lexeme.isIdentifierRest c = false)
    (hc : c ≠ '.') : Breaks (c :: cs) := fun d hd ↦ by
  obtain rfl : c = d := by simpa using hd
  exact ⟨h, hc⟩

section Runs

variable {p : Char → Bool} {run rest : List Char}

/-- The characters of a class at the head of a text end where the class does. -/
theorem takeWhile_append_of_boundary (inside : ∀ c ∈ run, p c = true)
    (boundary : ∀ c ∈ rest.head?, p c = false) : (run ++ rest).takeWhile p = run := by
  rw [List.takeWhile_append_of_pos inside]
  cases rest with
  | nil => simp
  | cons c rest => simp [boundary c rfl]

theorem dropWhile_append_of_boundary (inside : ∀ c ∈ run, p c = true)
    (boundary : ∀ c ∈ rest.head?, p c = false) : (run ++ rest).dropWhile p = rest := by
  rw [List.dropWhile_append_of_pos inside]
  cases rest with
  | nil => rfl
  | cons c rest => simp [boundary c rfl]

end Runs

/-! ## Lexemes that read back -/

namespace Lexeme

variable {c : Char} {cs rest : List Char}

theorem next_of_ne_slash (h : c ≠ '/') : next c cs = plain c cs := by
  have comment : comment? (c :: cs) = none := by
    unfold comment?
    split <;> simp_all
  simp [next, comment]

theorem isIdentifierRest_of_isIdentifierStart (h : isIdentifierStart c = true) :
    isIdentifierRest c = true := by simp [isIdentifierRest, h]

theorem isIdentifierRest_of_isDigit (h : c.isDigit = true) : isIdentifierRest c = true := by
  simp [isIdentifierRest, h]

theorem ne_slash_of_isIdentifierRest (h : isIdentifierRest c = true) : c ≠ '/' := by
  rintro rfl
  exact absurd h (by decide)

theorem isBlank_eq_false_of_isIdentifierRest (h : isIdentifierRest c = true) :
    Text.isBlank c = false := by
  refine Bool.eq_false_iff.mpr fun hc ↦ ?_
  rw [isIdentifierRest_eq_false_of_isBlank hc] at h
  exact absurd h (by decide)

theorem isDigit_eq_false_of_isIdentifierStart (h : isIdentifierStart c = true) :
    c.isDigit = false := by
  refine Bool.eq_false_iff.mpr fun digit ↦ ?_
  rw [Text.isDigit_iff] at digit
  simp only [isIdentifierStart, Bool.or_eq_true, decide_eq_true_eq, Text.isAlpha_iff,
    Text.isUpper_iff, Text.isLower_iff] at h
  rcases h with ((⟨h₁, h₂⟩ | ⟨h₁, h₂⟩) | rfl) | rfl
  · omega
  · omega
  · exact absurd digit (by decide)
  · exact absurd digit (by decide)

/-- An identifier is read up to the first character that cannot stand in one. -/
theorem next_identifier (hc : isIdentifierStart c = true)
    (hcs : ∀ d ∈ cs, isIdentifierRest d = true)
    (boundary : ∀ d ∈ rest.head?, isIdentifierRest d = false) :
    next c (cs ++ rest) = (.identifier (c :: cs), rest) := by
  have hrest := isIdentifierRest_of_isIdentifierStart hc
  rw [next_of_ne_slash (ne_slash_of_isIdentifierRest hrest), plain,
    if_neg (by simp [isBlank_eq_false_of_isIdentifierRest hrest]),
    if_neg (by simp [isDigit_eq_false_of_isIdentifierStart hc]), if_pos hc,
    takeWhile_append_of_boundary hcs boundary, dropWhile_append_of_boundary hcs boundary]

/-- A number is read up to the end of its whole part, and the rest of it from there on. -/
theorem next_number (hc : c.isDigit = true) (hcs : ∀ d ∈ cs, d.isDigit = true)
    (boundary : ∀ d ∈ rest.head?, d.isDigit = false) :
    next c (cs ++ rest) = (.number (c :: cs ++ (fraction rest).1), (fraction rest).2) := by
  have hrest := isIdentifierRest_of_isDigit hc
  have inside : ∀ d ∈ c :: cs, d.isDigit = true := List.forall_mem_cons.mpr ⟨hc, hcs⟩
  rw [next_of_ne_slash (ne_slash_of_isIdentifierRest hrest), plain,
    if_neg (by simp [isBlank_eq_false_of_isIdentifierRest hrest]), if_pos hc, ← List.cons_append,
    numberAt, takeWhile_append_of_boundary inside boundary,
    dropWhile_append_of_boundary inside boundary]

theorem isDigit_eq_false_of_breaks (h : Breaks rest) : ∀ d ∈ rest.head?, d.isDigit = false :=
  fun d hd ↦ Bool.eq_false_iff.mpr fun digit ↦ by
    have continues := isIdentifierRest_of_isDigit digit
    rw [(h d hd).1] at continues
    exact absurd continues (by decide)

/-- A point without a digit behind it adds no places to a number. -/
theorem fraction_eq_nil (h : ∀ d more, rest = '.' :: d :: more → d.isDigit = false) :
    fraction rest = ([], rest) := by
  unfold fraction
  split
  · rename_i cs
    cases cs with
    | nil => rfl
    | cons d more => simp [h d more rfl]
  · rfl

/-- A text in which a number ends adds no places to it. -/
theorem fraction_of_breaks (h : Breaks rest) : fraction rest = ([], rest) := by
  refine fraction_eq_nil ?_
  rintro d more rfl
  exact absurd rfl (h _ rfl).2

/-- A point and digits behind it are the places of a number. -/
theorem fraction_point {places : List Char} (some : places ≠ [])
    (digits : ∀ d ∈ places, d.isDigit = true) (boundary : ∀ d ∈ rest.head?, d.isDigit = false) :
    fraction ('.' :: (places ++ rest)) = ('.' :: places, rest) := by
  simp [fraction, takeWhile_append_of_boundary digits boundary,
    dropWhile_append_of_boundary digits boundary, some]

/-- A quoted text is read up to the next mark like the one that begins it. -/
theorem next_quoted {mark : Char} {body : List Char} (hm : mark = '"' ∨ mark = '\'')
    (h : ∀ d ∈ body, d ≠ mark ∧ d ≠ '\n') :
    next mark (body ++ mark :: rest) = (.quoted mark body, rest) := by
  have inside : ∀ d ∈ body, (d ≠ mark && d ≠ '\n') = true := fun d hd ↦ by simp [h d hd]
  have boundary : ∀ d ∈ (mark :: rest).head?, (d ≠ mark && d ≠ '\n') = false := by simp
  have quoted : quoted? mark (body ++ mark :: rest) = some (.quoted mark body, rest) := by
    simp only [quoted?, dropWhile_append_of_boundary inside boundary,
      takeWhile_append_of_boundary inside boundary, if_true]
  have slash : mark ≠ '/' := by rcases hm with rfl | rfl <;> decide
  have plain_mark : plain mark (body ++ mark :: rest) =
      ((quoted? mark (body ++ mark :: rest)).getD (.other mark, body ++ mark :: rest)) := by
    rcases hm with rfl | rfl <;> rfl
  rw [next_of_ne_slash slash, plain_mark, quoted, Option.getD_some]

/-- A run of blanks is read up to the first character that is not blank. -/
theorem next_blank (h : Text.isBlank c = true) :
    next c cs = (.blank (c :: cs.takeWhile Text.isBlank), cs.dropWhile Text.isBlank) := by
  have slash : c ≠ '/' := by
    rintro rfl
    exact absurd h (by decide)
  rw [next_of_ne_slash slash, plain, if_pos h]

end Lexeme

/-! ## Lexemes that stand apart -/

namespace Lexeme

/-- A lexeme that is read back from its spelling whatever follows it. -/
def IsClosed (x : Lexeme) : Prop :=
  ∀ rest, lexemes (x.spelling ++ rest) = x :: lexemes rest

/-- A lexeme that is read back from its spelling if what follows it does not go on with it. -/
def IsRun (x : Lexeme) : Prop :=
  ∀ rest, Breaks rest → lexemes (x.spelling ++ rest) = x :: lexemes rest

/-- A mark that frames or separates arguments and entries. -/
inductive IsMark : Lexeme → Prop
  | openParen : IsMark .openParen
  | closeParen : IsMark .closeParen
  | comma : IsMark .comma

theorem IsMark.isClosed {x : Lexeme} (h : x.IsMark) : x.IsClosed := by
  intro rest
  cases h <;> exact lexemes_cons _ _

theorem IsMark.breaks {x : Lexeme} (h : x.IsMark) (rest : List Char) :
    Breaks (x.spelling ++ rest) := by
  cases h <;> exact breaks_cons (by decide) (by decide)

theorem IsMark.head {x : Lexeme} (h : x.IsMark) (xs : List Lexeme) :
    ∀ y ∈ (x :: xs).head?, y.IsMark := fun y hy ↦ by
  obtain rfl : x = y := Option.some.inj hy
  exact h

theorem isClosed_brace : IsClosed (.other '{') := fun rest ↦ lexemes_cons '{' rest

theorem isClosed_quoted {mark : Char} {body : List Char} (hm : mark = '"' ∨ mark = '\'')
    (h : ∀ d ∈ body, d ≠ mark ∧ d ≠ '\n') : IsClosed (.quoted mark body) := by
  intro rest
  rw [spelling, List.cons_append, List.append_assoc, List.singleton_append, lexemes_cons,
    next_quoted hm h]

theorem isRun_identifier {c : Char} {cs : List Char} (hc : isIdentifierStart c = true)
    (hcs : ∀ d ∈ cs, isIdentifierRest d = true) : IsRun (.identifier (c :: cs)) := by
  intro rest hr
  rw [spelling, List.cons_append, lexemes_cons,
    next_identifier hc hcs fun d hd ↦ (hr d hd).1]

theorem isRun_whole {c : Char} {cs : List Char} (hc : c.isDigit = true)
    (hcs : ∀ d ∈ cs, d.isDigit = true) : IsRun (.number (c :: cs)) := by
  intro rest hr
  rw [spelling, List.cons_append, lexemes_cons,
    next_number hc hcs (isDigit_eq_false_of_breaks hr), fraction_of_breaks hr, List.append_nil]

theorem isRun_decimal {c : Char} {cs places : List Char} (hc : c.isDigit = true)
    (hcs : ∀ d ∈ cs, d.isDigit = true) (some : places ≠ [])
    (digits : ∀ d ∈ places, d.isDigit = true) :
    IsRun (.number (c :: cs ++ '.' :: places)) := by
  intro rest hr
  have boundary : ∀ d ∈ ('.' :: (places ++ rest)).head?, d.isDigit = false := by simp
  rw [spelling, List.cons_append, List.cons_append, List.append_assoc, List.cons_append,
    lexemes_cons, next_number hc hcs boundary,
    fraction_point some digits (isDigit_eq_false_of_breaks hr), List.cons_append]

end Lexeme

/-- Lexemes that are read back when they are written one after the other: behind a run stands a
mark, which ends it. -/
inductive StandApart : List Lexeme → Prop
  | nil : StandApart []
  | closed {x : Lexeme} {xs : List Lexeme} : x.IsClosed → StandApart xs → StandApart (x :: xs)
  | run {x : Lexeme} {xs : List Lexeme} :
    x.IsRun → (∀ y ∈ xs.head?, y.IsMark) → StandApart xs → StandApart (x :: xs)

/-- Lexemes that stand apart still do with a mark and others behind them. -/
theorem StandApart.append {xs ys : List Lexeme} (hx : StandApart xs) (hy : StandApart ys)
    (mark : ∀ y ∈ ys.head?, y.IsMark) : StandApart (xs ++ ys) := by
  induction hx with
  | nil => exact hy
  | closed h _ ih => exact .closed h ih
  | @run x xs h next _ ih =>
    refine .run h ?_ ih
    cases xs with
    | nil => exact mark
    | cons y xs => exact next

/-! ## Fillings -/

/-- A blank or a complete comment. -/
inductive Filler where
  | blank (c : Char) (isBlank : Text.isBlank c = true)
  /-- A comment that ends with its line. -/
  | lineComment (body : List Char) (oneLine : '\n' ∉ body)
  /-- A comment that ends with the first star and slash behind it. -/
  | blockComment (body : List Char) (unclosed : ¬ ['*', '/'] <:+: body)

/-- The text of a filler; that of a line comment includes the end of the line. -/
def Filler.spelling : Filler → List Char
  | .blank c _ => [c]
  | .lineComment body _ => '/' :: '/' :: (body ++ ['\n'])
  | .blockComment body _ => '/' :: '*' :: (body ++ ['*', '/'])

theorem content_cons (c : Char) (cs : List Char) :
    content (c :: cs) =
      (Lexeme.next c cs).1.unplaced?.toList ++ content (Lexeme.next c cs).2 :=
  content_of_lexemes (lexemes_cons c cs)

/-- Blanks at the head of a text are no tokens. -/
theorem content_dropWhile_isBlank (cs : List Char) :
    content (cs.dropWhile Text.isBlank) = content cs := by
  cases cs with
  | nil => rfl
  | cons c cs =>
    by_cases h : Text.isBlank c = true
    · rw [List.dropWhile_cons_of_pos h, content_cons c cs, Lexeme.next_blank h]
      rfl
    · rw [List.dropWhile_cons_of_neg h]

theorem content_blank_cons {c : Char} (h : Text.isBlank c = true) (cs : List Char) :
    content (c :: cs) = content cs := by
  rw [← content_dropWhile_isBlank, List.dropWhile_cons_of_pos h, content_dropWhile_isBlank]

/-- Blanks in front of a text are no tokens. -/
theorem content_blanks_append {blanks : List Char} (h : ∀ c ∈ blanks, Text.isBlank c = true)
    (cs : List Char) : content (blanks ++ cs) = content cs := by
  induction blanks with
  | nil => rfl
  | cons c blanks ih =>
    obtain ⟨hc, hblanks⟩ := List.forall_mem_cons.mp h
    rw [List.cons_append, content_blank_cons hc, ih hblanks]

/-- A comment is closed by the first star and slash behind it. -/
theorem Lexeme.closeComment?_append {body rest : List Char} (h : ¬ ['*', '/'] <:+: body) :
    closeComment? (body ++ '*' :: '/' :: rest) = some (body, rest) := by
  induction body with
  | nil => rfl
  | cons c body ih =>
    rw [List.infix_cons_iff, not_or] at h
    -- no star and slash begins at `c`, not even one that reaches into the end of the comment
    have early : ∀ tail, c = '*' → body ++ '*' :: '/' :: rest = '/' :: tail → False := by
      rintro tail rfl heq
      cases body with
      | nil => simp at heq
      | cons d body =>
        obtain ⟨rfl, -⟩ := List.cons.inj heq
        exact h.1 ⟨body, rfl⟩
    rw [List.cons_append, closeComment?.eq_2 _ _ early, ih h.2, Option.map_some]

/-- A filler in front of a text adds no token to it. -/
theorem content_filler_append (f : Filler) (cs : List Char) :
    content (f.spelling ++ cs) = content cs := by
  cases f with
  | blank c h => exact content_blank_cons h cs
  | lineComment body oneLine =>
    have inside : ∀ d ∈ body, (d ≠ '\n' : Bool) = true := fun d hd ↦ by
      simpa using fun h : d = '\n' ↦ oneLine (h ▸ hd)
    have boundary : ∀ d ∈ ('\n' :: cs).head?, (d ≠ '\n' : Bool) = false := by simp
    have next : Lexeme.next '/' ('/' :: (body ++ '\n' :: cs)) =
        (.lineComment body, '\n' :: cs) := by
      simp only [Lexeme.next, Lexeme.comment?, Option.getD_some,
        takeWhile_append_of_boundary inside boundary, dropWhile_append_of_boundary inside boundary]
    rw [Filler.spelling, List.cons_append, List.cons_append, List.append_assoc,
      List.singleton_append, content_cons, next]
    exact content_blank_cons (by decide) cs
  | blockComment body unclosed =>
    have next : Lexeme.next '/' ('*' :: (body ++ '*' :: '/' :: cs)) = (.blockComment body, cs) := by
      simp only [Lexeme.next, Lexeme.comment?, Lexeme.closeComment?_append unclosed,
        Option.map_some, Option.getD_some]
    rw [Filler.spelling, List.cons_append, List.cons_append, List.append_assoc, List.cons_append,
      List.singleton_append, content_cons, next]
    rfl

theorem Filler.breaks (f : Filler) (cs : List Char) : Breaks (f.spelling ++ cs) := by
  cases f with
  | blank c h =>
    refine breaks_cons (Lexeme.isIdentifierRest_eq_false_of_isBlank h) ?_
    rintro rfl
    exact absurd h (by decide)
  | lineComment body _ => exact breaks_cons (by decide) (by decide)
  | blockComment body _ => exact breaks_cons (by decide) (by decide)

/-- A filling between two tokens in which no semicolon stands. -/
structure Gap where
  fillers : List Filler
  noSemicolon : ∀ f ∈ fillers, ';' ∉ f.spelling

namespace Gap

/-- The text of a filling. -/
def spelling (g : Gap) : List Char := g.fillers.flatMap Filler.spelling

theorem semicolon_notMem_spelling (g : Gap) : ';' ∉ g.spelling := fun h ↦ by
  obtain ⟨f, hf, hmem⟩ := List.mem_flatMap.mp h
  exact g.noSemicolon f hf hmem

theorem content_append (g : Gap) (cs : List Char) : content (g.spelling ++ cs) = content cs := by
  obtain ⟨fillers, plain⟩ := g
  simp only [spelling]
  clear plain
  induction fillers with
  | nil => rfl
  | cons f fillers ih => rw [List.flatMap_cons, List.append_assoc, content_filler_append, ih]

theorem breaks_append (g : Gap) {cs : List Char} (h : Breaks cs) : Breaks (g.spelling ++ cs) := by
  obtain ⟨_ | ⟨f, fillers⟩, plain⟩ := g
  · exact h
  · rw [spelling, List.flatMap_cons, List.append_assoc]
    exact f.breaks _

end Gap

/-! ## Spread texts -/

/-- The lexemes one after the other, with the fillings of a layout behind them. -/
def spread (layout : Nat → Gap) : List Lexeme → List Char
  | [] => []
  | x :: xs => x.spelling ++ ((layout 0).spelling ++ spread (fun i ↦ layout (i + 1)) xs)

theorem breaks_spread {xs : List Lexeme} (h : ∀ y ∈ xs.head?, y.IsMark) (layout : Nat → Gap) :
    Breaks (spread layout xs) := by
  cases xs with
  | nil => exact breaks_nil
  | cons x xs => exact (h x rfl).breaks _

/-- The tokens of a spread text are those of its lexemes, whatever the layout. -/
theorem content_spread {xs : List Lexeme} (h : StandApart xs) (layout : Nat → Gap) :
    content (spread layout xs) = xs.filterMap Lexeme.unplaced? := by
  induction h generalizing layout with
  | nil => exact content_nil
  | closed hx _ ih =>
    rw [spread, content_of_lexemes (hx _), Gap.content_append, ih, filterMap_cons_eq_append]
  | run hx mark _ ih =>
    have breaks := (layout 0).breaks_append (breaks_spread mark fun i ↦ layout (i + 1))
    rw [spread, content_of_lexemes (hx _ breaks), Gap.content_append, ih, filterMap_cons_eq_append]

theorem semicolon_notMem_spread {xs : List Lexeme} (h : ∀ x ∈ xs, ';' ∉ x.spelling)
    (layout : Nat → Gap) : ';' ∉ spread layout xs := by
  induction xs generalizing layout with
  | nil => exact List.not_mem_nil
  | cons x xs ih =>
    obtain ⟨hx, hxs⟩ := List.forall_mem_cons.mp h
    simp only [spread, List.mem_append, not_or]
    exact ⟨hx, (layout 0).semicolon_notMem_spelling, ih hxs _⟩

end EnumTables
