import EnumTables.Proofs.Declaration.Layout

/-!
# Written declarations

A declaration that was written down: a name, entries with or without literal arguments, and a layout
of blanks and comments between the tokens of the value section.  Main statement: whatever the layout
and whatever follows the section, reading the text gives the declaration back.
-/

namespace EnumTables

namespace Written

/-- A stretch of at least one character, all of one class. -/
structure Stretch (p : Char → Bool) where
  first : Char
  rest : List Char
  inside : ∀ c ∈ first :: rest, p c = true

/-- The characters of a stretch. -/
def Stretch.chars {p : Char → Bool} (s : Stretch p) : List Char := s.first :: s.rest

/-- At least one digit. -/
abbrev Digits := Stretch Char.isDigit

/-- At least one blank. -/
abbrev Blanks := Stretch Text.isBlank

/-- The name of an enum: at least one character, none of them blank. -/
abbrev EnumName := Stretch fun c ↦ !Text.isBlank c

/-- The name of a constant: capitals, digits and underscores, of which no digit comes first. -/
structure ConstantName where
  first : Char
  rest : List Char
  first_ok : first.isUpper = true ∨ first = '_'
  rest_ok : ∀ c ∈ rest, c.isUpper = true ∨ c.isDigit = true ∨ c = '_'

/-- The characters of a constant's name. -/
def ConstantName.chars (n : ConstantName) : List Char := n.first :: n.rest

/-- The marks between which a text can be quoted. -/
inductive Quote where
  | single
  | double

/-- The mark itself. -/
def Quote.char : Quote → Char
  | .single => '\''
  | .double => '"'

/-- A literal argument. -/
inductive Literal where
  | number (whole : Digits) (places : Option Digits)
  | truth (value : Bool)
  /-- A text that stands between quotes of one kind on one line. -/
  | quoted (q : Quote) (body : List Char)
    (inside : ∀ c ∈ body, c ≠ q.char ∧ c ≠ '\n' ∧ c ≠ ';')

/-- The text of a literal, without the quotes around it. -/
def Literal.text : Literal → List Char
  | .number whole none => whole.chars
  | .number whole (some places) => whole.chars ++ '.' :: places.chars
  | .truth true => ['t', 'r', 'u', 'e']
  | .truth false => ['f', 'a', 'l', 's', 'e']
  | .quoted _ body _ => body

/-- The lexeme of a literal. -/
def Literal.lexeme : Literal → Lexeme
  | .number whole places => .number (Literal.number whole places).text
  | .truth value => .identifier (Literal.truth value).text
  | .quoted q body _ => .quoted q.char body

/-- A constant with or without an argument list, which has at least one literal. -/
structure Entry where
  name : ConstantName
  arguments : Option (Literal × List Literal)

/-- Lists of lexemes with commas between them. -/
def separated (xs : List (List Lexeme)) : List Lexeme := [Lexeme.comma].intercalate xs

/-- The lexemes of an argument list. -/
def argumentLexemes (l : Literal) (ls : List Literal) : List Lexeme :=
  .openParen :: (separated ((l :: ls).map fun l ↦ [l.lexeme]) ++ [.closeParen])

/-- The lexemes of an entry. -/
def Entry.lexemes (e : Entry) : List Lexeme :=
  .identifier e.name.chars :: match e.arguments with
    | none => []
    | some (l, ls) => argumentLexemes l ls

/-- The lexemes of a value section: an opening brace and the entries. -/
def sectionLexemes (es : List Entry) : List Lexeme :=
  .other '{' :: separated (es.map Entry.lexemes)

/-- The texts of an entry with arguments: its name and its first three literals. -/
def Entry.values? (e : Entry) : Option Values :=
  e.arguments.map fun (l, ls) ↦
    String.ofList e.name.chars :: (((l :: ls).map fun l ↦ String.ofList l.text).take 3)

end Written

/-- A declaration as it is written down. -/
structure Written where
  name : Written.EnumName
  constants : List Written.Entry
  /-- The blanks between the keyword and the name. -/
  beforeName : Written.Blanks
  /-- The blanks between the name and the opening brace. -/
  beforeBrace : Written.Blanks
  /-- What stands behind each token of the value section, by the number of the token. -/
  layout : Nat → Gap
  /-- What follows the semicolon. -/
  suffix : List Char

namespace Written

/-- The text of a declaration. -/
def text (d : Written) : String :=
  String.ofList (['e', 'n', 'u', 'm'] ++ d.beforeName.chars ++ d.name.chars ++
    d.beforeBrace.chars ++ spread d.layout (sectionLexemes d.constants) ++ ';' :: d.suffix)

/-- The constants of a declaration: those with arguments if there are any, else all of them with
their places. -/
def values (d : Written) : List Values :=
  if d.constants.any fun e ↦ e.arguments.isSome then d.constants.filterMap Entry.values?
  else d.constants.zipIdx.map fun (e, place) ↦ [String.ofList e.name.chars, toString place]

/-! ## Lexemes of the parts -/

theorem separated_cons (x : List Lexeme) (xs : List (List Lexeme)) :
    separated (x :: xs) = x ++ xs.flatMap (.comma :: ·) := by
  induction xs generalizing x with
  | nil => simp [separated]
  | cons y xs ih => simp [separated, List.intercalate_cons_cons] at ih ⊢; simp [ih]

namespace ConstantName

variable (n : ConstantName)

theorem isRun : Lexeme.IsRun (.identifier n.chars) := by
  refine Lexeme.isRun_identifier ?_ fun c hc ↦ ?_
  · rcases n.first_ok with h | h <;> simp [Lexeme.isIdentifierStart, Text.isAlpha_iff, h]
  · rcases n.rest_ok c hc with h | h | h <;>
      simp [Lexeme.isIdentifierRest, Lexeme.isIdentifierStart, Text.isAlpha_iff, h]

/-- The token of a constant's name. -/
def token : Token := ⟨.identifier, String.ofList n.chars, 0⟩

theorem isConstant_token : n.token.isConstant = true := by
  have rest : n.rest.all Token.isConstantRest = true := by
    refine List.all_eq_true.mpr fun c hc ↦ ?_
    rcases n.rest_ok c hc with h | h | h <;> simp [Token.isConstantRest, h]
  have first : Token.isConstantStart n.first = true := by
    rcases n.first_ok with h | h <;> simp [Token.isConstantStart, h]
  simp [Token.isConstant, Token.isConstantName, token, chars, first, rest]

theorem semicolon_notMem_chars : ';' ∉ n.chars := by
  rw [chars, List.mem_cons, not_or]
  refine ⟨?_, fun hc ↦ ?_⟩
  · rintro h
    have := n.first_ok
    rw [← h] at this
    exact absurd this (by decide)
  · exact absurd (n.rest_ok _ hc) (by decide)

end ConstantName

namespace Literal

variable (l : Literal)

theorem isRun_number (whole : Digits) (places : Option Digits) :
    Lexeme.IsRun (number whole places).lexeme := by
  obtain ⟨hw, hws⟩ := List.forall_mem_cons.mp whole.inside
  cases places with
  | none => exact Lexeme.isRun_whole hw hws
  | some places => exact Lexeme.isRun_decimal hw hws (List.cons_ne_nil _ _) places.inside

theorem isRun_truth (value : Bool) : Lexeme.IsRun (truth value).lexeme := by
  cases value <;> exact Lexeme.isRun_identifier (by decide) (List.all_eq_true.mp (by decide))

/-- A literal stands apart from what is behind it if a mark comes next. -/
theorem standApart_cons {xs : List Lexeme} (h : StandApart xs) (mark : ∀ y ∈ xs.head?, y.IsMark) :
    StandApart (l.lexeme :: xs) := by
  cases l with
  | number whole places => exact .run (isRun_number whole places) mark h
  | truth value => exact .run (isRun_truth value) mark h
  | quoted q body inside =>
    have quote : q.char = '"' ∨ q.char = '\'' := by cases q <;> simp [Quote.char]
    exact .closed (Lexeme.isClosed_quoted quote fun c hc ↦ ⟨(inside c hc).1, (inside c hc).2.1⟩) h

/-- A literal is a token that counts as a literal and has its text. -/
theorem exists_token : ∃ t : Token, l.lexeme.unplaced? = some t ∧ t.isLiteral = true ∧
    t.text = String.ofList l.text := by
  cases l with
  | number whole places => exact ⟨_, rfl, rfl, rfl⟩
  | truth value => cases value <;> exact ⟨_, rfl, by decide, rfl⟩
  | quoted q body inside => exact ⟨_, rfl, rfl, rfl⟩

theorem digit_ne_semicolon {c : Char} (h : c.isDigit = true) : c ≠ ';' := by
  rintro rfl
  exact absurd h (by decide)

theorem semicolon_notMem_spelling : ';' ∉ l.lexeme.spelling := by
  have digits (s : Digits) : ';' ∉ s.chars := fun h ↦ digit_ne_semicolon (s.inside _ h) rfl
  cases l with
  | number whole places =>
    cases places with
    | none => exact digits whole
    | some places => simp [lexeme, text, Lexeme.spelling, digits]
  | truth value => cases value <;> decide
  | quoted q body inside =>
    have quote : q.char ≠ ';' := by cases q <;> decide
    have inner : ';' ∉ body := fun h ↦ (inside _ h).2.2 rfl
    simp [lexeme, Lexeme.spelling, quote.symm, inner]

end Literal

/-! ## Argument lists -/

section Arguments

variable (l : Literal) (ls : List Literal) (ys : List Lexeme)

theorem argumentLexemes_eq : argumentLexemes l ls =
    .openParen :: l.lexeme :: (ls.flatMap (fun m ↦ [.comma, m.lexeme]) ++ [.closeParen]) := by
  simp [argumentLexemes, separated_cons, List.flatMap_map]

theorem standApart_argumentLexemes : StandApart (argumentLexemes l ls) := by
  rw [argumentLexemes_eq]
  refine .closed Lexeme.IsMark.openParen.isClosed ?_
  induction ls generalizing l with
  | nil =>
    exact l.standApart_cons (.closed Lexeme.IsMark.closeParen.isClosed .nil)
      (Lexeme.IsMark.closeParen.head _)
  | cons m ls ih =>
    exact l.standApart_cons (.closed Lexeme.IsMark.comma.isClosed (ih m))
      (Lexeme.IsMark.comma.head _)

theorem semicolon_notMem_argumentLexemes : ∀ x ∈ argumentLexemes l ls, ';' ∉ x.spelling := by
  rw [argumentLexemes_eq]
  intro x hx
  simp only [List.mem_cons, List.mem_append, List.mem_flatMap, List.not_mem_nil, or_false] at hx
  rcases hx with rfl | rfl | ⟨m, -, rfl | rfl⟩ | rfl
  · decide
  · exact l.semicolon_notMem_spelling
  · decide
  · exact m.semicolon_notMem_spelling
  · decide

/-- The scan of literals takes an argument list apart. -/
theorem literals?_argumentLexemes :
    literals? ((l.lexeme :: (ls.flatMap (fun m ↦ [.comma, m.lexeme]) ++ .closeParen :: ys)).filterMap
      Lexeme.unplaced?) =
      some ((l :: ls).map fun l ↦ String.ofList l.text, ys.filterMap Lexeme.unplaced?) := by
  induction ls generalizing l with
  | nil =>
    obtain ⟨t, ht, literal, text⟩ := l.exists_token
    simp only [List.flatMap_nil, List.nil_append, filterMap_cons_eq_append, ht]
    simp [literals?, literal, text, Lexeme.unplaced?, Lexeme.token?]
  | cons m ls ih =>
    obtain ⟨t, ht, literal, text⟩ := l.exists_token
    rw [filterMap_cons_eq_append, ht, List.flatMap_cons, List.append_assoc, List.cons_append,
      List.singleton_append, filterMap_cons_eq_append]
    simp only [Option.toList_some, Lexeme.unplaced?, Lexeme.token?, Option.map_some,
      List.singleton_append, literals?, literal] at ih ⊢
    rw [ih m]
    simp [text]

end Arguments

/-! ## Entries -/

namespace Entry

variable (e : Entry)

theorem standApart_lexemes : StandApart e.lexemes := by
  obtain ⟨name, _ | ⟨l, ls⟩⟩ := e
  · exact .run name.isRun (fun y hy ↦ nomatch hy) .nil
  · exact .run name.isRun (Lexeme.IsMark.openParen.head _) (standApart_argumentLexemes l ls)

theorem semicolon_notMem_lexemes : ∀ x ∈ e.lexemes, ';' ∉ x.spelling := by
  obtain ⟨name, arguments⟩ := e
  refine List.forall_mem_cons.mpr ⟨name.semicolon_notMem_chars, ?_⟩
  cases arguments with
  | none => exact fun x hx ↦ nomatch hx
  | some r => exact semicolon_notMem_argumentLexemes r.1 r.2

/-- What can stand behind an entry: nothing, or a comma and more. -/
def Follows (ys : List Lexeme) : Prop := ys = [] ∨ ∃ zs, ys = .comma :: zs

variable {ys : List Lexeme}

/-- A name that stands alone begins no entry. -/
theorem opensArguments_name (name : ConstantName) (h : Follows ys) :
    opensArguments (name.token :: ys.filterMap Lexeme.unplaced?) = false := by
  rcases h with rfl | ⟨zs, rfl⟩
  · rfl
  · simp [opensArguments, Lexeme.unplaced?, Lexeme.token?]

theorem filterMap_lexemes_none (name : ConstantName) :
    (lexemes ⟨name, none⟩ ++ ys).filterMap Lexeme.unplaced? =
      name.token :: ys.filterMap Lexeme.unplaced? := rfl

/-- The tokens of an entry with arguments are its name and those of its arguments. -/
theorem filterMap_lexemes_some (name : ConstantName) (l : Literal) (ls : List Literal) :
    (lexemes ⟨name, some (l, ls)⟩ ++ ys).filterMap Lexeme.unplaced? =
      name.token :: ⟨.openParen, "(", 0⟩ ::
        (l.lexeme :: (ls.flatMap (fun m ↦ [.comma, m.lexeme]) ++ .closeParen :: ys)).filterMap
          Lexeme.unplaced? := by
  have written : lexemes ⟨name, some (l, ls)⟩ = .identifier name.chars :: argumentLexemes l ls := rfl
  rw [written, argumentLexemes_eq]
  simp only [List.cons_append, List.append_assoc, List.nil_append]
  rw [filterMap_cons_eq_append, filterMap_cons_eq_append Lexeme.unplaced? .openParen]
  rfl

/-- The scan takes an entry as it is written and goes on behind it. -/
theorem entries_lexemes_append (h : Follows ys) :
    entries ((e.lexemes ++ ys).filterMap Lexeme.unplaced?) =
      e.values?.toList ++ entries (ys.filterMap Lexeme.unplaced?) := by
  obtain ⟨name, _ | ⟨l, ls⟩⟩ := e
  · exact entries_cons_of_not_opensArguments (opensArguments_name name h)
  · refine entries_of_entry ?_
    rw [filterMap_lexemes_some, entryOf?, if_pos (by simp [opensArguments, name.isConstant_token]),
      literals?_argumentLexemes]
    rfl

/-- Whether there are argument lists is seen from the entries as they are written. -/
theorem hasArguments_lexemes_append (h : Follows ys) :
    hasArguments ((e.lexemes ++ ys).filterMap Lexeme.unplaced?) =
      (e.arguments.isSome || hasArguments (ys.filterMap Lexeme.unplaced?)) := by
  obtain ⟨name, _ | ⟨l, ls⟩⟩ := e
  · rw [filterMap_lexemes_none, hasArguments, opensArguments_name name h, Bool.false_and]
    rfl
  · have close : (⟨.closeParen, ")", 0⟩ : Token) ∈
        (l.lexeme :: (ls.flatMap (fun m ↦ [.comma, m.lexeme]) ++ .closeParen :: ys)).filterMap
          Lexeme.unplaced? :=
      List.mem_filterMap.mpr ⟨.closeParen, by simp, rfl⟩
    rw [filterMap_lexemes_some, hasArguments, opensArguments, name.isConstant_token,
      List.drop_succ_cons, List.drop_zero, List.any_eq_true.mpr ⟨_, close, rfl⟩]
    rfl

end Entry

/-! ## Value sections -/

section Sections

variable (es : List Entry)

/-- The entries behind another one, each with a comma in front. -/
def furtherLexemes (es : List Entry) : List Lexeme := es.flatMap (.comma :: ·.lexemes)

theorem sectionLexemes_cons (e : Entry) :
    sectionLexemes (e :: es) = .other '{' :: (e.lexemes ++ furtherLexemes es) := by
  simp [sectionLexemes, separated_cons, furtherLexemes, List.flatMap_map]

theorem furtherLexemes_cons (e : Entry) :
    furtherLexemes (e :: es) = .comma :: (e.lexemes ++ furtherLexemes es) := rfl

theorem follows_furtherLexemes : Entry.Follows (furtherLexemes es) := by
  cases es with
  | nil => exact .inl rfl
  | cons e es => exact .inr ⟨_, furtherLexemes_cons es e⟩

theorem isMark_head_furtherLexemes : ∀ y ∈ (furtherLexemes es).head?, y.IsMark := by
  cases es with
  | nil => exact fun y hy ↦ nomatch hy
  | cons e es => exact Lexeme.IsMark.comma.head _

theorem standApart_furtherLexemes : StandApart (furtherLexemes es) := by
  induction es with
  | nil => exact .nil
  | cons e es ih =>
    exact .closed Lexeme.IsMark.comma.isClosed
      (e.standApart_lexemes.append ih (isMark_head_furtherLexemes es))

theorem standApart_sectionLexemes : StandApart (sectionLexemes es) := by
  refine .closed Lexeme.isClosed_brace ?_
  cases es with
  | nil => exact .nil
  | cons e es =>
    rw [List.map_cons, separated_cons, List.flatMap_map]
    exact e.standApart_lexemes.append (standApart_furtherLexemes es) (isMark_head_furtherLexemes es)

theorem semicolon_notMem_sectionLexemes : ∀ x ∈ sectionLexemes es, ';' ∉ x.spelling := by
  cases es with
  | nil => decide
  | cons e es =>
    rw [sectionLexemes_cons]
    intro x hx
    simp only [List.mem_cons, List.mem_append, furtherLexemes, List.mem_flatMap] at hx
    rcases hx with rfl | hx | ⟨e', -, rfl | hx⟩
    · decide
    · exact e.semicolon_notMem_lexemes x hx
    · decide
    · exact e'.semicolon_notMem_lexemes x hx

theorem filterMap_furtherLexemes (e : Entry) :
    (furtherLexemes (e :: es)).filterMap Lexeme.unplaced? =
      ⟨.comma, ",", 0⟩ :: (e.lexemes ++ furtherLexemes es).filterMap Lexeme.unplaced? := rfl

theorem filterMap_sectionLexemes (e : Entry) :
    (sectionLexemes (e :: es)).filterMap Lexeme.unplaced? =
      ⟨.other, "\x7b", 0⟩ :: (e.lexemes ++ furtherLexemes es).filterMap Lexeme.unplaced? := by
  rw [sectionLexemes_cons]
  rfl

theorem opensArguments_comma (ts : List Token) : opensArguments (⟨.comma, ",", 0⟩ :: ts) = false :=
  opensArguments_cons_of_not_isConstant rfl

theorem opensArguments_brace (ts : List Token) :
    opensArguments (⟨.other, "\x7b", 0⟩ :: ts) = false :=
  opensArguments_cons_of_not_isConstant rfl

theorem entries_append_furtherLexemes (e : Entry) :
    entries ((e.lexemes ++ furtherLexemes es).filterMap Lexeme.unplaced?) =
      (e :: es).filterMap Entry.values? := by
  induction es generalizing e with
  | nil =>
    rw [e.entries_lexemes_append (follows_furtherLexemes []), filterMap_cons_eq_append]
    exact congrArg _ entries_nil
  | cons e' es ih =>
    rw [e.entries_lexemes_append (follows_furtherLexemes (e' :: es)), filterMap_furtherLexemes,
      entries_cons_of_not_opensArguments (opensArguments_comma _), ih e',
      ← filterMap_cons_eq_append]

/-- Read entry by entry, a section gives the entries with arguments. -/
theorem entries_sectionLexemes :
    entries ((sectionLexemes es).filterMap Lexeme.unplaced?) = es.filterMap Entry.values? := by
  cases es with
  | nil => exact (entries_cons_of_not_opensArguments (opensArguments_brace [])).trans entries_nil
  | cons e es =>
    rw [filterMap_sectionLexemes, entries_cons_of_not_opensArguments (opensArguments_brace _),
      entries_append_furtherLexemes]

theorem hasArguments_append_furtherLexemes (e : Entry) :
    hasArguments ((e.lexemes ++ furtherLexemes es).filterMap Lexeme.unplaced?) =
      (e :: es).any fun e ↦ e.arguments.isSome := by
  induction es generalizing e with
  | nil =>
    rw [e.hasArguments_lexemes_append (follows_furtherLexemes [])]
    rfl
  | cons e' es ih =>
    rw [e.hasArguments_lexemes_append (follows_furtherLexemes (e' :: es)),
      filterMap_furtherLexemes, hasArguments, opensArguments_comma, Bool.false_and, Bool.false_or,
      ih e']
    rfl

/-- A section is read entry by entry exactly if some entry has arguments. -/
theorem hasArguments_sectionLexemes :
    hasArguments ((sectionLexemes es).filterMap Lexeme.unplaced?) =
      es.any fun e ↦ e.arguments.isSome := by
  cases es with
  | nil => rfl
  | cons e es =>
    rw [filterMap_sectionLexemes, hasArguments, opensArguments_brace, Bool.false_and,
      Bool.false_or, hasArguments_append_furtherLexemes]

/-- The names of a section without argument lists are those of its entries. -/
theorem names_append_furtherLexemes (e : Entry) (alone : ∀ e' ∈ e :: es, e'.arguments = none) :
    (((e.lexemes ++ furtherLexemes es).filterMap Lexeme.unplaced?).filter Token.isConstant).map
      Token.text = (e :: es).map fun e ↦ String.ofList e.name.chars := by
  induction es generalizing e with
  | nil =>
    obtain ⟨name, arguments⟩ := e
    obtain rfl : arguments = none := alone _ List.mem_cons_self
    rw [Entry.filterMap_lexemes_none, List.filter_cons_of_pos name.isConstant_token]
    rfl
  | cons e' es ih =>
    obtain ⟨name, arguments⟩ := e
    obtain ⟨none, further⟩ := List.forall_mem_cons.mp alone
    obtain rfl : arguments = .none := none
    rw [Entry.filterMap_lexemes_none, List.filter_cons_of_pos name.isConstant_token,
      filterMap_furtherLexemes, List.filter_cons_of_neg (by decide), List.map_cons, ih e' further]
    rfl

/-- Read name by name, a section without argument lists gives all names with their places. -/
theorem bareEntries_sectionLexemes (alone : ∀ e ∈ es, e.arguments = none) :
    bareEntries ((sectionLexemes es).filterMap Lexeme.unplaced?) =
      es.zipIdx.map fun (e, place) ↦ [String.ofList e.name.chars, toString place] := by
  cases es with
  | nil => rfl
  | cons e es =>
    rw [bareEntries, filterMap_sectionLexemes, List.filter_cons_of_neg (by decide),
      names_append_furtherLexemes es e alone, List.zipIdx_map, List.map_map]
    rfl

end Sections

/-! ## Reading back -/

section Reading

variable (d : Written)

theorem Stretch.dropWhile_append {p : Char → Bool} (s : Stretch p) {cs : List Char}
    (h : ∀ c ∈ cs.head?, p c = false) : (s.chars ++ cs).dropWhile p = cs :=
  dropWhile_append_of_boundary s.inside h

theorem Stretch.takeWhile_append {p : Char → Bool} (s : Stretch p) {cs : List Char}
    (h : ∀ c ∈ cs.head?, p c = false) : (s.chars ++ cs).takeWhile p = s.chars :=
  takeWhile_append_of_boundary s.inside h

/-- The header of a written text is found at its beginning. -/
theorem findHeader?_append (rest : List Char) :
    Declaration.findHeader? false (['e', 'n', 'u', 'm'] ++ d.beforeName.chars ++ d.name.chars ++
      d.beforeBrace.chars ++ rest) = some (d.name.chars, d.beforeBrace.chars ++ rest) := by
  obtain ⟨hb, hbs⟩ := List.forall_mem_cons.mp d.beforeName.inside
  have behind : ∀ c ∈ (d.beforeBrace.chars ++ rest).head?, (!Text.isBlank c) = false :=
    fun c hc ↦ by
      obtain rfl : d.beforeBrace.first = c := Option.some.inj hc
      simpa using d.beforeBrace.inside _ List.mem_cons_self
  have blanks : (d.beforeName.rest ++ (d.name.chars ++ (d.beforeBrace.chars ++ rest))).dropWhile
      Text.isBlank = d.name.chars ++ (d.beforeBrace.chars ++ rest) :=
    dropWhile_append_of_boundary hbs fun c hc ↦ by
      obtain rfl : d.name.first = c := Option.some.inj hc
      simpa using d.name.inside _ List.mem_cons_self
  have header : Declaration.header? ('e' :: 'n' :: 'u' :: 'm' :: d.beforeName.first ::
      (d.beforeName.rest ++ (d.name.chars ++ (d.beforeBrace.chars ++ rest)))) =
      some (d.name.chars, d.beforeBrace.chars ++ rest) := by
    simp only [Declaration.header?, blanks, d.name.takeWhile_append behind,
      d.name.dropWhile_append behind, hb, Bool.true_and]
    rfl
  simp only [List.append_assoc]
  rw [show d.beforeName.chars = d.beforeName.first :: d.beforeName.rest from rfl]
  simp only [List.cons_append, List.nil_append, Declaration.findHeader?, header]
  rfl

/-- The value section of a written text ends with the semicolon behind its tokens. -/
theorem valueSection?_append :
    Declaration.valueSection? (d.beforeBrace.chars ++
      (spread d.layout (sectionLexemes d.constants) ++ ';' :: d.suffix)) =
      some (d.beforeBrace.chars ++ spread d.layout (sectionLexemes d.constants)) := by
  have blanks : ';' ∉ d.beforeBrace.chars := fun h ↦
    absurd (d.beforeBrace.inside _ h) (by decide)
  have tokens := semicolon_notMem_spread (semicolon_notMem_sectionLexemes d.constants) d.layout
  rw [Declaration.valueSection?_eq_some_iff]
  refine ⟨?_, d.suffix, (List.append_assoc ..).symm⟩
  rw [List.mem_append, not_or]
  exact ⟨blanks, tokens⟩

/-- The tokens of a value section give the constants that were written. -/
theorem values_ofTokens :
    (Declaration.ofTokens (String.ofList d.name.chars)
      ((sectionLexemes d.constants).filterMap Lexeme.unplaced?)).toDeclaration =
      ⟨String.ofList d.name.chars, d.values⟩ := by
  rw [Declaration.ofTokens, hasArguments_sectionLexemes, values]
  split
  · rw [entries_sectionLexemes]
  · rename_i h
    have alone : ∀ e ∈ d.constants, e.arguments = none := by simpa using h
    rw [bareEntries_sectionLexemes d.constants alone]

end Reading

end Written

/-- Reading a written declaration gives it back, whatever the layout of its value section and
whatever follows it: its name, and its constants with arguments or else all of them with their
places. -/
theorem Declaration.parse?_text (d : Written) :
    parse? d.text = some ⟨String.ofList d.name.chars, d.values⟩ := by
  have found := d.findHeader?_append (spread d.layout (Written.sectionLexemes d.constants) ++
    ';' :: d.suffix)
  have written : content (d.beforeBrace.chars ++
      spread d.layout (Written.sectionLexemes d.constants)) =
      (Written.sectionLexemes d.constants).filterMap Lexeme.unplaced? :=
    (content_blanks_append d.beforeBrace.inside _).trans
      (content_spread (Written.standApart_sectionLexemes d.constants) d.layout)
  have read : read? d.text = some (ofTokens (String.ofList d.name.chars)
      ((Written.sectionLexemes d.constants).filterMap Lexeme.unplaced?)) := by
    rw [read?, Written.text, String.toList_ofList, List.append_assoc _ (spread _ _), found]
    change (valueSection? _ >>= fun cs ↦ some (ofTokens _ (tokens cs))) = _
    rw [d.valueSection?_append]
    change some (ofTokens _ (tokens _)) = _
    rw [ofTokens_tokens, written]
  rw [parse?, read, Option.map_some, d.values_ofTokens]

/-- Marks of comments inside quotes and quotes inside comments do not count. -/
example : Declaration.parse? "enum E \x7b// it's \"A\"\nA(1, \"/*\"), B; \x7d" =
    some ⟨"E", [["A", "1", "/*"]]⟩ := by decide +kernel

end EnumTables
