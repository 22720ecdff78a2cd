import EnumTables.Proofs.Declaration.Layout

/-!
# Lexemes by what follows them

Which lexeme stands at the head of a text is a matter of its spelling and of what follows it.  This
is said here lexeme by lexeme, without the order in which the kinds of lexemes are tried.  Main
statements: a text is read as a lexeme if and only if the lexeme can lead what follows it, and a
text that is cut between two of its lexemes has those before the cut.
-/

namespace EnumTables

namespace Lexeme

/-! ## What can follow a lexeme -/

/-- No mark like `mark` follows on the same line. -/
def Unclosed (mark : Char) (rest : List Char) : Prop :=
  ∀ body more, rest = body ++ mark :: more → '\n' ∈ body

/-- With a slash in front the text begins no complete comment. -/
def OpensNoComment (rest : List Char) : Prop :=
  rest.head? ≠ some '/' ∧ ∀ more, rest = '*' :: more → ¬ ['*', '/'] <:+: more

/-- The lexeme can stand in front of a text: its spelling is one of a lexeme of this kind, and the
text does not go on with it.  A character is a lexeme by itself only if it begins no other one. -/
inductive Leads : Lexeme → List Char → Prop
  | lineComment {body rest : List Char} (oneLine : '\n' ∉ body)
    (ends : ∀ c ∈ rest.head?, c = '\n') : Leads (.lineComment body) rest
  | blockComment {body rest : List Char} (unclosed : ¬ ['*', '/'] <:+: body) :
    Leads (.blockComment body) rest
  | blank {c : Char} {run rest : List Char} (inside : ∀ d ∈ c :: run, Text.isBlank d = true)
    (ends : ∀ d ∈ rest.head?, Text.isBlank d = false) : Leads (.blank (c :: run)) rest
  | quoted {mark : Char} {body rest : List Char} (quote : mark = '"' ∨ mark = '\'')
    (inside : ∀ d ∈ body, d ≠ mark ∧ d ≠ '\n') : Leads (.quoted mark body) rest
  | whole {c : Char} {run rest : List Char} (inside : ∀ d ∈ c :: run, d.isDigit = true)
    (ends : ∀ d ∈ rest.head?, d.isDigit = false)
    (noPlaces : ∀ d more, rest = '.' :: d :: more → d.isDigit = false) :
    Leads (.number (c :: run)) rest
  | decimal {c d : Char} {run places rest : List Char} (inside : ∀ x ∈ c :: run, x.isDigit = true)
    (digits : ∀ x ∈ d :: places, x.isDigit = true) (ends : ∀ x ∈ rest.head?, x.isDigit = false) :
    Leads (.number (c :: run ++ '.' :: d :: places)) rest
  | identifier {c : Char} {run rest : List Char} (start : isIdentifierStart c = true)
    (inside : ∀ d ∈ run, isIdentifierRest d = true)
    (ends : ∀ d ∈ rest.head?, isIdentifierRest d = false) : Leads (.identifier (c :: run)) rest
  | openParen {rest : List Char} : Leads .openParen rest
  | closeParen {rest : List Char} : Leads .closeParen rest
  | comma {rest : List Char} : Leads .comma rest
  | other {c : Char} {rest : List Char} (blank : Text.isBlank c = false)
    (digit : c.isDigit = false) (start : isIdentifierStart c = false)
    (mark : c ≠ '(' ∧ c ≠ ')' ∧ c ≠ ',') (quote : c = '"' ∨ c = '\'' → Unclosed c rest)
    (slash : c = '/' → OpensNoComment rest) : Leads (.other c) rest

/-! ## What is read can lead -/

variable {c : Char} {cs rest : List Char}

/-- Behind a run of a class the class ends. -/
theorem eq_false_of_mem_head?_dropWhile {p : Char → Bool} :
    ∀ d ∈ (cs.dropWhile p).head?, p d = false := by
  intro d hd
  have ended := List.head?_dropWhile_not p cs
  rw [Option.mem_def.mp hd] at ended
  simpa using ended

/-- The characters of a run are of its class. -/
theorem forall_mem_takeWhile {p : Char → Bool} : ∀ d ∈ cs.takeWhile p, p d = true :=
  List.all_eq_true.mp List.all_takeWhile

theorem forall_mem_cons_takeWhile {p : Char → Bool} (h : p c = true) :
    ∀ d ∈ c :: cs.takeWhile p, p d = true :=
  List.forall_mem_cons.mpr ⟨h, forall_mem_takeWhile⟩

/-- At a character with which no star and slash begins, the search for them goes on. -/
theorem infix_cons_of_not_early (early : ∀ more, c = '*' → cs = '/' :: more → False) :
    ['*', '/'] <:+: c :: cs ↔ ['*', '/'] <:+: cs := by
  rw [List.infix_cons_iff]
  refine or_iff_right ?_
  rintro ⟨more, same⟩
  obtain ⟨rfl, rfl⟩ := List.cons.inj same
  exact early more rfl rfl

/-- No star and slash stands in a comment before the one that closes it. -/
theorem not_infix_of_closeComment? {body : List Char}
    (h : closeComment? cs = some (body, rest)) : ¬ ['*', '/'] <:+: body := by
  fun_induction closeComment? cs generalizing body with
  | case1 rest =>
    obtain ⟨rfl, -⟩ := Prod.mk.inj (Option.some.inj h)
    simp
  | case2 c cs early ih =>
    obtain ⟨⟨b, r⟩, hb, he⟩ := Option.map_eq_some_iff.mp h
    obtain ⟨rfl, rfl⟩ := Prod.mk.inj he
    rw [infix_cons_of_not_early]
    · exact ih hb
    · rintro more rfl rfl
      exact early _ rfl (spelling_of_closeComment? hb).symm
  | case3 => cases h

/-- A comment is closed if and only if a star and a slash follow. -/
theorem closeComment?_eq_none_iff : closeComment? cs = none ↔ ¬ ['*', '/'] <:+: cs := by
  fun_induction closeComment? cs with
  | case1 rest =>
    have closes : ['*', '/'] <:+: '*' :: '/' :: rest := ⟨[], rest, rfl⟩
    simp [closes]
  | case2 c cs early ih => rw [Option.map_eq_none_iff, ih, infix_cons_of_not_early early]
  | case3 => simp

/-- A comment that is read can lead what follows it. -/
theorem leads_of_comment? {x : Lexeme} (h : comment? cs = some (x, rest)) : x.Leads rest := by
  unfold comment? at h
  split at h
  · obtain ⟨rfl, rfl⟩ := Prod.mk.inj (Option.some.inj h)
    refine .lineComment (fun inside ↦ ?_) fun c hc ↦ ?_
    · simpa using forall_mem_takeWhile _ inside
    · simpa using eq_false_of_mem_head?_dropWhile c hc
  · obtain ⟨⟨body, r⟩, hb, he⟩ := Option.map_eq_some_iff.mp h
    obtain ⟨rfl, rfl⟩ := Prod.mk.inj he
    exact .blockComment (not_infix_of_closeComment? hb)
  · nomatch h

/-- No comment is read behind a slash if and only if none begins there. -/
theorem comment?_slash_eq_none_iff : comment? ('/' :: cs) = none ↔ OpensNoComment cs := by
  rcases cs with _ | ⟨d, cs⟩
  · simp [comment?, OpensNoComment]
  by_cases slash : d = '/'
  · subst slash
    simp [comment?, OpensNoComment]
  by_cases star : d = '*'
  · subst star
    simp [comment?, OpensNoComment, closeComment?_eq_none_iff]
  · simp [comment?, OpensNoComment, slash, star]

/-- A quoted text that is read can lead what follows it. -/
theorem leads_of_quoted? {mark : Char} {x : Lexeme} (quote : mark = '"' ∨ mark = '\'')
    (h : quoted? mark cs = some (x, rest)) : x.Leads rest := by
  simp only [quoted?] at h
  split at h
  · split at h
    · obtain ⟨rfl, rfl⟩ := Prod.mk.inj (Option.some.inj h)
      refine .quoted quote fun d hd ↦ ?_
      simpa using forall_mem_takeWhile d hd
    · cases h
  · cases h

theorem unclosed_cons_iff {mark : Char} : Unclosed mark (c :: cs) ↔
    c ≠ mark ∧ (c = '\n' ∨ Unclosed mark cs) := by
  constructor
  · intro open_
    refine ⟨?_, ?_⟩
    · rintro rfl
      nomatch open_ [] cs rfl
    · by_cases ends : c = '\n'
      · exact .inl ends
      · refine .inr fun body more same ↦ ?_
        have inside := open_ (c :: body) more (congrArg _ same)
        exact (List.mem_cons.mp inside).resolve_left (Ne.symm ends)
  · rintro ⟨other, ends⟩ body more same
    rcases body with _ | ⟨d, body⟩
    · exact absurd (List.cons.inj same).1 other
    obtain ⟨rfl, rfl⟩ := List.cons.inj same
    rcases ends with rfl | open_
    · exact List.mem_cons_self
    · exact List.mem_cons_of_mem c (open_ body more rfl)

theorem quoted?_eq_none_iff_dropWhile {mark : Char} : quoted? mark cs = none ↔
    ∀ more, cs.dropWhile (fun d ↦ d ≠ mark && d ≠ '\n') ≠ mark :: more := by
  simp only [quoted?]
  split
  · rename_i d more found
    rw [found]
    split
    · rename_i closes
      simp [closes]
    · rename_i other
      simp [other]
  · rename_i ended
    rw [ended]
    simp

/-- No quoted text is read behind a mark if and only if the mark stays open on its line. -/
theorem quoted?_eq_none_iff {mark : Char} (quote : mark = '"' ∨ mark = '\'') :
    quoted? mark cs = none ↔ Unclosed mark cs := by
  have newline : '\n' ≠ mark := by rcases quote with rfl | rfl <;> decide
  rw [quoted?_eq_none_iff_dropWhile]
  induction cs with
  | nil => simp [Unclosed]
  | cons c cs ih =>
    rw [unclosed_cons_iff]
    by_cases closes : c = mark
    · simp [closes]
    by_cases ends : c = '\n'
    · simp [ends, newline]
    · rw [List.dropWhile_cons_of_pos (by simp [closes, ends])]
      exact ih.trans (by simp [closes, ends])

/-- A number that is read can lead what follows it. -/
theorem leads_numberAt (h : c.isDigit = true) :
    (numberAt (c :: cs)).1.Leads (numberAt (c :: cs)).2 := by
  have inside : ∀ d ∈ c :: cs.takeWhile Char.isDigit, d.isDigit = true :=
    forall_mem_cons_takeWhile h
  have ends : ∀ d ∈ (cs.dropWhile Char.isDigit).head?, d.isDigit = false :=
    eq_false_of_mem_head?_dropWhile
  simp only [numberAt, List.takeWhile_cons_of_pos h, List.dropWhile_cons_of_pos h]
  generalize cs.dropWhile Char.isDigit = rest at ends ⊢
  unfold fraction
  split
  · rename_i ds
    cases places : ds.takeWhile Char.isDigit with
    | nil =>
      simp only [List.isEmpty_nil, if_true, List.append_nil]
      refine .whole inside ends fun d more same ↦ ?_
      obtain rfl := (List.cons.inj same).2
      refine Bool.eq_false_iff.mpr fun digit ↦ ?_
      rw [List.takeWhile_cons_of_pos digit] at places
      cases places
    | cons d run =>
      have digits : ∀ x ∈ d :: run, x.isDigit = true := by
        rw [← places]
        exact forall_mem_takeWhile
      exact .decimal inside digits eq_false_of_mem_head?_dropWhile
  · rename_i noPoint
    simp only [List.append_nil]
    refine .whole inside ends ?_
    rintro d more rfl
    exact absurd rfl (noPoint _)

/-- A lexeme that is no comment can lead what follows it, if no comment begins there. -/
theorem leads_plain (h : comment? (c :: cs) = none) : (plain c cs).1.Leads (plain c cs).2 := by
  unfold plain
  split
  · rename_i blank
    exact .blank (forall_mem_cons_takeWhile blank) eq_false_of_mem_head?_dropWhile
  rename_i blank
  split
  · rename_i digit
    exact leads_numberAt digit
  rename_i digit
  split
  · rename_i start
    exact .identifier start forall_mem_takeWhile eq_false_of_mem_head?_dropWhile
  rename_i start
  have slash : c = '/' → OpensNoComment cs := by
    rintro rfl
    exact comment?_slash_eq_none_iff.mp h
  simp only [Bool.not_eq_true] at blank digit start
  split
  · rename_i quote
    cases read : quoted? c cs with
    | some r => exact leads_of_quoted? quote read
    | none =>
      refine .other blank digit start ?_ (fun _ ↦ (quoted?_eq_none_iff quote).mp read) slash
      rcases quote with rfl | rfl <;> decide
  · rename_i quote
    unfold ofChar
    split
    · exact .openParen
    split
    · exact .closeParen
    split
    · exact .comma
    · rename_i opening closing comma
      exact .other blank digit start ⟨opening, closing, comma⟩ (fun h ↦ absurd h quote) slash

/-- The lexeme that is read at the head of a text can lead what follows it. -/
theorem leads_next (c : Char) (cs : List Char) : (next c cs).1.Leads (next c cs).2 := by
  unfold next
  cases h : comment? (c :: cs) with
  | some r => exact leads_of_comment? h
  | none => exact leads_plain h

/-! ## What can lead is read -/

/-- A lexeme that can lead a text is read in front of it. -/
theorem Leads.lexemes_append {x : Lexeme} (h : x.Leads rest) :
    lexemes (x.spelling ++ rest) = x :: lexemes rest := by
  cases h with
  | @lineComment body _ oneLine ends =>
    have inside : ∀ d ∈ body, (d ≠ '\n' : Bool) = true := fun d hd ↦ by
      simpa using fun h : d = '\n' ↦ oneLine (h ▸ hd)
    have boundary : ∀ d ∈ rest.head?, (d ≠ '\n' : Bool) = false := fun d hd ↦ by
      simpa using ends d hd
    have read : next '/' ('/' :: (body ++ rest)) = (.lineComment body, rest) := by
      simp only [next, comment?, Option.getD_some, takeWhile_append_of_boundary inside boundary,
        dropWhile_append_of_boundary inside boundary]
    rw [spelling, List.cons_append, List.cons_append, lexemes_cons, read]
  | @blockComment body _ unclosed =>
    have read : next '/' ('*' :: (body ++ '*' :: '/' :: rest)) = (.blockComment body, rest) := by
      simp only [next, comment?, closeComment?_append unclosed, Option.map_some, Option.getD_some]
    rw [spelling, List.cons_append, List.cons_append, List.append_assoc, List.cons_append,
      List.singleton_append, lexemes_cons, read]
  | @blank c run _ inside ends =>
    obtain ⟨hc, hrun⟩ := List.forall_mem_cons.mp inside
    rw [spelling, List.cons_append, lexemes_cons, next_blank hc,
      takeWhile_append_of_boundary hrun ends, dropWhile_append_of_boundary hrun ends]
  | quoted quote inside => exact isClosed_quoted quote inside rest
  | whole inside ends noPlaces =>
    obtain ⟨hc, hrun⟩ := List.forall_mem_cons.mp inside
    rw [spelling, List.cons_append, lexemes_cons, next_number hc hrun ends,
      fraction_eq_nil noPlaces, List.append_nil]
  | @decimal c d run places _ inside digits ends =>
    obtain ⟨hc, hrun⟩ := List.forall_mem_cons.mp inside
    have boundary : ∀ x ∈ ('.' :: (d :: places ++ rest)).head?, x.isDigit = false := by simp
    rw [spelling, List.cons_append, List.cons_append, List.append_assoc, List.cons_append,
      lexemes_cons, next_number hc hrun boundary,
      fraction_point (List.cons_ne_nil d places) digits ends, List.cons_append]
  | identifier start inside ends =>
    rw [spelling, List.cons_append, lexemes_cons, next_identifier start inside ends]
  | openParen => exact IsMark.openParen.isClosed rest
  | closeParen => exact IsMark.closeParen.isClosed rest
  | comma => exact IsMark.comma.isClosed rest
  | @other c _ blank digit start mark quote slash =>
    have comment : comment? (c :: rest) = none := by
      by_cases h : c = '/'
      · subst h
        exact comment?_slash_eq_none_iff.mpr (slash rfl)
      · unfold comment?
        split <;> simp_all
    have alone : ofChar c = .other c := by simp [ofChar, mark]
    have read : next c rest = (.other c, rest) := by
      rw [next, comment, Option.getD_none, plain, if_neg (by simp [blank]),
        if_neg (by simp [digit]), if_neg (by simp [start]), alone]
      split
      · rename_i h
        rw [(quoted?_eq_none_iff h).mpr (quote h), Option.getD_none]
      · rfl
    rw [spelling, List.singleton_append, lexemes_cons, read]

/-! ## Texts that are cut -/

/-- A lexeme that can lead a text can lead every beginning of it. -/
theorem Leads.of_append {x : Lexeme} {more tail : List Char} (h : x.Leads (more ++ tail)) :
    x.Leads more := by
  have head : ∀ c ∈ more.head?, c ∈ (more ++ tail).head? := fun c hc ↦ by
    rw [Option.mem_def] at hc ⊢
    rw [List.head?_append, hc, Option.some_or]
  cases h with
  | lineComment oneLine ends => exact .lineComment oneLine fun c hc ↦ ends c (head c hc)
  | blockComment unclosed => exact .blockComment unclosed
  | blank inside ends => exact .blank inside fun c hc ↦ ends c (head c hc)
  | quoted quote inside => exact .quoted quote inside
  | whole inside ends noPlaces =>
    refine .whole inside (fun c hc ↦ ends c (head c hc)) ?_
    rintro d ds rfl
    exact noPlaces d (ds ++ tail) rfl
  | decimal inside digits ends => exact .decimal inside digits fun c hc ↦ ends c (head c hc)
  | identifier start inside ends => exact .identifier start inside fun c hc ↦ ends c (head c hc)
  | openParen => exact .openParen
  | closeParen => exact .closeParen
  | comma => exact .comma
  | @other c _ blank digit start mark quote slash =>
    refine .other blank digit start mark (fun h body ds same ↦ ?_) fun h ↦ ⟨fun slash' ↦ ?_, ?_⟩
    · exact quote h body (ds ++ tail) (by rw [same, List.append_assoc, List.cons_append])
    · exact (slash h).1 (head _ slash')
    · rintro ds rfl closes
      exact (slash h).2 (ds ++ tail) rfl (closes.trans (List.prefix_append ds tail).isInfix)

end Lexeme

/-- The first of the lexemes of a text is spelled at its head and leads the others. -/
theorem exists_of_lexemes_eq_cons {cs : List Char} {x : Lexeme} {xs : List Lexeme}
    (h : lexemes cs = x :: xs) :
    ∃ rest, cs = x.spelling ++ rest ∧ x.Leads rest ∧ lexemes rest = xs := by
  cases cs with
  | nil =>
    rw [lexemes_nil] at h
    nomatch h
  | cons c cs =>
    rw [lexemes_cons] at h
    obtain ⟨rfl, rfl⟩ := List.cons.inj h
    exact ⟨_, (Lexeme.spelling_next c cs).symm, Lexeme.leads_next c cs, rfl⟩

/-- A text that is cut between two of its lexemes has the lexemes before the cut. -/
theorem lexemes_of_cut {body tail : List Char} {xs ys : List Lexeme}
    (h : lexemes (body ++ tail) = xs ++ ys) (cut : xs.flatMap Lexeme.spelling = body) :
    lexemes body = xs := by
  induction xs generalizing body with
  | nil =>
    subst cut
    exact lexemes_nil
  | cons x xs ih =>
    rw [List.flatMap_cons] at cut
    subst cut
    obtain ⟨rest, spelled, leads, others⟩ := exists_of_lexemes_eq_cons h
    rw [List.append_assoc] at spelled
    obtain rfl := List.append_cancel_left spelled
    rw [leads.of_append.lexemes_append, ih others rfl]

end EnumTables
