import EnumTables.Proofs.Database.Statement
import EnumTables.Proofs.Results

/-!
# Templates

A statement with records is handed to the driver as a template, with a place for the records.  The
driver cuts it at the percent signs: `%s` is the place, a doubled sign stands for one, and a sign
before any other character makes the driver refuse the template, in which case no statement is sent.
A sign before a line feed is seen by none of this.

Main statements: in a template that is sent the doubled signs are halved and nothing else is
changed.  So the statement that inserts is sent as it was written if no name in it has a percent
sign, and otherwise, if it is sent at all, it is about other names.
-/

namespace EnumTables

namespace Sql

/-! ## What the driver sends -/

namespace Template

/-- Why the driver refuses a template. -/
inductive Refusal where
  | noPlace
  | secondPlace
  | unsupported (c : Char)
deriving DecidableEq, Repr

/-- A piece of a template. -/
inductive Piece where
  | text (cs : List Char)
  /-- A percent sign and the character behind it. -/
  | percent (c : Char)
deriving DecidableEq, Repr

/-- The pieces of a template; `read` is the text before them, last character first. -/
def pieces (read : List Char) : List Char → List Piece
  | [] => [.text read.reverse]
  | '%' :: c :: cs =>
    if c = '\n' then pieces (c :: '%' :: read) cs
    else .text read.reverse :: .percent c :: pieces [] cs
  | c :: cs => pieces (c :: read) cs

/-- The text that pieces stand for, where `%s` is still the place of the records.  The driver tells
pieces by their size, so a text of a percent sign and a line feed is refused like a sign before
another character. -/
def assemble (placed : Bool) : List Piece → Except Refusal (List Char)
  | [] => if placed then .ok [] else .error .noPlace
  | .text cs :: ps =>
    if cs = ['%', '\n'] then .error (.unsupported '\n')
    else (assemble placed ps).map (cs ++ ·)
  | .percent c :: ps =>
    if c = 's' then
      if placed then .error .secondPlace else (assemble true ps).map ('%' :: 's' :: ·)
    else if c = '%' then (assemble placed ps).map ('%' :: ·)
    else .error (.unsupported c)

/-- The statement that the driver sends for a template, or why it sends none. -/
def send (template : String) : Except Refusal String :=
  (assemble false (pieces [] template.toList)).map String.ofList

end Template

/-! ## Doubled percent signs -/

/-- A text with its doubled percent signs halved. -/
def halve : List Char → List Char
  | '%' :: '%' :: cs => '%' :: halve cs
  | c :: cs => c :: halve cs
  | [] => []

/-- A name with its doubled percent signs halved. -/
def halved (name : String) : String := String.ofList (halve name.toList)

/-- There is no percent sign in a text. -/
def PercentFree (s : String) : Prop := '%' ∉ s.toList

instance instDecidablePercentFree (s : String) : Decidable (PercentFree s) :=
  inferInstanceAs (Decidable ('%' ∉ s.toList))

variable {c : Char} {cs xs ys : List Char} {name : String}

theorem halve_double (cs : List Char) : halve ('%' :: '%' :: cs) = '%' :: halve cs := by
  rw [halve]

theorem halve_cons (h : c ≠ '%' ∨ cs.head? ≠ some '%') : halve (c :: cs) = c :: halve cs := by
  rw [halve]
  rintro ds rfl rfl
  exact h.elim (· rfl) (· rfl)

theorem halve_append_of_notMem (h : '%' ∉ xs) : halve (xs ++ ys) = xs ++ halve ys := by
  induction xs with
  | nil => rfl
  | cons c xs ih =>
    obtain ⟨first, rest⟩ := List.ne_and_not_mem_of_not_mem_cons h
    rw [List.cons_append, halve_cons (.inl first.symm), ih rest, List.cons_append]

theorem halve_of_notMem (h : '%' ∉ xs) : halve xs = xs := by
  have whole : halve (xs ++ []) = xs ++ halve [] := halve_append_of_notMem h
  rwa [List.append_nil, halve, List.append_nil] at whole

/-- A name without percent signs is halved to itself. -/
theorem halved_of_percentFree (h : PercentFree name) : halved name = name := by
  rw [halved, halve_of_notMem h, String.ofList_toList]

namespace Template

variable {read out : List Char} {placed : Bool} {template text : String}

theorem exists_of_assemble_text {ps : List Piece}
    (h : assemble placed (.text cs :: ps) = .ok out) :
    ∃ rest, assemble placed ps = .ok rest ∧ out = cs ++ rest := by
  rw [assemble] at h
  split at h
  · cases h
  · obtain ⟨rest, later, rfl⟩ := map_eq_ok_iff.mp h
    exact ⟨rest, later, rfl⟩

/-- What is sent of a percent sign is that of the place, or one sign for two. -/
theorem exists_of_assemble_percent {ps : List Piece}
    (h : assemble placed (.percent c :: ps) = .ok out) :
    ∃ placed' rest, assemble placed' ps = .ok rest ∧
      (c = 's' ∧ out = '%' :: 's' :: rest ∨ c = '%' ∧ out = '%' :: rest) := by
  rw [assemble] at h
  split at h
  · rename_i place
    split at h
    · cases h
    · obtain ⟨rest, later, rfl⟩ := map_eq_ok_iff.mp h
      exact ⟨true, rest, later, .inl ⟨place, rfl⟩⟩
  · split at h
    · rename_i sign
      obtain ⟨rest, later, rfl⟩ := map_eq_ok_iff.mp h
      exact ⟨placed, rest, later, .inr ⟨sign, rfl⟩⟩
    · cases h

theorem eq_nil_of_assemble_nil (h : assemble placed [] = .ok out) : out = [] := by
  rw [assemble] at h
  split at h
  · exact (Except.ok.inj h).symm
  · cases h

/-- In a template that is sent the doubled percent signs are halved. -/
theorem assemble_pieces (h : assemble placed (pieces read cs) = .ok out) :
    out = read.reverse ++ halve cs := by
  fun_induction pieces read cs generalizing placed out with
  | case1 read =>
    obtain ⟨rest, ended, rfl⟩ := exists_of_assemble_text h
    rw [eq_nil_of_assemble_nil ended, halve]
  | case2 read cs ih =>
    rw [ih h, halve_cons (.inr (by simp)), halve_cons (.inl (by decide))]
    simp
  | case3 read c cs other ih =>
    obtain ⟨behind, assembled, rfl⟩ := exists_of_assemble_text h
    obtain ⟨placed', rest, later, ⟨rfl, rfl⟩ | ⟨rfl, rfl⟩⟩ := exists_of_assemble_percent assembled
    · rw [ih later, halve_cons (.inr (by simp)), halve_cons (.inl (by decide))]
      rfl
    · rw [ih later, halve_double]
      rfl
  | case4 read c cs single ih =>
    have next : c ≠ '%' ∨ cs.head? ≠ some '%' := by
      by_cases sign : c = '%'
      · refine .inr ?_
        cases cs with
        | nil => simp
        | cons d cs => exact (single d cs sign rfl).elim
      · exact .inl sign
    rw [ih h, halve_cons next]
    simp

theorem eq_halved_of_send (h : send template = .ok text) : text = halved template := by
  obtain ⟨out, assembled, rfl⟩ := map_eq_ok_iff.mp h
  rw [halved, assemble_pieces assembled, List.reverse_nil, List.nil_append]

theorem pieces_place (h : '%' ∉ cs) (read : List Char) :
    pieces read (cs ++ ['%', 's']) = [.text (read.reverse ++ cs), .percent 's', .text []] := by
  induction cs generalizing read with
  | nil =>
    rw [List.nil_append, pieces, if_neg (by decide), pieces, List.append_nil]
    rfl
  | cons c cs ih =>
    obtain ⟨first, rest⟩ := List.ne_and_not_mem_of_not_mem_cons h
    rw [List.cons_append, pieces, ih rest]
    · simp
    · rintro d ds rfl
      exact absurd rfl first

/-- A template is sent as it is if its only percent sign is that of the place at its end. -/
theorem send_of_notMem (h : '%' ∉ cs) (ends : template.toList = cs ++ ['%', 's']) :
    send template = .ok template := by
  have text : cs ≠ ['%', '\n'] := by
    rintro rfl
    exact h List.mem_cons_self
  have assembled : assemble false (pieces [] (cs ++ ['%', 's'])) = .ok (cs ++ ['%', 's']) := by
    rw [pieces_place h, List.reverse_nil, List.nil_append, assemble, if_neg text]
    rfl
  rw [send, ends, assembled, ← ends]
  exact congrArg Except.ok String.ofList_toList

end Template

/-! ## The statement that inserts -/

variable {rest : List Char} {schema : String} {t : EnumTable}

theorem halve_escaped (cs rest : List Char) :
    halve (cs.flatMap escapeChar ++ '"' :: rest) =
      (halve cs).flatMap escapeChar ++ '"' :: halve rest := by
  fun_induction halve cs with
  | case1 cs ih =>
    have escaped : escapeChar '%' = ['%'] := rfl
    rw [List.flatMap_cons, List.flatMap_cons, List.flatMap_cons, escaped, List.append_assoc,
      List.append_assoc, List.singleton_append, List.singleton_append, halve_double, ih]
    rfl
  | case2 c cs single ih =>
    rw [List.flatMap_cons, List.flatMap_cons, List.append_assoc, List.append_assoc]
    by_cases quote : c = '"'
    · have escaped : escapeChar '"' = ['"', '"'] := rfl
      rw [quote, escaped, List.cons_append, List.singleton_append, halve_cons (.inl (by decide)),
        halve_cons (.inl (by decide)), ih]
      rfl
    · have escaped : escapeChar c = [c] := if_neg quote
      have next : c ≠ '%' ∨ (cs.flatMap escapeChar ++ '"' :: rest).head? ≠ some '%' := by
        by_cases sign : c = '%'
        · refine .inr ?_
          cases cs with
          | nil => simp
          | cons d cs =>
            have other : d ≠ '%' := fun second ↦ single cs sign (by rw [second])
            by_cases quote : d = '"' <;> simp [escapeChar, quote, other]
        · exact .inl sign
      rw [escaped, List.singleton_append, halve_cons next, ih]
      rfl
  | case3 =>
    rw [List.flatMap_nil, List.nil_append, halve_cons (.inl (by decide))]
    rfl

theorem toList_halved (name : String) : (halved name).toList = halve name.toList :=
  String.toList_ofList

theorem halve_quoteIdentifier (name : String) (rest : List Char) :
    halve ((quoteIdentifier name).toList ++ rest) =
      (quoteIdentifier (halved name)).toList ++ halve rest := by
  rw [toList_quoteIdentifier, toList_quoteIdentifier, toList_halved, List.cons_append,
    List.append_assoc, List.singleton_append, halve_cons (.inl (by decide)), halve_escaped,
    List.cons_append, List.append_assoc, List.singleton_append]

theorem halve_tableName (schema table : String) (rest : List Char) :
    halve ((tableName schema table).toList ++ rest) =
      (tableName (halved schema) (halved table)).toList ++ halve rest := by
  rw [toList_tableName, toList_tableName, List.append_assoc, List.cons_append,
    halve_quoteIdentifier, halve_cons (.inl (by decide)), halve_quoteIdentifier, List.append_assoc,
    List.cons_append]

/-- Names with commas between them are halved one by one. -/
theorem halve_intercalate (names : List String) (rest : List Char) :
    halve ((", ".intercalate (names.map quoteIdentifier)).toList ++ rest) =
      (", ".intercalate ((names.map halved).map quoteIdentifier)).toList ++ halve rest := by
  induction names with
  | nil => rw [List.map_nil, List.map_nil, List.map_nil, String.intercalate_nil]; rfl
  | cons name names ih =>
    cases names with
    | nil => simpa using halve_quoteIdentifier name rest
    | cons next names =>
      have comma (cs : List Char) : halve (", ".toList ++ cs) = ", ".toList ++ halve cs :=
        halve_append_of_notMem (by decide)
      simp only [List.map_cons, String.intercalate_cons_cons, String.toList_append,
        List.append_assoc] at ih ⊢
      rw [halve_quoteIdentifier, comma, ih]

end Sql

/-- A table with other names for itself and for its columns. -/
def EnumTable.rename (f : String → String) (t : EnumTable) : EnumTable :=
  { t with
    tableId := f t.tableId
    fields := t.fields.map fun c ↦ { c with name := f c.name } }

theorem EnumTable.columnNames_rename (f : String → String) (t : EnumTable) :
    (t.rename f).columnNames = t.columnNames.map f := by
  rw [columnNames, columnNames, rename, List.map_map, List.map_map]
  rfl

/-- No name of a table or of its schema has a percent sign. -/
structure EnumTable.IsPercentFree (t : EnumTable) (schema : String) : Prop where
  schema : Sql.PercentFree schema
  table : Sql.PercentFree t.tableId
  columns : ∀ c ∈ t.columnNames, Sql.PercentFree c

namespace Sql

/-- To halve the statement that inserts is to halve its names. -/
theorem halved_insertInto (schema : String) (t : EnumTable) :
    halved (insertInto schema t) = insertInto (halved schema) (t.rename halved) := by
  have opened (cs : List Char) : halve ("INSERT INTO ".toList ++ cs) =
      "INSERT INTO ".toList ++ halve cs := halve_append_of_notMem (by decide)
  have listed (cs : List Char) : halve (" (".toList ++ cs) = " (".toList ++ halve cs :=
    halve_append_of_notMem (by decide)
  have closed : halve ") VALUES %s".toList = ") VALUES %s".toList := by decide
  rw [← String.toList_inj, toList_halved, toList_insertInto, toList_insertInto, opened,
    halve_tableName, listed, halve_intercalate, closed, t.columnNames_rename]
  rfl

theorem percentFree_quoteIdentifier (h : PercentFree name) : PercentFree (quoteIdentifier name) := by
  rw [PercentFree, toList_quoteIdentifier]
  intro member
  simp only [List.mem_cons, List.mem_append, List.mem_flatMap, List.not_mem_nil, or_false] at member
  rcases member with quote | ⟨c, listed, escaped⟩ | quote
  · exact absurd quote (by decide)
  · by_cases quote : c = '"'
    · simp [escapeChar, quote] at escaped
    · rw [escapeChar, if_neg quote, List.mem_singleton] at escaped
      exact h (escaped ▸ listed)
  · exact absurd quote (by decide)

theorem percentFree_append {s s' : String} (h : PercentFree s) (h' : PercentFree s') :
    PercentFree (s ++ s') := by
  rw [PercentFree, String.toList_append, List.mem_append]
  exact not_or.mpr ⟨h, h'⟩

theorem percentFree_intercalate {names : List String} (h : ∀ name ∈ names, PercentFree name) :
    PercentFree (", ".intercalate (names.map quoteIdentifier)) := by
  induction names with
  | nil => decide
  | cons name names ih =>
    obtain ⟨first, rest⟩ := List.forall_mem_cons.mp h
    have quoted := percentFree_quoteIdentifier first
    cases names with
    | nil => simpa using quoted
    | cons next names =>
      rw [List.map_cons, List.map_cons, String.intercalate_cons_cons, ← List.map_cons]
      exact percentFree_append (percentFree_append quoted (by decide)) (ih rest)

/-- If a statement that inserts is sent, its names have their doubled percent signs halved. -/
theorem eq_insertInto_of_send {text : String}
    (h : Template.send (insertInto schema t) = .ok text) :
    text = insertInto (halved schema) (t.rename halved) := by
  rw [Template.eq_halved_of_send h, halved_insertInto]

/-- The statement that inserts is sent as it was written if no name in it has a percent sign. -/
theorem send_insertInto (h : t.IsPercentFree schema) :
    Template.send (insertInto schema t) = .ok (insertInto schema t) := by
  have table : PercentFree (tableName schema t.tableId) :=
    percentFree_append (percentFree_append (percentFree_quoteIdentifier h.schema) (by decide))
      (percentFree_quoteIdentifier h.table)
  have columns := percentFree_intercalate h.columns
  have front : PercentFree ("INSERT INTO " ++ tableName schema t.tableId ++ " (" ++
      ", ".intercalate (t.columnNames.map quoteIdentifier) ++ ") VALUES ") :=
    percentFree_append (percentFree_append (percentFree_append (percentFree_append (by decide) table)
      (by decide)) columns) (by decide)
  refine Template.send_of_notMem front ?_
  have closed : ") VALUES %s" = ") VALUES " ++ "%s" := by decide
  rw [insertInto, closed, ← String.append_assoc, String.toList_append]
  rfl

end Sql

end EnumTables
