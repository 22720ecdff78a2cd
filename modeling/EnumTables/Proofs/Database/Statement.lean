import EnumTables.Database.Sql
import EnumTables.Proofs.Lists

/-!
# Reading statements

A statement is read as a database reads it: cut into words, marks and delimited identifiers, in
which a doubled quotation mark stands for one.  Main statement: each text that replaces a table
reads as the statement it is meant to be, with exactly the names that were given, whatever
characters they are made of.
-/

namespace EnumTables.Sql

/-! ## Tokens -/

/-- A token of a statement. -/
inductive Token where
  | word (text : String)
  /-- A delimited identifier, without the marks around it and with its inner marks undoubled. -/
  | name (text : String)
  | mark (c : Char)
  /-- A delimited identifier that does not end. -/
  | unclosed
deriving DecidableEq, Repr

/-- Where a reader stands; what was read of a word or of a name is kept last character first. -/
inductive Mode where
  | outside (word : List Char)
  | inside (name : List Char)

/-- The word that ends here, if one was begun. -/
def ended (word : List Char) : List Token :=
  if word.isEmpty then [] else [.word (String.ofList word.reverse)]

/-- Whether a character is a token by itself. -/
def isMark (c : Char) : Bool := c = '.' || c = ',' || c = '(' || c = ')'

/-- The tokens of what is left of a statement. -/
def scan : Mode → List Char → List Token
  | .outside word, [] => ended word
  | .outside word, c :: cs =>
    if c = '"' then ended word ++ scan (.inside []) cs
    else if isMark c then ended word ++ .mark c :: scan (.outside []) cs
    else if c.isWhitespace then ended word ++ scan (.outside []) cs
    else scan (.outside (c :: word)) cs
  | .inside name, '"' :: '"' :: cs => scan (.inside ('"' :: name)) cs
  | .inside name, '"' :: cs => .name (String.ofList name.reverse) :: scan (.outside []) cs
  | .inside name, c :: cs => scan (.inside (c :: name)) cs
  | .inside _, [] => [.unclosed]

theorem scan_nil : scan (.outside []) [] = [] := rfl

/-- The tokens of a statement. -/
def tokens (statement : String) : List Token := scan (.outside []) statement.toList

/-- A delimited identifier reads as its name, whatever characters the name is made of. -/
theorem scan_inside (begun name : List Char) {rest : List Char} (h : rest.head? ≠ some '"') :
    scan (.inside begun) (name.flatMap escapeChar ++ '"' :: rest) =
      .name (String.ofList (begun.reverse ++ name)) :: scan (.outside []) rest := by
  induction name generalizing begun with
  | nil =>
    have single : ∀ cs, '"' :: rest = '"' :: '"' :: cs → False := by
      rintro cs heq
      exact h (by rw [(List.cons.inj heq).2, List.head?_cons])
    rw [List.flatMap_nil, List.nil_append, scan, List.append_nil]
    intro cs hcs
    exact single cs (by rw [hcs])
  | cons c name ih =>
    rw [List.flatMap_cons, List.append_assoc]
    by_cases hc : c = '"'
    · subst hc
      have escaped : escapeChar '"' = ['"', '"'] := rfl
      rw [escaped, List.cons_append, List.singleton_append, scan, ih]
      simp
    · have escaped : escapeChar c = [c] := if_neg hc
      rw [escaped, List.singleton_append, scan, ih]
      · simp
      · exact fun cs h _ ↦ hc h
      · exact fun h ↦ hc h

theorem toList_quoteIdentifier (name : String) :
    (quoteIdentifier name).toList = '"' :: (name.toList.flatMap escapeChar ++ ['"']) := by
  rw [quoteIdentifier, String.toList_ofList]

/-- A quoted name in front of another text reads as the name and the tokens of that text. -/
theorem scan_quoteIdentifier (name : String) {rest : List Char} (h : rest.head? ≠ some '"') :
    scan (.outside []) ((quoteIdentifier name).toList ++ rest) =
      .name name :: scan (.outside []) rest := by
  have inside := scan_inside [] name.toList h
  rw [List.reverse_nil, List.nil_append, String.ofList_toList] at inside
  rw [toList_quoteIdentifier, List.cons_append, List.append_assoc, List.singleton_append, ← inside]
  rfl

/-! ## Statements -/

/-- A statement about a table of a schema. -/
inductive Statement where
  /-- Create the schema unless it is there. -/
  | createSchema (schema : String)
  /-- Drop the table if it is there. -/
  | dropTable (schema table : String)
  /-- Create the table with columns of these names and types. -/
  | createTable (schema table : String) (columns : List (String × String))
  /-- Insert rows that give these columns their values. -/
  | insertInto (schema table : String) (columns : List String)
deriving DecidableEq, Repr

/-- A table together with its schema. -/
def place (schema table : String) : List Token := [.name schema, .mark '.', .name table]

/-- Items between parentheses, with commas between them. -/
def parenthesized (items : List (List Token)) : List Token :=
  .mark '(' :: ([Token.mark ','].intercalate items ++ [.mark ')'])

/-- A column with its type. -/
def columnTokens (column : String × String) : List Token := [.name column.1, .word column.2]

/-- The tokens that a statement is made of. -/
def Statement.tokens : Statement → List Token
  | .createSchema schema =>
    [.word "CREATE", .word "SCHEMA", .word "IF", .word "NOT", .word "EXISTS", .name schema]
  | .dropTable schema table =>
    [.word "DROP", .word "TABLE", .word "IF", .word "EXISTS"] ++ place schema table
  | .createTable schema table columns =>
    [.word "CREATE", .word "TABLE"] ++ place schema table ++
      parenthesized (columns.map columnTokens)
  | .insertInto schema table columns =>
    [.word "INSERT", .word "INTO"] ++ place schema table ++
      parenthesized (columns.map fun c ↦ [.name c]) ++ [.word "VALUES", .word "%s"]

theorem toList_tableName (schema table : String) :
    (tableName schema table).toList =
      (quoteIdentifier schema).toList ++ '.' :: (quoteIdentifier table).toList := by
  simp [tableName, String.toList_append]

/-- A table's name in front of another text reads as its place and the tokens of that text. -/
theorem scan_tableName (schema table : String) {rest : List Char} (h : rest.head? ≠ some '"') :
    scan (.outside []) ((tableName schema table).toList ++ rest) =
      place schema table ++ scan (.outside []) rest := by
  have point : ('.' :: ((quoteIdentifier table).toList ++ rest)).head? ≠ some '"' := by simp
  rw [toList_tableName, List.append_assoc, List.cons_append, scan_quoteIdentifier schema point]
  change Token.name schema :: .mark '.' :: scan (.outside []) _ = _
  rw [scan_quoteIdentifier table h]
  rfl

theorem scan_createSchema (rest : List Char) :
    scan (.outside []) ("CREATE SCHEMA IF NOT EXISTS ".toList ++ rest) =
      [.word "CREATE", .word "SCHEMA", .word "IF", .word "NOT", .word "EXISTS"] ++
        scan (.outside []) rest := rfl

theorem scan_dropTable (rest : List Char) :
    scan (.outside []) ("DROP TABLE IF EXISTS ".toList ++ rest) =
      [.word "DROP", .word "TABLE", .word "IF", .word "EXISTS"] ++ scan (.outside []) rest := rfl

theorem scan_createTable (rest : List Char) :
    scan (.outside []) ("\n        CREATE TABLE ".toList ++ rest) =
      [.word "CREATE", .word "TABLE"] ++ scan (.outside []) rest := rfl

theorem scan_insertInto (rest : List Char) :
    scan (.outside []) ("INSERT INTO ".toList ++ rest) =
      [.word "INSERT", .word "INTO"] ++ scan (.outside []) rest := rfl

theorem toList_createSchema (schema : String) :
    (Sql.createSchema schema).toList =
      "CREATE SCHEMA IF NOT EXISTS ".toList ++ (quoteIdentifier schema).toList :=
  String.toList_append

theorem toList_dropTable (schema table : String) :
    (Sql.dropTable schema table).toList =
      "DROP TABLE IF EXISTS ".toList ++ (tableName schema table).toList :=
  String.toList_append

theorem head?_nil_ne_quote : ([] : List Char).head? ≠ some '"' := by simp

/-- The text to create a schema reads as that statement. -/
theorem tokens_createSchema (schema : String) :
    tokens (Sql.createSchema schema) = (Statement.createSchema schema).tokens := by
  have name := scan_quoteIdentifier schema head?_nil_ne_quote
  rw [List.append_nil, scan_nil] at name
  rw [tokens, toList_createSchema, scan_createSchema, name]
  rfl

/-- The text to drop a table reads as that statement. -/
theorem tokens_dropTable (schema table : String) :
    tokens (Sql.dropTable schema table) = (Statement.dropTable schema table).tokens := by
  have name := scan_tableName schema table head?_nil_ne_quote
  rw [List.append_nil, scan_nil, List.append_nil] at name
  rw [tokens, toList_dropTable, scan_dropTable, name]
  rfl

/-! ## Lists of columns -/

/-- A character that ends a word and begins no name. -/
def Ends (c : Char) : Prop := c = ',' ∨ c = ')' ∨ c = '\n'

/-- A text reads as these tokens wherever a comma, a closing parenthesis or a line end follows. -/
def ReadsAs (text : String) (ts : List Token) : Prop :=
  ∀ c cs, Ends c → scan (.outside []) (text.toList ++ c :: cs) = ts ++ scan (.outside []) (c :: cs)

theorem readsAs_quoteIdentifier (name : String) : ReadsAs (quoteIdentifier name) [.name name] := by
  intro c cs h
  refine scan_quoteIdentifier name ?_
  rcases h with rfl | rfl | rfl <;> simp

theorem readsAs_columnDefinition (f : Field) :
    ReadsAs (columnDefinition f) (columnTokens (f.name, typeName f.type)) := by
  intro c cs h
  have blank : (' ' :: ((typeName f.type).toList ++ c :: cs)).head? ≠ some '"' := by simp
  have type : scan (.outside []) (' ' :: ((typeName f.type).toList ++ c :: cs)) =
      .word (typeName f.type) :: scan (.outside []) (c :: cs) := by
    cases f.type <;> rcases h with rfl | rfl | rfl <;> rfl
  have text : (columnDefinition f).toList ++ c :: cs =
      (quoteIdentifier f.name).toList ++ ' ' :: ((typeName f.type).toList ++ c :: cs) := by
    simp [columnDefinition, String.toList_append]
  rw [text, scan_quoteIdentifier f.name blank, type]
  rfl

theorem scan_comma (rest : List Char) :
    scan (.outside []) (", ".toList ++ rest) = .mark ',' :: scan (.outside []) rest := rfl

/-- Texts with commas between them read as their tokens with commas between them. -/
theorem readsAs_intercalate {α : Type} (text : α → String) (ts : α → List Token)
    (h : ∀ x, ReadsAs (text x) (ts x)) (xs : List α) :
    ReadsAs (", ".intercalate (xs.map text)) ([Token.mark ','].intercalate (xs.map ts)) := by
  intro c cs hc
  induction xs with
  | nil => simp [String.intercalate_nil]
  | cons x xs ih =>
    cases xs with
    | nil => simpa using h x c cs hc
    | cons y xs =>
      have comma : scan (.outside []) ((text x).toList ++ (", ".toList ++
          ((", ".intercalate ((y :: xs).map text)).toList ++ c :: cs))) =
          ts x ++ .mark ',' :: scan (.outside [])
            ((", ".intercalate ((y :: xs).map text)).toList ++ c :: cs) := by
        have first := h x ',' (' ' :: ((", ".intercalate ((y :: xs).map text)).toList ++ c :: cs))
          (.inl rfl)
        rw [← scan_comma]
        exact first
      rw [List.map_cons, List.map_cons, String.intercalate_cons_cons, String.toList_append,
        String.toList_append, List.append_assoc, List.append_assoc, ← List.map_cons, comma, ih,
        List.map_cons, List.map_cons, List.map_cons, List.intercalate_cons_cons]
      simp

theorem scan_open (rest : List Char) :
    scan (.outside []) (" (\n            ".toList ++ rest) = .mark '(' :: scan (.outside []) rest := rfl

theorem scan_openShort (rest : List Char) :
    scan (.outside []) (" (".toList ++ rest) = .mark '(' :: scan (.outside []) rest := rfl

theorem scan_close :
    scan (.outside []) ('\n' :: "        )\n    ".toList) = [.mark ')'] := rfl

theorem scan_closeShort :
    scan (.outside []) (')' :: " VALUES %s".toList) =
      [.mark ')', .word "VALUES", .word "%s"] := rfl

theorem toList_createTable (schema : String) (t : EnumTable) :
    (Sql.createTable schema t).toList = "\n        CREATE TABLE ".toList ++
      ((tableName schema t.tableId).toList ++ (" (\n            ".toList ++
        ((", ".intercalate (t.fields.map columnDefinition)).toList ++
          "\n        )\n    ".toList))) := by
  have joined : Sql.createTable schema t = "\n        CREATE TABLE " ++ tableName schema t.tableId ++
      " (\n            " ++ ", ".intercalate (t.fields.map columnDefinition) ++
        "\n        )\n    " := rfl
  rw [joined]
  simp only [String.toList_append, List.append_assoc]

theorem toList_insertInto (schema : String) (t : EnumTable) :
    (Sql.insertInto schema t).toList = "INSERT INTO ".toList ++
      ((tableName schema t.tableId).toList ++ (" (".toList ++
        ((", ".intercalate (t.columnNames.map quoteIdentifier)).toList ++
          ") VALUES %s".toList))) := by
  rw [Sql.insertInto]
  simp only [String.toList_append, List.append_assoc]

/-- The names and types of a table's columns as the database has them. -/
def columnsOf (t : EnumTable) : List (String × String) :=
  t.fields.map fun f ↦ (f.name, typeName f.type)

/-- The text to create a table reads as that statement, with the columns in order. -/
theorem tokens_createTable (schema : String) (t : EnumTable) :
    tokens (Sql.createTable schema t) =
      (Statement.createTable schema t.tableId (columnsOf t)).tokens := by
  have columns : scan (.outside []) ((", ".intercalate (t.fields.map columnDefinition)).toList ++
      "\n        )\n    ".toList) = _ :=
    readsAs_intercalate columnDefinition _ readsAs_columnDefinition t.fields
      '\n' "        )\n    ".toList (.inr (.inr rfl))
  have items : (columnsOf t).map columnTokens =
      t.fields.map fun f ↦ columnTokens (f.name, typeName f.type) := by
    rw [columnsOf, List.map_map]
    rfl
  rw [tokens, toList_createTable, scan_createTable, scan_tableName schema t.tableId (by simp),
    scan_open, columns, scan_close, Statement.tokens, items, List.append_assoc]
  rfl

/-- The text to insert into a table reads as that statement, with the columns in order. -/
theorem tokens_insertInto (schema : String) (t : EnumTable) :
    tokens (Sql.insertInto schema t) =
      (Statement.insertInto schema t.tableId t.columnNames).tokens := by
  have columns : scan (.outside []) ((", ".intercalate (t.columnNames.map quoteIdentifier)).toList ++
      ") VALUES %s".toList) = _ :=
    readsAs_intercalate quoteIdentifier _ readsAs_quoteIdentifier t.columnNames
      ')' " VALUES %s".toList (.inr (.inl rfl))
  rw [tokens, toList_insertInto, scan_insertInto, scan_tableName schema t.tableId (by simp),
    scan_openShort, columns, scan_closeShort, Statement.tokens, parenthesized]
  simp

/-! ## Statements of tokens -/

/-- The items between parentheses, of which the first is already taken, and the tokens behind
them. -/
def splitItems? : List Token → Option (List (List Token) × List Token)
  | [] => none
  | .mark ')' :: ts => some ([[]], ts)
  | .mark ',' :: ts => (splitItems? ts).map fun (items, rest) ↦ ([] :: items, rest)
  | t :: ts =>
    match splitItems? ts with
    | some (item :: items, rest) => some ((t :: item) :: items, rest)
    | _ => none

/-- The items between parentheses; one empty item is none. -/
def items? (ts : List Token) : Option (List (List Token) × List Token) :=
  (splitItems? ts).map fun (items, rest) ↦ (if items = [[]] then [] else items, rest)

/-- A column with its type. -/
def typedColumn? : List Token → Option (String × String)
  | [.name c, .word type] => some (c, type)
  | _ => none

/-- A column. -/
def column? : List Token → Option String
  | [.name c] => some c
  | _ => none

/-- The statement that tokens make up, if they make up one. -/
def Statement.ofTokens? : List Token → Option Statement
  | [.word "CREATE", .word "SCHEMA", .word "IF", .word "NOT", .word "EXISTS", .name schema] =>
    some (.createSchema schema)
  | [.word "DROP", .word "TABLE", .word "IF", .word "EXISTS", .name schema, .mark '.',
      .name table] => some (.dropTable schema table)
  | .word "CREATE" :: .word "TABLE" :: .name schema :: .mark '.' :: .name table ::
      .mark '(' :: ts =>
    match items? ts with
    | some (items, []) => (items.mapM typedColumn?).map (.createTable schema table)
    | _ => none
  | .word "INSERT" :: .word "INTO" :: .name schema :: .mark '.' :: .name table ::
      .mark '(' :: ts =>
    match items? ts with
    | some (items, [.word "VALUES", .word "%s"]) =>
      (items.mapM column?).map (.insertInto schema table)
    | _ => none
  | _ => none

/-- The statement that a text reads as. -/
def Statement.ofText? (text : String) : Option Statement := ofTokens? (Sql.tokens text)

/-- A token that neither separates items nor ends a list of them. -/
def IsInner (t : Token) : Prop := t ≠ .mark ',' ∧ t ≠ .mark ')'

theorem splitItems?_inner {t : Token} (h : IsInner t) {ts rest : List Token} {item : List Token}
    {items : List (List Token)} (hs : splitItems? ts = some (item :: items, rest)) :
    splitItems? (t :: ts) = some ((t :: item) :: items, rest) := by
  rw [splitItems?, hs]
  · exact h.2
  · exact h.1

/-- Items with commas between them are split again. -/
theorem splitItems?_intercalate {item : List Token} {items : List (List Token)}
    (h : ∀ i ∈ item :: items, ∀ t ∈ i, IsInner t) (rest : List Token) :
    splitItems? ([Token.mark ','].intercalate (item :: items) ++ .mark ')' :: rest) =
      some (item :: items, rest) := by
  induction items generalizing item with
  | nil =>
    rw [List.intercalate_singleton]
    replace h := h item List.mem_cons_self
    induction item with
    | nil => rfl
    | cons t item ih =>
      obtain ⟨ht, hitem⟩ := List.forall_mem_cons.mp h
      exact splitItems?_inner ht (ih hitem)
  | cons next items ih =>
    obtain ⟨hitem, hitems⟩ := List.forall_mem_cons.mp h
    rw [List.intercalate_cons_cons, List.append_assoc, List.append_assoc, List.singleton_append]
    clear h
    induction item with
    | nil =>
      rw [List.nil_append, splitItems?, ih hitems]
      rfl
    | cons t item ihItem =>
      obtain ⟨ht, hitem⟩ := List.forall_mem_cons.mp hitem
      exact splitItems?_inner ht (ihItem hitem)

/-- The items of a list in parentheses are read back. -/
theorem items?_intercalate {items : List (List Token)} (inner : ∀ i ∈ items, ∀ t ∈ i, IsInner t)
    (nonempty : ∀ i ∈ items, i ≠ []) (rest : List Token) :
    items? ([Token.mark ','].intercalate items ++ .mark ')' :: rest) = some (items, rest) := by
  cases items with
  | nil => rfl
  | cons item items =>
    have several : item :: items ≠ [[]] := fun h ↦
      nonempty item List.mem_cons_self (List.cons.inj h).1
    simp only [items?, splitItems?_intercalate inner, Option.map_some, if_neg several]

theorem isInner_columnTokens (column : String × String) :
    ∀ t ∈ columnTokens column, IsInner t := by
  simp [columnTokens, IsInner]

/-- A statement is read back from its tokens. -/
theorem Statement.ofTokens?_tokens (s : Statement) : ofTokens? s.tokens = some s := by
  cases s with
  | createSchema schema => rfl
  | dropTable schema table => rfl
  | createTable schema table columns =>
    have inner : ∀ i ∈ columns.map columnTokens, ∀ t ∈ i, IsInner t :=
      List.forall_mem_map.mpr fun column _ ↦ isInner_columnTokens column
    have nonempty : ∀ i ∈ columns.map columnTokens, i ≠ [] :=
      List.forall_mem_map.mpr fun _ _ ↦ List.cons_ne_nil _ _
    have items := items?_intercalate inner nonempty []
    have typed := mapM_map (g := typedColumn?) (f := columnTokens) (fun _ ↦ rfl) columns
    rw [tokens, parenthesized]
    simp only [place, List.cons_append, List.nil_append]
    rw [ofTokens?, items]
    simp only [typed, Option.map_some]
  | insertInto schema table columns =>
    have inner : ∀ i ∈ columns.map fun c ↦ [Token.name c], ∀ t ∈ i, IsInner t := by
      simp [IsInner]
    have items := items?_intercalate inner (by simp) [.word "VALUES", .word "%s"]
    have names := mapM_map (g := column?) (f := fun c ↦ [Token.name c]) (fun _ ↦ rfl) columns
    rw [tokens, parenthesized]
    simp only [place, List.cons_append, List.nil_append, List.append_assoc]
    rw [ofTokens?, items]
    simp only [names, Option.map_some]

/-- The text to create a schema says so. -/
theorem Statement.ofText?_createSchema (schema : String) :
    ofText? (Sql.createSchema schema) = some (.createSchema schema) := by
  rw [ofText?, tokens_createSchema, ofTokens?_tokens]

theorem Statement.ofText?_dropTable (schema table : String) :
    ofText? (Sql.dropTable schema table) = some (.dropTable schema table) := by
  rw [ofText?, tokens_dropTable, ofTokens?_tokens]

theorem Statement.ofText?_createTable (schema : String) (t : EnumTable) :
    ofText? (Sql.createTable schema t) =
      some (.createTable schema t.tableId (columnsOf t)) := by
  rw [ofText?, tokens_createTable, ofTokens?_tokens]

theorem Statement.ofText?_insertInto (schema : String) (t : EnumTable) :
    ofText? (Sql.insertInto schema t) = some (.insertInto schema t.tableId t.columnNames) := by
  rw [ofText?, tokens_insertInto, ofTokens?_tokens]

end EnumTables.Sql
