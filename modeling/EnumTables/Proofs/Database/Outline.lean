import EnumTables.Proofs.Database.Replace

/-!
# Names in statements

Delimited identifiers alone decide how a statement is cut: what stands between quotation marks is a
name, in which a doubled mark stands for one, and everything else is text that is kept character by
character.  Main statement: whatever the names of a schema, a table and its columns are made of, the
statements that replace the table consist of texts that no name has a part in, with names between
them.  These are exactly the given ones, but for the statement that inserts, which the driver makes
of a template: there the doubled percent signs of a name are halved, and other percent signs may keep
the statement from being sent.
-/

namespace EnumTables.Sql

/-! ## Texts and names in turn -/

/-- What a statement is cut into: the texts outside the quotation marks and the names inside. -/
structure Outline where
  texts : List String
  names : List String
deriving DecidableEq, Repr

/-- The characters are texts and delimited identifiers in turn, with these names.  No text has a
quotation mark, and none follows an identifier. -/
inductive Woven : List String → List String → List Char → Prop
  | last {text : List Char} (unquoted : '"' ∉ text) : Woven [String.ofList text] [] text
  | cons {text name cs : List Char} {texts names : List String} (unquoted : '"' ∉ text)
      (apart : cs.head? ≠ some '"') (rest : Woven texts names cs) :
    Woven (String.ofList text :: texts) (String.ofList name :: names)
      (text ++ '"' :: (name.flatMap escapeChar ++ '"' :: cs))

/-- The outline of what is left of a statement; there is none if a name does not end. -/
def outlineFrom? : Mode → List Char → Option Outline
  | .outside text, [] => some ⟨[String.ofList text.reverse], []⟩
  | .outside text, c :: cs =>
    if c = '"' then
      (outlineFrom? (.inside []) cs).map fun o ↦
        { o with texts := String.ofList text.reverse :: o.texts }
    else outlineFrom? (.outside (c :: text)) cs
  | .inside name, '"' :: '"' :: cs => outlineFrom? (.inside ('"' :: name)) cs
  | .inside name, '"' :: cs =>
    (outlineFrom? (.outside []) cs).map fun o ↦
      { o with names := String.ofList name.reverse :: o.names }
  | .inside name, c :: cs => outlineFrom? (.inside (c :: name)) cs
  | .inside _, [] => none

/-- The outline of a statement. -/
def outline? (statement : String) : Option Outline :=
  outlineFrom? (.outside []) statement.toList

variable {texts names : List String} {cs : List Char}

theorem outlineFrom?_outside {text : List Char} (unquoted : '"' ∉ text) (begun rest : List Char) :
    outlineFrom? (.outside begun) (text ++ rest) =
      outlineFrom? (.outside (text.reverse ++ begun)) rest := by
  induction text generalizing begun with
  | nil => rfl
  | cons c text ih =>
    obtain ⟨proper, unquoted⟩ := not_or.mp (mt List.mem_cons.mpr unquoted)
    rw [List.cons_append, outlineFrom?, if_neg (Ne.symm proper), ih unquoted, List.reverse_cons,
      List.append_assoc, List.singleton_append]

theorem outlineFrom?_inside (begun name : List Char) (apart : cs.head? ≠ some '"') :
    outlineFrom? (.inside begun) (name.flatMap escapeChar ++ '"' :: cs) =
      (outlineFrom? (.outside []) cs).map fun o ↦
        { o with names := String.ofList (begun.reverse ++ name) :: o.names } := by
  induction name generalizing begun with
  | nil =>
    rw [List.flatMap_nil, List.nil_append, outlineFrom?, List.append_nil]
    rintro ds rfl
    exact apart rfl
  | cons c name ih =>
    rw [List.flatMap_cons, List.append_assoc]
    by_cases quote : c = '"'
    · have escaped : escapeChar '"' = ['"', '"'] := rfl
      rw [quote, escaped, List.cons_append, List.singleton_append, outlineFrom?, ih]
      simp
    · have escaped : escapeChar c = [c] := if_neg quote
      rw [escaped, List.singleton_append, outlineFrom?, ih]
      · simp
      · exact fun _ same _ ↦ quote same
      · exact fun same ↦ quote same

/-- Texts and identifiers in turn are cut where they were put together. -/
theorem Woven.outlineFrom?_eq_some (h : Woven texts names cs) :
    outlineFrom? (.outside []) cs = some ⟨texts, names⟩ := by
  induction h with
  | last unquoted =>
    have cut := outlineFrom?_outside unquoted [] []
    rw [List.append_nil] at cut
    rw [cut, outlineFrom?, List.append_nil, List.reverse_reverse]
  | cons unquoted apart rest ih =>
    rw [outlineFrom?_outside unquoted, outlineFrom?, if_pos rfl, outlineFrom?_inside _ _ apart,
      ih, Option.map_some, Option.map_some, List.append_nil, List.reverse_reverse,
      List.reverse_nil, List.nil_append]

/-- What a reader has read of a statement, with what is left of it. -/
def Mode.Reads : Mode → List Char → Outline → Prop
  | .outside text, cs, o => '"' ∉ text → Woven o.texts o.names (text.reverse ++ cs)
  | .inside name, cs, o => ∃ more names rest,
      o.names = String.ofList (name.reverse ++ more) :: names ∧
      cs = more.flatMap escapeChar ++ '"' :: rest ∧ rest.head? ≠ some '"' ∧
      Woven o.texts names rest

/-- Nothing but texts and identifiers in turn is cut. -/
theorem reads_of_outlineFrom? {mode : Mode} {o : Outline} (h : outlineFrom? mode cs = some o) :
    mode.Reads cs o := by
  fun_induction outlineFrom? mode cs generalizing o with
  | case1 text =>
    cases h
    intro unquoted
    rw [List.append_nil]
    exact .last (mt List.mem_reverse.mp unquoted)
  | case2 text cs ih =>
    obtain ⟨o, read, rfl⟩ := Option.map_eq_some_iff.mp h
    obtain ⟨name, names, rest, named, rfl, apart, woven⟩ := ih read
    intro unquoted
    simp only [named]
    exact .cons (mt List.mem_reverse.mp unquoted) apart woven
  | case3 text c cs proper ih =>
    intro unquoted
    have woven := ih h (by simp [unquoted, Ne.symm proper])
    rwa [List.reverse_cons, List.append_assoc] at woven
  | case4 name cs ih =>
    obtain ⟨more, names, rest, named, rfl, apart, woven⟩ := ih h
    refine ⟨'"' :: more, names, rest, ?_, rfl, apart, woven⟩
    rw [named, List.reverse_cons, List.append_assoc]
    rfl
  | case5 name cs single ih =>
    obtain ⟨o, read, rfl⟩ := Option.map_eq_some_iff.mp h
    refine ⟨[], o.names, cs, by simp, rfl, ?_, ih read (by simp)⟩
    intro quote
    obtain ⟨ds, rfl⟩ := List.head?_eq_some_iff.mp quote
    exact single ds rfl
  | case6 name c cs ended single ih =>
    obtain ⟨more, names, rest, named, rfl, apart, woven⟩ := ih h
    have proper : c ≠ '"' := single
    have escaped : escapeChar c = [c] := if_neg proper
    refine ⟨c :: more, names, rest, ?_, ?_, apart, woven⟩
    · rw [named, List.reverse_cons, List.append_assoc]
      rfl
    · rw [List.flatMap_cons, escaped]
      rfl
  | case7 => cases h

/-- A statement has an outline just if it is made of its texts and names in turn. -/
theorem outline?_eq_some_iff {statement : String} :
    outline? statement = some ⟨texts, names⟩ ↔ Woven texts names statement.toList := by
  constructor
  · intro h
    exact reads_of_outlineFrom? h List.not_mem_nil
  · exact Woven.outlineFrom?_eq_some

/-! ## Fixed texts -/

/-- Whether a character is a letter, a blank, or one of the marks that texts between names are made
of.  With these alone nothing is quoted or commented out, and no statement ends. -/
def isFixed (c : Char) : Bool :=
  c.isAlpha || c = ' ' || c = '\n' || c = '.' || c = ',' || c = '(' || c = ')' || c = '%'

/-- A text without a quotation mark, an apostrophe, a semicolon or the beginning of a comment. -/
def IsFixed (text : String) : Prop := text.toList.all isFixed = true

namespace IsFixed

variable {text text' : String}

theorem append (h : IsFixed text) (h' : IsFixed text') : IsFixed (text ++ text') := by
  rw [IsFixed, String.toList_append, List.all_append, h, h', Bool.and_self]

theorem unquoted (h : IsFixed text) : '"' ∉ text.toList :=
  fun quote ↦ absurd (List.all_eq_true.mp h '"' quote) (by decide)

/-- A fixed text that is not empty keeps what follows it apart from an identifier. -/
theorem apart (h : IsFixed text) (some : text ≠ "") (cs : List Char) :
    (text.toList ++ cs).head? ≠ .some '"' := by
  cases chars : text.toList with
  | nil => exact absurd (String.toList_eq_nil_iff.mp chars) some
  | cons c rest =>
    rw [List.cons_append, List.head?_cons]
    rintro quote
    obtain rfl := Option.some.inj quote
    exact h.unquoted (by simp [chars])

theorem woven (h : IsFixed text) : Woven [text] [] text.toList := by
  have last := Woven.last h.unquoted
  rwa [String.ofList_toList] at last

theorem woven_cons (h : IsFixed text) (name : String) (apart : cs.head? ≠ some '"')
    (rest : Woven texts names cs) : Woven (text :: texts) (name :: names)
      (text.toList ++ ((quoteIdentifier name).toList ++ cs)) := by
  have next : Woven _ (String.ofList name.toList :: names) _ := .cons h.unquoted apart rest
  rw [toList_quoteIdentifier, List.cons_append, List.append_assoc, List.singleton_append]
  rwa [String.ofList_toList, String.ofList_toList] at next

end IsFixed

/-- The texts behind the names of a list that these suffixes and commas belong to. -/
def itemTexts (closing : String) : List String → List String
  | [] => []
  | [suffix] => [suffix ++ closing]
  | suffix :: suffixes => (suffix ++ ", ") :: itemTexts closing suffixes

/-- The texts in front of the names of a list, between them and behind them. -/
def listTexts (opening closing : String) (suffixes : List String) : List String :=
  if suffixes.isEmpty then [opening ++ closing] else opening :: itemTexts closing suffixes

/-- The texts of the statement that creates a schema. -/
def createSchemaTexts : List String := ["CREATE SCHEMA IF NOT EXISTS ", ""]

/-- The texts of the statement that drops a table. -/
def dropTableTexts : List String := ["DROP TABLE IF EXISTS ", ".", ""]

/-- The texts of the statement that creates a table with columns of these types. -/
def createTableTexts (types : List ColumnType) : List String :=
  "\n        CREATE TABLE " :: "." :: listTexts " (\n            " "\n        )\n    "
    (types.map fun type ↦ " " ++ typeName type)

/-- The texts of the statement that inserts into this many columns. -/
def insertTexts (columns : Nat) : List String :=
  "INSERT INTO " :: "." :: listTexts " (" ") VALUES %s" (List.replicate columns "")

theorem isFixed_type (type : ColumnType) : IsFixed (" " ++ typeName type) := by
  cases type <;> rfl

theorem forall_isFixed_createSchemaTexts : ∀ text ∈ createSchemaTexts, IsFixed text :=
  List.forall_mem_cons.mpr ⟨rfl, List.forall_mem_singleton.mpr rfl⟩

theorem forall_isFixed_dropTableTexts : ∀ text ∈ dropTableTexts, IsFixed text :=
  List.forall_mem_cons.mpr ⟨rfl, List.forall_mem_cons.mpr ⟨rfl, List.forall_mem_singleton.mpr rfl⟩⟩

theorem forall_isFixed_itemTexts {closing : String} (closed : IsFixed closing)
    {suffixes : List String} (fixed : ∀ suffix ∈ suffixes, IsFixed suffix) :
    ∀ text ∈ itemTexts closing suffixes, IsFixed text := by
  fun_induction itemTexts closing suffixes with
  | case1 => nofun
  | case2 suffix =>
    intro text member
    rw [List.mem_singleton.mp member]
    exact (fixed suffix List.mem_cons_self).append closed
  | case3 suffix suffixes _ ih =>
    obtain ⟨first, fixed⟩ := List.forall_mem_cons.mp fixed
    exact List.forall_mem_cons.mpr ⟨first.append rfl, ih fixed⟩

theorem forall_isFixed_listTexts {opening closing : String} (opened : IsFixed opening)
    (closed : IsFixed closing) {suffixes : List String}
    (fixed : ∀ suffix ∈ suffixes, IsFixed suffix) :
    ∀ text ∈ listTexts opening closing suffixes, IsFixed text := by
  rw [listTexts]
  split
  · intro text member
    rw [List.mem_singleton.mp member]
    exact opened.append closed
  · exact List.forall_mem_cons.mpr ⟨opened, forall_isFixed_itemTexts closed fixed⟩

theorem forall_isFixed_createTableTexts (types : List ColumnType) :
    ∀ text ∈ createTableTexts types, IsFixed text := by
  refine List.forall_mem_cons.mpr ⟨rfl, List.forall_mem_cons.mpr ⟨rfl, ?_⟩⟩
  exact forall_isFixed_listTexts (by rfl) (by rfl)
    (List.forall_mem_map.mpr fun type _ ↦ isFixed_type type)

theorem forall_isFixed_insertTexts (columns : Nat) :
    ∀ text ∈ insertTexts columns, IsFixed text := by
  refine List.forall_mem_cons.mpr ⟨rfl, List.forall_mem_cons.mpr ⟨rfl, ?_⟩⟩
  refine forall_isFixed_listTexts (by rfl) (by rfl) fun suffix member ↦ ?_
  rw [List.eq_of_mem_replicate member]
  rfl

/-! ## The statements -/

section Lists

variable {α : Type} (text name suffix : α → String) {opening closing : String}
  (closed : IsFixed closing) (some : closing ≠ "")
  (fixed : ∀ x, IsFixed (suffix x)) (item : ∀ x, text x = quoteIdentifier (name x) ++ suffix x)

include closed some fixed item

/-- Items with commas between them are names and texts in turn. -/
theorem woven_items (opened : IsFixed opening) (x : α) (xs : List α) :
    Woven (opening :: itemTexts closing ((x :: xs).map suffix)) ((x :: xs).map name)
      (opening.toList ++ ((", ".intercalate ((x :: xs).map text)).toList ++ closing.toList)) := by
  induction xs generalizing opening x with
  | nil =>
    have behind := (fixed x).append closed
    have nonempty : suffix x ++ closing ≠ "" := by simp [some]
    have apart := behind.apart nonempty []
    rw [List.append_nil] at apart
    have woven := opened.woven_cons (name x) apart behind.woven
    simpa [item, itemTexts] using woven
  | cons y ys ih =>
    have behind : IsFixed (suffix x ++ ", ") := (fixed x).append rfl
    have woven := opened.woven_cons (name x) (behind.apart (by simp) _) (ih behind y)
    simpa [item, itemTexts, String.intercalate_cons_cons] using woven

theorem woven_list (opened : IsFixed opening) (xs : List α) :
    Woven (listTexts opening closing (xs.map suffix)) (xs.map name)
      (opening.toList ++ ((", ".intercalate (xs.map text)).toList ++ closing.toList)) := by
  cases xs with
  | nil => simpa [listTexts] using (opened.append closed).woven
  | cons x xs => exact woven_items text name suffix closed some fixed item opened x xs

end Lists

/-- A text with a table behind it in front of others. -/
theorem woven_tableName {first : String} (fixed : IsFixed first) (schema table : String)
    (apart : cs.head? ≠ some '"') (rest : Woven texts names cs) :
    Woven (first :: "." :: texts) (schema :: table :: names)
      (first.toList ++ ((tableName schema table).toList ++ cs)) := by
  have point : IsFixed "." := rfl
  have behind := point.woven_cons table apart rest
  have woven := fixed.woven_cons schema (point.apart (by decide) _) behind
  have mark : ".".toList = ['.'] := rfl
  rw [mark, List.singleton_append] at woven
  rw [toList_tableName, List.append_assoc, List.cons_append]
  exact woven

theorem outline?_createSchema (schema : String) :
    outline? (createSchema schema) = some ⟨createSchemaTexts, [schema]⟩ := by
  have fixed : IsFixed "CREATE SCHEMA IF NOT EXISTS " := rfl
  have woven := fixed.woven_cons schema (by simp) (.last List.not_mem_nil)
  rw [List.append_nil] at woven
  rw [outline?_eq_some_iff, toList_createSchema]
  exact woven

theorem outline?_dropTable (schema table : String) :
    outline? (dropTable schema table) = some ⟨dropTableTexts, [schema, table]⟩ := by
  have fixed : IsFixed "DROP TABLE IF EXISTS " := rfl
  have woven := woven_tableName fixed schema table (by simp) (.last List.not_mem_nil)
  rw [List.append_nil] at woven
  rw [outline?_eq_some_iff, toList_dropTable]
  exact woven

theorem outline?_createTable (schema : String) (t : EnumTable) :
    outline? (createTable schema t) =
      some ⟨createTableTexts (t.fields.map Field.type), schema :: t.tableId :: t.columnNames⟩ := by
  have fixed : IsFixed "\n        CREATE TABLE " := rfl
  have opened : IsFixed " (\n            " := rfl
  have closed : IsFixed "\n        )\n    " := rfl
  have item (f : Field) : columnDefinition f = quoteIdentifier f.name ++ (" " ++ typeName f.type) :=
    String.append_assoc
  have columns := woven_list columnDefinition Field.name (fun f ↦ " " ++ typeName f.type) closed
    (by decide) (fun f ↦ isFixed_type f.type) item opened t.fields
  have woven := woven_tableName fixed schema t.tableId (by simp) columns
  rw [outline?_eq_some_iff, toList_createTable, createTableTexts, List.map_map]
  exact woven

theorem outline?_insertInto (schema : String) (t : EnumTable) :
    outline? (insertInto schema t) =
      some ⟨insertTexts t.columnNames.length, schema :: t.tableId :: t.columnNames⟩ := by
  have fixed : IsFixed "INSERT INTO " := rfl
  have opened : IsFixed " (" := rfl
  have closed : IsFixed ") VALUES %s" := rfl
  have item (c : String) : quoteIdentifier c = quoteIdentifier (id c) ++ "" :=
    String.append_empty.symm
  have columns := woven_list quoteIdentifier id (fun _ ↦ "") closed (by decide)
    (fun _ ↦ rfl) item opened t.columnNames
  have woven := woven_tableName fixed schema t.tableId (by simp) columns
  rw [List.map_id, List.map_const'] at woven
  rw [outline?_eq_some_iff, toList_insertInto, insertTexts]
  exact woven

/-- A statement that drops a table tells its schema and its name. -/
theorem dropTable_inj {schema schema' table table' : String} :
    dropTable schema table = dropTable schema' table' ↔ schema = schema' ∧ table = table' := by
  constructor
  · intro same
    have outlines := congrArg outline? same
    rw [outline?_dropTable, outline?_dropTable] at outlines
    simpa using outlines
  · rintro ⟨rfl, rfl⟩
    rfl

end EnumTables.Sql

namespace EnumTables

/-! ## What a run issues -/

/-- The statement that a command sends to the server, with one place for all records. -/
def Command.statement? : Command → Option String
  | .execute statement => some statement
  | .values template _ => (Sql.Template.send template).toOption
  | _ => none

/-- The statements of a trace. -/
def Trace.statements (t : Trace) : List String := t.commands.filterMap Command.statement?

theorem Trace.statements_append (s t : Trace) :
    (s ++ t).statements = s.statements ++ t.statements := by
  rw [statements, commands_append, List.filterMap_append, statements, statements]

theorem Fault.statements_cleanUp (e : Fault) : e.cleanUp.statements = [] := by
  rw [cleanUp]
  split <;> rfl

namespace Act

variable {w : World} {past : Trace} {cs : List Command}

/-- Of commands one after the other the first ones are given. -/
theorem commands_giveAll_prefix (cs : List Command) :
    Trace.commands ((giveAll cs).run w past).events <+: cs := by
  have begun : Trace.commands ((giveAll cs).run w past).events <+:
      Trace.commands (cs.map .database) :=
    (run_giveAll cs w past).1.filterMap Event.command?
  rwa [Trace.commands_map_database] at begun

/-- All of them are given if none fails. -/
theorem commands_giveAll_of_ok (h : ((giveAll cs).run w past).result = .ok ()) :
    Trace.commands ((giveAll cs).run w past).events = cs := by
  rcases (run_giveAll cs w past).2 with ⟨given, -, -⟩ | ⟨e, -, failed⟩
  · rw [given, Trace.commands_map_database]
  · nomatch h.symm.trans failed

end Act

/-- A unit of work issues what its body does, unless the connection is refused. -/
theorem Lifecycle.statements_eq {α : Type} {w : World} {past : Trace} {dsn : String}
    {body r : Run α} (cycle : Lifecycle w past (.connect dsn) body r) :
    (r.events.statements = [] ∧ ∃ e, r.result = .error e) ∨
    (r.events.statements = body.events.statements ∧
      ∀ a, r.result = .ok a → ∃ b, body.result = .ok b) := by
  have around (ended : Trace) (none : ended.statements = []) :
      Trace.statements (.database (.connect dsn) :: (body.events ++ ended)) =
        body.events.statements := by
    change Trace.statements (body.events ++ ended) = _
    rw [Trace.statements_append, none, List.append_nil]
  cases cycle with
  | refused => exact .inl ⟨rfl, _, rfl⟩
  | committed _ returned => exact .inr ⟨around _ rfl, fun _ _ ↦ ⟨_, returned⟩⟩
  | unpublished _ returned =>
    refine .inr ⟨around _ ?_, fun _ _ ↦ ⟨_, returned⟩⟩
    exact Fault.statements_cleanUp _
  | failed => exact .inr ⟨around _ (Fault.statements_cleanUp _), nofun⟩

namespace EnumTable

variable {t : EnumTable} {schema : String}

/-- The outlines of the statements that make an empty table of a schema. -/
def emptyOutlines (t : EnumTable) (schema : String) : List Sql.Outline :=
  [⟨Sql.createSchemaTexts, [schema]⟩, ⟨Sql.dropTableTexts, [schema, t.tableId]⟩,
    ⟨Sql.createTableTexts (t.fields.map Field.type), schema :: t.tableId :: t.columnNames⟩]

/-- The outline of the statement that inserts the records of a table, if it has any, where a function
is applied to the names. -/
def insertOutlines (f : String → String) (t : EnumTable) (schema : String) : List Sql.Outline :=
  if t.records.isEmpty then []
  else [⟨Sql.insertTexts t.columnNames.length, (schema :: t.tableId :: t.columnNames).map f⟩]

/-- The outlines of the statements that replace a table of a schema.  The columns' types and whether
there is a record are all that their texts depend on. -/
def outlines (t : EnumTable) (schema : String) : List Sql.Outline :=
  t.emptyOutlines schema ++ t.insertOutlines id schema

/-- The outlines of the statements that are sent to replace a table of a schema.  The names in the
statement that inserts have their doubled percent signs halved; there is no such statement if the
driver refuses its template. -/
def sentOutlines (t : EnumTable) (schema : String) : List Sql.Outline :=
  t.emptyOutlines schema ++
    match Sql.Template.send (Sql.insertInto schema t) with
    | .ok _ => t.insertOutlines Sql.halved schema
    | .error _ => []

theorem forall_isFixed_outlines (t : EnumTable) (schema : String) :
    ∀ o ∈ t.outlines schema, ∀ text ∈ o.texts, Sql.IsFixed text := by
  refine List.forall_mem_append.mpr ⟨List.forall_mem_cons.mpr ⟨?_, List.forall_mem_cons.mpr
    ⟨?_, List.forall_mem_singleton.mpr (Sql.forall_isFixed_createTableTexts _)⟩⟩, ?_⟩
  · exact Sql.forall_isFixed_createSchemaTexts
  · exact Sql.forall_isFixed_dropTableTexts
  · rw [insertOutlines]
    split
    · simp
    · exact List.forall_mem_singleton.mpr (Sql.forall_isFixed_insertTexts _)

/-- The texts are the same for all names. -/
theorem texts_outlines_congr {t t' : EnumTable}
    (types : t'.fields.map Field.type = t.fields.map Field.type)
    (records : t'.records.isEmpty = t.records.isEmpty) (schema schema' : String) :
    (t'.outlines schema').map Sql.Outline.texts = (t.outlines schema).map Sql.Outline.texts := by
  have columns : t'.columnNames.length = t.columnNames.length := by
    simpa [columnNames] using congrArg List.length types
  rw [outlines, outlines, emptyOutlines, emptyOutlines, insertOutlines, insertOutlines, types,
    records, columns]
  split <;> rfl

/-- No text is sent but those of the statements, one after the other. -/
theorem texts_sentOutlines_prefix (t : EnumTable) (schema : String) :
    (t.sentOutlines schema).map Sql.Outline.texts <+:
      (t.outlines schema).map Sql.Outline.texts := by
  rw [sentOutlines, outlines, List.map_append, List.map_append, List.prefix_append_right_inj]
  cases Sql.Template.send (Sql.insertInto schema t) with
  | error => exact List.nil_prefix
  | ok =>
    have same : (t.insertOutlines Sql.halved schema).map Sql.Outline.texts =
        (t.insertOutlines id schema).map Sql.Outline.texts := by
      rw [insertOutlines, insertOutlines]
      split <;> rfl
    exact same ▸ List.prefix_rfl

/-- Names without percent signs are sent as they are. -/
theorem sentOutlines_of_isPercentFree (h : t.IsPercentFree schema) :
    t.sentOutlines schema = t.outlines schema := by
  have names : (schema :: t.tableId :: t.columnNames).map Sql.halved =
      (schema :: t.tableId :: t.columnNames).map id := by
    refine List.map_congr_left (List.forall_mem_cons.mpr ⟨?_, List.forall_mem_cons.mpr ⟨?_, ?_⟩⟩)
    · exact Sql.halved_of_percentFree h.schema
    · exact Sql.halved_of_percentFree h.table
    · exact fun c member ↦ Sql.halved_of_percentFree (h.columns c member)
  rw [sentOutlines, outlines, Sql.send_insertInto h]
  simp only [insertOutlines, names]

/-- The statement that inserts has its outline if there are records and it is sent. -/
theorem outline?_insertion (t : EnumTable) (schema : String) :
    ((if t.records.isEmpty then [] else [Command.values (Sql.insertInto schema t) t.records]).filterMap
        Command.statement?).map Sql.outline? =
      (match Sql.Template.send (Sql.insertInto schema t) with
        | .ok _ => t.insertOutlines Sql.halved schema
        | .error _ => []).map some := by
  rw [insertOutlines]
  cases t.records.isEmpty with
  | true =>
    rw [if_pos rfl, if_pos rfl, List.filterMap_nil, List.map_nil]
    split <;> rw [List.map_nil]
  | false =>
    rw [if_neg Bool.false_ne_true, if_neg Bool.false_ne_true]
    cases sent : Sql.Template.send (Sql.insertInto schema t) with
    | error =>
      have none : (Command.values (Sql.insertInto schema t) t.records).statement? = none := by
        rw [Command.statement?, sent, Except.toOption]
      rw [List.filterMap_cons_none none]
      rfl
    | ok text =>
      have some : (Command.values (Sql.insertInto schema t) t.records).statement? = some text := by
        rw [Command.statement?, sent, Except.toOption]
      rw [List.filterMap_cons_some some, Sql.eq_insertInto_of_send sent, List.map_cons,
        Sql.outline?_insertInto, t.columnNames_rename, List.length_map]
      rfl

/-- The statements that are sent to replace a table have these outlines. -/
theorem outline?_replaceCommands (t : EnumTable) (schema : String) :
    ((replaceCommands schema t).filterMap Command.statement?).map Sql.outline? =
      (t.sentOutlines schema).map some := by
  rw [replaceCommands, sentOutlines, List.filterMap_append, List.map_append, outline?_insertion,
    List.map_append]
  congr 1
  simp [emptyOutlines, Command.statement?, Sql.outline?_createSchema, Sql.outline?_dropTable,
    Sql.outline?_createTable]

end EnumTable

/-- The statements that a run sends to replace a table are, from the first on, texts that no name has
a part in, with the names of the schema, the table and its columns between them; they are all of
these if the run returns.  Where none of these names has a percent sign they are exactly the given
ones in all statements; otherwise they are so in all but the statement that inserts, in which doubled
percent signs are halved, or which is not sent.  No text can quote anything or end a statement, and a
statement that drops a table tells its schema and its name. -/
theorem outline?_replaceTable (schema : String) (t : EnumTable) (w : World) (past : Trace) :
    let r := (replaceTable schema t).run w past
    let read := r.events.statements.map Sql.outline?
    read <+: (t.sentOutlines schema).map some ∧
    ((∃ n, r.result = .ok n) → read = (t.sentOutlines schema).map some) ∧
    (t.IsPercentFree schema → t.sentOutlines schema = t.outlines schema) ∧
    (t.sentOutlines schema).map Sql.Outline.texts <+:
      (t.outlines schema).map Sql.Outline.texts ∧
    (∀ o ∈ t.outlines schema, ∀ text ∈ o.texts, Sql.IsFixed text) ∧
    (∀ (schema' : String) (t' : EnumTable), t'.fields.map Field.type = t.fields.map Field.type →
      t'.records.isEmpty = t.records.isEmpty →
      (t'.outlines schema').map Sql.Outline.texts = (t.outlines schema).map Sql.Outline.texts) ∧
    ∀ schema' table, Sql.dropTable schema t.tableId = Sql.dropTable schema' table →
      schema = schema' ∧ t.tableId = table := by
  intro r read
  have ran : r = _ := run_replaceTable schema t
  have issued : r.events.statements = _ := congrArg (fun r : Run Nat ↦ r.events.statements) ran
  have outlines : read = _ := congrArg (List.map Sql.outline?) issued
  have cycle := (lifecycle_withConnection w past none (replaceStatements schema t)).statements_eq
  rw [replaceStatements_eq] at cycle
  refine ⟨?_, ?_, EnumTable.sentOutlines_of_isPercentFree, t.texts_sentOutlines_prefix schema,
    t.forall_isFixed_outlines schema,
    fun schema' _ types records ↦ EnumTable.texts_outlines_congr types records schema schema',
    fun _ _ ↦ Sql.dropTable_inj.mp⟩
  · rw [outlines, ← t.outline?_replaceCommands schema, replaceStatements_eq]
    rcases cycle with ⟨none, -⟩ | ⟨body, -⟩
    · rw [none]
      exact List.nil_prefix
    · rw [body]
      exact ((Act.commands_giveAll_prefix _).filterMap _).map _
  · rintro ⟨n, returned⟩
    rw [outlines, ← t.outline?_replaceCommands schema, replaceStatements_eq]
    rw [ran, replaceStatements_eq] at returned
    obtain ⟨a, done, -⟩ := map_eq_ok_iff.mp returned
    rcases cycle with ⟨-, e, failed⟩ | ⟨body, ends⟩
    · nomatch failed.symm.trans done
    · obtain ⟨b, given⟩ := ends a done
      rw [body, Trace.statements, Act.commands_giveAll_of_ok given]

/-- Names that try to end their identifiers and the statement. -/
theorem outline?_replaceTable_hostile :
    let t : EnumTable :=
      { tableId := "colour\"; DROP TABLE \"size", fields := [⟨"key\".\"", .string⟩],
        rows := [[("key\".\"", "RED")]] }
    let r := (replaceTable "\"" t).run (.withFaults fun _ _ ↦ none) []
    r.result = .ok 1 ∧
    r.events.statements.map Sql.outline? =
      [some ⟨["CREATE SCHEMA IF NOT EXISTS ", ""], ["\""]⟩,
        some ⟨["DROP TABLE IF EXISTS ", ".", ""], ["\"", "colour\"; DROP TABLE \"size"]⟩,
        some ⟨["\n        CREATE TABLE ", ".", " (\n            ", " TEXT\n        )\n    "],
          ["\"", "colour\"; DROP TABLE \"size", "key\".\""]⟩,
        some ⟨["INSERT INTO ", ".", " (", ") VALUES %s"],
          ["\"", "colour\"; DROP TABLE \"size", "key\".\""]⟩] ∧
    Sql.dropTable "\"" t.tableId ≠ Sql.dropTable "\"" "colour" := by
  intro t r
  have returned : r.result = .ok 1 := rfl
  have whole : t.IsPercentFree "\"" := ⟨by decide, by decide, by decide⟩
  obtain ⟨-, complete, exact, -, -, -, dropped⟩ :=
    outline?_replaceTable "\"" t (.withFaults fun _ _ ↦ none) []
  refine ⟨returned, ?_, fun same ↦ ?_⟩
  · rw [complete ⟨1, returned⟩, exact whole]
    decide
  · exact absurd (dropped "\"" "colour" same).2 (by decide)

/-- The rows of a table are put into a table of another name, or not sent at all. -/
theorem outline?_replaceTable_percent :
    let sent (name : String) :=
      ((replaceTable "enums" (.ofConstant name "X")).run (.withFaults fun _ _ ↦ none)
        []).events.statements.map Sql.outline?
    (sent "a%%_b")[3]? = some (some
        ⟨["INSERT INTO ", ".", " (", ", ", ") VALUES %s"], ["enums", "a%_b", "key", "code"]⟩) ∧
      (sent "a%_b").length = 3 := by
  decide +kernel

end EnumTables
