import EnumTables.Database.Load
import EnumTables.Proofs.Database.Lifecycle

/-!
# Replacing a table

To replace a table is all or nothing, whatever faults the commands meet: it either publishes the
table with all of its rows, or changes nothing that other connections see.
-/

namespace EnumTables

variable {schema : String} {t : EnumTable}

/-! ## What is to be published -/

/-- The store `after` is `before` with this table in place: it has the columns of the table with
their types and, in order, its rows, where a value that a row lacks is missing.  The schema is
there, and nothing else has changed.  All names are those that the database keeps. -/
structure Store.IsReplacement (schema : String) (t : EnumTable) (before after : Store) : Prop where
  table : after.table? (Sql.kept schema) (Sql.kept t.tableId) = some
    { columns := t.fields.map fun f ↦ (Sql.kept f.name, Sql.typeName f.type)
      rows := t.rows.map fun row ↦ t.fields.map fun f ↦ row.get? f.name }
  schema_there : after.hasSchema (Sql.kept schema) = true
  other_tables : ∀ n m, ¬ (n = Sql.kept schema ∧ m = Sql.kept t.tableId) →
    after.table? n m = before.table? n m
  other_schemas : ∀ n, n ≠ Sql.kept schema → after.hasSchema n = before.hasSchema n

/-- The columns that a database keeps of a table, with their types. -/
def Sql.keptColumns (t : EnumTable) : List (String × String) :=
  t.fields.map fun f ↦ (kept f.name, typeName f.type)

/-- The store with the schema and with a table of these rows. -/
def Store.withRows (st : Store) (schema : String) (t : EnumTable)
    (rows : List (List (Option String))) : Store :=
  (st.addSchema (Sql.kept schema)).setTable (Sql.kept schema) (Sql.kept t.tableId)
    (some ⟨Sql.keptColumns t, rows⟩)

namespace EnumTable

theorem records_eq (t : EnumTable) :
    t.records = t.rows.map fun row ↦ t.fields.map fun f ↦ row.get? f.name := by
  refine List.map_congr_left fun row _ ↦ ?_
  rw [columnNames, List.map_map]
  rfl

theorem length_of_mem_records {r : List (Option String)} (h : r ∈ t.records) :
    r.length = t.columnNames.length := by
  obtain ⟨row, -, rfl⟩ := List.mem_map.mp h
  exact List.length_map ..

theorem map_fst_columnsOf (t : EnumTable) : (Sql.columnsOf t).map Prod.fst = t.columnNames := by
  rw [Sql.columnsOf, List.map_map]
  rfl

theorem map_fst_keptColumns (t : EnumTable) :
    (Sql.keptColumns t).map Prod.fst = t.columnNames.map Sql.kept := by
  rw [Sql.keptColumns, columnNames, List.map_map, List.map_map]
  rfl

end EnumTable

theorem Store.isReplacement_withRows (st : Store) (schema : String) (t : EnumTable) :
    Store.IsReplacement schema t st (st.withRows schema t t.records) where
  table := by rw [withRows, table?_setTable_self, t.records_eq, Sql.keptColumns]
  schema_there := by rw [withRows, hasSchema_setTable, hasSchema_addSchema_self]
  other_tables n m h := by rw [withRows, table?_setTable_of_ne h, table?_addSchema]
  other_schemas n h := by rw [withRows, hasSchema_setTable, hasSchema_addSchema_of_ne h]

/-! ## The statements -/

/-- A table that a database accepts: no two columns have one name, and there is a column if there is
a record to insert. -/
structure EnumTable.IsStorable (t : EnumTable) : Prop where
  distinct : (t.columnNames.map Sql.kept).Nodup
  columns : t.records ≠ [] → t.fields ≠ []

/-- A table with columns of distinct names is accepted. -/
theorem EnumTable.isStorable_of_columns (columns : t.fields ≠ [])
    (distinct : (t.columnNames.map Sql.kept).Nodup) : t.IsStorable := ⟨distinct, fun _ ↦ columns⟩

namespace Command

variable (st : Store)

theorem effect?_createSchema (schema : String) :
    (execute (Sql.createSchema schema)).effect? st = some (st.addSchema (Sql.kept schema)) :=
  effect?_execute (Sql.Statement.ofText?_createSchema schema)

theorem effect?_dropTable (schema table : String) :
    (execute (Sql.dropTable schema table)).effect? st =
      some (st.setTable (Sql.kept schema) (Sql.kept table) none) :=
  effect?_execute (Sql.Statement.ofText?_dropTable schema table)

theorem effect?_createTable_eq : (execute (Sql.createTable schema t)).effect? st =
    (Sql.Statement.createTable (Sql.kept schema) (Sql.kept t.tableId) (Sql.keptColumns t)).run?
      st := by
  have renamed : (Sql.columnsOf t).map (fun c ↦ (Sql.kept c.1, c.2)) = Sql.keptColumns t := by
    rw [Sql.columnsOf, List.map_map]
    rfl
  rw [effect?_execute (Sql.Statement.ofText?_createTable schema t), Sql.Statement.rename, renamed]

/-- A table can be created where it was dropped. -/
theorem effect?_createTable (distinct : (t.columnNames.map Sql.kept).Nodup) :
    (execute (Sql.createTable schema t)).effect?
      ((st.addSchema (Sql.kept schema)).setTable (Sql.kept schema) (Sql.kept t.tableId) none) =
        some (st.withRows schema t []) := by
  rw [effect?_createTable_eq, Sql.Statement.run?, if_pos, Store.setTable_setTable, Store.withRows]
  refine ⟨?_, Store.table?_setTable_self .., ?_⟩
  · rw [Store.hasSchema_setTable, Store.hasSchema_addSchema_self]
  · rwa [t.map_fst_keptColumns]

/-- The statement that inserts is sent as it was written, if it has no percent signs. -/
theorem effect?_insertInto_eq (free : t.IsPercentFree schema)
    (records : List (List (Option String))) :
    (values (Sql.insertInto schema t) records).effect? st = (Sql.Statement.insertInto
      (Sql.kept schema) (Sql.kept t.tableId) (t.columnNames.map Sql.kept)).runWith? st records :=
  effect?_values (Sql.send_insertInto free) (Sql.Statement.ofText?_insertInto schema t)

/-- The records of a table can be inserted into the table while it is empty. -/
theorem effect?_insertInto (free : t.IsPercentFree schema) (columns : t.fields ≠ [])
    (distinct : (t.columnNames.map Sql.kept).Nodup) :
    (values (Sql.insertInto schema t) t.records).effect? (st.withRows schema t []) =
      some (st.withRows schema t t.records) := by
  have named : t.columnNames.map Sql.kept ≠ [] := fun h ↦
    columns (List.map_eq_nil_iff.mp (List.map_eq_nil_iff.mp h))
  have length (r : List (Option String)) (h : r ∈ t.records) :
      r.length = (t.columnNames.map Sql.kept).length := by
    rw [List.length_map, t.length_of_mem_records h]
  have aligned : t.records.map (Store.align (t.columnNames.map Sql.kept)
      (t.columnNames.map Sql.kept)) = t.records :=
    calc t.records.map (Store.align (t.columnNames.map Sql.kept) (t.columnNames.map Sql.kept))
      _ = t.records.map id :=
          List.map_congr_left fun r h ↦ Store.align_self distinct (length r h)
      _ = t.records := List.map_id _
  rw [effect?_insertInto_eq _ free, Sql.Statement.runWith?, Store.withRows,
    Store.table?_setTable_self]
  simp only [t.map_fst_keptColumns]
  rw [if_pos ⟨named, distinct, fun _ h ↦ h, length⟩, aligned, Store.setTable_setTable,
    List.nil_append, Store.withRows]

variable {st} {st' : Store}

theorem distinct_of_effect?_createTable
    (h : (execute (Sql.createTable schema t)).effect? st = some st') :
    (t.columnNames.map Sql.kept).Nodup := by
  rw [effect?_createTable_eq, Sql.Statement.run?] at h
  split at h
  · rename_i free
    rw [← t.map_fst_keptColumns]
    exact free.2.2
  · cases h

theorem columns_of_effect?_insertInto {records : List (List (Option String))}
    (free : t.IsPercentFree schema)
    (h : (values (Sql.insertInto schema t) records).effect? st = some st') : t.fields ≠ [] := by
  rw [effect?_insertInto_eq _ free, Sql.Statement.runWith?] at h
  intro none
  have unnamed : t.columnNames.map Sql.kept = [] :=
    congrArg (fun fields ↦ (fields.map Field.name).map Sql.kept) none
  split at h
  · rw [if_neg fun fitting ↦ fitting.1 unnamed] at h
    cases h
  · cases h

end Command

/-- The statements that replace a table, as a list. -/
def replaceCommands (schema : String) (t : EnumTable) : List Command :=
  [.execute (Sql.createSchema schema), .execute (Sql.dropTable schema t.tableId),
    .execute (Sql.createTable schema t)] ++
  if t.records.isEmpty then [] else [.values (Sql.insertInto schema t) t.records]

theorem replaceStatements_eq (schema : String) (t : EnumTable) :
    replaceStatements schema t = Act.giveAll (replaceCommands schema t) := by
  rw [replaceStatements, replaceCommands]
  cases t.records.isEmpty with
  | true => rfl
  | false => simp [Act.giveAll]

theorem commit_notMem_replaceCommands : .commit ∉ replaceCommands schema t := by
  rw [replaceCommands]
  split <;> simp

theorem commit_notMem_events {w : World} {past : Trace} :
    .database .commit ∉ ((replaceStatements schema t).run w past).events := by
  rw [replaceStatements_eq]
  intro h
  obtain ⟨c, given, commit⟩ := Act.mem_of_mem_events_giveAll h
  cases commit
  exact commit_notMem_replaceCommands given

/-- The statements that replace a table are accepted, from whatever the database holds, just if the
table is one that is accepted; they put it in place. -/
theorem foldlM_effect?_replaceCommands_iff (free : t.IsPercentFree schema) {st st' : Store} :
    (replaceCommands schema t).foldlM Command.effect? st = some st' ↔
      t.IsStorable ∧ st' = st.withRows schema t t.records := by
  have created : [Command.execute (Sql.createSchema schema),
      .execute (Sql.dropTable schema t.tableId), .execute (Sql.createTable schema t)].foldlM
        Command.effect? st = Command.effect? ((st.addSchema (Sql.kept schema)).setTable
          (Sql.kept schema) (Sql.kept t.tableId) none) (.execute (Sql.createTable schema t)) := by
    simp only [List.foldlM_cons, Command.effect?_createSchema, Command.effect?_dropTable,
      Option.bind_eq_bind, Option.bind_some, List.foldlM_nil, Option.pure_def, Option.bind_fun_some]
  rw [replaceCommands, List.foldlM_append, created, Option.bind_eq_bind, Option.bind_eq_some_iff]
  constructor
  · rintro ⟨mid, table, inserted⟩
    have distinct := Command.distinct_of_effect?_createTable table
    rw [Command.effect?_createTable st distinct] at table
    obtain rfl := Option.some.inj table
    split at inserted
    · rename_i empty
      have none := List.isEmpty_iff.mp empty
      refine ⟨⟨distinct, fun some ↦ absurd none some⟩, ?_⟩
      rw [none]
      exact (Option.some.inj inserted).symm
    · rw [List.foldlM_cons, Option.bind_eq_bind, Option.bind_eq_some_iff] at inserted
      obtain ⟨filled, rows, rest⟩ := inserted
      have columns := Command.columns_of_effect?_insertInto free rows
      rw [Command.effect?_insertInto st free columns distinct] at rows
      obtain rfl := Option.some.inj rows
      exact ⟨t.isStorable_of_columns columns distinct, (Option.some.inj rest).symm⟩
  · rintro ⟨storable, rfl⟩
    refine ⟨_, Command.effect?_createTable st storable.distinct, ?_⟩
    split
    · rename_i empty
      rw [List.isEmpty_iff.mp empty]
      rfl
    · rename_i some
      have columns := storable.columns fun none ↦ some (List.isEmpty_iff.mpr none)
      rw [List.foldlM_cons, Command.effect?_insertInto st free columns storable.distinct]
      rfl

/-! ## All or nothing -/

variable {w : World} {past : Trace} {S : DatabaseServer} {s : S.State}

/-- To replace a table is a unit of work, after which the rows are counted. -/
theorem run_replaceTable (schema : String) (t : EnumTable) :
    let work := (withConnection none (replaceStatements schema t)).run w past
    (replaceTable schema t).run w past =
      ⟨work.events, work.result.map fun _ ↦ t.rows.length⟩ := by
  intro work
  have counted : t.records.length = t.rows.length := t.length_records
  cases h : work.result with
  | ok a =>
    rw [replaceTable, Act.run_bind_of_ok h, Act.run_pure, List.append_nil, counted]
    rfl
  | error e =>
    rw [replaceTable, Act.run_bind_of_error h]
    rfl

/-- The number that is returned is the number of rows. -/
theorem eq_length_of_replaceTable {n : Nat}
    (h : ((replaceTable schema t).run w past).result = .ok n) : n = t.rows.length := by
  rw [run_replaceTable] at h
  obtain ⟨_, -, rfl⟩ := map_eq_ok_iff.mp h
  rfl

/-- What is published by a unit of work with these statements is the table in place. -/
theorem isReplacement_of_publishes (lawful : S.Lawful) (free : t.IsPercentFree schema)
    (columns : t.fields ≠ []) (distinct : (t.columnNames.map Sql.kept).Nodup) {dsn : String}
    {r : Run Unit} (h : Lifecycle.Publishes S s w past (.connect dsn)
      ((replaceStatements schema t).run w (past ++ [.database (.connect dsn)])) r) :
    Store.IsReplacement schema t (S.committed s) (S.committed (S.replay w past s r.events)) := by
  obtain ⟨connected, ⟨_, returned⟩, published⟩ := h
  -- The transaction begins with what is committed, and the statements are accepted from there on.
  have opened : S.visible (S.stepEvent w past s (.database (.connect dsn))) = S.committed s := by
    rw [DatabaseServer.stepEvent, connected]
    exact lawful.visible_connect s dsn
  have accepted : (replaceCommands schema t).foldlM Command.effect? (S.committed s) = _ :=
    (foldlM_effect?_replaceCommands_iff free).mpr ⟨t.isStorable_of_columns columns distinct, rfl⟩
  rw [← opened] at accepted
  rw [replaceStatements_eq] at returned published
  rw [published, DatabaseServer.replay, lawful.visible_giveAll accepted returned, opened]
  exact Store.isReplacement_withRows _ schema t

/-- A run that replaces a table publishes something, and then returns or fails to close the
connection; or it changes nothing and fails.  What is published is the table in place. -/
theorem replaces_or_keeps (lawful : S.Lawful) (schema : String) (t : EnumTable) (w : World)
    (past : Trace) (s : S.State) :
    let r := (replaceTable schema t).run w past
    let after := S.committed (S.replay w past s r.events)
    ((t.fields ≠ [] → (t.columnNames.map Sql.kept).Nodup → t.IsPercentFree schema →
        Store.IsReplacement schema t (S.committed s) after) ∧
      ((∃ n, r.result = .ok n) ∨ r.FailsToClose w past)) ∨
    (after = S.committed s ∧ ¬ r.FailsToClose w past ∧ ∃ e, r.result = .error e) := by
  intro r after
  let work := (withConnection none (replaceStatements schema t)).run w past
  have ran : r = ⟨work.events, work.result.map fun _ ↦ t.rows.length⟩ := run_replaceTable schema t
  have cycle := lifecycle_withConnection w past none (replaceStatements schema t)
  have outcomes := Lifecycle.publishes_or_keeps lawful commit_notMem_events s cycle
  have unclosed_iff : r.FailsToClose w past ↔ work.FailsToClose w past := by
    rw [ran]
    exact Run.failsToClose_map_iff
  have result : r.result = work.result.map fun _ ↦ t.rows.length := congrArg Run.result ran
  have reached : after = S.committed (S.replay w past s work.events) := by
    rw [← congrArg Run.events ran]
  rcases outcomes with ⟨published, ended⟩ | ⟨kept, closed, e, failed⟩
  · refine .inl ⟨fun columns distinct free ↦ ?_, ?_⟩
    · exact reached ▸ isReplacement_of_publishes lawful free columns distinct published
    obtain ⟨-, ⟨_, returned⟩, -⟩ := published
    rcases ended with ended | unclosed
    · exact .inl ⟨_, result.trans (map_eq_ok_iff.mpr ⟨_, ended.trans returned, rfl⟩)⟩
    · exact .inr (unclosed_iff.mpr unclosed)
  · exact .inr ⟨reached.trans kept, mt unclosed_iff.mp closed, e,
      result.trans (map_eq_error_iff.mpr failed)⟩

/-- A run that replaces a table, whatever faults its commands meet.  If it returns, the number of the
rows is returned, and the table is in place, if it has columns that the database tells apart, unless
there is a percent sign in a name.  If it fails, nothing has changed, unless all that failed was to
close the connection after the commit, in which case what was done is as if it had returned. -/
theorem replaceTable_all_or_nothing (lawful : S.Lawful) (schema : String) (t : EnumTable) (w : World)
    (past : Trace) (s : S.State) :
    let r := (replaceTable schema t).run w past
    let before := S.committed s
    let after := S.committed (S.replay w past s r.events)
    let replaced := t.fields ≠ [] → (t.columnNames.map Sql.kept).Nodup → t.IsPercentFree schema →
      Store.IsReplacement schema t before after
    (∀ n, r.result = .ok n → n = t.rows.length ∧ replaced) ∧
    ∀ e, r.result = .error e →
      (r.FailsToClose w past → replaced) ∧ (¬ r.FailsToClose w past → after = before) := by
  intro r before after replaced
  rcases replaces_or_keeps lawful schema t w past s with
    ⟨published, ended⟩ | ⟨kept, closed, e, failed⟩
  · refine ⟨fun n returned ↦ ⟨eq_length_of_replaceTable returned, published⟩, ?_⟩
    intro e failed
    refine ⟨fun _ ↦ published, fun closed ↦ ?_⟩
    rcases ended with ⟨n, returned⟩ | unclosed
    · nomatch failed.symm.trans returned
    · exact absurd unclosed closed
  · refine ⟨fun n returned ↦ ?_, fun _ _ ↦ ⟨fun unclosed ↦ absurd unclosed closed, fun _ ↦ kept⟩⟩
    nomatch failed.symm.trans returned

/-- A world with nothing in it, in which commands meet these faults. -/
def World.withFaults (failure : Site → Nat → Option Fault) : World where
  environment := []
  files _ := none
  respond _ := .error (.transport (.connection ""))
  failure := failure

/-- A table with a row that lacks a value. -/
def colours : EnumTable where
  tableId := "colour"
  fields := [⟨"key", .string⟩, ⟨"code", .integer⟩]
  rows := [[("key", "RED"), ("code", "1")], [("key", "BLUE")]]

/-- The table is in place after the user interrupts the program while it closes the connection. -/
theorem replaceTable_colours_interrupted :
    let faults site (_ : Nat) := if site = Site.close then some (.interrupted "") else none
    let r := (replaceTable "enums" colours).run (.withFaults faults) []
    let none : Store := ⟨fun _ ↦ false, fun _ _ ↦ none⟩
    r.result = .error (.interrupted "") ∧
    (DatabaseServer.inMemory.committed (DatabaseServer.inMemory.replay (.withFaults faults) []
      (none, none) r.events)).table? "enums" colours.tableId =
        some ⟨[("key", "TEXT"), ("code", "BIGINT")],
          [[some "RED", some "1"], [some "BLUE", .none]]⟩ := by
  intro faults r none
  have failed : r.result = .error (.interrupted "") := rfl
  have unclosed : r.FailsToClose (.withFaults faults) [] :=
    ⟨r.events.take 5, .interrupted "", rfl, rfl, rfl, failed⟩
  have free : colours.IsPercentFree "enums" := ⟨by decide, by decide, by decide⟩
  have all := replaceTable_all_or_nothing DatabaseServer.inMemory_lawful "enums" colours
    (.withFaults faults) [] (none, none)
  have table := ((all.2 _ failed).1 unclosed (by decide) (by decide) free).table
  have stored : colours.fields.map (fun f ↦ (Sql.kept f.name, Sql.typeName f.type)) =
      [("key", "TEXT"), ("code", "BIGINT")] := by decide +kernel
  rw [Sql.kept_of_fits (by decide), Sql.kept_of_fits (by decide), stored] at table
  refine ⟨failed, ?_⟩
  rw [table]
  simp [colours, Row.get?, List.lookup_cons]

/-- The table of an enum with one constant. -/
def EnumTable.ofConstant (name key : String) : EnumTable where
  tableId := name
  fields := [⟨"key", .string⟩, ⟨"code", .integer⟩]
  rows := [[("key", key), ("code", "0")]]

/-- A store with one schema, in which there is one empty table of an enum. -/
def Store.withEmpty (name : String) : Store where
  hasSchema n := n = "enums"
  table? n m :=
    if n = "enums" ∧ m = name then some ⟨[("key", "TEXT"), ("code", "BIGINT")], []⟩ else none

/-- The row of a table with two percent signs in its name goes to the table with one, and the table
that was to be replaced is left without rows. -/
theorem replaceTable_percent :
    let t : EnumTable := .ofConstant "a%%_b" "X"
    let before := DatabaseServer.holding (.withEmpty "a%_b")
    let r := (replaceTable "enums" t).run (.withFaults fun _ _ ↦ none) []
    let after := DatabaseServer.inMemory.committed
      (DatabaseServer.inMemory.replay (.withFaults fun _ _ ↦ none) [] before r.events)
    (Declaration.parse? "enum A%%B \x7b X; \x7d").map (·.toTable enumColumns) = some t ∧
      t.records = [[some "X", some "0"]] ∧ r.result.toOption = some 1 ∧
      (after.table? "enums" "a%%_b").map StoredTable.rows = some [] ∧
      (after.table? "enums" "a%_b").map StoredTable.rows = some [[some "X", some "0"]] := by
  decide +kernel

end EnumTables
