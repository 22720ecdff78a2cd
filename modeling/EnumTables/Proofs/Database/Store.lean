import EnumTables.Act
import EnumTables.Proofs.Database.Template

/-!
# Databases

What the program relies on of a database: the tables that are committed, those that the open
transaction sees, and how commands change the two.  A statement changes only what the open
transaction sees, and does to it what its text says when the driver has made it of its template, under
names that are cut off where they are too long; a commit that does not fail publishes it; nothing
else publishes anything.  A database held in memory has these properties.
-/

namespace EnumTables

/-! ## Stores -/

/-- A table as a database holds it. -/
structure StoredTable where
  /-- The columns with their types. -/
  columns : List (String × String)
  /-- The rows, each with a value for every column; `none` is a missing value. -/
  rows : List (List (Option String))
deriving DecidableEq, Repr

/-- The schemas and tables of a database. -/
@[ext]
structure Store where
  hasSchema : String → Bool
  table? : String → String → Option StoredTable

namespace Store

variable (st : Store) (schema table : String) (content : Option StoredTable)

/-- The store with a schema. -/
def addSchema : Store where
  hasSchema n := n = schema || st.hasSchema n
  table? := st.table?

/-- The store with a table of this content, or without the table. -/
def setTable : Store where
  hasSchema := st.hasSchema
  table? n m := if n = schema ∧ m = table then content else st.table? n m

@[simp] theorem hasSchema_addSchema_self : (st.addSchema schema).hasSchema schema = true := by
  simp [addSchema]

@[simp] theorem table?_addSchema : (st.addSchema schema).table? = st.table? := rfl

@[simp] theorem hasSchema_setTable : (st.setTable schema table content).hasSchema = st.hasSchema :=
  rfl

@[simp] theorem table?_setTable_self :
    (st.setTable schema table content).table? schema table = content := by
  simp [setTable]

variable {st schema table content}

theorem hasSchema_addSchema_of_ne {n : String} (h : n ≠ schema) :
    (st.addSchema schema).hasSchema n = st.hasSchema n := by
  simp [addSchema, h]

theorem table?_setTable_of_ne {n m : String} (h : ¬ (n = schema ∧ m = table)) :
    (st.setTable schema table content).table? n m = st.table? n m := if_neg h

/-- Of two contents of one table the last counts. -/
@[simp] theorem setTable_setTable (content' : Option StoredTable) :
    (st.setTable schema table content).setTable schema table content' =
      st.setTable schema table content' := by
  ext1
  · rfl
  · funext n m
    by_cases h : n = schema ∧ m = table
    · simp [setTable, h]
    · simp [setTable, h]

/-- A record in the order of a table's columns: each column has the value that is given under its
name, and a column that is not named has none. -/
def align (columns names : List String) (record : List (Option String)) : List (Option String) :=
  columns.map fun c ↦ ((names.zip record).lookup c).join

/-- A record that names the columns in their own order stays as it is. -/
theorem align_self {names : List String} {record : List (Option String)} (distinct : names.Nodup)
    (h : record.length = names.length) : align names names record = record := by
  induction names generalizing record with
  | nil => rw [List.eq_nil_of_length_eq_zero h, align, List.map_nil]
  | cons name names ih =>
    cases record with
    | nil => exact absurd h (by simp)
    | cons v record =>
      obtain ⟨fresh, distinct⟩ := List.nodup_cons.mp distinct
      have others : names.map (fun c ↦ (((name :: names).zip (v :: record)).lookup c).join) =
          align names names record := by
        refine List.map_congr_left fun c hc ↦ ?_
        have ne : (c == name) = false := beq_false_of_ne fun h ↦ fresh (h ▸ hc)
        rw [List.zip_cons_cons, List.lookup_cons, ne]
      rw [align, List.map_cons, others, ih distinct (Nat.succ.inj h), List.zip_cons_cons,
        List.lookup_cons_self, Option.join_some]

end Store

/-! ## What statements do -/

namespace Sql

/-- The longest beginning of a text that takes at most `n` bytes. -/
def clip (n : Nat) : List Char → List Char
  | [] => []
  | c :: cs => if c.utf8Size ≤ n then c :: clip (n - c.utf8Size) cs else []

/-- The name under which the database keeps an identifier. -/
def kept (name : String) : String := String.ofList (clip maxIdentifierBytes name.toList)

theorem clip_of_le {n : Nat} {cs : List Char} (h : (String.ofList cs).utf8ByteSize ≤ n) :
    clip n cs = cs := by
  induction cs generalizing n with
  | nil => rfl
  | cons c cs ih =>
    have size : (String.ofList (c :: cs)).utf8ByteSize =
        c.utf8Size + (String.ofList cs).utf8ByteSize := by
      rw [← List.singleton_append, String.ofList_append, String.utf8ByteSize_append]
      congr 1
      exact String.utf8ByteSize_singleton
    rw [clip, if_pos (by omega), ih (by omega)]

/-- An identifier that is not too long is kept whole. -/
theorem kept_of_fits {name : String} (h : fits name = true) : kept name = name := by
  have short : (String.ofList name.toList).utf8ByteSize ≤ maxIdentifierBytes := by
    rw [String.ofList_toList]
    exact of_decide_eq_true h
  rw [kept, clip_of_le short, String.ofList_toList]

/-- A statement with other names in it. -/
def Statement.rename (f : String → String) : Statement → Statement
  | .createSchema schema => .createSchema (f schema)
  | .dropTable schema table => .dropTable (f schema) (f table)
  | .createTable schema table columns =>
    .createTable (f schema) (f table) (columns.map fun c ↦ (f c.1, c.2))
  | .insertInto schema table columns => .insertInto (f schema) (f table) (columns.map f)

end Sql

namespace Sql.Statement

/-- What a statement by itself makes of a store, if it is accepted: a table is created only in a
schema that is there, where no table of its name is, and with distinct columns. -/
def run? (st : Store) : Statement → Option Store
  | .createSchema schema => some (st.addSchema schema)
  | .dropTable schema table => some (st.setTable schema table none)
  | .createTable schema table columns =>
    if st.hasSchema schema ∧ st.table? schema table = none ∧ (columns.map Prod.fst).Nodup then
      some (st.setTable schema table (some ⟨columns, []⟩))
    else none
  | .insertInto _ _ _ => none

/-- What a statement with records makes of a store, if it is accepted: rows are added to a table
that is there, under distinct names of its columns, of which there is at least one. -/
def runWith? (st : Store) (records : List (List (Option String))) : Statement → Option Store
  | .insertInto schema table names =>
    match st.table? schema table with
    | some content =>
      if names ≠ [] ∧ names.Nodup ∧ (∀ n ∈ names, n ∈ content.columns.map Prod.fst) ∧
          ∀ r ∈ records, r.length = names.length then
        some (st.setTable schema table (some { content with
          rows := content.rows ++ records.map (Store.align (content.columns.map Prod.fst) names) }))
      else none
    | none => none
  | _ => none

end Sql.Statement

/-- What a command makes of the store that the open transaction sees, if it is a statement that is
accepted.  Records are handed over with a template, of which the driver makes the statement; that it
sends many records in several statements alike makes no difference. -/
def Command.effect? (st : Store) : Command → Option Store
  | .execute text => do
    let statement ← Sql.Statement.ofText? text
    (statement.rename Sql.kept).run? st
  | .values template records => do
    let text ← (Sql.Template.send template).toOption
    let statement ← Sql.Statement.ofText? text
    (statement.rename Sql.kept).runWith? st records
  | _ => none

theorem Command.effect?_execute {st : Store} {text : String} {statement : Sql.Statement}
    (h : Sql.Statement.ofText? text = some statement) :
    (execute text).effect? st = (statement.rename Sql.kept).run? st := by
  rw [effect?, h, Option.bind_eq_bind, Option.bind_some]

theorem Command.effect?_values {st : Store} {template text : String}
    {records : List (List (Option String))} {statement : Sql.Statement}
    (sent : Sql.Template.send template = .ok text)
    (h : Sql.Statement.ofText? text = some statement) :
    (values template records).effect? st = (statement.rename Sql.kept).runWith? st records := by
  rw [effect?, sent, Except.toOption, Option.bind_eq_bind, Option.bind_some, h,
    Option.bind_eq_bind, Option.bind_some]

/-! ## Databases and what is relied on -/

/-- A database: its states and what a command does to them, by whether the command fails. -/
structure DatabaseServer where
  State : Type
  /-- What other connections see. -/
  committed : State → Store
  /-- What the open transaction sees. -/
  visible : State → Store
  step : State → Command → Bool → State

namespace DatabaseServer

/-- What is relied on of a database. -/
structure Lawful (S : DatabaseServer) : Prop where
  /-- Only a commit publishes anything. -/
  committed_step : ∀ s c failed, c ≠ .commit → S.committed (S.step s c failed) = S.committed s
  /-- A commit that fails publishes nothing. -/
  committed_failed : ∀ s, S.committed (S.step s .commit true) = S.committed s
  /-- A commit that does not fail publishes what the open transaction sees. -/
  committed_commit : ∀ s, S.committed (S.step s .commit false) = S.visible s
  /-- A transaction on a new connection sees what is committed. -/
  visible_connect : ∀ s dsn, S.visible (S.step s (.connect dsn) false) = S.committed s
  /-- A statement that is accepted and does not fail does what it says. -/
  visible_statement : ∀ s c st, c.effect? (S.visible s) = some st →
    S.visible (S.step s c false) = st

/-- A database in memory: the committed store, and the store that the open transaction sees. -/
def inMemory : DatabaseServer where
  State := Store × Store
  committed := Prod.fst
  visible := Prod.snd
  step s c failed :=
    if failed then (s.1, s.1)
    else match c with
      | .commit => (s.2, s.2)
      | .execute _ | .values _ _ => (s.1, (c.effect? s.2).getD s.2)
      | _ => (s.1, s.1)

/-- The state of the database in memory in which a store is committed. -/
def holding (st : Store) : inMemory.State := (st, st)

/-- The database in memory is as it is relied on. -/
theorem inMemory_lawful : inMemory.Lawful where
  committed_step s c failed h := by
    cases failed <;> cases c <;> first | rfl | exact absurd rfl h
  committed_failed _ := rfl
  committed_commit _ := rfl
  visible_connect _ _ := rfl
  visible_statement s c st h := by
    cases c with
    | execute text => exact congrArg (Option.getD · s.2) h
    | values text records => exact congrArg (Option.getD · s.2) h
    | connect | commit | rollback | close => nomatch h

end DatabaseServer

end EnumTables
