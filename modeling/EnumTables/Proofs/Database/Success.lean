import EnumTables.Proofs.Database.Isolation

/-!
# Loads that go well

A load goes well if no command meets a fault and every statement is accepted.  Main statements, for
tables without percent signs in their names: which statements are accepted is a matter of the tables
alone, whatever the database holds; and a load that goes well reports every table, and puts the
tables in place one after the other.
-/

namespace EnumTables

variable {schema : String} {t : EnumTable} {ts : List EnumTable}

/-! ## Tables and statements -/

/-- A table that can be loaded: it is accepted, unless its name is too long and it is left out. -/
def EnumTable.IsLoadable (t : EnumTable) : Prop := Sql.fits t.tableId = true → t.IsStorable

/-- The command is a statement. -/
def Command.IsStatement : Command → Prop
  | .execute _ | .values _ _ => True
  | .connect _ | .commit | .rollback | .close => False

instance Command.instDecidableIsStatement : (c : Command) → Decidable c.IsStatement
  | .execute _ | .values _ _ => isTrue trivial
  | .connect _ | .commit | .rollback | .close => isFalse id

theorem isStatement_of_mem_replaceCommands {c : Command} (h : c ∈ replaceCommands schema t) :
    c.IsStatement := by
  rw [replaceCommands] at h
  split at h
  · simp only [List.append_nil, List.mem_cons, List.not_mem_nil, or_false] at h
    rcases h with rfl | rfl | rfl <;> trivial
  · simp only [List.cons_append, List.nil_append, List.mem_cons, List.not_mem_nil, or_false] at h
    rcases h with rfl | rfl | rfl | rfl <;> trivial

/-! ## Traces that go well -/

variable {w : World} {past : Trace} {S : DatabaseServer} {s : S.State}

namespace DatabaseServer

/-- The statement of an event, if it is one, is accepted. -/
def Accepts (S : DatabaseServer) (s : S.State) : Event → Prop
  | .database c => c.IsStatement → (c.effect? (S.visible s)).isSome
  | _ => True

/-- Every statement of a trace is accepted, after the events before it. -/
def AcceptsAll (S : DatabaseServer) (w : World) (past : Trace) (s : S.State) : Trace → Prop
  | [] => True
  | x :: trace => S.Accepts s x ∧ S.AcceptsAll w (past ++ [x]) (S.stepEvent w past s x) trace

instance instDecidableAccepts (s : S.State) : (x : Event) → Decidable (S.Accepts s x)
  | .database c =>
    inferInstanceAs (Decidable (c.IsStatement → (c.effect? (S.visible s)).isSome = true))
  | .request _ | .log _ | .output _ | .complaint _ | .sync _ | .serve _ => isTrue trivial

instance instDecidableAcceptsAll : (past : Trace) → (s : S.State) → (trace : Trace) →
    Decidable (S.AcceptsAll w past s trace)
  | _, _, [] => isTrue trivial
  | past, s, x :: trace =>
    have := instDecidableAcceptsAll (past ++ [x]) (S.stepEvent w past s x) trace
    inferInstanceAs (Decidable (_ ∧ _))

/-- No command of a trace meets a fault, and every statement is accepted. -/
structure GoesWell (S : DatabaseServer) (w : World) (past : Trace) (s : S.State) (trace : Trace) :
    Prop where
  calm : w.raised past trace = []
  accepted : S.AcceptsAll w past s trace

theorem acceptsAll_append {xs ys : Trace} : S.AcceptsAll w past s (xs ++ ys) ↔
    S.AcceptsAll w past s xs ∧ S.AcceptsAll w (past ++ xs) (S.replay w past s xs) ys := by
  induction xs generalizing past s with
  | nil => rw [List.nil_append, List.append_nil, replay, AcceptsAll, true_and]
  | cons x xs ih =>
    rw [List.cons_append, AcceptsAll, AcceptsAll, ih, and_assoc, replay, List.append_assoc,
      List.singleton_append]

theorem goesWell_append {xs ys : Trace} : S.GoesWell w past s (xs ++ ys) ↔
    S.GoesWell w past s xs ∧ S.GoesWell w (past ++ xs) (S.replay w past s xs) ys := by
  constructor
  · rintro ⟨calm, accepted⟩
    rw [World.raised_append] at calm
    obtain ⟨first, later⟩ := acceptsAll_append.mp accepted
    exact ⟨⟨(List.append_eq_nil_iff.mp calm).1, first⟩, (List.append_eq_nil_iff.mp calm).2, later⟩
  · rintro ⟨⟨calm, accepted⟩, calm', accepted'⟩
    refine ⟨?_, acceptsAll_append.mpr ⟨accepted, accepted'⟩⟩
    rw [World.raised_append, calm, calm', List.append_nil]

/-- Statements that meet no fault are accepted one by one if they are accepted as a whole. -/
theorem acceptsAll_giveAll_iff (lawful : S.Lawful) {cs : List Command}
    (statements : ∀ c ∈ cs, c.IsStatement)
    (calm : w.raised past ((Act.giveAll cs).run w past).events = []) :
    S.AcceptsAll w past s ((Act.giveAll cs).run w past).events ↔
      ∃ st, cs.foldlM Command.effect? (S.visible s) = some st := by
  induction cs generalizing past s with
  | nil => exact iff_of_true trivial ⟨_, rfl⟩
  | cons c cs ih =>
    obtain ⟨statement, statements⟩ := List.forall_mem_cons.mp statements
    rw [Act.giveAll] at calm ⊢
    cases fault : w.fault? past c with
    | some e =>
      rw [Act.run_command_bind_of_some fault, World.raised_command, fault] at calm
      cases calm
    | none =>
      rw [Act.run_command_bind_of_none fault] at calm ⊢
      have later := (List.append_eq_nil_iff.mp calm).2
      rw [AcceptsAll, ih statements later, List.foldlM_cons, Accepts,
        forall_prop_of_true statement]
      cases step : c.effect? (S.visible s) with
      | none => simp
      | some mid =>
        have succeeds : (w.fault? past c).isSome = false := by rw [fault]; rfl
        have seen : S.visible (S.stepEvent w past s (.database c)) = mid := by
          rw [stepEvent, succeeds]
          exact lawful.visible_statement s c mid step
        rw [seen]
        simp

end DatabaseServer

/-! ## Transactions -/

/-- A connection that is opened for some work, which is committed. -/
def transaction (dsn : String) (work : Trace) : Trace :=
  .database (.connect dsn) :: (work ++ [.database .commit, .database .close])

variable {dsn : String} {work : Trace}

/-- A transaction without faults: neither its own commands nor the work meet one. -/
theorem calm_transaction (calm : w.raised past (transaction dsn work) = []) :
    w.fault? past (.connect dsn) = none ∧ w.raised (past ++ [.database (.connect dsn)]) work = [] ∧
      w.fault? (past ++ .database (.connect dsn) :: work) .commit = none := by
  rw [transaction, World.raised, World.raised_append] at calm
  obtain ⟨connected, calm⟩ := List.append_eq_nil_iff.mp calm
  obtain ⟨calm, ended⟩ := List.append_eq_nil_iff.mp calm
  rw [List.append_assoc, List.singleton_append] at ended
  exact ⟨Option.toList_eq_nil_iff.mp connected, calm,
    Option.toList_eq_nil_iff.mp (List.append_eq_nil_iff.mp ended).1⟩

/-- The statements of a transaction are those of the work. -/
theorem DatabaseServer.acceptsAll_transaction_iff : S.AcceptsAll w past s (transaction dsn work) ↔
    S.AcceptsAll w (past ++ [.database (.connect dsn)])
      (S.stepEvent w past s (.database (.connect dsn))) work := by
  rw [transaction, AcceptsAll, acceptsAll_append]
  exact ⟨fun accepted ↦ accepted.2.1, fun accepted ↦ ⟨nofun, accepted, nofun, nofun, trivial⟩⟩

namespace DatabaseServer.Lawful

variable (lawful : S.Lawful)

include lawful

/-- A transaction begins with what is committed. -/
theorem visible_begun (connected : w.fault? past (.connect dsn) = none) :
    S.visible (S.stepEvent w past s (.database (.connect dsn))) = S.committed s := by
  rw [stepEvent, connected]
  exact lawful.visible_connect s dsn

/-- A transaction publishes what its work did. -/
theorem committed_transaction
    (published : w.fault? (past ++ .database (.connect dsn) :: work) .commit = none) :
    S.committed (S.replay w past s (transaction dsn work)) =
      S.visible (S.replay w (past ++ [.database (.connect dsn)])
        (S.stepEvent w past s (.database (.connect dsn))) work) := by
  rw [transaction, ← List.cons_append, replay_append, lawful.committed_publish published, replay]

end DatabaseServer.Lawful

/-- A unit of work that meets no fault is a transaction, if its body fails only by faults. -/
theorem Lifecycle.eq_transaction {α : Type} {body r : Run α}
    (cycle : Lifecycle w past (.connect dsn) body r)
    (met : ∀ e, body.result = .error e →
      e ∈ w.raised (past ++ [.database (.connect dsn)]) body.events)
    (calm : w.raised past r.events = []) :
    ∃ a, body.result = .ok a ∧ r = ⟨transaction dsn body.events, .ok a⟩ := by
  cases cycle with
  | refused refusal =>
    rw [World.raised_command, refusal] at calm
    cases calm
  | @committed a connected returned published =>
    refine ⟨a, returned, congrArg (Run.mk _) ?_⟩
    have done : .database (.connect dsn) :: (body.events ++ [.database .commit, .database .close]) =
        (.database (.connect dsn) :: (body.events ++ [.database .commit])) ++
          [.database .close] := by simp
    rw [done, World.raised_append, World.raised_command] at calm
    rw [Option.toList_eq_nil_iff.mp (List.append_eq_nil_iff.mp calm).2]
    rfl
  | unpublished connected returned refusal =>
    rw [← List.cons_append, World.raised_append] at calm
    have published := (List.append_eq_nil_iff.mp calm).2
    rw [World.raised, Event.command?, Option.bind_some, refusal] at published
    cases published
  | @failed e connected raised =>
    have later := met e raised
    rw [World.raised, World.raised_append] at calm
    rw [(List.append_eq_nil_iff.mp (List.append_eq_nil_iff.mp calm).2).1] at later
    cases later

/-! ## Loads without faults -/

/-- What is reported of a table when no command fails: the number of its rows, or that its name is
too long. -/
def EnumTable.reported (t : EnumTable) : LoadResult where
  tableId := t.tableId
  outcome :=
    if Sql.fits t.tableId then .loaded t.rows.length else .failed (Sql.tooLongMessage t.tableId)

/-- The tables whose names are not too long. -/
def fitting (ts : List EnumTable) : List EnumTable := ts.filter fun t ↦ Sql.fits t.tableId

/-- The store with tables put in place one after the other, but for those whose names are too long. -/
def Store.replaceAll (st : Store) (schema : String) (ts : List EnumTable) : Store :=
  (fitting ts).foldl (fun st t ↦ st.withRows schema t t.records) st

theorem fitting_cons_of_fits (fits : Sql.fits t.tableId = true) :
    fitting (t :: ts) = t :: fitting ts :=
  List.filter_cons_of_pos (p := fun t : EnumTable ↦ Sql.fits t.tableId) fits

theorem fitting_cons_of_not_fits (long : ¬ Sql.fits t.tableId = true) :
    fitting (t :: ts) = fitting ts :=
  List.filter_cons_of_neg (p := fun t : EnumTable ↦ Sql.fits t.tableId) long

theorem fitting_append (ts us : List EnumTable) : fitting (ts ++ us) = fitting ts ++ fitting us :=
  List.filter_append ..

theorem Store.replaceAll_append (st : Store) (schema : String) (ts us : List EnumTable) :
    st.replaceAll schema (ts ++ us) = (st.replaceAll schema ts).replaceAll schema us := by
  rw [replaceAll, fitting_append, List.foldl_append]
  rfl

theorem Store.replaceAll_cons (st : Store) (schema : String) (t : EnumTable)
    (ts : List EnumTable) :
    st.replaceAll schema (t :: ts) = (st.replaceAll schema [t]).replaceAll schema ts := by
  rw [← replaceAll_append, List.singleton_append]

theorem fits_iff {name : String} : Sql.fits name = true ↔ name.utf8ByteSize ≤ 63 :=
  decide_eq_true_iff

/-- To replace a table without faults is one transaction, whose work is the statements. -/
theorem run_replaceTable_of_calm
    (calm : w.raised past ((replaceTable schema t).run w past).events = []) : ∃ dsn,
    let work := (Act.giveAll (replaceCommands schema t)).run w (past ++ [.database (.connect dsn)])
    (replaceTable schema t).run w past = ⟨transaction dsn work.events, .ok t.rows.length⟩ ∧
      work.result = .ok () := by
  have cycle := lifecycle_withConnection w past none (replaceStatements schema t)
  rw [run_replaceTable] at calm
  rw [replaceStatements_eq] at cycle calm
  obtain ⟨u, returned, ran⟩ := cycle.eq_transaction
    (fun e failed ↦ List.mem_of_getLast? (Act.getLast?_raised_giveAll failed)) calm
  refine ⟨_, ?_, returned⟩
  rw [run_replaceTable, replaceStatements_eq, ran]
  rfl

/-- A replacement without faults: the statements are accepted if the table is one that is accepted,
whatever the database holds, and only then; and they put the table in place. -/
theorem replaceTable_of_calm (lawful : S.Lawful) (free : t.IsPercentFree schema)
    (calm : w.raised past ((replaceTable schema t).run w past).events = []) :
    let r := (replaceTable schema t).run w past
    r.result = .ok t.rows.length ∧ (S.AcceptsAll w past s r.events ↔ t.IsStorable) ∧
      (t.IsStorable → S.committed (S.replay w past s r.events) =
        (S.committed s).withRows schema t t.records) := by
  intro r
  obtain ⟨dsn, ran, returned⟩ := run_replaceTable_of_calm calm
  change r = _ at ran
  change w.raised past r.events = [] at calm
  rw [ran] at calm ⊢
  obtain ⟨connected, calm, published⟩ := calm_transaction calm
  have begun := lawful.visible_begun (s := s) connected
  refine ⟨rfl, ?_, fun storable ↦ ?_⟩
  · rw [DatabaseServer.acceptsAll_transaction_iff, DatabaseServer.acceptsAll_giveAll_iff lawful
      (fun c ↦ isStatement_of_mem_replaceCommands) calm]
    simp only [foldlM_effect?_replaceCommands_iff free, exists_and_left, exists_eq, and_true]
  · rw [lawful.committed_transaction published]
    refine lawful.visible_giveAll ((foldlM_effect?_replaceCommands_iff free).mpr ⟨storable, ?_⟩)
      returned
    rw [begun]

/-- A table that is left out or replaced without faults: it is reported, its statements are accepted
if it can be loaded, whatever the database holds, and only then, and they put it in place. -/
theorem loadTable_without_faults (lawful : S.Lawful) (free : t.IsPercentFree schema)
    (calm : w.raised past ((loadTable schema t).run w past).events = []) :
    let r := (loadTable schema t).run w past
    r.result = .ok t.reported ∧ (S.AcceptsAll w past s r.events ↔ t.IsLoadable) ∧
      (t.IsLoadable → S.committed (S.replay w past s r.events) =
        (S.committed s).replaceAll schema [t]) := by
  intro r
  change w.raised past r.events = [] at calm
  rcases loadTable_part_or_stops schema w past t with ⟨own, result, ran, part⟩ | ⟨e, stops, ran⟩
  · change r = _ at ran
    rw [ran] at calm ⊢
    rw [EnumTable.reported, EnumTable.IsLoadable, Store.replaceAll, fitting, List.filter_cons,
      List.filter_nil]
    cases part with
    | skipped record long =>
      have unfit : Sql.fits t.tableId = false :=
        Bool.eq_false_iff.mpr (mt fits_iff.mp (Nat.not_le.mpr long))
      rw [unfit, ← tooLongMessage_eq]
      exact ⟨rfl, iff_of_true ⟨trivial, trivial⟩ nofun, fun _ ↦ rfl⟩
    | loaded record short returned =>
      rw [World.raised_append] at calm
      obtain ⟨-, accepted, placed⟩ :=
        replaceTable_of_calm (s := s) lawful free (List.append_eq_nil_iff.mp calm).1
      rw [fits_iff.mpr short, forall_prop_of_true rfl, DatabaseServer.replay_append,
        DatabaseServer.acceptsAll_append, accepted]
      exact ⟨rfl, and_iff_left ⟨trivial, trivial⟩, placed⟩
    | failed record short raised reported =>
      have met := mem_raised_of_replaceTable raised
      rw [World.raised_append] at calm
      rw [(List.append_eq_nil_iff.mp calm).1] at met
      nomatch met
  · have met := mem_raised_of_replaceTable stops.raised
    change r = _ at ran
    rw [ran] at calm
    rw [calm] at met
    nomatch met

/-- A load without faults: every table is reported, the statements are accepted if every table can
be loaded, whatever the database holds, and only then, and they put the tables in place one after
the other. -/
theorem loadTables_without_faults (lawful : S.Lawful) (free : ∀ t ∈ ts, t.IsPercentFree schema)
    (calm : w.raised past ((loadTables schema ts).run w past).events = []) :
    let r := (loadTables schema ts).run w past
    r.result = .ok (ts.map EnumTable.reported) ∧
      (S.AcceptsAll w past s r.events ↔ ∀ t ∈ ts, t.IsLoadable) ∧
      ((∀ t ∈ ts, t.IsLoadable) → S.committed (S.replay w past s r.events) =
        (S.committed s).replaceAll schema ts) := by
  -- The past grows with the parts of the tables, and the state with them.
  induction ts generalizing past s with
  | nil => exact ⟨rfl, iff_of_true trivial nofun, fun _ ↦ rfl⟩
  | cons t ts ih =>
    intro r
    change w.raised past r.events = [] at calm
    obtain ⟨free, others⟩ := List.forall_mem_cons.mp free
    cases first : (loadTable schema t).run w past with
    | mk own result =>
    have alone := @loadTable_without_faults schema t w past S s lawful free
    rw [first] at alone
    cases result with
    | error e =>
      have events : r = _ := run_loadTables_cons_of_error first
      rw [events] at calm
      nomatch (alone calm).1
    | ok result =>
      have events : r = _ := run_loadTables_cons_of_ok first
      rw [events] at calm ⊢
      rw [World.raised_append] at calm
      obtain ⟨calm, later⟩ := List.append_eq_nil_iff.mp calm
      obtain ⟨reported, accepted, placed⟩ := alone calm
      obtain ⟨results, accepted', placed'⟩ := ih (s := S.replay w past s own) others later
      rw [results, DatabaseServer.acceptsAll_append, accepted, accepted', List.forall_mem_cons,
        Except.ok.inj reported]
      refine ⟨rfl, Iff.rfl, fun ⟨loadable, loadables⟩ ↦ ?_⟩
      rw [DatabaseServer.replay_append, placed' loadables, placed loadable,
        ← Store.replaceAll_cons]

/-! ## From state to state -/

/-- A load of tables that goes well leads from one state of a database to another. -/
def DatabaseServer.Loads (S : DatabaseServer) (schema : String) (ts : List EnumTable)
    (s s' : S.State) : Prop :=
  ∃ w past, let r := (loadTables schema ts).run w past
    S.GoesWell w past s r.events ∧ s' = S.replay w past s r.events

/-- A load that goes well puts the tables in place one after the other. -/
theorem DatabaseServer.Loads.committed {s' : S.State} (lawful : S.Lawful)
    (free : ∀ t ∈ ts, t.IsPercentFree schema) (h : S.Loads schema ts s s') :
    S.committed s' = (S.committed s).replaceAll schema ts := by
  obtain ⟨w, past, ⟨calm, accepted⟩, rfl⟩ := h
  obtain ⟨-, loadable, placed⟩ := loadTables_without_faults (s := s) lawful free calm
  exact placed (loadable.mp accepted)

/-- A world without faults. -/
def World.calm : World := .withFaults fun _ _ ↦ none

theorem World.raised_calm (past trace : Trace) : World.calm.raised past trace = [] := by
  induction trace generalizing past with
  | nil => rfl
  | cons x trace ih =>
    rw [raised, ih, List.append_nil]
    cases x.command? <;> rfl

/-- Tables can be loaded without failures if each of them can, whatever the database holds, and only
then. -/
theorem exists_loads_iff (lawful : S.Lawful) (free : ∀ t ∈ ts, t.IsPercentFree schema) :
    (∃ s', S.Loads schema ts s s') ↔ ∀ t ∈ ts, t.IsLoadable := by
  constructor
  · rintro ⟨s', w, past, ⟨calm, accepted⟩, -⟩
    exact (loadTables_without_faults (s := s) lawful free calm).2.1.mp accepted
  · intro loadable
    have calm := World.raised_calm [] ((loadTables schema ts).run .calm []).events
    have accepted := (loadTables_without_faults (s := s) lawful free calm).2.1.mpr loadable
    exact ⟨_, .calm, [], ⟨calm, accepted⟩, rfl⟩

end EnumTables
