import EnumTables.Proofs.Database.Success

/-!
# The end of a unit of work

A unit of work gives some statements and then returns or raises a fault of its own, and every
command can meet a fault.  Main statement: however that goes, the connection is refused, or the work
ends in order.  A commit stands behind work that returned and nowhere else, a roll-back behind a
fault that is no interruption, and the connection is closed at the very end.  The fault that leaves
is the last one.
-/

namespace EnumTables

open Act

variable {α : Type} {w : World} {past : Trace}

/-- The fault that a run ends with, if any. -/
def Run.fault? (r : Run α) : Option Fault :=
  match r.result with
  | .ok _ => none
  | .error e => some e

theorem Run.fault?_eq_some_iff {r : Run α} {e : Fault} :
    r.fault? = some e ↔ r.result = .error e := by
  rw [fault?]
  cases r.result with
  | ok a => exact ⟨nofun, nofun⟩
  | error e' => rw [Option.some.injEq, Except.error.injEq]

/-! ## Bodies -/

/-- Give statements one after the other, and then end in this way. -/
def statementsThen (statements : List Command) (outcome : Except Fault α) : Act α := do
  giveAll statements
  ofExcept outcome

/-- A body ends in its own way if all of its statements succeed, and else at the first that does
not. -/
theorem run_statementsThen (statements : List Command) (outcome : Except Fault α) (w : World)
    (past : Trace) :
    let r := (statementsThen statements outcome).run w past
    r.events <+: statements.map .database ∧
    (r.events = statements.map .database ∧ w.raised past r.events = [] ∧ r.result = outcome ∨
      ∃ e, w.raised past r.events = [e] ∧ r.result = .error e) := by
  intro r
  obtain ⟨begun, goes⟩ := run_giveAll statements w past
  rcases goes with ⟨given, calm, returned⟩ | ⟨e, raised, failed⟩
  · have ran : r = ⟨((giveAll statements).run w past).events, outcome⟩ := by
      change (giveAll statements >>= _).run w past = _
      rw [run_bind_of_ok returned, run_ofExcept, List.append_nil]
    rw [ran]
    exact ⟨begun, .inl ⟨given, calm, rfl⟩⟩
  · have ran : r = ⟨((giveAll statements).run w past).events, .error e⟩ := run_bind_of_error failed
    rw [ran]
    exact ⟨begun, .inr ⟨e, raised, rfl⟩⟩

/-! ## Endings -/

/-- A unit of work whose connection was opened goes on, behind the run of its body, with the
commands that settle the transaction, and is closed. -/
structure Settles (w : World) (past : Trace) (start : Command) (body r : Run α)
    (settled : List Command) : Prop where
  events : r.events =
    .database start :: (body.events ++ (settled.map .database ++ [.database .close]))
  /-- There is at most one commit, and no roll-back before it. -/
  ordered : settled.Sublist [.commit, .rollback]
  commit_iff : .commit ∈ settled ↔ ∃ a, body.result = .ok a
  /-- An interruption is not rolled back. -/
  rollback_iff : .rollback ∈ settled ↔ ∃ e, e.isInterrupt = false ∧ (body.result = .error e ∨
    .commit ∈ settled ∧ w.fault? (past ++ .database start :: body.events) .commit = some e)
  /-- The last fault leaves, be it the body's or that of a command behind the body. -/
  fault : r.fault? = (body.fault?.toList ++ w.raised (past ++ .database start :: body.events)
    (settled.map .database ++ [.database .close])).getLast?
  value_iff : ∀ a, r.result = .ok a ↔ body.result = .ok a ∧
    w.fault? (past ++ .database start :: body.events) .commit = none ∧
    w.fault? (past ++ .database start :: (body.events ++ [.database .commit])) .close = none

/-- The command that settles a transaction which is given up, if there is one. -/
def Fault.reversal (e : Fault) : List Command := if e.isInterrupt then [] else [.rollback]

namespace Fault

variable (e : Fault)

theorem cleanUp_eq : e.cleanUp = e.reversal.map .database ++ [.database .close] := by
  rw [cleanUp, reversal]
  split <;> rfl

theorem reversal_sublist : e.reversal.Sublist [.rollback] := by
  rw [reversal]
  split
  · exact List.nil_sublist _
  · exact .refl _

theorem commit_notMem_reversal : .commit ∉ e.reversal := by
  intro h
  nomatch List.mem_singleton.mp (e.reversal_sublist.subset h)

theorem rollback_mem_reversal_iff : .rollback ∈ e.reversal ↔ e.isInterrupt = false := by
  rw [reversal]
  split
  · rename_i interrupt
    simp [interrupt]
  · rename_i proper
    simp [proper]

end Fault

section Cases

variable {start : Command} {body : Run α} {a : α} {e : Fault}

theorem append_command_append (ending : Trace) : past ++ .database start :: body.events ++ ending =
    past ++ .database start :: (body.events ++ ending) := by
  rw [List.append_assoc, List.cons_append]

/-- Work that fails is given up. -/
theorem settles_of_failed (raised : body.result = .error e) :
    Settles w past start body ⟨.database start :: (body.events ++ e.cleanUp),
      .error (w.faultAfter (past ++ .database start :: body.events) e)⟩ e.reversal where
  events := by rw [e.cleanUp_eq]
  ordered := .cons _ e.reversal_sublist
  commit_iff := by
    rw [raised]
    exact iff_of_false e.commit_notMem_reversal nofun
  rollback_iff := by
    rw [e.rollback_mem_reversal_iff, raised]
    constructor
    · intro proper
      exact ⟨e, proper, .inl rfl⟩
    · rintro ⟨e', proper, failed | ⟨commit, -⟩⟩
      · rwa [Except.error.inj failed]
      · exact absurd commit e.commit_notMem_reversal
  fault := by
    rw [Run.fault?_eq_some_iff.mpr raised, ← e.cleanUp_eq]
    exact (w.getLast?_cleanUp _ e).symm
  value_iff a := by
    rw [raised]
    exact iff_of_false nofun nofun

/-- Work whose commit fails is given up behind the commit. -/
theorem settles_of_unpublished (returned : body.result = .ok a)
    (refusal : w.fault? (past ++ .database start :: body.events) .commit = some e) :
    Settles w past start body
      ⟨.database start :: (body.events ++ .database .commit :: e.cleanUp),
        .error (w.faultAfter (past ++ .database start :: (body.events ++ [.database .commit])) e)⟩
      (.commit :: e.reversal) where
  events := by rw [e.cleanUp_eq, List.map_cons, List.cons_append]
  ordered := .cons_cons _ e.reversal_sublist
  commit_iff := by
    rw [returned]
    exact iff_of_true List.mem_cons_self ⟨a, rfl⟩
  rollback_iff := by
    rw [List.mem_cons, or_iff_right (by simp), e.rollback_mem_reversal_iff, returned, refusal]
    constructor
    · intro proper
      exact ⟨e, proper, .inr ⟨List.mem_cons_self, rfl⟩⟩
    · rintro ⟨e', proper, failed | ⟨-, refused⟩⟩
      · nomatch failed
      · rwa [Option.some.inj refused]
  fault := by
    have own : body.fault? = none := by rw [Run.fault?, returned]
    have ending : (Command.commit :: e.reversal).map Event.database ++ [.database .close] =
        [.database .commit] ++ e.cleanUp := by rw [e.cleanUp_eq]; rfl
    rw [own, ending, World.raised_append, World.raised_command, refusal, append_command_append]
    exact (w.getLast?_cleanUp _ e).symm
  value_iff b := by
    rw [refusal]
    exact iff_of_false nofun fun ended ↦ nomatch ended.2.1

/-- Work that is committed may still fail to close the connection. -/
theorem settles_of_committed (returned : body.result = .ok a)
    (published : w.fault? (past ++ .database start :: body.events) .commit = none) :
    Settles w past start body
      ⟨.database start :: (body.events ++ [.database .commit, .database .close]),
        (w.fault? (past ++ .database start :: (body.events ++ [.database .commit])) .close).elim
          (.ok a) .error⟩ [.commit] where
  events := rfl
  ordered := .cons_cons _ (List.nil_sublist _)
  commit_iff := by
    rw [returned]
    exact iff_of_true List.mem_cons_self ⟨a, rfl⟩
  rollback_iff := by
    rw [returned, published]
    refine iff_of_false (by simp) ?_
    rintro ⟨e, -, failed | ⟨-, refused⟩⟩
    · nomatch failed
    · nomatch refused
  fault := by
    have own : body.fault? = none := by rw [Run.fault?, returned]
    rw [own, List.map_singleton, World.raised_append, World.raised_command, World.raised_command,
      published, append_command_append]
    cases w.fault? (past ++ .database start :: (body.events ++ [.database .commit])) .close <;> rfl
  value_iff b := by
    rw [returned, published]
    cases w.fault? (past ++ .database start :: (body.events ++ [.database .commit])) .close with
    | none => exact ⟨fun same ↦ ⟨same, rfl, rfl⟩, fun ended ↦ ended.1⟩
    | some e => exact iff_of_false nofun nofun

/-- The connection of a unit of work is refused, or the work is settled and closed. -/
theorem Lifecycle.refused_or_settles {r : Run α} (cycle : Lifecycle w past start body r) :
    (∃ e, w.fault? past start = some e ∧ r = ⟨[.database start], .error e⟩) ∨
    w.fault? past start = none ∧ ∃ settled, Settles w past start body r settled := by
  cases cycle with
  | refused refusal => exact .inl ⟨_, refusal, rfl⟩
  | committed connected returned published =>
    exact .inr ⟨connected, _, settles_of_committed returned published⟩
  | unpublished connected returned refusal =>
    exact .inr ⟨connected, _, settles_of_unpublished returned refusal⟩
  | failed connected raised => exact .inr ⟨connected, _, settles_of_failed raised⟩

end Cases

/-! ## Commits -/

/-- No commit comes behind a roll-back or behind another commit. -/
def Trace.CommitsOnce (t : Trace) : Prop :=
  t.Pairwise fun x y ↦ y = .database .commit → x ≠ .database .rollback ∧ x ≠ .database .commit

/-- A trace goes on well behind events that settle nothing. -/
theorem Trace.CommitsOnce.append {plain t : Trace}
    (unsettled : ∀ x ∈ plain, x ≠ .database .rollback ∧ x ≠ .database .commit)
    (once : t.CommitsOnce) : Trace.CommitsOnce (plain ++ t) := by
  induction plain with
  | nil => exact once
  | cons x plain ih =>
    obtain ⟨first, unsettled⟩ := List.forall_mem_cons.mp unsettled
    exact List.pairwise_cons.mpr ⟨fun _ _ _ ↦ first, ih unsettled⟩

theorem Trace.commitsOnce_settled {settled : List Command}
    (ordered : settled.Sublist [.commit, .rollback]) :
    Trace.CommitsOnce (settled.map .database ++ [.database .close]) := by
  have all :
      Trace.CommitsOnce ([Command.commit, .rollback].map .database ++ [.database .close]) := by
    simp [Trace.CommitsOnce]
  exact all.sublist ((ordered.map _).append_right _)

variable {statements : List Command}

/-- The event neither settles a transaction nor closes a connection. -/
def Event.IsPlain (x : Event) : Prop :=
  (x ≠ .database .rollback ∧ x ≠ .database .commit) ∧ x ≠ .database .close

theorem isPlain_connect (dsn : String) : (Event.database (.connect dsn)).IsPlain :=
  ⟨⟨nofun, nofun⟩, nofun⟩

theorem Command.IsStatement.isPlain {c : Command} (h : c.IsStatement) :
    (Event.database c).IsPlain := by
  refine ⟨⟨?_, ?_⟩, ?_⟩ <;> rintro ⟨⟩ <;> exact h

namespace Settles

variable {start : Command} {body r : Run α} {settled : List Command}
  (settles : Settles w past start body r settled)
  (plain : ∀ x ∈ Event.database start :: body.events, x.IsPlain)

include settles plain

theorem commitsOnce : r.events.CommitsOnce := by
  rw [settles.events]
  exact (Trace.commitsOnce_settled settles.ordered).append fun x given ↦ (plain x given).1

/-- To close the connection is the last command and the only one of its kind. -/
theorem closes_last : ∃ earlier,
    r.events = earlier ++ [.database .close] ∧ .database .close ∉ earlier := by
  refine ⟨.database start :: body.events ++ settled.map .database, ?_, fun closed ↦ ?_⟩
  · rw [settles.events, List.append_assoc]
    rfl
  · rcases List.mem_append.mp closed with early | late
    · exact (plain _ early).2 rfl
    · obtain ⟨c, member, same⟩ := List.mem_map.mp late
      cases same
      nomatch settles.ordered.subset member

end Settles

/-! ## The whole -/

/-- A unit of work, whatever statements its body gives, however the body ends by itself, and
whatever faults the commands meet.  A connection that is refused is all that there is.  Otherwise the
body's statements follow, up to the first one that fails; then the transaction is settled, and to
close the connection is the last command and the only one of its kind. -/
theorem withConnection_settles (statements : List Command)
    (only : ∀ c ∈ statements, c.IsStatement) (outcome : Except Fault α)
    (db : Option DatabaseSettings) (w : World) (past : Trace) :
    let start := Command.connect (db.getD (DatabaseSettings.ofEnvironment w.environment)).dsn
    let body := (statementsThen statements outcome).run w (past ++ [.database start])
    let r := (withConnection db (statementsThen statements outcome)).run w past
    ((∃ e, w.fault? past start = some e ∧ r = ⟨[.database start], .error e⟩) ∨
      w.fault? past start = none ∧ (∃ settled, Settles w past start body r settled) ∧
        ∃ earlier, r.events = earlier ++ [.database .close] ∧ .database .close ∉ earlier) ∧
    body.events <+: statements.map .database ∧
    (body.events = statements.map .database ∧
        w.raised (past ++ [.database start]) body.events = [] ∧ body.result = outcome ∨
      ∃ e, w.raised (past ++ [.database start]) body.events = [e] ∧ body.result = .error e) ∧
    r.events.CommitsOnce := by
  intro start body r
  obtain ⟨begun, goes⟩ := run_statementsThen statements outcome w (past ++ [.database start])
  have plain : ∀ x ∈ Event.database start :: body.events, x.IsPlain := by
    refine List.forall_mem_cons.mpr ⟨isPlain_connect _, fun x given ↦ ?_⟩
    obtain ⟨c, member, rfl⟩ := List.mem_map.mp (begun.subset given)
    exact (only c member).isPlain
  have cycle : Lifecycle w past start body r := lifecycle_withConnection w past db _
  rcases cycle.refused_or_settles with ⟨e, refusal, refused⟩ | ⟨connected, settled, settles⟩
  · refine ⟨.inl ⟨e, refusal, refused⟩, begun, goes, ?_⟩
    rw [refused]
    exact List.pairwise_singleton ..
  · exact ⟨.inr ⟨connected, ⟨settled, settles⟩, settles.closes_last plain⟩, begun, goes,
      settles.commitsOnce plain⟩

/-- The body raises a fault of its own behind a statement, the roll-back fails as well, and the user
interrupts the program while it closes the connection. -/
theorem withConnection_settles_masked :
    let w := World.withFaults fun site _ ↦ match site with
      | .rollback => some (.database .operational "connection lost")
      | .close => some (.interrupted "")
      | _ => none
    let statements := [Command.execute "SELECT 1"]
    let outcome : Except Fault Unit := .error (.value "boom")
    let r := (withConnection none (statementsThen statements outcome)).run w []
    (∀ c ∈ statements, c.IsStatement) ∧
    r.events = [.database (.connect "dbname=enumwarp"), .database (.execute "SELECT 1"),
      .database .rollback, .database .close] ∧
    r.events.CommitsOnce ∧ r.fault? = some (.interrupted "") := by
  intro w statements outcome r
  have only : ∀ c ∈ statements, c.IsStatement :=
    List.forall_mem_singleton.mpr trivial
  obtain ⟨-, -, -, once⟩ := withConnection_settles statements only outcome none w []
  exact ⟨only, rfl, once, rfl⟩

end EnumTables
