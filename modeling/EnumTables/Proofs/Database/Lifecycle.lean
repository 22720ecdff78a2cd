import EnumTables.Database.Connection
import EnumTables.Proofs.Database.Replay
import EnumTables.Proofs.Results

/-!
# Lifecycles

How a unit of work on a connection of its own goes: the connection is refused; or the work is
committed; or the body or the commit meets a fault, and the work is given up.  The faults may come
at every command, those that clean up included.
-/

namespace EnumTables

open Act

variable {α : Type} {w : World} {past : Trace}

/-- The commands that end a unit of work that is given up: an interruption is not rolled back. -/
def Fault.cleanUp (e : Fault) : Trace :=
  if e.isInterrupt then [.database .close] else [.database .rollback, .database .close]

/-- The fault that leaves a unit of work that is given up because of `e`: the last one that the
clean-up meets, or else `e`. -/
def World.faultAfter (w : World) (past : Trace) (e : Fault) : Fault :=
  if e.isInterrupt then (w.fault? past .close).getD e
  else (w.fault? (past ++ [.database .rollback]) .close).getD ((w.fault? past .rollback).getD e)

/-- How a unit of work goes, by the command that connects and the run of the body after it. -/
inductive Lifecycle (w : World) (past : Trace) (start : Command) (body : Run α) : Run α → Prop
  /-- The connection is refused. -/
  | refused {e : Fault} (refusal : w.fault? past start = some e) :
    Lifecycle w past start body ⟨[.database start], .error e⟩
  /-- The work is committed; to close the connection may still fail. -/
  | committed {a : α} (connected : w.fault? past start = none) (returned : body.result = .ok a)
      (published : w.fault? (past ++ .database start :: body.events) .commit = none) :
    Lifecycle w past start body
      ⟨.database start :: (body.events ++ [.database .commit, .database .close]),
        (w.fault? (past ++ .database start :: (body.events ++ [.database .commit])) .close).elim
          (.ok a) .error⟩
  /-- The commit fails. -/
  | unpublished {a : α} {e : Fault} (connected : w.fault? past start = none)
      (returned : body.result = .ok a)
      (refusal : w.fault? (past ++ .database start :: body.events) .commit = some e) :
    Lifecycle w past start body
      ⟨.database start :: (body.events ++ .database .commit :: e.cleanUp),
        .error (w.faultAfter (past ++ .database start :: (body.events ++ [.database .commit])) e)⟩
  /-- The body fails. -/
  | failed {e : Fault} (connected : w.fault? past start = none) (raised : body.result = .error e) :
    Lifecycle w past start body ⟨.database start :: (body.events ++ e.cleanUp),
      .error (w.faultAfter (past ++ .database start :: body.events) e)⟩

/-! ## The parts of a unit of work -/

theorem run_connectionString (db : Option DatabaseSettings) :
    (connectionString db).run w past =
      ⟨[], .ok (db.getD (DatabaseSettings.ofEnvironment w.environment)).dsn⟩ := by
  cases db <;> rfl

/-- A roll-back is tried after every fault but an interruption, and its own fault comes last. -/
theorem run_rollBackAfter (e : Fault) : (rollBackAfter e).run w past =
    if e.isInterrupt then ⟨[], .ok e⟩
    else ⟨[.database .rollback], .ok ((w.fault? past .rollback).getD e)⟩ := by
  rw [rollBackAfter]
  split
  · rfl
  · cases h : w.fault? past .rollback with
    | none =>
      have tried : ((attempt (command .rollback)).run w past).result = .ok (.ok ()) := by
        rw [run_attempt, run_command, h]
        rfl
      rw [run_bind_of_ok tried, run_attempt, run_command]
      rfl
    | some later =>
      have tried : ((attempt (command .rollback)).run w past).result = .ok (.error later) := by
        rw [run_attempt, run_command, h]
        rfl
      rw [run_bind_of_ok tried, run_attempt, run_command]
      rfl

/-- Give up a unit of work because of a fault. -/
def abandon (e : Fault) : Act α := do
  let e ← rollBackAfter e
  command .close
  throw e

theorem run_abandon (e : Fault) :
    (abandon e : Act α).run w past = ⟨e.cleanUp, .error (w.faultAfter past e)⟩ := by
  have rolled : (rollBackAfter e).run w past = _ := run_rollBackAfter e
  rw [Fault.cleanUp, World.faultAfter]
  split at rolled
  · rename_i interrupt
    rw [abandon, run_bind_of_ok (congrArg Run.result rolled), rolled, run_command_throw,
      if_pos interrupt, if_pos interrupt, List.append_nil]
    rfl
  · rename_i proper
    rw [abandon, run_bind_of_ok (congrArg Run.result rolled), rolled, run_command_throw,
      if_neg proper, if_neg proper]
    rfl

/-- The body of a unit of work with the commit after it. -/
def thenCommit (body : Act α) : Act α := do
  let a ← body
  command .commit
  pure a

/-- Work that is committed ends with the connection. -/
theorem run_inTransaction_of_ok {body : Act α} {done : Trace} {a : α}
    (h : (thenCommit body).run w past = ⟨done, .ok a⟩) :
    (inTransaction body).run w past =
      ⟨done ++ [.database .close], (w.fault? (past ++ done) .close).elim (.ok a) .error⟩ := by
  have tried : (attempt (thenCommit body)).run w past = ⟨done, .ok (.ok a)⟩ := by
    rw [run_attempt, h]
  change (attempt (thenCommit body) >>= _).run w past = _
  rw [run_bind_of_ok (congrArg Run.result tried), tried]
  simp only [run_command_pure]

/-- Work that meets a fault is given up. -/
theorem run_inTransaction_of_error {body : Act α} {done : Trace} {e : Fault}
    (h : (thenCommit body).run w past = ⟨done, .error e⟩) :
    (inTransaction body).run w past =
      ⟨done ++ e.cleanUp, .error (w.faultAfter (past ++ done) e)⟩ := by
  have tried : (attempt (thenCommit body)).run w past = ⟨done, .ok (.error e)⟩ := by
    rw [run_attempt, h]
  change (attempt (thenCommit body) >>= _).run w past = _
  rw [run_bind_of_ok (congrArg Run.result tried), tried]
  change Run.mk (done ++ ((abandon e : Act α).run w (past ++ done)).events)
    ((abandon e : Act α).run w (past ++ done)).result = _
  rw [run_abandon]

/-! ## The whole -/

/-- A unit of work on a connection of its own goes in one of the four ways. -/
theorem lifecycle_withConnection (w : World) (past : Trace) (db : Option DatabaseSettings)
    (body : Act α) :
    let start := Command.connect (db.getD (DatabaseSettings.ofEnvironment w.environment)).dsn
    Lifecycle w past start (body.run w (past ++ [.database start]))
      ((withConnection db body).run w past) := by
  intro start
  have opened : (withConnection db body).run w past =
      (do command start; inTransaction body : Act α).run w past := by
    rw [withConnection, run_bind_of_ok (congrArg Run.result (run_connectionString db)),
      run_connectionString, List.append_nil, List.nil_append]
  rw [opened]
  cases connected : w.fault? past start with
  | some e =>
    rw [run_command_bind_of_some connected]
    exact .refused connected
  | none =>
    rw [run_command_bind_of_none connected]
    cases ran : body.run w (past ++ [.database start]) with
    | mk events result =>
      have after (more : Trace) : past ++ [.database start] ++ more =
          past ++ .database start :: more := by simp
      -- Only a body that returns is followed by a commit.
      cases result with
      | error e =>
        have stopped :
            (thenCommit body).run w (past ++ [.database start]) = ⟨events, .error e⟩ := by
          rw [thenCommit, run_bind_of_error (congrArg Run.result ran), ran]
        rw [run_inTransaction_of_error stopped, after]
        exact .failed connected rfl
      | ok a =>
        have committed : (thenCommit body).run w (past ++ [.database start]) =
            ⟨events ++ [.database .commit],
              (w.fault? (past ++ .database start :: events) .commit).elim (.ok a) .error⟩ := by
          rw [thenCommit, run_bind_of_ok (congrArg Run.result ran), ran, run_command_pure, after]
        cases published : w.fault? (past ++ .database start :: events) .commit with
        | none =>
          rw [published] at committed
          rw [run_inTransaction_of_ok committed, after, List.append_assoc]
          exact .committed connected rfl published
        | some e =>
          rw [published] at committed
          rw [run_inTransaction_of_error committed, after, List.append_assoc]
          exact .unpublished connected rfl published

/-! ## Which fault leaves -/

/-- The last fault of work that is given up is the one that leaves. -/
theorem World.getLast?_cleanUp (w : World) (past : Trace) (e : Fault) :
    (e :: w.raised past e.cleanUp).getLast? = some (w.faultAfter past e) := by
  rw [Fault.cleanUp, faultAfter]
  split
  · rw [raised_command]
    cases w.fault? past .close <;> rfl
  · have both : [Event.database .rollback, .database .close] =
        [.database .rollback] ++ [.database .close] := rfl
    rw [both, raised_append, raised_command, raised_command]
    cases w.fault? past .rollback <;>
      cases w.fault? (past ++ [.database .rollback]) .close <;> rfl

/-- Behind what raised a fault, the clean-up leaves the last one. -/
theorem getLast?_raised_cleanUp {done : Trace} {e : Fault}
    (h : (w.raised past done).getLast? = some e) :
    (w.raised past (done ++ e.cleanUp)).getLast? = some (w.faultAfter (past ++ done) e) := by
  obtain ⟨earlier, raised⟩ := List.getLast?_eq_some_iff.mp h
  rw [World.raised_append, raised, List.append_assoc, List.singleton_append,
    List.getLast?_append, World.getLast?_cleanUp, Option.some_or]

/-- The fault that leaves a unit of work is the last one that its commands meet, if that is so of
its body. -/
theorem Lifecycle.getLast?_raised {start : Command} {body r : Run α} {e : Fault}
    (cycle : Lifecycle w past start body r)
    (last : ∀ e, body.result = .error e →
      (w.raised (past ++ [.database start]) body.events).getLast? = some e)
    (h : r.result = .error e) : (w.raised past r.events).getLast? = some e := by
  cases cycle with
  | refused refusal =>
    cases h
    rw [World.raised_command, refusal]
    rfl
  | committed connected returned published =>
    have done : .database start :: (body.events ++ [.database .commit, .database .close]) =
        (.database start :: (body.events ++ [.database .commit])) ++ [.database .close] := by simp
    rw [done, World.raised_append, World.raised_command, List.getLast?_append]
    cases closed : w.fault? (past ++ .database start :: (body.events ++ [.database .commit]))
        .close with
    | none =>
      rw [closed] at h
      nomatch h
    | some later =>
      rw [closed] at h
      cases h
      rfl
  | @unpublished a e connected returned refusal =>
    cases h
    have done : .database start :: (body.events ++ .database .commit :: e.cleanUp) =
        (.database start :: body.events ++ [.database .commit]) ++ e.cleanUp := by simp
    rw [done, ← List.cons_append]
    apply getLast?_raised_cleanUp
    rw [World.raised_append, World.raised_command, refusal]
    exact List.getLast?_concat
  | failed connected raised =>
    cases h
    rw [← List.cons_append]
    apply getLast?_raised_cleanUp
    change (_ ++ w.raised (past ++ [.database start]) body.events).getLast? = _
    rw [List.getLast?_append, last _ raised]
    rfl

/-! ## What is published -/

/-- A run whose commit did not fail and that failed because the connection could not be closed. -/
def Run.FailsToClose (w : World) (past : Trace) (r : Run α) : Prop :=
  ∃ done e, r.events = done ++ [.database .commit, .database .close] ∧
    w.fault? (past ++ done) .commit = none ∧
    w.fault? (past ++ (done ++ [.database .commit])) .close = some e ∧ r.result = .error e

/-- The value that a run would have given does not matter to how it failed. -/
theorem Run.failsToClose_map_iff {β : Type} {f : α → β} {r : Run α} :
    (Run.mk r.events (r.result.map f)).FailsToClose w past ↔ r.FailsToClose w past := by
  simp only [FailsToClose, map_eq_error_iff]

theorem Fault.commit_notMem_cleanUp (e : Fault) : .database .commit ∉ e.cleanUp := by
  rw [cleanUp]
  split <;> simp

namespace Lifecycle

variable {S : DatabaseServer} {s : S.State} {dsn : String} {body r : Run α}

/-- The body's work is what other connections see in the end. -/
def Publishes (S : DatabaseServer) (s : S.State) (w : World) (past : Trace) (start : Command)
    (body r : Run α) : Prop :=
  w.fault? past start = none ∧ (∃ a, body.result = .ok a) ∧
    S.committed (S.replay w past s r.events) =
      S.visible (S.replay w past s (.database start :: body.events))

/-- A unit of work that is given up did not fail to close its connection after a commit. -/
theorem not_failsToClose_of_cleanUp {done : Trace} {e : Fault}
    (given : r.events = done ++ e.cleanUp)
    (unpublished : ∀ before, done = before ++ [.database .commit] →
      w.fault? (past ++ before) .commit ≠ none) : ¬ r.FailsToClose w past := by
  rintro ⟨before, later, events, published, -, -⟩
  rw [given, Fault.cleanUp] at events
  split at events
  · have ended : done ++ [.database .close] =
        (before ++ [.database .commit]) ++ [.database .close] := by
      rw [events, List.append_assoc]
      rfl
    exact unpublished before (List.append_cancel_right ended) published
  · nomatch (List.append_inj' events rfl).2

variable (lawful : S.Lawful) (quiet : .database .commit ∉ body.events)

include quiet

/-- Neither the connection nor the body ends with a commit. -/
theorem commit_notMem_start : .database .commit ∉ Event.database (.connect dsn) :: body.events := by
  intro h
  rcases List.mem_cons.mp h with h | h
  · nomatch h
  · exact quiet h

include lawful

/-- A unit of work either publishes what its body did, and then returns or fails to close the
connection; or it publishes nothing and fails. -/
theorem publishes_or_keeps (s : S.State) (cycle : Lifecycle w past (.connect dsn) body r) :
    (Publishes S s w past (.connect dsn) body r ∧
      (r.result = body.result ∨ r.FailsToClose w past)) ∨
    (S.committed (S.replay w past s r.events) = S.committed s ∧ ¬ r.FailsToClose w past ∧
      ∃ e, r.result = .error e) := by
  have kept : S.committed (S.replay w past s (.database (.connect dsn) :: body.events)) =
      S.committed s :=
    lawful.committed_replay fun x hx commit ↦ commit_notMem_start quiet (commit ▸ hx)
  have cleaned (e : Fault) (past : Trace) (s : S.State) :
      S.committed (S.replay w past s e.cleanUp) = S.committed s :=
    lawful.committed_replay fun x hx commit ↦ e.commit_notMem_cleanUp (commit ▸ hx)
  cases cycle with
  | refused refusal =>
    refine .inr ⟨lawful.committed_replay (by simp), ?_, _, rfl⟩
    rintro ⟨done, later, events, -⟩
    have lengths := congrArg List.length events
    simp at lengths
  | committed connected returned published =>
    refine .inl ⟨⟨connected, ⟨_, returned⟩, ?_⟩, ?_⟩
    · rw [← List.cons_append, DatabaseServer.replay_append]
      exact lawful.committed_publish published
    · rw [returned]
      cases closed : w.fault? (past ++ .database (.connect dsn) ::
          (body.events ++ [.database .commit])) .close with
      | none => exact .inl rfl
      | some e =>
        exact .inr ⟨.database (.connect dsn) :: body.events, e, rfl, published, closed, rfl⟩
  | @unpublished a e connected returned refusal =>
    -- The commit takes place as an event, but one that fails, so it publishes nothing.
    refine .inr ⟨?_, ?_, _, rfl⟩
    · rw [← List.cons_append, DatabaseServer.replay_append, DatabaseServer.replay, cleaned,
        lawful.committed_stepEvent fun _ ↦ by rw [refusal]; exact Option.some_ne_none _, kept]
    · have given : .database (.connect dsn) :: (body.events ++ .database .commit :: e.cleanUp) =
          .database (.connect dsn) :: (body.events ++ [.database .commit]) ++ e.cleanUp := by simp
      refine not_failsToClose_of_cleanUp given ?_
      intro before ended published
      rw [← List.cons_append] at ended
      rw [← List.append_cancel_right ended, refusal] at published
      exact absurd published (Option.some_ne_none _)
  | failed connected raised =>
    refine .inr ⟨?_, ?_, _, rfl⟩
    · rw [← List.cons_append, DatabaseServer.replay_append, cleaned, kept]
    · refine not_failsToClose_of_cleanUp (List.cons_append ..).symm ?_
      intro before ended
      have last : .database .commit ∈ before ++ [Event.database .commit] := by simp
      exact absurd (ended ▸ last) (commit_notMem_start quiet)

end Lifecycle

end EnumTables
