import EnumTables.Proofs.Database.Store

/-!
# Replay

A database goes through a trace command by command.  Whether a command fails is a matter of the
world and of what was done before it, so a trace is replayed together with its past.
-/

namespace EnumTables

namespace World

/-- The fault that a command meets after what was done before. -/
def fault? (w : World) (past : Trace) (c : Command) : Option Fault :=
  w.failure c.site (past.count c.site)

/-- The faults that the commands of a trace meet, in order. -/
def raised (w : World) (past : Trace) : Trace → List Fault
  | [] => []
  | x :: trace => (x.command?.bind (w.fault? past)).toList ++ w.raised (past ++ [x]) trace

theorem raised_append (w : World) (past xs ys : Trace) :
    w.raised past (xs ++ ys) = w.raised past xs ++ w.raised (past ++ xs) ys := by
  induction xs generalizing past with
  | nil => rw [List.nil_append, List.append_nil, raised, List.nil_append]
  | cons x xs ih =>
    rw [List.cons_append, raised, raised, ih, List.append_assoc, List.append_assoc,
      List.singleton_append]

/-- A single command raises its fault. -/
theorem raised_command (w : World) (past : Trace) (c : Command) :
    w.raised past [.database c] = (w.fault? past c).toList := List.append_nil _

end World

/-- The commands of a trace of commands are these. -/
theorem Trace.commands_map_database (cs : List Command) : commands (cs.map .database) = cs := by
  rw [commands, List.filterMap_map]
  exact List.filterMap_some

namespace Act

/-- Commands one after the other. -/
def giveAll : List Command → Act Unit
  | [] => pure ()
  | c :: cs => do
    command c
    giveAll cs

variable {α : Type} {w : World} {past : Trace} {c : Command}

/-- A command takes place, and its fault is the world's. -/
theorem run_command : (command c).run w past =
    ⟨[.database c], (w.fault? past c).elim (.ok ()) .error⟩ := by
  rw [run, command, World.fault?]
  cases w.failure c.site (past.count c.site) <;> rfl

/-- The run of a command with an act after it, by the fault of the command. -/
theorem run_command_bind_of_none {f : Unit → Act α} (h : w.fault? past c = none) :
    (command c >>= f).run w past =
      ⟨.database c :: ((f ()).run w (past ++ [.database c])).events,
        ((f ()).run w (past ++ [.database c])).result⟩ := by
  have ok : ((command c).run w past).result = .ok () := by rw [run_command, h]; rfl
  rw [run_bind_of_ok ok, run_command]
  rfl

theorem run_command_bind_of_some {f : Unit → Act α} {e : Fault} (h : w.fault? past c = some e) :
    (command c >>= f).run w past = ⟨[.database c], .error e⟩ := by
  have error : ((command c).run w past).result = .error e := by rw [run_command, h]; rfl
  rw [run_bind_of_error error, run_command]

/-- A value that is given after a command is lost if the command fails. -/
theorem run_command_pure (a : α) : (do command c; pure a : Act α).run w past =
    ⟨[.database c], (w.fault? past c).elim (.ok a) .error⟩ := by
  cases h : w.fault? past c with
  | none => rw [run_command_bind_of_none h]; rfl
  | some e => rw [run_command_bind_of_some h]; rfl

/-- Of a fault that is thrown after a command and the fault of the command, the latter remains. -/
theorem run_command_throw (e : Fault) : (do command c; throw e : Act α).run w past =
    ⟨[.database c], .error ((w.fault? past c).getD e)⟩ := by
  cases h : w.fault? past c with
  | none => rw [run_command_bind_of_none h]; rfl
  | some e => rw [run_command_bind_of_some h]; rfl

/-- Of commands one after the other the first ones take place: all of them if none meets a fault,
and else those up to the first that does, whose fault remains. -/
theorem run_giveAll (cs : List Command) (w : World) (past : Trace) :
    let r := (giveAll cs).run w past
    r.events <+: cs.map .database ∧
    (r.events = cs.map .database ∧ w.raised past r.events = [] ∧ r.result = .ok () ∨
      ∃ e, w.raised past r.events = [e] ∧ r.result = .error e) := by
  induction cs generalizing past with
  | nil => exact ⟨List.nil_prefix, .inl ⟨rfl, rfl, rfl⟩⟩
  | cons c cs ih =>
    rw [giveAll]
    cases fault : w.fault? past c with
    | some e =>
      have raised : w.raised past [.database c] = [e] := by
        rw [World.raised_command, fault]
        rfl
      rw [run_command_bind_of_some fault]
      exact ⟨(List.prefix_cons_inj _).mpr List.nil_prefix, .inr ⟨e, raised, rfl⟩⟩
    | none =>
      have later (rest : Trace) : w.raised past (.database c :: rest) =
          w.raised (past ++ [.database c]) rest := by
        rw [← List.singleton_append, World.raised_append, World.raised_command, fault]
        rfl
      obtain ⟨begun, goes⟩ := ih (past ++ [.database c])
      rw [run_command_bind_of_none fault]
      refine ⟨(List.prefix_cons_inj _).mpr begun, ?_⟩
      rcases goes with ⟨given, calm, returned⟩ | ⟨e, raised, failed⟩
      · exact .inl ⟨congrArg (_ :: ·) given, (later _).trans calm, returned⟩
      · exact .inr ⟨e, (later _).trans raised, failed⟩

/-- Only the given commands take place. -/
theorem mem_of_mem_events_giveAll {cs : List Command} {x : Event}
    (h : x ∈ ((giveAll cs).run w past).events) : ∃ c ∈ cs, x = .database c := by
  obtain ⟨c, given, rfl⟩ := List.mem_map.mp ((run_giveAll cs w past).1.subset h)
  exact ⟨c, given, rfl⟩

/-- Commands one after the other stop at the first fault. -/
theorem getLast?_raised_giveAll {cs : List Command} {e : Fault}
    (h : ((giveAll cs).run w past).result = .error e) :
    (w.raised past ((giveAll cs).run w past).events).getLast? = some e := by
  rcases (run_giveAll cs w past).2 with ⟨-, -, returned⟩ | ⟨e', raised, failed⟩
  · nomatch h.symm.trans returned
  · obtain rfl := Except.error.inj (h.symm.trans failed)
    rw [raised]
    rfl

end Act

namespace DatabaseServer

variable (S : DatabaseServer) (w : World)

/-- The state after an event: only commands to the database change it. -/
def stepEvent (past : Trace) (s : S.State) : Event → S.State
  | .database c => S.step s c (w.fault? past c).isSome
  | _ => s

/-- The state after a trace that was preceded by `past`. -/
def replay (past : Trace) (s : S.State) : Trace → S.State
  | [] => s
  | x :: trace => replay (past ++ [x]) (S.stepEvent w past s x) trace

variable {S w} {past : Trace} {s : S.State}

theorem replay_append (xs ys : Trace) : S.replay w past s (xs ++ ys) =
    S.replay w (past ++ xs) (S.replay w past s xs) ys := by
  induction xs generalizing past s with
  | nil => rw [List.nil_append, List.append_nil, replay]
  | cons x xs ih =>
    rw [List.cons_append, replay, replay, ih, List.append_assoc, List.singleton_append]

namespace Lawful

variable (lawful : S.Lawful)

include lawful

/-- An event publishes nothing unless it is a commit that does not fail. -/
theorem committed_stepEvent {x : Event}
    (h : x = .database .commit → w.fault? past .commit ≠ none) :
    S.committed (S.stepEvent w past s x) = S.committed s := by
  cases x with
  | database c =>
    by_cases hc : c = .commit
    · subst hc
      have failed : (w.fault? past .commit).isSome = true :=
        Option.isSome_iff_ne_none.mpr (h rfl)
      rw [stepEvent, failed, lawful.committed_failed]
    · exact lawful.committed_step s c _ hc
  | request | log | output | complaint | sync | serve => rfl

/-- A trace without commits publishes nothing. -/
theorem committed_replay {trace : Trace} (h : ∀ x ∈ trace, x ≠ .database .commit) :
    S.committed (S.replay w past s trace) = S.committed s := by
  induction trace generalizing past s with
  | nil => rfl
  | cons x trace ih =>
    rw [replay, ih fun y hy ↦ h y (List.mem_cons_of_mem x hy),
      lawful.committed_stepEvent fun commit ↦ absurd commit (h x List.mem_cons_self)]

/-- A commit that does not fail publishes what the open transaction sees, and the end of the
connection changes nothing about it. -/
theorem committed_publish (h : w.fault? past .commit = none) :
    S.committed (S.replay w past s [.database .commit, .database .close]) = S.visible s := by
  have succeeds : (w.fault? past .commit).isSome = false := by rw [h]; rfl
  calc S.committed (S.replay w past s [.database .commit, .database .close])
    _ = S.committed (S.step s .commit (w.fault? past .commit).isSome) :=
        lawful.committed_step _ .close _ (by simp)
    _ = S.visible s := by rw [succeeds, lawful.committed_commit]

/-- Statements that are accepted one after the other, none of which fails, do what they say. -/
theorem visible_giveAll {cs : List Command} {st : Store}
    (accepted : cs.foldlM Command.effect? (S.visible s) = some st)
    (h : ((Act.giveAll cs).run w past).result = .ok ()) :
    S.visible (S.replay w past s ((Act.giveAll cs).run w past).events) = st := by
  induction cs generalizing past s with
  | nil => exact Option.some.inj accepted
  | cons c cs ih =>
    rw [Act.giveAll] at h ⊢
    cases fault : w.fault? past c with
    | some e =>
      rw [Act.run_command_bind_of_some fault] at h
      nomatch h
    | none =>
      rw [Act.run_command_bind_of_none fault] at h ⊢
      obtain ⟨mid, step, rest⟩ := Option.bind_eq_some_iff.mp accepted
      have succeeds : (w.fault? past c).isSome = false := by rw [fault]; rfl
      have seen : S.visible (S.stepEvent w past s (.database c)) = mid := by
        rw [stepEvent, succeeds]
        exact lawful.visible_statement s c mid step
      exact ih (seen ▸ rest) h

end Lawful

end DatabaseServer

end EnumTables
