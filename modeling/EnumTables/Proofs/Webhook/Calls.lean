import EnumTables.Proofs.Act
import EnumTables.Webhook.Dispatch

/-!
# Calls of the sync

The sync of a delivery is an arbitrary act.  Whether it is called is therefore read from the place
that its events have in a run: one run of it, right after the event that names the commit, with
nothing but log records around.
-/

namespace EnumTables

/-- In a trace after `past` the sync is called once, for this commit, and all else is logged. -/
def Trace.CallsOnce (trace : Trace) (sync : Webhook.Sync) (w : World) (past : Trace)
    (target : PushTarget) : Prop :=
  ∃ before after : Trace, before.OnlyLogs ∧ after.OnlyLogs ∧ trace = before ++
    .sync target :: (((sync target).run w (past ++ (before ++ [.sync target]))).events ++ after)

namespace Act

variable {α β : Type} {x : Act α} {f : α → Act β} {sync : Webhook.Sync} {target : PushTarget}

/-! ## Acts that only log -/

/-- An act that does nothing but log. -/
def IsQuiet (x : Act α) : Prop := ∀ w past, (x.run w past).events.OnlyLogs

theorem IsQuiet.bind_of_ok (hx : x.IsQuiet)
    (hf : ∀ w past a, (x.run w past).result = .ok a → (f a).IsQuiet) : (x >>= f).IsQuiet :=
  EmitsOnly.bind_of_ok hx hf

theorem IsQuiet.bind (hx : x.IsQuiet) (hf : ∀ a, (f a).IsQuiet) : (x >>= f).IsQuiet :=
  EmitsOnly.bind hx hf

theorem IsQuiet.attempt (hx : x.IsQuiet) : x.attempt.IsQuiet := hx

/-! ## Acts that call the sync -/

/-- An act that calls the sync once, for this commit, and does nothing else but log. -/
def CallsOnce (sync : Webhook.Sync) (target : PushTarget) (x : Act α) : Prop :=
  ∀ w past, (x.run w past).events.CallsOnce sync w past target

theorem CallsOnce.attempt (hx : x.CallsOnce sync target) : x.attempt.CallsOnce sync target := hx

end Act

end EnumTables
