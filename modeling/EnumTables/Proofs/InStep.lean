import EnumTables.Proofs.Act

/-!
# Acts in step

Two acts are in step if they send the same requests and give the database the same commands, in the
same order, whatever else they print and log, and if their results are related.  Acts that only print
and log can be left out on both sides.
-/

namespace EnumTables

/-! ## Effects -/

/-- Whether an event concerns another machine. -/
def Event.isEffect : Event → Bool
  | .request _ | .database _ => true
  | _ => false

namespace Trace

/-- The requests and the commands in order. -/
def effects (t : Trace) : Trace := t.filter Event.isEffect

theorem effects_append (s t : Trace) : effects (s ++ t) = effects s ++ effects t :=
  List.filter_append ..

/-- What is seen of the effects alone is seen of the effects of a trace. -/
theorem filterMap_effects {α : Type} {view : Event → Option α}
    (seen : ∀ e, e.isEffect = false → view e = none) (t : Trace) :
    t.effects.filterMap view = t.filterMap view := by
  rw [effects, List.filterMap_filter]
  congr 1
  funext e
  split
  · rfl
  · rename_i other
    exact (seen e (Bool.eq_false_iff.mpr other)).symm

theorem commands_effects (t : Trace) : t.effects.commands = t.commands :=
  filterMap_effects (fun e other ↦ by cases e <;> first | rfl | nomatch other) t

theorem requests_effects (t : Trace) : t.effects.requests = t.requests :=
  filterMap_effects (fun e other ↦ by cases e <;> first | rfl | nomatch other) t

/-- A trace without effects tells the database nothing. -/
theorem commands_append_of_silent {s t : Trace} (silent : t.effects = []) :
    (s ++ t).commands = s.commands := by
  have told : t.commands = [] := by
    rw [← commands_effects, silent]
    rfl
  rw [commands_append, told, List.append_nil]

end Trace

namespace Act

variable {α β γ : Type} {w : World} {past past' : Trace}

/-! ## Acts without effects -/

/-- An act that is made of other events has no effects. -/
theorem MadeOf.effects_eq_nil {x : Act α} (h : x.MadeOf (·.isEffect = false)) :
    (x.run w past).events.effects = [] :=
  List.filter_eq_nil_iff.mpr fun e member ↦ Bool.eq_false_iff.mp (h.emitsOnly w past e member)

/-- An act that has no effects and always returns this value. -/
def Silent (w : World) (x : Act α) (a : α) : Prop :=
  ∀ past, (x.run w past).events.effects = [] ∧ (x.run w past).result = .ok a

theorem silent_pure (a : α) : Silent w (pure a) a := fun _ ↦ ⟨rfl, rfl⟩

theorem silent_environment : Silent w environment w.environment := fun _ ↦ ⟨rfl, rfl⟩

theorem silent_log (level : Level) (topic : Topic) (message : String) :
    Silent w (log level topic message) () := fun _ ↦ ⟨rfl, rfl⟩

theorem Silent.bind {x : Act α} {f : α → Act β} {a : α} {b : β} (hx : Silent w x a)
    (hf : Silent w (f a) b) : Silent w (x >>= f) b := by
  intro past
  obtain ⟨silent, returned⟩ := hx past
  obtain ⟨silent', returned'⟩ := hf (past ++ (x.run w past).events)
  rw [run_bind_of_ok returned]
  refine ⟨?_, returned'⟩
  rw [Trace.effects_append, silent, silent']
  rfl

/-! ## Lockstep -/

/-- After pasts in which the database was told the same, two acts have the same effects and related
results. -/
def InStep (R : Except Fault α → Except Fault β → Prop) (w : World) (past past' : Trace)
    (x : Act α) (y : Act β) : Prop :=
  past.commands = past'.commands →
    (x.run w past).events.effects = (y.run w past').events.effects ∧
      R (x.run w past).result (y.run w past').result

namespace InStep

variable {R : Except Fault α → Except Fault β → Prop} {p : Event → Prop}

/-- Acts without effects are in step if their results are related. -/
theorem of_effects_eq_nil {x : Act α} {y : Act β} (hx : (x.run w past).events.effects = [])
    (hy : (y.run w past').events.effects = [])
    (related : R (x.run w past).result (y.run w past').result) : InStep R w past past' x y :=
  fun _ ↦ ⟨hx.trans hy.symm, related⟩

theorem skip_left {x : Act γ} {f : γ → Act α} {y : Act β} {c : γ} (hx : Silent w x c)
    (rest : ∀ past, InStep R w past past' (f c) y) : InStep R w past past' (x >>= f) y := by
  intro same
  obtain ⟨silent, returned⟩ := hx past
  rw [run_bind_of_ok returned, Trace.effects_append, silent]
  exact rest _ ((Trace.commands_append_of_silent silent).trans same)

theorem skip_right {x : Act α} {y : Act γ} {f : γ → Act β} {c : γ} (hy : Silent w y c)
    (rest : ∀ past', InStep R w past past' x (f c)) : InStep R w past past' x (y >>= f) := by
  intro same
  obtain ⟨silent, returned⟩ := hy past'
  rw [run_bind_of_ok returned, Trace.effects_append, silent]
  exact rest _ (same.trans (Trace.commands_append_of_silent silent).symm)

/-- Two acts that begin with the same act are in step if they are so behind it, also where the first
goes on after a fault of that act and the second does not. -/
theorem attempt_bind {x : Act γ} (made : x.MadeOf p) {f : Except Fault γ → Act α} {g : γ → Act β}
    (failed : ∀ e, (x.run w past').result = .error e →
      ∀ past past', InStep R w past past' (f (.error e)) (throw e))
    (returned : ∀ c, (x.run w past').result = .ok c →
      ∀ past past', InStep R w past past' (f (.ok c)) (g c)) :
    InStep R w past past' (x.attempt >>= f) (x >>= g) := by
  intro same
  have ran : x.attempt.run w past = ⟨(x.run w past').events, .ok (x.run w past').result⟩ := by
    rw [run_attempt, made.run_congr same]
  rw [run_bind_of_ok (congrArg Run.result ran), ran]
  cases h : (x.run w past').result with
  | error e =>
    obtain ⟨effects, related⟩ := failed e h _ _ (Trace.commands_append_congr same _)
    rw [run_bind_of_error h, Trace.effects_append, effects]
    exact ⟨List.append_nil _, related⟩
  | ok c =>
    obtain ⟨effects, related⟩ := returned c h _ _ (Trace.commands_append_congr same _)
    rw [run_bind_of_ok h, Trace.effects_append, effects, Trace.effects_append]
    exact ⟨rfl, related⟩

/-- Two acts that begin with the same act are in step if they are so where it returns. -/
theorem bind {x : Act γ} (made : x.MadeOf p) {f : γ → Act α} {g : γ → Act β}
    (failed : ∀ e, (x.run w past').result = .error e → R (.error e) (.error e))
    (returned : ∀ c, (x.run w past').result = .ok c →
      ∀ past past', InStep R w past past' (f c) (g c)) :
    InStep R w past past' (x >>= f) (x >>= g) := by
  intro same
  have ran := made.run_congr (w := w) same
  cases h : (x.run w past').result with
  | error e =>
    rw [run_bind_of_error ((congrArg Run.result ran).trans h), run_bind_of_error h, ran]
    exact ⟨rfl, failed e h⟩
  | ok c =>
    obtain ⟨effects, related⟩ := returned c h _ _ (Trace.commands_append_congr same _)
    rw [run_bind_of_ok ((congrArg Run.result ran).trans h), run_bind_of_ok h, ran,
      Trace.effects_append, effects, Trace.effects_append]
    exact ⟨rfl, related⟩

end InStep

end Act

end EnumTables
