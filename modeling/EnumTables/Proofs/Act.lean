import EnumTables.Act

/-!
# What acts emit

Which events can be among those of an act, whatever the world and whatever was done before.  An act
that is made of requests, commands and other events depends on what was done before through the
commands alone.
-/

namespace EnumTables

/-- A trace of log records. -/
def Trace.OnlyLogs (trace : Trace) : Prop := ∀ x ∈ trace, ∃ record, x = .log record

namespace Trace.OnlyLogs

variable {xs ys : Trace}

theorem nil : OnlyLogs [] := nofun

theorem singleton (record : Record) : OnlyLogs [.log record] := by
  intro x hx
  exact ⟨record, List.mem_singleton.mp hx⟩

theorem append (hx : OnlyLogs xs) (hy : OnlyLogs ys) : OnlyLogs (xs ++ ys) := by
  intro x h
  rcases List.mem_append.mp h with h | h
  · exact hx x h
  · exact hy x h

/-- What log records are not is not among them. -/
theorem filterMap_eq_nil {α : Type} {view : Event → Option α} (h : OnlyLogs xs)
    (other : ∀ record, view (.log record) = none) : xs.filterMap view = [] := by
  refine List.filterMap_eq_nil_iff.mpr ?_
  intro x hx
  obtain ⟨record, rfl⟩ := h x hx
  exact other record

/-- Log records ask for nothing. -/
theorem requests_eq_nil (h : OnlyLogs xs) : Trace.requests xs = [] :=
  h.filterMap_eq_nil fun _ ↦ rfl

/-- Log records tell the database nothing. -/
theorem commands_eq_nil (h : OnlyLogs xs) : Trace.commands xs = [] :=
  h.filterMap_eq_nil fun _ ↦ rfl

end Trace.OnlyLogs

namespace Trace

/-- The requests of a trace of requests are these. -/
theorem requests_map_request (rs : List Request) : requests (rs.map .request) = rs := by
  rw [requests, List.filterMap_map]
  exact List.filterMap_some

/-- Requests tell the database nothing. -/
theorem commands_map_request (rs : List Request) : commands (rs.map .request) = [] := by
  rw [commands, List.filterMap_map]
  exact List.filterMap_eq_nil_iff.mpr fun _ _ ↦ rfl

theorem commands_append_congr {s s' : Trace} (same : s.commands = s'.commands) (t : Trace) :
    (s ++ t).commands = (s' ++ t).commands := by
  rw [commands_append, commands_append, same]

end Trace

namespace Act

variable {α β : Type} {p : Event → Prop} {x : Act α} {f : α → Act β}

/-- All events of an act are of a kind. -/
def EmitsOnly (p : Event → Prop) (x : Act α) : Prop := ∀ w past, ∀ e ∈ (x.run w past).events, p e

theorem emitsOnly_pure (a : α) : EmitsOnly p (pure a) := fun _ _ ↦ nofun

theorem emitsOnly_throw (e : Fault) : EmitsOnly p (throw e : Act α) := fun _ _ ↦ nofun

theorem emitsOnly_ofExcept (r : Except Fault α) : EmitsOnly p (ofExcept r) := fun _ _ ↦ nofun

theorem emitsOnly_emit {e : Event} (h : p e) : EmitsOnly p (emit e) := by
  intro w past e' member
  rw [List.mem_singleton.mp member]
  exact h

/-- An act after one that gives a value is a matter of that value alone. -/
theorem EmitsOnly.bind_of_ok (hx : x.EmitsOnly p)
    (hf : ∀ w past a, (x.run w past).result = .ok a → (f a).EmitsOnly p) :
    (x >>= f).EmitsOnly p := by
  intro w past e member
  cases h : (x.run w past).result with
  | error fault =>
    rw [run_bind_of_error h] at member
    exact hx w past e member
  | ok a =>
    rw [run_bind_of_ok h] at member
    rcases List.mem_append.mp member with member | member
    · exact hx w past e member
    · exact hf w past a h w _ e member

theorem EmitsOnly.bind (hx : x.EmitsOnly p) (hf : ∀ a, (f a).EmitsOnly p) :
    (x >>= f).EmitsOnly p :=
  hx.bind_of_ok fun _ _ a _ ↦ hf a

/-! ## Acts made of others -/

/-- Acts that are made of requests, commands and other events, all of them of a kind, and that read
something about the world. -/
inductive MadeOf (p : Event → Prop) : {α : Type} → Act α → Prop
  | pure {α : Type} (a : α) : MadeOf p (Pure.pure a)
  | throw {α : Type} (e : Fault) : MadeOf p (Act.throw e : Act α)
  | ofExcept {α : Type} (r : Except Fault α) : MadeOf p (Act.ofExcept r)
  | read {α : Type} (f : World → α) : MadeOf p (Act.read f)
  | emit {e : Event} (kind : p e) : MadeOf p (Act.emit e)
  | send {r : Request} (kind : p (.request r)) : MadeOf p (Act.send r)
  | command {c : Command} (kind : p (.database c)) : MadeOf p (Act.command c)
  | bind {α β : Type} {x : Act α} {f : α → Act β} (first : MadeOf p x)
      (rest : ∀ a, MadeOf p (f a)) : MadeOf p (x >>= f)
  | attempt {α : Type} {x : Act α} (tried : MadeOf p x) : MadeOf p x.attempt

/-- The events of an act are those that it is made of. -/
theorem MadeOf.emitsOnly (h : MadeOf p x) : x.EmitsOnly p := by
  induction h with
  | pure a => exact emitsOnly_pure a
  | throw e => exact emitsOnly_throw e
  | ofExcept r => exact emitsOnly_ofExcept r
  | read => exact fun _ _ ↦ nofun
  | emit kind => exact emitsOnly_emit kind
  | send kind | command kind =>
    intro w past e member
    rw [List.mem_singleton.mp member]
    exact kind
  | bind first rest ihx ihf => exact ihx.bind ihf
  | attempt tried ih => exact ih

/-- An act does the same after any two pasts in which the database was told the same. -/
theorem MadeOf.run_congr (h : MadeOf p x) {w : World} {past past' : Trace}
    (same : past.commands = past'.commands) : x.run w past = x.run w past' := by
  induction h generalizing past past' with
  | pure | throw | ofExcept | read | emit | send => rfl
  | @command c kind =>
    have counted : past.count c.site = past'.count c.site := by
      rw [Trace.count, Trace.count, same]
    simp only [run, Act.command, counted]
  | @bind _ _ x f first rest ihx ihf =>
    rw [run_bind, run_bind, ihx same]
    cases (x.run w past').result with
    | error e => rfl
    | ok a =>
      dsimp only
      rw [ihf a (Trace.commands_append_congr same _)]
  | attempt tried ih => rw [run_attempt, run_attempt, ih same]

end Act

end EnumTables
