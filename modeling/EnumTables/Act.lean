import EnumTables.Environment
import EnumTables.Event
import EnumTables.Fault
import EnumTables.Files
import EnumTables.Pattern.Reader
import EnumTables.Pattern.Search

/-!
# Acts

An act is a computation that works on the world outside.  It is a function from the world and from
what was done before to a run: the events that the act adds and its result, a value or the fault
that stopped it.  The events of an act that fails are kept.

The world answers requests, reads search patterns, and decides which commands to the database fail;
the last may depend on how many commands of the same kind were given before.
-/

namespace EnumTables

/-- The test for the occurrence of a pattern. -/
def Pattern.search (pattern : String) : Except Fault (RawText → Bool) :=
  ((ofText pattern).mapError .pattern).map occursIn

/-- The answer to a request. -/
structure Response where
  /-- The address that the answer came from, with its query. -/
  url : String
  status : Nat
  reason : String
  body : String
deriving DecidableEq, Repr

/-- The world outside. -/
structure World where
  /-- The environment variables. -/
  environment : Environment
  /-- The local files. -/
  files : Files
  /-- The answer to a request for an address, or the fault that it meets. -/
  respond : String → Except Fault Response
  /-- The fault that the `n`-th command of a kind meets, counted from zero. -/
  failure : Site → Nat → Option Fault
  /-- How deep arrays and objects may be nested in the JSON that is read. -/
  nesting : Nat := 900
  /-- Whether a pattern, in its written form, occurs in a text, or why it is no pattern. -/
  search : String → Except Fault (RawText → Bool) := Pattern.search

/-- What an act did and what came of it. -/
structure Run (α : Type) where
  events : Trace
  result : Except Fault α

/-- A computation that works on the world outside. -/
def Act (α : Type) : Type := World → Trace → Run α

namespace Act

variable {α β γ : Type}

/-- Run an act in a world in which `past` was done before. -/
def run (x : Act α) (w : World) (past : Trace) : Run α := x w past

/-- `pure` does nothing; a bind goes on with the second act where the first gives a value. -/
instance instMonad : Monad Act where
  pure a := fun _ _ ↦ ⟨[], .ok a⟩
  bind x f := fun w past ↦
    let first := x w past
    match first.result with
    | .error e => ⟨first.events, .error e⟩
    | .ok a =>
      let second := f a w (past ++ first.events)
      ⟨first.events ++ second.events, second.result⟩

/-- Stop with a fault. -/
def throw (e : Fault) : Act α := fun _ _ ↦ ⟨[], .error e⟩

/-- The value of a computation without effects, or its fault. -/
def ofExcept (x : Except Fault α) : Act α := fun _ _ ↦ ⟨[], x⟩

/-- Run an act and give its result as a value. -/
def attempt (x : Act α) : Act (Except Fault α) := fun w past ↦
  let r := x w past
  ⟨r.events, .ok r.result⟩

/-- Add an event. -/
def emit (e : Event) : Act Unit := fun _ _ ↦ ⟨[e], .ok ()⟩

/-- Something about the world. -/
def read (f : World → α) : Act α := fun w _ ↦ ⟨[], .ok (f w)⟩

/-- The environment variables. -/
def environment : Act Environment := read World.environment

/-- What stands at the path of a local file. -/
def fileAt (path : String) : Act (Option FileEntry) := read (·.files path)

/-- How deep JSON may be nested. -/
def nesting : Act Nat := read World.nesting

/-- How patterns are searched for. -/
def search : Act (String → Except Fault (RawText → Bool)) := read World.search

/-- Write a log record. -/
def log (level : Level) (topic : Topic) (message : String) : Act Unit :=
  emit (.log ⟨level, topic, message⟩)

/-- Send a request and take the answer. -/
def send (r : Request) : Act Response := fun w _ ↦ ⟨[.request r], w.respond r.url⟩

/-- Give the database a command, which takes place as an event even if it fails. -/
def command (c : Command) : Act Unit := fun w past ↦
  ⟨[.database c],
    match w.failure c.site (past.count c.site) with
    | some e => .error e
    | none => .ok ()⟩

@[simp] theorem run_pure (a : α) (w : World) (past : Trace) :
    (pure a : Act α).run w past = ⟨[], .ok a⟩ := rfl

@[simp] theorem run_throw (e : Fault) (w : World) (past : Trace) :
    (throw e : Act α).run w past = ⟨[], .error e⟩ := rfl

@[simp] theorem run_ofExcept (x : Except Fault α) (w : World) (past : Trace) :
    (ofExcept x).run w past = ⟨[], x⟩ := rfl

@[simp] theorem run_attempt (x : Act α) (w : World) (past : Trace) :
    (attempt x).run w past = ⟨(x.run w past).events, .ok (x.run w past).result⟩ := rfl

@[simp] theorem run_read (f : World → α) (w : World) (past : Trace) :
    (read f).run w past = ⟨[], .ok (f w)⟩ := rfl

@[simp] theorem run_emit (e : Event) (w : World) (past : Trace) :
    (emit e).run w past = ⟨[e], .ok ()⟩ := rfl

@[simp] theorem run_send (r : Request) (w : World) (past : Trace) :
    (send r).run w past = ⟨[.request r], w.respond r.url⟩ := rfl

/-- The run of a bind, by the result of its first act. -/
theorem run_bind (x : Act α) (f : α → Act β) (w : World) (past : Trace) :
    (x >>= f).run w past =
      match (x.run w past).result with
      | .error e => ⟨(x.run w past).events, .error e⟩
      | .ok a =>
        let second := (f a).run w (past ++ (x.run w past).events)
        ⟨(x.run w past).events ++ second.events, second.result⟩ := rfl

/-- A bind whose first act gives a value goes on with the second. -/
theorem run_bind_of_ok {x : Act α} {f : α → Act β} {w : World} {past : Trace} {a : α}
    (h : (x.run w past).result = .ok a) :
    (x >>= f).run w past =
      ⟨(x.run w past).events ++ ((f a).run w (past ++ (x.run w past).events)).events,
        ((f a).run w (past ++ (x.run w past).events)).result⟩ := by
  rw [run_bind, h]

/-- A bind whose first act fails fails likewise. -/
theorem run_bind_of_error {x : Act α} {f : α → Act β} {w : World} {past : Trace} {e : Fault}
    (h : (x.run w past).result = .error e) :
    (x >>= f).run w past = ⟨(x.run w past).events, .error e⟩ := by
  rw [run_bind, h]

/-- Two acts with the same runs are the same. -/
theorem ext {x y : Act α} (h : ∀ w past, x.run w past = y.run w past) : x = y :=
  funext fun w ↦ funext fun past ↦ h w past

/-- Acts satisfy the laws of monads: events are put one after the other, and what was done before
grows in step with them. -/
instance instLawfulMonad : LawfulMonad Act :=
  LawfulMonad.mk' Act
    (fun x ↦ ext fun w past ↦ by
      change (x >>= pure).run w past = _
      rw [run_bind]
      cases h : (x.run w past) with
      | mk events result => cases result <;> simp)
    (fun a f ↦ ext fun w past ↦ by
      rw [run_bind]
      simp)
    (fun x f g ↦ ext fun w past ↦ by
      simp only [run_bind]
      cases (x.run w past).result with
      | error e => rfl
      | ok a =>
        simp only
        cases ((f a).run w (past ++ (x.run w past).events)).result with
        | error e => rfl
        | ok b => simp [List.append_assoc])

end Act

end EnumTables
