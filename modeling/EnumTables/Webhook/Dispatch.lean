import EnumTables.Json.Display
import EnumTables.Settings
import EnumTables.Sync

/-!
# Deliveries

What is done about a delivery whose signature was accepted.  A push to the target branch that has a
head commit sets off a sync of that commit; every other delivery is only answered.
-/

namespace EnumTables.Webhook

/-- The body of an answer. -/
inductive Body where
  | text (s : String)
  | json (v : Json)

/-- The answer to a delivery. -/
structure Answer where
  status : Nat
  body : Body

/-- What is to be done about a delivery. -/
inductive Decision where
  | answer (a : Answer)
  | sync (target : PushTarget)

/-- The syncing of a pushed commit; its results become the body of the answer. -/
abbrev Sync := PushTarget → Act (List Json)

/-- An answer with a status and a message. -/
def notice (status : Nat) (message : RawText) : Answer :=
  ⟨status, .json (.obj [("status", .int status), ("msg", .str message)])⟩

/-- The commit that a push names: the owner's name, or else the owner's login, the name of the
repository and the id of the head commit. -/
def pushTarget (payload : Json) : Except Json.ShapeError PushTarget := do
  let repository ← payload.member "repository"
  let owner ← repository.member "owner"
  let name := (← owner.get? "name").getD .null
  let owner ← if name.isTruthy then pure name else owner.member "login"
  let repository ← repository.member "name"
  let head ← payload.member "head_commit"
  return ⟨owner, repository, ← head.member "id"⟩

/-- A member of the payload, null if it is missing. -/
def field (payload : Json) (name : String) : Except Json.ShapeError Json := do
  return (← payload.get? name).getD .null

/-- The name of an event in messages. -/
def eventName (event : Option String) : String := event.getD "None"

/-- What is to be done about a push. -/
def decidePush (settings : Settings) (payload : Json) : Except Json.ShapeError Decision := do
  let ref ← field payload "ref"
  if !ref.isText settings.targetBranch then
    return .answer (notice 200 ("branch " ++ ref.display ++ " is not target branch"))
  else if !(← field payload "head_commit").isTruthy then
    return .answer (notice 200 ("no head commit on " ++ ref.display))
  else return .sync (← pushTarget payload)

/-- What is to be done about a delivery of an event. -/
def decide (settings : Settings) (event : Option String) (payload : Json) :
    Except Json.ShapeError Decision :=
  if event = some "ping" then .ok (.answer ⟨200, .text "pong"⟩)
  else if event = some "push" then decidePush settings payload
  else .ok (.answer (notice 400 s!"unsupported event type {eventName event}"))

/-- A commit as it is named in messages. -/
def displayTarget (t : PushTarget) : String :=
  s!"{t.owner.display.escaped}/{t.repository.display.escaped}@{t.commit.display.escaped}"

/-- Handle a delivery of an event. -/
def handle (settings : Settings) (sync : Sync) (event : Option String) (payload : Json) :
    Act Answer := do
  Act.log .info .webhook s!"request_event_type: {eventName event}"
  if event ≠ some "ping" ∧ event ≠ some "push" then
    Act.log .warning .webhook s!"Unknown request event type: {eventName event}"
  match ← Act.ofExcept (Hosting.shaped (decide settings event payload)) with
  | .answer a => return a
  | .sync target =>
    Act.log .info .webhook s!"Syncing enums from {displayTarget target}"
    Act.emit (.sync target)
    return ⟨200, .json (.arr (← sync target))⟩

/-- The result of loading a table in the body of an answer. -/
def resultJson (r : LoadResult) : Json :=
  match r.outcome with
  | .loaded rows => .arr [.str r.tableId, .int rows]
  | .failed message => .arr [.str r.tableId, .str message]

/-- Sync the pushed commit into the database. -/
def syncInto (settings : Settings) : Sync := fun target ↦ do
  let commit : Hosting.Commit :=
    ⟨target.owner.display.inAddress, target.repository.display.inAddress,
      target.commit.display.inAddress⟩
  let results ← syncCommit settings (.ofSettings settings) commit
  return results.map resultJson

end EnumTables.Webhook
