import EnumTables.Json.Encoded
import EnumTables.Json.Reader
import EnumTables.Json.Writer
import EnumTables.Webhook.Dispatch
import EnumTables.Webhook.Signature

/-!
# The endpoint

The HTTP interface: deliveries are posted to `/github`, and `/health` answers that the server is up.
A delivery is looked into only after its signature was accepted.
-/

namespace EnumTables.Webhook

/-- A request to the endpoint. -/
structure HttpRequest where
  method : String
  path : String
  headers : List (String × String)
  body : List UInt8

/-- An answer of the endpoint. -/
structure HttpAnswer where
  status : Nat
  contentType : String
  body : String
deriving DecidableEq, Repr

/-- The first value of a header; the case of its name, given in lower case, does not count. -/
def HttpRequest.header? (r : HttpRequest) (name : String) : Option String :=
  (r.headers.find? fun h ↦ h.1.map Char.toLower = name).map Prod.snd

/-- An answer in plain text. -/
def HttpAnswer.text (status : Nat) (body : String) : HttpAnswer :=
  ⟨status, "text/plain; charset=utf-8", body⟩

/-- An answer in JSON, which cannot be given if there is a surrogate in it. -/
def HttpAnswer.json (status : Nat) (body : Json) : Except Fault HttpAnswer :=
  (body.write.encodable.mapError fun e ↦ .value e.message).map (⟨status, "application/json", ·⟩)

/-- The answer to a request that is not a valid delivery. -/
def badRequest : HttpAnswer := .text 400 "Bad Request"

/-- An answer to a delivery as the endpoint gives it. -/
def Answer.toHttp (a : Answer) : Except Fault HttpAnswer :=
  match a.body with
  | .text s => .ok (.text a.status s)
  | .json v => HttpAnswer.json a.status v

/-- The signature of a delivery: the stronger of its two signatures, unless it is empty. -/
def HttpRequest.signature? (r : HttpRequest) : Option String :=
  (r.header? "x-hub-signature-256").filter (· ≠ "") <|> r.header? "x-hub-signature"

/-- The payload of a delivery, which must be an object; an empty body stands for one without
members.  A body that is nested too deep is no invalid one. -/
def payload? (nesting : Nat) (body : List UInt8) : Except Fault (Option Json) :=
  match Json.decodeBytes? (if body = [] then [0x7B, 0x7D] else body) with
  | none => .ok none
  | some text =>
    match Json.ofText nesting text with
    | .ok (.obj members) => .ok (some (.obj members))
    | .ok _ => .ok none
    | .error e => if e.isTooDeep then .error (.runtime e.message) else .ok none

/-- Handle an accepted delivery.  A fault becomes an answer, unless it is an interruption. -/
def answerDelivery (settings : Settings) (sync : Sync) (event : Option String) (payload : Json) :
    Act HttpAnswer := do
  match ← Act.attempt (handle settings sync event payload) with
  | .ok a => Act.ofExcept a.toHttp
  | .error e =>
    if e.isInterrupt then Act.throw e
    else
      Act.log .error .endpoint "Enum sync failed"
      return .text 500 e.message

/-- Receive a delivery. -/
def receive (settings : Settings) (sync : Sync) (r : HttpRequest) : Act HttpAnswer := do
  if ← verify settings.webhookSecret r.body r.signature? then
    match ← Act.ofExcept (payload? (← Act.nesting) r.body) with
    | none => return badRequest
    | some payload => answerDelivery settings sync (r.header? "x-github-event") payload
  else
    Act.log .error .endpoint "GitHub request verification failed"
    return badRequest

/-- Answer a request.  A fault that escapes is answered by the server in its own way. -/
def respond (settings : Settings) (sync : Sync) (r : HttpRequest) : Act HttpAnswer :=
  let notice (status : Nat) (name value : String) : Act HttpAnswer :=
    Act.ofExcept (HttpAnswer.json status (.obj [(name, .str value)]))
  if r.path = "/github" then
    if r.method = "POST" then receive settings sync r
    else notice 405 "detail" "Method Not Allowed"
  else if r.path = "/health" then
    if r.method = "GET" then notice 200 "status" "ok"
    else notice 405 "detail" "Method Not Allowed"
  else notice 404 "detail" "Not Found"

end EnumTables.Webhook
