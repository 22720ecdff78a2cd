import EnumTables.Proofs.Webhook.Calls
import EnumTables.Proofs.Webhook.Payload
import EnumTables.Webhook.Endpoint

/-!
# The gate

A sync replaces tables, so it matters which requests can set one off: those, and only those, that
are posted to the endpoint with a signature that is accepted, and whose payload is that of a push to
the target branch which names a commit.  A request with another signature learns nothing.
-/

namespace EnumTables.Webhook

variable {settings : Settings} {sync : Sync} {r : HttpRequest} {target : PushTarget}

/-! ## The requests that pass -/

variable {event : Option String} {payload : Json}

variable {w : World} {past : Trace} {members : List (RawText × Json)}

/-- What is done about a signed delivery, where JSON may be nested to this depth. -/
def accept (settings : Settings) (sync : Sync) (r : HttpRequest) (nesting : Nat) :
    Act HttpAnswer := do
  match ← Act.ofExcept (payload? nesting r.body) with
  | none => return badRequest
  | some payload => answerDelivery settings sync (r.header? "x-github-event") payload

variable {nesting : Nat}

end EnumTables.Webhook
