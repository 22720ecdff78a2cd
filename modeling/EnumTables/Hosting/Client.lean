import EnumTables.Act
import EnumTables.Settings

/-!
# The hosting service

Requests to the service that hosts the sources.  An answer whose status reports an error, or whose
body is not JSON, is a fault of transport.
-/

namespace EnumTables.Hosting

/-- How the service is reached. -/
structure Client where
  /-- The address of the service, without a slash at its end. -/
  apiUrl : String
  /-- The token that requests are authorised with. -/
  token : Option String
  /-- The seconds to wait for an answer. -/
  timeout : Int
deriving DecidableEq, Repr

namespace Client

/-- A client for an address.  Slashes at its end do not count, and an empty token is none. -/
def new (apiUrl : String) (token : Option String) (timeout : Int) : Client :=
  ⟨stripSlashes apiUrl, token.filter (· ≠ ""), timeout⟩

/-- The seconds to wait for an answer when nothing else is said. -/
def defaultTimeout : Int := 30

/-- The client that settings describe. -/
def ofSettings (s : Settings) : Client := new s.apiUrl s.token defaultTimeout

/-- A request for a path below the client's address. -/
def request (c : Client) (path : String) (params : List (String × Json)) : Request where
  url := c.apiUrl ++ path
  params := params
  timeout := c.timeout
  accept := "application/vnd.github+json"
  authorization := c.token.map ("token " ++ ·)

end Client

/-- The fault of a body that cannot be read.  A body beyond a limit of the reader was transported
well. -/
def bodyFault (e : Json.Error) : Fault :=
  if e.cause.isMalformed then .transport (.body e)
  else if e.isTooDeep then .runtime e.message
  else .value e.message

/-- The value in the body of an answer, in which JSON may be nested to this depth. -/
def bodyOf (nesting : Nat) (r : Response) : Except Fault Json :=
  if 400 ≤ r.status ∧ r.status < 600 then .error (.transport (.status r.status r.reason r.url))
  else (Json.ofText nesting r.body).mapError bodyFault

/-- Ask for a path and take the value of the answer. -/
def fetch (c : Client) (path : String) (params : List (String × Json)) : Act Json := do
  let response ← Act.send (c.request path params)
  Act.ofExcept (bodyOf (← Act.nesting) response)

end EnumTables.Hosting
