import EnumTables.Console.Markup
import EnumTables.Json.Reader
import EnumTables.Json.Shape
import EnumTables.Pattern.Error
import EnumTables.Text.Base64
import EnumTables.Text.Utf8

/-!
# Faults

Everything that can stop a run, by its cause.  Three questions decide how a fault is handled: whether
the database reported it, whether it is a failure of transport, and whether it is an interruption,
which only clean-up may hold up.
-/

namespace EnumTables

/-- The classes of errors that a database reports. -/
inductive DatabaseError where
  | general
  | database
  | operational
  | programming
  | data
  | integrity
  | internal
  | notSupported
  | interface
deriving DecidableEq, Repr

/-- The ways in which a request can fail. -/
inductive TransportError where
  | connection (message : String)
  | timeout (message : String)
  | request (message : String)
  /-- The answer's status reports an error. -/
  | status (code : Nat) (reason url : String)
  /-- The answer's body is not JSON. -/
  | body (e : Json.Error)
deriving DecidableEq, Repr

/-- What stops a run. -/
inductive Fault where
  | database (kind : DatabaseError) (message : String)
  /-- A warning of the database, which is not one of its errors. -/
  | databaseWarning (message : String)
  | transport (e : TransportError)
  /-- The user or the system ended the run. -/
  | interrupted (message : String)
  | runtime (message : String)
  | value (message : String)
  | missingKey (name : String)
  /-- An answer is not of the expected shape. -/
  | shape (e : Json.ShapeError)
  /-- The content of a file is not base64. -/
  | base64 (e : Text.Base64.Error)
  /-- The source pattern is not a pattern. -/
  | pattern (e : Pattern.Error)
  /-- A local file is not text. -/
  | encoding (e : Text.Utf8.Error)
  | markup (e : Markup.Error)
deriving DecidableEq, Repr

/-- Whether an answer's status reports an error of the client or of the server. -/
def TransportError.isServerSide (code : Nat) : Bool := 500 ≤ code

/-- What went wrong with a request, in words. -/
def TransportError.message : TransportError → String
  | .connection m | .timeout m | .request m => m
  | .status code reason url =>
    let side := if isServerSide code then "Server" else "Client"
    s!"{code} {side} Error: {reason} for url: {url}"
  | .body e => e.message

namespace Fault

/-- What went wrong, in words. -/
def message : Fault → String
  | .database _ m | .databaseWarning m | .interrupted m | .runtime m | .value m => m
  | .transport e => e.message
  | .missingKey name => Text.quoted name
  | .shape e => e.message
  | .base64 e => e.message
  | .pattern e => e.message
  | .encoding e => e.message
  | .markup e => e.message

/-- Whether the database reported an error. -/
def isDatabase : Fault → Bool
  | .database _ _ => true
  | _ => false

/-- Whether a request failed. -/
def isTransport : Fault → Bool
  | .transport _ => true
  | _ => false

/-- Whether the run was interrupted from outside. -/
def isInterrupt : Fault → Bool
  | .interrupted _ => true
  | _ => false

end Fault

end EnumTables
