import EnumTables.Json.Basic

/-!
# Events

What a run does to the world outside: requests, database commands, log records, text on the console,
the start of the server, and the syncs that deliveries set off.  A run's trace is the list of its
events in order.
-/

namespace EnumTables

/-- A request for a resource. -/
structure Request where
  url : String
  /-- The query parameters. -/
  params : List (String × Json)
  /-- The seconds to wait for an answer. -/
  timeout : Int
  accept : String
  authorization : Option String

/-- A command to the database, over one connection at a time. -/
inductive Command where
  /-- Open a connection. -/
  | connect (dsn : String)
  /-- Execute a statement. -/
  | execute (statement : String)
  /-- Execute a statement with the records it inserts. -/
  | values (statement : String) (records : List (List (Option String)))
  | commit
  | rollback
  | close
deriving DecidableEq, Repr

/-- The kinds of commands, by which failures are counted. -/
inductive Site where
  | connect
  | execute
  | values
  | commit
  | rollback
  | close
deriving DecidableEq, Repr

/-- The kind of a command. -/
def Command.site : Command → Site
  | .connect _ => .connect
  | .execute _ => .execute
  | .values _ _ => .values
  | .commit => .commit
  | .rollback => .rollback
  | .close => .close

/-- The severities of log records, the least first. -/
inductive Level where
  | debug
  | info
  | warning
  | error
deriving DecidableEq, Repr

/-- The name of a severity. -/
def Level.name : Level → String
  | .debug => "DEBUG"
  | .info => "INFO"
  | .warning => "WARNING"
  | .error => "ERROR"

/-- Whether a record of severity `l` is shown when only those from `least` on are. -/
def Level.atLeast (least l : Level) : Bool := least.ctorIdx ≤ l.ctorIdx

/-- The parts of the program that write log records. -/
inductive Topic where
  | declaration
  | sync
  | tables
  | hosting
  | webhook
  | endpoint
deriving DecidableEq, Repr

/-- The name under which a part of the program writes its records. -/
def Topic.name : Topic → String
  | .declaration => "enumwarp.parser.declaration"
  | .sync => "enumwarp.sync"
  | .tables => "enumwarp.storage.tables"
  | .hosting => "enumwarp.github.source"
  | .webhook => "enumwarp.github.webhook"
  | .endpoint => "enumwarp.api.app"

/-- A log record. -/
structure Record where
  level : Level
  topic : Topic
  message : String
deriving DecidableEq, Repr

/-- A commit that was pushed, named as the delivery names it. -/
structure PushTarget where
  owner : Json
  repository : Json
  commit : Json

/-- A server that listens for deliveries. -/
structure Server where
  title : String
  host : String
  port : Int
deriving DecidableEq, Repr

/-- Something that a run does to the world outside. -/
inductive Event where
  | request (r : Request)
  | database (c : Command)
  | log (r : Record)
  /-- Text on the standard output. -/
  | output (text : String)
  /-- Text on the standard error output. -/
  | complaint (text : String)
  /-- A sync begins for a pushed commit. -/
  | sync (target : PushTarget)
  /-- The server begins to listen. -/
  | serve (server : Server)

/-- What a run does in order. -/
abbrev Trace := List Event

namespace Event

/-- The command of a database event. -/
def command? : Event → Option Command
  | .database c => some c
  | _ => none

/-- The request of a request event. -/
def request? : Event → Option Request
  | .request r => some r
  | _ => none

/-- The record of a log event. -/
def record? : Event → Option Record
  | .log r => some r
  | _ => none

/-- The target of a sync that begins. -/
def target? : Event → Option PushTarget
  | .sync t => some t
  | _ => none

/-- The server of a serve event. -/
def server? : Event → Option Server
  | .serve s => some s
  | _ => none

end Event

namespace Trace

/-- The commands to the database. -/
def commands (t : Trace) : List Command := t.filterMap Event.command?

/-- The requests. -/
def requests (t : Trace) : List Request := t.filterMap Event.request?

/-- The log records. -/
def records (t : Trace) : List Record := t.filterMap Event.record?

/-- The targets of the syncs that begin. -/
def targets (t : Trace) : List PushTarget := t.filterMap Event.target?

/-- The servers that begin to listen. -/
def servers (t : Trace) : List Server := t.filterMap Event.server?

/-- How many commands of a kind were given. -/
def count (t : Trace) (s : Site) : Nat := (t.commands.filter (·.site = s)).length

@[simp] theorem commands_append (s t : Trace) :
    commands (s ++ t) = commands s ++ commands t := List.filterMap_append

@[simp] theorem requests_append (s t : Trace) :
    requests (s ++ t) = requests s ++ requests t := List.filterMap_append

end Trace

end EnumTables
