import EnumTables.Environment

/-!
# Settings

What is configured through environment variables: the webhook and the hosting service, and the
connection to the database.
-/

namespace EnumTables

/-- A text without the slashes at its end. -/
def stripSlashes (s : String) : String :=
  String.ofList (s.toList.reverse.dropWhile (· = '/')).reverse

/-- An address as it is configured when nothing else is said. -/
def defaultApiUrl : String := "https://api.github.com"

/-- The pattern that the paths of enum sources contain when nothing else is said. -/
def defaultSourcePattern : String := "enums/.*\\.java"

/-- The schema that receives the tables when nothing else is said. -/
def defaultSchema : String := "enums"

/-- The settings of the webhook, the hosting service and the target of a load. -/
structure Settings where
  /-- The key that deliveries are signed with; empty when none is configured. -/
  webhookSecret : String := ""
  /-- The token that requests are authorised with. -/
  token : Option String := none
  /-- The address of the hosting service. -/
  apiUrl : String := defaultApiUrl
  /-- The full name of the branch whose pushes are synced. -/
  targetBranch : String := "refs/heads/master"
  /-- A pattern that the path of a source contains. -/
  sourcePattern : String := defaultSourcePattern
  /-- The schema that receives the tables. -/
  targetSchema : String := defaultSchema
deriving DecidableEq, Repr

/-- The settings that an environment gives.  An empty token is none. -/
def Settings.ofEnvironment (env : Environment) : Settings where
  webhookSecret := env.get "GITHUB_WEBHOOK_SECRET" ""
  token := (env.lookup "GITHUB_TOKEN").filter (· ≠ "")
  apiUrl := stripSlashes (env.get "GITHUB_API_URL" defaultApiUrl)
  targetBranch := env.get "TARGET_BRANCH" "refs/heads/master"
  sourcePattern := env.get "ENUM_SOURCE_PATTERN" defaultSourcePattern
  targetSchema := env.get "ENUM_SCHEMA" defaultSchema

/-- The connection to the database. -/
structure DatabaseSettings where
  name : String := "enumwarp"
  user : String := ""
  password : String := ""
  host : String := ""
  port : String := ""
deriving DecidableEq, Repr

namespace DatabaseSettings

/-- The connection that an environment gives. -/
def ofEnvironment (env : Environment) : DatabaseSettings where
  name := env.get "DB_NAME" "enumwarp"
  user := env.get "DB_USER" ""
  password := env.get "DB_PASSWORD" ""
  host := env.get "DB_HOST" ""
  port := env.get "DB_PORT" ""

/-- The connection string: keywords with their values, separated by blanks.  Empty values are left
out, except for the name of the database. -/
def dsn (db : DatabaseSettings) : String :=
  let optional := [("user", db.user), ("password", db.password), ("host", db.host),
    ("port", db.port)].filter fun p ↦ p.2 ≠ ""
  " ".intercalate ((("dbname", db.name) :: optional).map fun p ↦ p.1 ++ "=" ++ p.2)

end DatabaseSettings

end EnumTables
