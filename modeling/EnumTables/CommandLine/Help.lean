/-!
# Usage and help texts
-/

namespace EnumTables.CommandLine

/-- What a usage or help text is about: the whole program or one of its commands. -/
inductive Page where
  | program
  | parse
  | sync
  | serve
deriving DecidableEq, Repr

/-- How the program is called, up to the command. -/
def Page.path : Page → String
  | .program => "cli"
  | .parse => "cli parse"
  | .sync => "cli sync"
  | .serve => "cli serve"

/-- The arguments that are expected. -/
def Page.pattern : Page → String
  | .program => "[OPTIONS] COMMAND [ARGS]..."
  | .parse => "[OPTIONS] FILES..."
  | .sync => "[OPTIONS]"
  | .serve => "[OPTIONS]"

/-- The line that shows the usage. -/
def Page.usage (p : Page) : String := s!"Usage: {p.path} {p.pattern}\n"

/-- What a help text says below its first line. -/
def Page.explanation : Page → List String
  | .program =>
    ["  enumwarp - Java enum to PostgreSQL table sync",
     "",
     "Options:",
     "  -v, --verbose  Enable debug logging",
     "  --help         Show this message and exit.",
     "",
     "Commands:",
     "  parse  Parse enum declarations in FILES without touching the database.",
     "  serve  Serve POST /github for GitHub push webhooks.",
     "  sync   Fetch enum sources at a commit and replace their tables."]
  | .parse =>
    ["  Parse enum declarations in FILES without touching the database.",
     "",
     "Options:",
     "  --help  Show this message and exit."]
  | .sync =>
    ["  Fetch enum sources at a commit and replace their tables.",
     "",
     "Options:",
     "  --owner TEXT  Repository owner  [required]",
     "  --repo TEXT   Repository name  [required]",
     "  --sha TEXT    Commit SHA to read enums from  [required]",
     "  --dry-run     Show parsed tables without loading",
     "  --help        Show this message and exit."]
  | .serve =>
    ["  Serve POST /github for GitHub push webhooks.",
     "",
     "Options:",
     "  --host TEXT     [default: 127.0.0.1]",
     "  --port INTEGER  [default: 8080]",
     "  --help          Show this message and exit."]

/-- The help text. -/
def Page.help (p : Page) : String :=
  p.usage ++ "\n" ++ String.join (p.explanation.map (· ++ "\n"))

/-- The text of an error in the arguments, with the usage above it unless it is only `formal`. -/
def Page.errorText (p : Page) (formal : Bool) (message : String) : String :=
  let usage := if formal then "" else s!"{p.usage}Try '{p.path} --help' for help.\n\n"
  s!"{usage}Error: {message}\n"

end EnumTables.CommandLine
