import EnumTables.Hosting.Client
import EnumTables.Json.Display

/-!
# Sources at a commit

The tree of a commit is listed, and the files whose paths contain the source pattern are fetched one
after the other, in the order of the tree.  A file that is not UTF-8 is read with replacement
characters.
-/

namespace EnumTables.Hosting

/-- A commit of a repository. -/
structure Commit where
  owner : String
  repository : String
  sha : String
deriving DecidableEq, Repr

/-- A commit as it is named in messages. -/
def Commit.display (c : Commit) : String := s!"{c.owner}/{c.repository}@{c.sha}"

/-- The path of a commit's repository at the service. -/
def Commit.path (c : Commit) : String := s!"/repos/{c.owner}/{c.repository}"

/-- A shape error as a fault. -/
def shaped {α : Type} (x : Except Json.ShapeError α) : Except Fault α := x.mapError .shape

variable (search : String → Except Fault (RawText → Bool)) (pattern : String)

/-- Whether the pattern, in its written form, occurs in the path of an entry. -/
def pathMatches (path : Json) : Except Fault Bool := do
  let occurs ← search pattern
  match path with
  | .str s => return occurs s
  | v => .error (.shape (.notSearchable v.kind))

/-- Whether an entry of a tree is an enum source: a file whose path contains the pattern.  An entry
without a path has the empty one. -/
def isSource (entry : Json) : Except Fault Bool := do
  let type ← shaped (entry.get? "type")
  if (type.getD .null).isText "blob" then
    let path ← shaped (entry.get? "path")
    pathMatches search pattern (path.getD (.str ""))
  else return false

/-- The paths of the sources among the entries of a tree. -/
def sourcePaths : List Json → Except Fault (List String)
  | [] => .ok []
  | entry :: rest => do
    if ← isSource search pattern entry then
      let path ← shaped (entry.member "path")
      return path.display.inAddress :: (← sourcePaths rest)
    else sourcePaths rest

/-- The entries in the listing of a tree; a listing without a tree has none. -/
def treeEntries (listing : Json) : Except Fault (List Json) := do
  let tree ← shaped (listing.get? "tree")
  shaped (tree.getD (.arr [])).elements

/-- The paths of the sources at a commit. -/
def listPaths (client : Client) (commit : Commit) (pattern : String) : Act (List String) := do
  let listing ← fetch client s!"{commit.path}/git/trees/{commit.sha}" [("recursive", .int 1)]
  let truncated ← Act.ofExcept (shaped (listing.get? "truncated"))
  if (truncated.getD .null).isTruthy then
    Act.log .warning .hosting s!"Tree listing for {commit.display} was truncated by GitHub"
  let entries ← Act.ofExcept (treeEntries listing)
  Act.ofExcept (sourcePaths (← Act.search) pattern entries)

/-- The text whose bytes a content stands for.  A surrogate is not ASCII. -/
def decodeContent (content : RawText) : Except Fault String :=
  match content.toString? with
  | some s => return Text.Utf8.decodeReplacing (← (Text.Base64.decode s).mapError .base64)
  | none => .error (.base64 .notAscii)

/-- The text in the description of a file. -/
def contentOf (file : Json) : Except Fault String := do
  match ← shaped (file.member "content") with
  | .str s => decodeContent s
  | v => .error (.shape (.notDecodable v.kind))

/-- The text of a file at a commit. -/
def fetchContent (client : Client) (commit : Commit) (path : String) : Act String := do
  let file ← fetch client s!"{commit.path}/contents/{path}" [("ref", .str commit.sha)]
  Act.ofExcept (contentOf file)

/-- The texts of files at a commit. -/
def fetchContents (client : Client) (commit : Commit) : List String → Act (List String)
  | [] => pure []
  | path :: rest => do
    let text ← fetchContent client commit path
    let texts ← fetchContents client commit rest
    return text :: texts

/-- The texts of the sources at a commit. -/
def sources (client : Client) (commit : Commit) (pattern : String) : Act (List String) := do
  let paths ← listPaths client commit pattern
  Act.log .info .hosting s!"Found {paths.length} enum source files in {commit.display}"
  fetchContents client commit paths

end EnumTables.Hosting
