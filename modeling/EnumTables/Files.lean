/-!
# Local files

What the command line sees of the files it is given, by their paths.  A path is followed part by
part: an empty part and `.` stay where they are, `..` goes to the directory above, and every part but
the last must lead to a directory.  Only the working directory is known; outside of it there are
directories, but nothing has a name there.
-/

namespace EnumTables

/-- What stands at a path. -/
inductive FileEntry where
  | directory
  | file (content : List UInt8)
deriving DecidableEq, Repr

/-- The files of a run, by path. -/
abbrev Files := String → Option FileEntry

namespace Files

/-- A path as its parts, without empty ones and those that mean the same directory. -/
def parts (path : String) : List String :=
  (path.splitOn "/").filter fun p ↦ p ≠ "" && p ≠ "."

/-- Where a path leads. -/
inductive Place where
  /-- A place in the working directory, the innermost of its names first. -/
  | inside (names : List String)
  /-- A directory that does not lie in the working directory. -/
  | outside
deriving DecidableEq, Repr

/-- What stands in the working directory under some names, the outermost first.  The directories on
the way to a file are there too. -/
def entryAt (entries : List (String × FileEntry)) (names : List String) : Option FileEntry :=
  match entries.find? fun e ↦ parts e.1 = names with
  | some e => some e.2
  | none =>
    if names.isEmpty || entries.any fun e ↦ names.isPrefixOf (parts e.1) then some .directory
    else none

/-- What stands at a place. -/
def Place.entry (entries : List (String × FileEntry)) : Place → Option FileEntry
  | .inside names => entryAt entries names.reverse
  | .outside => some .directory

/-- The place that a part of a path leads to from a directory. -/
def Place.next : Place → String → Option Place
  | place, "" | place, "." => some place
  | .inside [], ".." | .outside, ".." => some .outside
  | .inside (_ :: names), ".." => some (.inside names)
  | .inside names, name => some (.inside (name :: names))
  | .outside, _ => none

/-- What stands where a path leads from a place. -/
def follow (entries : List (String × FileEntry)) (place : Place) :
    List String → Option FileEntry
  | [] => place.entry entries
  | part :: rest =>
    match place.entry entries, place.next part with
    | some .directory, some next => follow entries next rest
    | _, _ => none

/-- The place from which a path is followed. -/
def start (path : String) : Place := if path.startsWith "/" then .outside else .inside []

/-- The files of a working directory that are given by relative paths. -/
def ofList (entries : List (String × FileEntry)) : Files := fun path ↦
  if path = "" then none else follow entries (start path) (path.splitOn "/")

end Files

end EnumTables
