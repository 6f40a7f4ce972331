import Std.Time.DateTime.Timestamp
import DocSearch.Command.Run
import DocSearch.Command.Timestamp

/-!
# The program

Brings what a command reads from the disk into a workspace, runs the command and writes back what
has changed.
-/

namespace DocSearch.Program

/-- The path on the disk of a place in the file tree. -/
def diskPath (names : List String) : String := "/" ++ "/".intercalate names

/-- The bytes of a file on the disk. -/
def readBytes (names : List String) : IO Bytes :=
  return (← IO.FS.readBinFile (diskPath names)).data.toList

/-- The names in a directory on the disk, or nothing if it is not a directory. -/
def directory? (names : List String) : IO (Option (List String)) := do
  try
    let path ← IO.FS.realPath (diskPath names)
    if ← path.isDir then
      return some ((← path.readDir).toList.map fun entry => entry.fileName)
    return none
  catch _ => return none

/-- A file on the disk, or nothing if there is none that can be read. -/
def file? (names : List String) : IO (Option Bytes) := do
  try
    return some (← readBytes names)
  catch _ => return none

/-- Adds to a tree what is on the disk at a place and, if `deep`, below it. -/
partial def loadPlace (deep : Bool) (t : FileTree) (names : List String) : IO FileTree := do
  match ← directory? names with
  | some children =>
    let t := { t with entries := t.entries.insert names .directory }
    if deep then children.foldlM (fun t name => loadPlace true t (names ++ [name])) t else return t
  | none =>
    match ← file? names with
    | some content => return { t with entries := t.entries.insert names (.file content) }
    | none => return t

/-- Adds to a tree what is on the disk along a path and below its end. -/
def loadPath (t : FileTree) (path : String) : IO FileTree := do
  let p := Path.ofText path
  let mut names := if p.absolute then [] else t.workingDirectory
  let mut t := t
  for part in p.parts do
    t ← loadPlace false t names
    names := FileTree.advance names part
  loadPlace true t names

/-- The tree of the working directory and those above it. -/
def startTree : IO FileTree := do
  let current := (← IO.currentDir).toString
  let names := (Path.ofText current).parts
  let entries := (List.range names.length).foldl
    (fun m i => m.insert (names.take (i + 1)) Entry.directory) (∅ : Std.ExtTreeMap _ _)
  return { entries, workingDirectory := names }

/-- The file in which a database is kept. -/
def databaseFile (place : List String) : List String := place ++ ["ratings.bin"]

/-- Adds the database of a directory to a workspace. -/
def loadDatabase (w : Workspace) (path : String) : IO (Except Error Workspace) := do
  match w.files.locate (Path.ofText path) with
  | .error _ => return .ok w
  | .ok place =>
    match ← file? (databaseFile place) with
    | none => return .ok w
    | some content => return (RatingDatabase.decode content).map (w.setDatabase place)

/-- The surroundings of a command on the disk. -/
def loadWorkspace (c : Command) : IO (Except Error Workspace) := do
  let files ← c.paths.foldlM loadPath (← startTree)
  let now := (← Std.Time.Timestamp.now).toSecondsSinceUnixEpoch.val.toNat
  let w : Workspace := { files, now := Timestamp.render now }
  match c.ratingsPath? with
  | some path => loadDatabase w path
  | none => return .ok w

/-- Writes an entry of a tree to the disk. -/
def storeEntry (names : List String) : Entry → IO Unit
  | .directory => IO.FS.createDirAll (diskPath names)
  | .file content => IO.FS.writeBinFile (diskPath names) content.toByteArray

/-- Writes to the disk what has changed in a workspace. -/
def storeChanges (before after : Workspace) : IO Unit := do
  for (names, entry) in after.files.entries.toList do
    if before.files.entries[names]? != some entry then storeEntry names entry
  for (place, database) in after.databases.toList do
    if before.databases[place]? != some database then
      storeEntry (databaseFile place) (.file database.encode)

/-- Shows a report and gives its exit code. -/
def present (r : Report) : IO UInt32 := do
  IO.print r.text
  match r.failure with
  | some message => IO.eprintln message
  | none => pure ()
  return r.code.toUInt32

/-- Carries out what the arguments ask for. -/
def carryOut (arguments : List String) : IO UInt32 := do
  match Command.ofArguments arguments with
  | .error _ => present (Command.runArguments {} arguments).1
  | .ok c =>
    match ← loadWorkspace c with
    | .error e => present (.failed [] e.message)
    | .ok before =>
      let (report, after) := Command.run before c
      storeChanges before after
      present report

end DocSearch.Program

/-- The program. -/
def main (arguments : List String) : IO UInt32 := DocSearch.Program.carryOut arguments
