import RouteInventory.Command.Help
import RouteInventory.Command.Run
import RouteInventory.Disk.Change
import RouteInventory.Instant
import Std.Time.DateTime.Timestamp

/-!
# The program

Takes what a command looks at from the machine's disk, runs the command on it, and makes the changes
that the command made.
-/

namespace RouteInventory

/-- The paths that a command looks at, with whether it looks at what lies below. -/
def Command.looksAt : Command → List (String × Bool)
  | .extract a =>
    (a.root.getD hereDir, true) :: (a.config.toList ++ a.output.toList).map fun p => (p, false)
  | .detect a => [(a.root.getD hereDir, true)]
  | .init a => [(joinText (a.dir.getD hereDir) Config.yamlFile, false)]

namespace Machine

/-- The file at a path, with what reading it gives. -/
def loadFile (path : String) : IO Entry := do
  match ← (IO.FS.readBinFile path).toBaseIO with
  | .ok bytes => return .file (String.fromUTF8? bytes)
  | .error e => return .file (.error (.refused (toString e)))

/-- The kind of a file, if it can be told. -/
def kind? (metadata : IO IO.FS.Metadata) : IO (Option IO.FS.FileType) := do
  match ← metadata.toBaseIO with
  | .ok m => return some m.type
  | .error _ => return none

/-- The directory at a path with what lies below, links left out. -/
partial def loadDirectory (path : String) : IO Entry := do
  let found : IO (Array IO.FS.DirEntry) := do (← IO.FS.realPath path).readDir
  let mut entries := []
  for e in ← (found <|> pure #[]) do
    let below := joinText path e.fileName
    match ← kind? e.path.symlinkMetadata with
    | some .file => entries := Entry.insertInto e.fileName (← loadFile below) entries
    | some .dir =>
      if isSourceDirectory e.fileName then
        entries := Entry.insertInto e.fileName (← loadDirectory below) entries
    | _ => pure ()
  return .directory entries

/-- What stands at a path, if anything does. -/
def load? (deep : Bool) (path : String) : IO (Option Entry) := do
  match ← kind? (do (← IO.FS.realPath path).metadata) with
  | some .dir => return some (← if deep then loadDirectory path else pure (.directory []))
  | some .file => return some (← loadFile path)
  | _ => return none

/-- Takes over what stands at each path that begins with `done` and goes on with further names. -/
def takeAlong (deep : Bool) (d : Disk) (done : List String) : List String → IO Disk
  | [] => return d
  | name :: names => do
    let here := done ++ [name]
    let isLast := names.isEmpty
    let path := Path.toString ⟨true, here⟩
    if d.has path && !(deep && isLast) then takeAlong deep d here names
    else
      match ← load? (deep && isLast) path with
      | some e => takeAlong deep (d.put here e) here names
      | none => return d

/-- The part of the machine's disk that a command looks at. -/
def disk (c : Command) : IO Disk := do
  let working := Path.namesOf (← IO.currentDir).toString
  let mut d ← takeAlong false ⟨.directory [], working⟩ [] working
  for (path, deep) in c.looksAt do
    let names := (Path.join ⟨true, working⟩ (.ofString path)).normalize.names
    d ← takeAlong deep d [] names
  return d

/-- Makes a change on the machine's disk. -/
def perform : Change → IO Unit
  | .directory path => IO.FS.createDirAll path.toString
  | .file path text => IO.FS.writeFile path.toString text

/-- Whether an environment variable asks for something; zero declines. -/
def asks (name : String) : IO (Option Bool) := return (← IO.getEnv name).map (· != "0")

/-- Whether output is to be coloured. -/
def wantsColor : IO Bool := do
  if (← asks "CLICOLOR_FORCE") == some true then return true
  else if (← asks "NO_COLOR").isSome then return false
  else if (← asks "CLICOLOR") == some false then return false
  else (← IO.getStdout).isTty

/-- The time now. -/
def now : IO String := do
  let t ← Std.Time.Timestamp.now
  return (Instant.ofMilliseconds t.toMillisecondsSinceUnixEpoch.val.toNat).text

/-- Runs a command and yields the exit code. -/
def run (c : Command) : IO Nat := do
  let before ← disk c
  let outcome := c.run (← wantsColor) (← now) before
  for change in before.changes outcome.disk do
    perform change
  IO.print outcome.stdout
  IO.eprint outcome.stderr
  if let .broken cause := outcome.ending then IO.eprintln s!"Error: {cause.message}"
  return outcome.ending.code

end Machine

end RouteInventory

open RouteInventory in
/-- Reads the arguments and runs the command that they name. -/
def main (args : List String) : IO UInt32 := do
  match Command.read args with
  | .error usage =>
    if usage.code == 0 then IO.print usage.text else IO.eprint usage.text
    return usage.code.toUInt32
  | .ok command =>
    try
      return (← Machine.run command).toUInt32
    catch e =>
      IO.eprintln s!"Error: {e}"
      return 2
