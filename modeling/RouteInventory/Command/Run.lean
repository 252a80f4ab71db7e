import RouteInventory.Command.Arguments
import RouteInventory.Extract.Run
import RouteInventory.Summary

/-!
# Running commands

`Command.run` carries out a command on a disk.  Its outcome is the disk afterwards, what was
printed, and how the run ended.
-/

namespace RouteInventory

/-- How a run ended. -/
inductive Ending where
  /-- Everything was done. -/
  | done
  /-- Everything was done, and the answer is no. -/
  | negative
  /-- The command cannot be carried out, as was told. -/
  | refused
  /-- A file could not be written. -/
  | broken (cause : FileError)
  deriving DecidableEq, Repr, Inhabited

/-- The exit code of the program. -/
def Ending.code : Ending → Nat
  | done => 0
  | negative => 1
  | refused => 2
  | broken _ => 2

/-- What a run left behind. -/
structure Outcome where
  disk : Disk
  stdout : String := ""
  stderr : String := ""
  ending : Ending := .done
  deriving Inhabited

namespace Outcome

/-- Nothing was done but to tell why. -/
def refuse (d : Disk) (message : String) : Outcome :=
  { disk := d, stderr := s!"Error: {message}\n", ending := .refused }

def fail (d : Disk) (cause : FileError) : Outcome := { disk := d, ending := .broken cause }

end Outcome

/-- The directory that is meant when none is given. -/
def hereDir : String := "."

namespace ExtractArgs

/-- The configuration with what the command line says in its place. -/
def override (a : ExtractArgs) (c : Config) : Config :=
  let common := { c.common with
    outputFormat := a.format.getD c.common.outputFormat
    extractResponses := a.extractResponses || c.common.extractResponses
    responseDepth := (a.responseDepth.map fun n => max n 1).getD c.common.responseDepth }
  let names := a.authMiddlewares.map fun ns => (ns.map Text.trim).filter fun n => !n.isEmpty
  let hooks := { c.fastify.auth with
    middlewareNames := names.getD c.fastify.auth.middlewareNames }
  { c with common := common, fastify := { c.fastify with auth := hooks } }

/-- The configuration of a run, checked before and after the command line has its say. -/
def loadConfig (a : ExtractArgs) (d : Disk) (root : String) : Except ConfigError Config := do
  let c := a.override (← Config.load d root a.config)
  c.validate
  return c

/-- How a run that took an inventory ends. -/
def ending (a : ExtractArgs) (i : Inventory) : Ending :=
  if a.failOnPublic && 0 < i.total - i.count .required then .negative else .done

/-- Writes a report to a file, in a directory that is made for it. -/
def writeReport (d : Disk) (path text : String) : Disk × Except FileError Unit :=
  let dir := ((Path.ofString path).parent?.map Path.toString).getD ""
  let (d, made) := if dir.isEmpty then (d, .ok ()) else d.makeDirectories dir
  match made with
  | .error e => (d, .error e)
  | .ok _ =>
    match d.write path text with
    | .ok d => (d, .ok ())
    | .error e => (d, .error e)

/-- Reports on an inventory. -/
def finish (a : ExtractArgs) (color : Bool) (d : Disk) (format : OutputFormat) (i : Inventory) :
    Outcome :=
  let text := (Report.ofInventory i).render format
  let summary := i.summary color
  match a.output with
  | none => { disk := d, stdout := text, stderr := summary, ending := a.ending i }
  | some path =>
    match writeReport d path text with
    | (d, .error e) => .fail d e
    | (d, .ok _) => { disk := d, stderr := s!"Wrote {path}\n" ++ summary, ending := a.ending i }

/-- Takes the inventory of a project and reports on it. -/
def run (a : ExtractArgs) (color : Bool) (time : String) (d : Disk) : Outcome :=
  let given := a.root.getD hereDir
  match d.find given with
  | .error e => .refuse d s!"cannot access path {Text.quotedPath given}: {e.message}"
  | .ok place =>
    let root := place.path
    match a.loadConfig d root with
    | .error e => .refuse d e.message
    | .ok c =>
      match d.takeInventory ⟨root, a.entry, a.framework, c, time⟩ with
      | .error e => .refuse d e.message
      | .ok i => a.finish color d c.common.outputFormat i

end ExtractArgs

/-- Tells which framework a project uses. -/
def DetectArgs.run (a : DetectArgs) (d : Disk) : Outcome :=
  match d.detect (a.root.getD hereDir) with
  | .error e => .refuse d e.message
  | .ok found =>
    match found.framework with
    | some f =>
      { disk := d
        stdout := s!"{f.text} (confidence {found.confidence}, matched: "
          ++ String.intercalate ", " found.matched ++ ")\n" }
    | none => { disk := d, stdout := "none\n", ending := .negative }

namespace InitArgs

/-- What is said after a configuration file was written. -/
def nextSteps (dir path : String) : String :=
  s!"Created {path}\n\nNext steps:\n"
    ++ s!"  1. Edit {path} to match your project's auth conventions\n"
    ++ s!"  2. Run: endpoint-extractor extract {dir}\n"

/-- Writes a configuration file with the standard values. -/
def run (a : InitArgs) (d : Disk) : Outcome :=
  let dir := a.dir.getD hereDir
  let path := joinText dir Config.yamlFile
  if d.has path && !a.force then
    { disk := d
      stderr := s!"Error: file already exists: {path}\nUse --force to overwrite it\n"
      ending := .refused }
  else
    match d.makeDirectories dir with
    | (d, .error e) => .fail d e
    | (d, .ok _) =>
      match d.write path Config.standard.document.yaml with
      | .error e => .fail d e
      | .ok d => { disk := d, stdout := nextSteps dir path }

end InitArgs

/-- Carries out a command. -/
def Command.run (color : Bool) (time : String) (d : Disk) : Command → Outcome
  | .extract args => args.run color time d
  | .detect args => args.run d
  | .init args => args.run d

end RouteInventory
