import RouteInventory.Config.Basic
import RouteInventory.Endpoint

/-!
# Arguments of the command line

`Command.read` reads the arguments of a run.  They are taken from left to right: a request for help
is met where it stands, and a fault before it is what counts.

* An option's value follows it, after an equals sign or as the next argument, which must not look
  like an option itself.  Short options can be written together, and the value of the last of them
  directly after it.
* Options and flags are given at most once, except for a list, to which each occurrence adds.
* After two dashes everything is an operand.
-/

namespace RouteInventory

/-- How the command line is met without running a command. -/
inductive Usage where
  | help
  | version
  | misuse
  deriving DecidableEq, Repr, Inhabited

/-- What `extract` is asked to do. -/
structure ExtractArgs where
  root : Option String := none
  framework : Option Framework := none
  entry : Option String := none
  config : Option String := none
  output : Option String := none
  format : Option OutputFormat := none
  extractResponses : Bool := false
  responseDepth : Option Nat := none
  authMiddlewares : Option (List String) := none
  failOnPublic : Bool := false
  verbose : Bool := false
  deriving Repr, Inhabited

/-- What `detect` is asked to do. -/
structure DetectArgs where
  root : Option String := none
  deriving Repr, Inhabited

/-- What `init` is asked to do. -/
structure InitArgs where
  dir : Option String := none
  force : Bool := false
  deriving Repr, Inhabited

/-- A run that is asked for. -/
inductive Command where
  | extract (args : ExtractArgs)
  | detect (args : DetectArgs)
  | init (args : InitArgs)
  deriving Repr, Inhabited

/-! ## Telling arguments apart -/

/-- Something that an argument says. -/
inductive Item where
  | flag (name : String)
  | option (name value : String)
  | operand (value : String)
  | help
  | misuse
  deriving DecidableEq, Repr, Inhabited

/-- A flag or an option by its long name and its short one. -/
structure Switch where
  long : String
  short : Option Char := none
  /-- Whether a value belongs to it. -/
  takesValue : Bool := false

/-- Whether an argument looks like an option. -/
def looksLikeOption (arg : String) : Bool := arg.startsWith "-" && arg != "-"

/-- Takes the value of an option, attached or the next argument. -/
def takeValue (name : String) (attached : Option String) (rest : List String) :
    List Item × List String :=
  match attached, rest with
  | some value, rest => ([.option name value], rest)
  | none, value :: rest =>
    if looksLikeOption value then ([.misuse], rest) else ([.option name value], rest)
  | none, [] => ([.misuse], [])

/-- A long argument without its dashes. -/
def longItems (switches : List Switch) (text : String) (rest : List String) :
    List Item × List String :=
  let name := String.ofList (text.toList.takeWhile (· != '='))
  let attached := match text.toList.dropWhile (· != '=') with
    | _ :: value => some (String.ofList value)
    | [] => none
  if name == "help" then (if attached.isNone then [.help] else [.misuse], rest)
  else
    match switches.find? fun s => s.long == name with
    | some s =>
      if s.takesValue then takeValue s.long attached rest
      else (if attached.isNone then [.flag s.long] else [.misuse], rest)
    | none => ([.misuse], rest)

/-- The text directly after a short option, without an equals sign in front. -/
def attachedValue : List Char → Option String
  | [] => none
  | '=' :: cs => some (String.ofList cs)
  | cs => some (String.ofList cs)

/-- Short arguments written together, without their dash. -/
def shortItems (switches : List Switch) : List Char → List String → List Item × List String
  | [], rest => ([], rest)
  | c :: cs, rest =>
    if c == 'h' then ([.help], rest)
    else
      match switches.find? fun s => s.short == some c with
      | some s =>
        if s.takesValue then takeValue s.long (attachedValue cs) rest
        else
          let (items, rest) := shortItems switches cs rest
          (.flag s.long :: items, rest)
      | none => ([.misuse], rest)

/-- What the arguments say, one after another. -/
def readItems (switches : List Switch) : Nat → List String → List Item
  | 0, _ => []
  | _ + 1, [] => []
  | n + 1, arg :: rest =>
    if arg == "--" then rest.map .operand
    else if arg.startsWith "--" then
      let (items, rest) := longItems switches (String.ofList (arg.toList.drop 2)) rest
      items ++ readItems switches n rest
    else if looksLikeOption arg then
      let (items, rest) := shortItems switches (arg.toList.drop 1) rest
      items ++ readItems switches n rest
    else .operand arg :: readItems switches n rest

/-- Reads the items one by one into what is known so far. -/
def foldItems {α : Type} (step : α → Item → Option α) (start : α) (items : List Item) :
    Except Usage α :=
  items.foldlM (fun a item =>
    match item with
    | .help => .error .help
    | item =>
      match step a item with
      | some b => .ok b
      | none => .error .misuse) start

/-- Reads arguments with the given switches. -/
def readArguments {α : Type} (switches : List Switch) (step : α → Item → Option α) (start : α)
    (args : List String) : Except Usage α :=
  foldItems step start (readItems switches (args.length + 1) args)

/-! ## Values -/

/-- A value that may be given once. -/
def once {α : Type} (old : Option α) (new : Option α) : Option (Option α) :=
  match old, new with
  | none, some a => some (some a)
  | _, _ => none

/-- A flag that may be given once. -/
def raise (old : Bool) : Option Bool := if old then none else some true

/-- A path, which is not empty. -/
def pathValue? (s : String) : Option String := if s.isEmpty then none else some s

/-- A whole number of at most 64 bits, with or without a plus sign. -/
def natValue? (s : String) : Option Nat :=
  let ds := match s.toList with
    | '+' :: ds => ds
    | ds => ds
  if ds.isEmpty || !ds.all Char.isDigit then none
  else
    let n := ds.foldl (fun n c => 10 * n + (c.toNat - 48)) 0
    if n < 0x10000000000000000 then some n else none

/-! ## The commands -/

namespace ExtractArgs

def switches : List Switch :=
  [{ long := "framework", takesValue := true },
    { long := "entry", takesValue := true },
    { long := "config", short := some 'c', takesValue := true },
    { long := "output", short := some 'o', takesValue := true },
    { long := "format", short := some 'f', takesValue := true },
    { long := "extract-responses" },
    { long := "response-depth", takesValue := true },
    { long := "auth-middlewares", takesValue := true },
    { long := "fail-on-public" },
    { long := "verbose", short := some 'v' }]

def step (a : ExtractArgs) : Item → Option ExtractArgs
  | .operand v => return { a with root := ← once a.root (pathValue? v) }
  | .option "framework" v => return { a with framework := ← once a.framework (Framework.ofText? v) }
  | .option "entry" v => return { a with entry := ← once a.entry (pathValue? v) }
  | .option "config" v => return { a with config := ← once a.config (pathValue? v) }
  | .option "output" v => return { a with output := ← once a.output (pathValue? v) }
  | .option "format" v => return { a with format := ← once a.format (OutputFormat.ofText? v) }
  | .option "response-depth" v =>
    return { a with responseDepth := ← once a.responseDepth (natValue? v) }
  | .option "auth-middlewares" v =>
    return { a with authMiddlewares := some (a.authMiddlewares.getD [] ++ v.splitOn ",") }
  | .flag "extract-responses" => return { a with extractResponses := ← raise a.extractResponses }
  | .flag "fail-on-public" => return { a with failOnPublic := ← raise a.failOnPublic }
  | .flag "verbose" => return { a with verbose := ← raise a.verbose }
  | _ => none

end ExtractArgs

def DetectArgs.step (a : DetectArgs) : Item → Option DetectArgs
  | .operand v => return { a with root := ← once a.root (pathValue? v) }
  | _ => none

def InitArgs.step (a : InitArgs) : Item → Option InitArgs
  | .operand v => return { a with dir := ← once a.dir (pathValue? v) }
  | .flag "force" => return { a with force := ← raise a.force }
  | _ => none

namespace Command

/-- The names of the commands. -/
def names : List String := ["extract", "detect", "init", "help"]

/-- Help is given on the whole and on each command. -/
def helpUsage : List String → Usage
  | [] => .help
  | [name] => if names.contains name then .help else .misuse
  | _ => .misuse

/-- Reads the arguments of a run. -/
def read : List String → Except Usage Command
  | "extract" :: args =>
    (readArguments ExtractArgs.switches ExtractArgs.step {} args).map .extract
  | "detect" :: args => (readArguments [] DetectArgs.step {} args).map .detect
  | "init" :: args => (readArguments [{ long := "force" }] InitArgs.step {} args).map .init
  | "help" :: args => .error (helpUsage args)
  | "--help" :: _ => .error .help
  | "--version" :: _ => .error .version
  | arg :: _ =>
    if arg.startsWith "-h" then .error .help
    else if arg.startsWith "-V" then .error .version
    else .error .misuse
  | [] => .error .misuse

end Command

end RouteInventory
