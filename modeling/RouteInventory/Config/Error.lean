import RouteInventory.Config.Basic
import RouteInventory.Disk
import RouteInventory.Text.Quoted

/-!
# What can be wrong with a configuration

Reasons that come from a document's notation or from a pattern's notation are not told in detail.
-/

namespace RouteInventory

/-- Why a document is no layer of configuration. -/
inductive MalformedLayer where
  /-- The text is not in the document's notation. -/
  | unreadable
  | notMapping
  /-- The manifest's entry for the configuration is not an object. -/
  | entryNotObject
  deriving DecidableEq, Repr, Inhabited

/-- Why a merged configuration cannot be used. -/
inductive InvalidConfig where
  /-- A value does not fit its place. -/
  | misfit
  | guardPattern (pattern : String)
  | unknownHook (name : String)
  | blankMiddleware
  | excludePath (pattern : String)
  | unnamedDecorator
  /-- A pattern of guards that nothing can be matched against. -/
  | unusableGuardPattern (pattern : String)
  deriving DecidableEq, Repr, Inhabited

inductive ConfigError where
  /-- The file at the path is not text. -/
  | notText (path : String)
  | malformed (path : String) (cause : MalformedLayer)
  | invalid (cause : InvalidConfig)
  deriving DecidableEq, Repr, Inhabited

/-- Stands for a reason that is not told. -/
def untold : String := "<detail>"

/-- The entry of a manifest that holds a configuration. -/
def manifestEntry : String := "extractorConfig"

namespace MalformedLayer

def message : MalformedLayer → String
  | unreadable => untold
  | notMapping => "top-level value must be a mapping"
  | entryNotObject => s!"'{manifestEntry}' must be an object"

end MalformedLayer

namespace InvalidConfig

def message : InvalidConfig → String
  | misfit => untold
  | guardPattern p => s!"invalid guard pattern {Text.quoted p}: {untold}"
  | unknownHook h =>
    s!"unknown hook point {Text.quoted h}, must be one of "
      ++ String.intercalate ", " knownHookPoints
  | blankMiddleware => "blank entry in fastify.auth.middlewareNames"
  | excludePath p => s!"invalid excludePaths pattern {Text.quoted p}: {untold}"
  | unnamedDecorator => "custom decorator with empty name"
  | unusableGuardPattern p => s!"invalid guard pattern '{p}': {untold}"

end InvalidConfig

namespace ConfigError

def message : ConfigError → String
  | notText path => s!"failed to read config {path}: {FileError.notText.message}"
  | malformed path cause => s!"malformed config {path}: {cause.message}"
  | invalid cause => s!"invalid config: {cause.message}"

end ConfigError

/-- What is said about a name that no format has. -/
def OutputFormat.invalidMessage (s : String) : String :=
  s!"invalid format {Text.quoted s}, must be 'yaml' or 'json'"

end RouteInventory
