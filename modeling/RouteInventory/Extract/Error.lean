import RouteInventory.Config.Error
import RouteInventory.Disk
import RouteInventory.Endpoint

/-!
# What can stop an extraction
-/

namespace RouteInventory

/-- Why a file cannot be analysed. -/
inductive UnusableFile where
  /-- The file cannot be read. -/
  | unreadable (cause : FileError)
  /-- The path has not the extension of a source file. -/
  | notSource (path : String)
  /-- The text is not in the file's notation. -/
  | malformed
  deriving DecidableEq, Repr, Inhabited

def UnusableFile.message : UnusableFile → String
  | unreadable cause => cause.message
  | notSource path => s!"unsupported file type: {path}"
  | malformed => untold

inductive ExtractError where
  | entryNotFound (path : String)
  | config (cause : ConfigError)
  /-- The file system refused. -/
  | io (cause : FileError)
  | unusable (path : String) (cause : UnusableFile)
  | unsupported (framework : Framework)
  | notDetected (path : String)
  deriving DecidableEq, Repr, Inhabited

namespace ExtractError

def message : ExtractError → String
  | entryNotFound path => s!"entry file not found: {path}"
  | config cause => cause.message
  | io cause => s!"io error: {cause.message}"
  | unusable path cause => s!"failed to parse {path}: {cause.message}"
  | unsupported framework => s!"framework '{framework.text}' is not supported"
  | notDetected path => s!"could not detect a supported framework in {path}"

end ExtractError

end RouteInventory
