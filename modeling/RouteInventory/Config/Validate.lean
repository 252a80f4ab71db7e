import RouteInventory.Config.Error
import RouteInventory.Pattern.Glob
import RouteInventory.Pattern.RegexReader

/-!
# Checking a configuration

A configuration can be used if its patterns can be read, its hooks are known, and no name in it is
blank.  The first fault found is the one that is told.
-/

namespace RouteInventory.Config

/-- The first pattern of guards that cannot be read. -/
def badGuardPattern? (c : Config) : Option InvalidConfig :=
  (c.nestjs.auth.guardPatterns.find? fun p => (Regex.read? p).isNone).map .guardPattern

/-- The first hook that is not known. -/
def unknownHook? (c : Config) : Option InvalidConfig :=
  (c.fastify.auth.hookPoints.find? fun h => !knownHookPoints.contains h).map .unknownHook

def blankMiddleware? (c : Config) : Option InvalidConfig :=
  if c.fastify.auth.middlewareNames.any fun n => Text.trim n == "" then some .blankMiddleware
  else none

/-- The first pattern of excluded files that cannot be read. -/
def badExcludePath? (c : Config) : Option InvalidConfig :=
  (c.common.excludePaths.find? fun p => (Glob.read? p).isNone).map .excludePath

def unnamedDecorator? (c : Config) : Option InvalidConfig :=
  if c.nestjs.customDecorators.any fun d => d.name == "" then some .unnamedDecorator else none

/-- The first fault of a configuration. -/
def fault? (c : Config) : Option InvalidConfig :=
  [c.badGuardPattern?, c.unknownHook?, c.blankMiddleware?, c.badExcludePath?,
    c.unnamedDecorator?].findSome? id

/-- A configuration that can be used. -/
def validate (c : Config) : Except ConfigError Unit :=
  match c.fault? with
  | some cause => .error (.invalid cause)
  | none => .ok ()

end RouteInventory.Config
