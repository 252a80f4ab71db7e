import RouteInventory.Config.Error
import RouteInventory.Nest.GuardAuth
import RouteInventory.Pattern.RegexReader

/-!
# Patterns of guards

The names of guards are matched against the expressions of the configuration.
-/

namespace RouteInventory

/-- The expressions of some patterns; the error is the first pattern that cannot be read. -/
def readPatterns : List String → Except String (List Regex)
  | [] => .ok []
  | p :: ps =>
    match Regex.read? p with
    | some r => (readPatterns ps).map (r :: ·)
    | none => .error p

/-- The detector of a configuration, if its patterns can be read. -/
def GuardDetector.compile (p : Project) (config : GuardConfig) : Except ConfigError GuardDetector :=
  match readPatterns config.guardPatterns with
  | .ok rs => .ok (.ofConfig p config fun name => rs.any fun r => r.occursIn name)
  | .error pattern => .error (.invalid (.unusableGuardPattern pattern))

end RouteInventory
