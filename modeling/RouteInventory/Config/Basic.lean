/-!
# Configuration

What a project may configure, and the values that apply where it does not.
-/

namespace RouteInventory

inductive OutputFormat where
  | yaml
  | json
  deriving DecidableEq, Repr, Inhabited

namespace OutputFormat

def text : OutputFormat → String
  | yaml => "yaml"
  | json => "json"

/-- Reads the name of a format in any case. -/
def ofText? (s : String) : Option OutputFormat :=
  match s.toLower with
  | "yaml" | "yml" => some yaml
  | "json" => some json
  | _ => none

end OutputFormat

structure CommonConfig where
  outputFormat : OutputFormat
  extractResponses : Bool
  /-- How deep objects are written out. -/
  responseDepth : Nat
  /-- Patterns of files that are left out. -/
  excludePaths : List String
  deriving DecidableEq, Repr, Inhabited

structure GuardConfig where
  /-- Patterns of the names of guards that authenticate. -/
  guardPatterns : List String
  authGuards : List String
  excludeGuards : List String
  publicDecorators : List String
  publicMetadataKeys : List String
  /-- Classes, or functions that make classes, whose subclasses authenticate. -/
  authBaseClasses : List String
  deriving DecidableEq, Repr, Inhabited

/-- A decorator of a project's own that binds no reported parameter. -/
structure CustomDecorator where
  name : String
  type : String
  description : Option String
  deriving DecidableEq, Repr, Inhabited

structure NestConfig where
  entry : String
  auth : GuardConfig
  customDecorators : List CustomDecorator
  deriving DecidableEq, Repr, Inhabited

structure HookConfig where
  /-- Names that give an authenticating hook away, wherever they occur in its name. -/
  middlewareNames : List String
  /-- The hooks that are looked at, in this order. -/
  hookPoints : List String
  deriving DecidableEq, Repr, Inhabited

structure FastifyConfig where
  entry : String
  auth : HookConfig
  deriving DecidableEq, Repr, Inhabited

structure Config where
  common : CommonConfig
  nestjs : NestConfig
  fastify : FastifyConfig
  deriving DecidableEq, Repr, Inhabited

/-- The hooks that may be configured. -/
def knownHookPoints : List String := ["preHandler", "onRequest", "preValidation"]

namespace Config

def defaultCommon : CommonConfig where
  outputFormat := .yaml
  extractResponses := false
  responseDepth := 2
  excludePaths :=
    ["**/node_modules/**", "**/dist/**", "**/*.d.ts", "**/*.spec.ts", "**/*.test.ts"]

def defaultGuards : GuardConfig where
  guardPatterns := [".*AuthGuard$", ".*JwtGuard$", ".*SessionGuard$", ".*TokenGuard$"]
  authGuards := []
  excludeGuards := ["ThrottlerGuard", "RateLimitGuard"]
  publicDecorators := ["Public", "SkipAuth", "AllowAnonymous"]
  publicMetadataKeys := ["isPublic", "IS_PUBLIC_KEY", "skipAuth"]
  authBaseClasses := ["AuthGuard"]

def defaultNest : NestConfig where
  entry := "src/app.module.ts"
  auth := defaultGuards
  customDecorators := []

def defaultHooks : HookConfig where
  middlewareNames :=
    ["tokenVerification", "authGuard", "authenticate", "requireAuth", "verifyToken",
      "isAuthenticated", "authMiddleware", "jwtVerify", "verifyJWT"]
  hookPoints := ["preHandler", "onRequest"]

def defaultFastify : FastifyConfig where
  entry := "src/build.ts"
  auth := defaultHooks

/-- The configuration of a project that configures nothing. -/
def standard : Config := ⟨defaultCommon, defaultNest, defaultFastify⟩

end Config

end RouteInventory
