import RouteInventory.Nest.Controller
import RouteInventory.Nest.GuardAuth

/-!
# Endpoints of controllers

Each route of a controller is an endpoint whose authentication is told by the guards of the whole
application, of the controller and of the method.
-/

namespace RouteInventory

/-- The endpoint that a route of a controller is. -/
def ControllerRoute.endpoint (r : ControllerRoute) (sourceFile : String) (auth : GuardAuth) :
    Endpoint :=
  { path := r.path
    method := r.method
    pathParams := r.pathParams
    queryParams := r.queryParams
    bodyParams := r.bodyParams
    auth := .guard auth
    sourceFile := sourceFile
    line := r.line
    responses := r.responses }

namespace GuardDetector

/-- The endpoints of a controller, under its prefix. -/
def endpointsOf (d : GuardDetector) (globalGuards : List String) (c : Controller) :
    StateM GuardMemory (String × List Endpoint) := do
  let endpoints ← c.routes.mapM fun r => do
    return r.endpoint c.sourceFile (← d.detect globalGuards c.decorators r.decorators)
  return (c.mount, endpoints)

/-- The endpoints of several controllers, and what was noticed about their guards. -/
def endpointsOfAll (d : GuardDetector) (globalGuards : List String) (cs : List Controller) :
    List (String × List Endpoint) × List Diagnostic :=
  let (found, memory) := ((cs.mapM (d.endpointsOf globalGuards)).run .nothing).run
  (found, memory.diagnostics)

end GuardDetector

end RouteInventory
