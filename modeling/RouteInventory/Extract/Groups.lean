import RouteInventory.Endpoint

/-!
# Gathering endpoints

Endpoints are pushed in the order in which they are found, each time under a prefix.  Those under
the same prefix make up one group, and groups stand in the order of their first endpoints.
-/

namespace RouteInventory

namespace RouteGroup

/-- Appends endpoints to the group with the prefix, or begins one. -/
def append (mount : String) (endpoints : List Endpoint) : List RouteGroup → List RouteGroup
  | [] => [⟨mount, endpoints⟩]
  | g :: gs =>
    if g.mount = mount then ⟨mount, g.endpoints ++ endpoints⟩ :: gs
    else g :: append mount endpoints gs

/-- Pushes endpoints; without any nothing changes. -/
def push (groups : List RouteGroup) (found : String × List Endpoint) : List RouteGroup :=
  if found.2.isEmpty then groups else append found.1 found.2 groups

/-- The groups of all that was found. -/
def gather (found : List (String × List Endpoint)) : List RouteGroup := found.foldl push []

end RouteGroup

end RouteInventory
