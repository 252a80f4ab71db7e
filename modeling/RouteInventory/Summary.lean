import RouteInventory.Report

/-!
# Summaries

What is told on the terminal after an inventory: counts, the endpoints that need no authentication,
and the diagnostics.
-/

namespace RouteInventory

/-- How a text stands out on a terminal. -/
inductive Emphasis where
  | title
  | bold
  | dimmed
  | red
  | green
  | yellow
  | blue
  deriving DecidableEq, Repr, Inhabited

namespace Emphasis

/-- The code that switches it on. -/
def code : Emphasis → String
  | title => "\x1b[1;36m"
  | bold => "\x1b[1m"
  | dimmed => "\x1b[2m"
  | red => "\x1b[31m"
  | green => "\x1b[32m"
  | yellow => "\x1b[33m"
  | blue => "\x1b[34m"

/-- The code that switches all of it off. -/
def reset : String := "\x1b[0m"

/-- A text with emphasis, which is switched on again wherever the text itself switches it off. -/
def apply (color : Bool) (e : Emphasis) (s : String) : String :=
  if color then e.code ++ s.replace reset (reset ++ e.code) ++ reset else s

end Emphasis

/-- A text filled up with blanks to a width. -/
def padTo (width : Nat) (s : String) : String :=
  s ++ String.ofList (List.replicate (width - s.length) ' ')

namespace Inventory

/-- The endpoints that are not known to need authentication. -/
def openEndpoints (i : Inventory) : List Endpoint :=
  i.endpoints.filter fun e => e.auth.requirement ≠ .required

/-- A line about an endpoint. -/
def endpointLine (color : Bool) (e : Endpoint) : String :=
  let mark :=
    if e.auth.requirement = .unknown then Emphasis.red.apply color "UNKNOWN"
    else Emphasis.yellow.apply color "PUBLIC "
  s!"    {mark} {padTo 7 e.method.text} {padTo 40 e.path} "
    ++ Emphasis.dimmed.apply color s!"{e.sourceFile}:{e.line}" ++ "\n"

/-- The lines about endpoints without authentication. -/
def openPart (color : Bool) (i : Inventory) : String :=
  let found := i.openEndpoints
  if found.isEmpty then ""
  else
    "\n  " ++ Emphasis.bold.apply color "Endpoints without auth" ++ s!" ({found.length}):\n"
      ++ String.join (found.map (endpointLine color))

/-- The lines about what could not be analysed. -/
def diagnosticsPart (color : Bool) (i : Inventory) : String :=
  if i.diagnostics.isEmpty then ""
  else
    "\n  " ++ Emphasis.bold.apply color "Diagnostics" ++ s!" ({i.diagnostics.length}):\n"
      ++ String.join (i.diagnostics.map fun d =>
        "    " ++ Emphasis.blue.apply color d.path ++ " " ++ Emphasis.dimmed.apply color d.message
          ++ "\n")

/-- The summary of an inventory. -/
def summary (color : Bool) (i : Inventory) : String :=
  let number (e : Emphasis) (n : Nat) : String := e.apply color (toString n)
  "\n  " ++ Emphasis.title.apply color "endpoint-extractor" ++ " "
    ++ Emphasis.dimmed.apply color s!"({i.framework.text})" ++ "\n\n"
    ++ "  Endpoints: " ++ number .bold i.total
    ++ "  Auth: " ++ number .green (i.count .required)
    ++ "  Public: " ++ number .yellow (i.count .notRequired)
    ++ "  Unknown: " ++ number .red (i.count .unknown) ++ "\n"
    ++ (if i.isPartial then
        "  " ++ Emphasis.yellow.apply color "Partial result: some files could not be analyzed"
          ++ "\n"
      else "")
    ++ openPart color i ++ diagnosticsPart color i

end Inventory

end RouteInventory
