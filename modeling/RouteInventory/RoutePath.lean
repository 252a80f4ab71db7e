import RouteInventory.Endpoint
import RouteInventory.Text.Word

/-!
# Route paths

* `RoutePath.join` joins paths: the result begins with a slash, has no empty segments and ends with
  a slash only if it is nothing else.
* `RoutePath.placeholders` lists the names after colons, as required string parameters.
-/

namespace RouteInventory.RoutePath

/-- The segments of a path between its slashes, empty ones left out. -/
def segments (path : String) : List String := (path.splitOn "/").filter (· != "")

/-- Paths joined to one. -/
def join (parts : List String) : String := "/" ++ String.intercalate "/" (parts.flatMap segments)

/-- A name that was collected backwards, unless it is empty. -/
def collected (acc : List Char) : List String :=
  if acc.isEmpty then [] else [String.ofList acc.reverse]

/-- The names of word characters that follow a colon directly.  `current` holds the characters of
the name being read, latest first. -/
def namesFrom (isWord : Char → Bool) : Option (List Char) → List Char → List String
  | none, [] => []
  | some acc, [] => collected acc
  | none, c :: cs => namesFrom isWord (if c == ':' then some [] else none) cs
  | some acc, c :: cs =>
    if isWord c then namesFrom isWord (some (c :: acc)) cs
    else collected acc ++ namesFrom isWord (if c == ':' then some [] else none) cs

/-- The names of a path's placeholders, for any class of word characters. -/
def placeholderNames (isWord : Char → Bool) (path : String) : List String :=
  namesFrom isWord none path.toList

/-- A parameter for each placeholder of a path. -/
def placeholders (path : String) : List Param :=
  (placeholderNames Text.isWord path).map fun n => ⟨n, "string", true⟩

end RouteInventory.RoutePath
