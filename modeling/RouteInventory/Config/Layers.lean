import RouteInventory.Config.Document

/-!
# Layers of configuration

A layer is a document that is laid over others.  Objects are merged key by key; any other value
replaces what is below it, and null leaves that in place.
-/

namespace RouteInventory

namespace Json

mutual
/-- Lays one document over another. -/
def merge (base : Json) : Json → Json
  | .null => base
  | .object overlay =>
    match base with
    | .object entries => .object (mergeEntries entries overlay)
    | _ => .object overlay
  | .bool b => .bool b
  | .number n => .number n
  | .string s => .string s
  | .array xs => .array xs

/-- Lays the entries of an object over those of another. -/
def mergeEntries (base : List (String × Json)) : List (String × Json) → List (String × Json)
  | [] => base
  | (key, value) :: rest =>
    let merged :=
      match (Json.object base).get? key with
      | some below => merge below value
      | none => value
    mergeEntries (set key merged base) rest
end

end Json

namespace Config

/-- What the layers amount to over the standard configuration, the highest layer first. -/
def merged (layers : List Json) : Json :=
  layers.foldr (fun layer below => below.merge layer) standard.toJson

end Config

end RouteInventory
