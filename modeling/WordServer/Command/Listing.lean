import WordServer.Command.Fault
import WordServer.Command.Invocation
import WordServer.Dispatch.Catalog
import WordServer.Json.Writer

/-!
# Listing endpoints

The catalog as JSON, of one group or of all. A group is named without regard to letter case.
-/

namespace WordServer.Command.Listing

/-- The groups that are asked for. -/
def select (group : Option String) : Except Fault (List EndpointGroup) :=
  match group with
  | none => .ok Catalog.groups
  | some name =>
    match Catalog.groups.filter fun known => Text.caselessEq known.name.toList name.toList with
    | [] =>
      let names := String.intercalate ", " (Catalog.groups.map EndpointGroup.name)
      .error (.plain ("Unknown capability group '" ++ name ++ "' (known: " ++ names ++ ")"))
    | found => .ok found

/-- The text that is printed. -/
def run (options : CatalogOptions) : Except Fault (List Char) :=
  (select options.group).map fun groups =>
    (Json.arr (groups.map EndpointGroup.toJson)).write
      (Json.Layout.compact.indentIf options.pretty) ++ ['\n']

end WordServer.Command.Listing
