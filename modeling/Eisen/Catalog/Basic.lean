import Eisen.Storage.Path
import Eisen.Text.Order

namespace Eisen

/-!
# Catalogs

A catalog lists the examples below a directory by name. An example is a pair of
a script and a data file, of which one may be missing.
-/

/-- A pair of files; either half may be missing. -/
structure Example where
  name : String
  script : Option Path
  data : Option Path
  deriving Repr, DecidableEq

namespace Example

/-- Whether both halves are there. -/
def isComplete (pair : Example) : Bool :=
  pair.script.isSome && pair.data.isSome

/--
The name that a component adds to the name of an example, if it may stand there.
-/
def namePart? : Path.Component → Option (List String)
  | .name name => some [name]
  | .current => some []
  | _ => none

/--
The name of the example to which a file belongs: its path below the root without
the extension. A path that leaves the root has none.
-/
def name? (relative : Path) : Option String :=
  match (relative.withExtension "").components.mapM namePart? with
  | none => none
  | some parts =>
      if parts.flatten.isEmpty then
        none
      else
        some ("/".intercalate parts.flatten)

end Example

/-- The examples below a root. -/
structure Catalog where
  root : Path
  examples : List Example
  deriving Repr, DecidableEq

namespace Catalog

/-- The catalog of some examples, sorted by name. -/
def ofExamples
    (root : Path)
    (examples : List Example) : Catalog where
  root := root
  examples := Text.sortBy Example.name examples

/-- The first example of a name. -/
def find?
    (catalog : Catalog)
    (name : String) : Option Example :=
  catalog.examples.find? fun pair => pair.name == name

/-- A path as it is shown: below the root, and with slashes only. -/
def shownPath
    (catalog : Catalog)
    (path : Path) : String :=
  let shown := ((path.relativeTo? catalog.root).getD path).text
  String.ofList (shown.toList.map fun character =>
    if character = '\\' then '/' else character)

end Catalog

end Eisen
