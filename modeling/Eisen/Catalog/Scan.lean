import Eisen.Catalog.Basic
import Eisen.Catalog.Extensions
import Eisen.Discrepancy
import Eisen.Storage.Walk

namespace Eisen.Catalog

/-!
# Scans

A scan walks through a directory and pairs its scripts with its data files
by their names. Of several files for the same half the walk's last one
counts. A file is named by its way from the root, so a file that is not
below the root ends the scan.
-/

/-- Why a directory cannot be scanned. -/
inductive Fault where
  | missingRoot (root : Path)
  | noDirectory (root : Path)
  | outsideRoot (path root : Path)
  deriving Repr, DecidableEq

/-- The wording of a fault. -/
def Fault.message : Fault → String
  | .missingRoot root => "catalog root " ++ root.text ++ " does not exist"
  | .noDirectory root => "catalog root " ++ root.text ++ " is not a directory"
  | .outsideRoot path root =>
      path.text ++ " is not under " ++ root.text ++ ": prefix not found"

/-- A file that is a half of an example. -/
structure Half where
  name : String
  side : Side
  relative : Path
  path : Path
  deriving Repr, DecidableEq

/-- The side of a pair on which a file is. -/
def side?
    (extensions : PairExtensions)
    (path : Path) : Option Side :=
  if extensions.isScript path then
    some .script
  else if extensions.isData path then
    some .data
  else
    none

/-- The half of an example that a file below a root is, if it is one. -/
def half?
    (extensions : PairExtensions)
    (root path : Path) :
    Except Fault (Option Half) :=
  match side? extensions path with
  | none => .ok none
  | some side =>
      match path.relativeTo? root with
      | none => .error (.outsideRoot path root)
      | some relative =>
          .ok ((Example.name? relative).map fun name =>
            { name, side, relative, path })

/-- The halves of examples among some files below a root. -/
def halvesAmong
    (extensions : PairExtensions)
    (root : Path) :
    List Path → Except Fault (List Half)
  | [] => .ok []
  | path :: rest => do
      let first ← half? extensions root path
      let others ← halvesAmong extensions root rest
      .ok (first.toList ++ others)

/-- The halves of examples below a root, as a walk meets them. -/
def halves
    (fileSystem : FileSystem)
    (extensions : PairExtensions)
    (root : Path) :
    Except Fault (List Half) :=
  if !fileSystem.exists? root then
    .error (.missingRoot root)
  else if !fileSystem.isDirectory root then
    .error (.noDirectory root)
  else
    halvesAmong extensions root (fileSystem.walk root)

/-- The file that counts as one half of an example. -/
def chosen?
    (halves : List Half)
    (name : String)
    (side : Side) : Option Path :=
  ((halves.filter fun half =>
    half.name == name && half.side == side).getLast?).map Half.path

/--
The examples that some halves make up, in the order of their first halves.
-/
def paired (halves : List Half) : List Example :=
  ((halves.map Half.name).eraseDups).map fun name =>
    { name
      script := chosen? halves name .script
      data := chosen? halves name .data }

/-- The catalog of a root that some halves make up. -/
def ofHalves
    (root : Path)
    (halves : List Half) : Catalog :=
  ofExamples root (paired halves)

/-- The catalog of a directory. -/
def scan
    (fileSystem : FileSystem)
    (extensions : PairExtensions)
    (root : Path) :
    Except Fault Catalog :=
  (halves fileSystem extensions root).map (ofHalves root)

end Eisen.Catalog
