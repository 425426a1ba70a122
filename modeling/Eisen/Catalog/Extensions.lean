import Eisen.Storage.Path
import Eisen.Text.Blank

namespace Eisen

/-!
# Extensions of pairs

The two extensions that tell the halves of a pair apart. They are kept without
leading dots and in lower case, are not empty, and differ.
-/

/-- The extensions of scripts and of data files. -/
structure PairExtensions where
  script : String
  data : String
  deriving Repr, DecidableEq

namespace PairExtensions

/-- Why two extensions are refused. -/
inductive Fault where
  | empty
  | equal (extension : String)
  deriving Repr, DecidableEq

/-- The wording of a fault. -/
def Fault.message : Fault → String
  | .empty => "pair extensions must not be empty"
  | .equal extension =>
      "script and data extensions must differ, both are '" ++ extension ++ "'"

/-- An extension without its leading dots. -/
def withoutDots (extension : String) : String :=
  String.ofList (extension.toList.dropWhile (· == '.'))

/-- An extension without blanks around it and leading dots, in lower case. -/
def normalized (extension : String) : String :=
  Text.lower (withoutDots (Text.trim extension))

/-- The extension of scripts where none is given. -/
def defaultScript : String := "es"

/-- The extension of data files where none is given. -/
def defaultData : String := "json"

/-- The extensions where none are given. -/
def default : PairExtensions where
  script := defaultScript
  data := defaultData

/-- The pair of two given extensions. -/
def ofTexts (script data : String) : Except Fault PairExtensions :=
  let script := normalized script
  let data := normalized data
  if script = "" ∨ data = "" then
    .error .empty
  else if script = data then
    .error (.equal script)
  else
    .ok { script, data }

/-- Whether a path is that of a script. -/
def isScript
    (extensions : PairExtensions)
    (path : Path) : Bool :=
  path.hasExtension extensions.script

/-- Whether a path is that of a data file. -/
def isData
    (extensions : PairExtensions)
    (path : Path) : Bool :=
  path.hasExtension extensions.data

end PairExtensions

end Eisen
