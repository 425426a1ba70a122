import Eisen.Number.Binary64
import Eisen.Text.Order

namespace Eisen

/-!
# JSON values

An object is a list of members. Values that are read have their members sorted
by name with one member per name; values that are written keep the order in
which their members were put together.
-/

/--
A JSON value. Integers of 64 bits stay exact; all other numbers are binary64.
-/
inductive Json where
  | null
  | bool (value : Bool)
  | integer (value : Int)
  | real (value : Binary64)
  | text (value : String)
  | array (items : List Json)
  | object (members : List (String × Json))
  deriving Repr, Inhabited

namespace Json

/-- Set a member of an object whose members are sorted by name. -/
def setMember
    (name : String)
    (value : Json) :
    List (String × Json) → List (String × Json)
  | [] => [(name, value)]
  | (other, found) :: rest =>
      if name = other then
        (name, value) :: rest
      else if Text.notAfter name other then
        (name, value) :: (other, found) :: rest
      else
        (other, found) :: setMember name value rest

/-- The value of a member. -/
def member?
    (name : String)
    (members : List (String × Json)) :
    Option Json :=
  members.lookup name

end Json

end Eisen
