import Eisen.Storage.FileSystem
import Eisen.Text.Order

namespace Eisen

/-!
# Walks

The files below a directory, in the order in which a walk meets them that goes
through each directory by name and enters directories as it meets them. Hidden
files and directories are left out, and links below the root are not followed.

Walks are over trees that can be read: there are no entries that are closed to
the reader, and a directory is entered however long the path to it has become.
So no entry is passed over because it cannot be read. The limits on paths and
names hold where a single path is looked up.
-/

namespace Storage

/--
Whether a walk meets the first of two files before the second, or they are one.
-/
def metNotAfter : List String → List String → Bool
  | [], _ => true
  | _ :: _, [] => false
  | left :: lefts, right :: rights =>
      if left = right then
        metNotAfter lefts rights
      else
        Text.notAfter left right

/-- Whether a name is hidden. -/
def isHidden (name : String) : Bool :=
  name.toList.head? == some '.'

/-- The names on the way from a location down to another one. -/
def namesBelow?
    (root location : Location) :
    Option (List String) :=
  if root.isPrefixOf location ∧ root.length < location.length then
    some (location.drop root.length)
  else
    none

/-- The names of a visible file below a location. -/
def visibleFile?
    (root : Location)
    (entry : Location × Entry) :
    Option (List String) :=
  match entry.2 with
  | .file _ =>
      (namesBelow? root entry.1).filter fun names => !names.any isHidden
  | _ => none

end Storage

namespace FileSystem

open Storage

/-- The names of the visible files below a location, as a walk meets them. -/
def visibleNames
    (fileSystem : FileSystem)
    (root : Location) : List (List String) :=
  (fileSystem.entries.filterMap (visibleFile? root)).mergeSort metNotAfter

/--
The files that a walk from a path meets. A path that is a file is met itself; a
path that is a link is followed to a directory.
-/
def walk
    (fileSystem : FileSystem)
    (root : Path) : List Path :=
  match fileSystem.location .use root with
  | .error _ => []
  | .ok location =>
      match fileSystem.entry? location with
      | some .directory =>
          (fileSystem.visibleNames location).map fun names =>
            root.join (Path.ofNames names)
      | some (.file _) =>
          if (fileSystem.location .inspect root).toOption = some location then
            [root]
          else
            []
      | _ => []

/-- The line of an entry in a listing; directories end in a slash. -/
def listingLine?
    (root : Location)
    (entry : Location × Entry) :
    Option String :=
  (namesBelow? root entry.1).map fun names =>
    "/".intercalate names ++ (if entry.2 = .directory then "/" else "")

/-- All entries below the working directory, sorted by their lines. -/
def listing (fileSystem : FileSystem) : List String :=
  Text.sortBy id
    (fileSystem.entries.filterMap (listingLine? fileSystem.working))

end FileSystem

end Eisen
