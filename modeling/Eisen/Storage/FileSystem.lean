import Eisen.Storage.Fault
import Eisen.Storage.Path
import Eisen.Text.Symbol

namespace Eisen

/-!
# File systems

A file system maps locations to entries. A location is the list of names on the
way from the top, which is always a directory. Relative paths start in the
working directory.
-/

namespace Storage

/-- The names on the way from the top to an entry. -/
abbrev Location := List String

/-- What a file holds: a text, as long as its bytes are one. -/
structure Content where
  symbols : List Text.Symbol
  deriving Repr, DecidableEq

namespace Content

/-- The content that is a text. -/
def ofText (text : String) : Content where
  symbols := Text.symbols text

/-- The text that a content is. -/
def text? (content : Content) : Option String :=
  Text.ofSymbols? content.symbols

end Content

/-- What stands at a location. -/
inductive Entry where
  | directory
  | file (content : Content)
  /-- A link to another path, which is relative to the link's directory. -/
  | link (target : Path)
  deriving Repr, DecidableEq

end Storage

open Storage

/-- A file system with a working directory. -/
structure FileSystem where
  entries : List (Location × Entry)
  working : Location
  deriving Repr, DecidableEq

namespace FileSystem

/-- What stands at a location. -/
def entry?
    (fileSystem : FileSystem)
    (location : Location) : Option Entry :=
  if location.isEmpty then
    some .directory
  else
    fileSystem.entries.lookup location

/-- Put an entry at a location in place of the one that is there. -/
def set
    (fileSystem : FileSystem)
    (location : Location)
    (entry : Entry) : FileSystem where
  entries := (location, entry) :: fileSystem.entries.filter fun other =>
    other.1 != location
  working := fileSystem.working

/-- Drop a location and all locations below it. -/
def drop
    (fileSystem : FileSystem)
    (location : Location) : FileSystem where
  entries := fileSystem.entries.filter fun other => !location.isPrefixOf other.1
  working := fileSystem.working

/-- Whether a location is a directory. -/
def isDirectoryAt
    (fileSystem : FileSystem)
    (location : Location) : Bool :=
  fileSystem.entry? location == some .directory

/-- The number of links that may be followed on the way to a location. -/
def linkLimit : Nat := 40

/-- The greatest number of bytes of a name. -/
def nameLimit : Nat := 255

/-- The greatest number of bytes of a path. -/
def pathLimit : Nat := 4095

/-- What the last name of a path is asked for. -/
inductive Purpose where
  /-- What stands behind all links. -/
  | use
  /-- What stands there, a link included. -/
  | inspect
  /-- A place for a new entry; slashes behind the name do not matter. -/
  | occupy
  /--
  A file to write, which may be missing; no slash may stand behind its name.
  -/
  | write
  deriving Repr, DecidableEq

/--
The location that segments lead to from a directory. All but the last name must
be directories, and so must the last one if fillers come behind it, unless only
slashes do and the purpose says otherwise. The entry at the location may be
missing.
-/
def locate
    (fileSystem : FileSystem)
    (purpose : Purpose)
    (links : Nat)
    (here : Location)
    (segments : List String) :
    Except Fault Location :=
  match segments with
  | [] => .ok here
  | segment :: rest =>
      if !fileSystem.isDirectoryAt here then
        .error .notDirectory
      else if Path.isFiller segment then
        fileSystem.locate purpose links here rest
      else if segment = ".." then
        fileSystem.locate purpose links here.dropLast rest
      else if nameLimit < segment.utf8ByteSize then
        .error .nameTooLong
      else
        let child := here ++ [segment]
        let isLast := rest.all (· == "")
        if isLast ∧ purpose = .occupy then
          .ok child
        else if isLast ∧ !rest.isEmpty ∧ purpose = .write then
          .error .isDirectory
        else
          match fileSystem.entry? child with
          | none => if isLast then .ok child else .error .notFound
          | some (.link target) =>
              if rest.isEmpty ∧ purpose = .inspect then
                .ok child
              else
                match links with
                | 0 => .error .tooManyLinks
                | fewer + 1 =>
                    fileSystem.locate purpose fewer
                      (if target.isAbsolute then [] else here)
                      (target.segments ++ rest)
          | some _ => fileSystem.locate purpose links child rest
termination_by (links, segments.length)

/-- What is wrong with a text as a path. -/
def pathFault? (text : String) : Option Fault :=
  if text.toList.contains '\x00' then
    some .nulInName
  else if text = "" then
    some .notFound
  else if pathLimit < text.utf8ByteSize then
    some .nameTooLong
  else
    none

/-- The location of a path. -/
def location
    (fileSystem : FileSystem)
    (purpose : Purpose)
    (path : Path) :
    Except Fault Location :=
  match pathFault? path.text with
  | some fault => .error fault
  | none =>
      fileSystem.locate purpose linkLimit
        (if path.isAbsolute then [] else fileSystem.working) path.segments

/-- The entry of a path, behind all links. -/
def find?
    (fileSystem : FileSystem)
    (path : Path) : Option Entry :=
  match fileSystem.location .use path with
  | .ok location => fileSystem.entry? location
  | .error _ => none

/-- Whether there is an entry at a path. -/
def exists?
    (fileSystem : FileSystem)
    (path : Path) : Bool :=
  (fileSystem.find? path).isSome

/-- Whether a path is a directory. -/
def isDirectory
    (fileSystem : FileSystem)
    (path : Path) : Bool :=
  fileSystem.find? path == some .directory

/-- The content of the file at a path. -/
def content
    (fileSystem : FileSystem)
    (path : Path) :
    Except Fault Content :=
  match fileSystem.location .use path with
  | .error fault => .error fault
  | .ok location =>
      match fileSystem.entry? location with
      | some (.file content) => .ok content
      | some .directory => .error .isDirectory
      | _ => .error .notFound

/-- The text of the file at a path. -/
def readText
    (fileSystem : FileSystem)
    (path : Path) :
    Except Fault String :=
  match fileSystem.content path with
  | .error fault => .error fault
  | .ok content =>
      match content.text? with
      | some text => .ok text
      | none => .error .notText

/--
Write a file in an existing directory, in place of the file that is there.
-/
def write
    (fileSystem : FileSystem)
    (path : Path)
    (content : Content) :
    Except Fault FileSystem :=
  match fileSystem.location .write path with
  | .error fault => .error fault
  | .ok location =>
      if fileSystem.isDirectoryAt location then
        .error .isDirectory
      else
        .ok (fileSystem.set location (.file content))

/-- Make a directory in an existing directory. -/
def makeDirectory
    (fileSystem : FileSystem)
    (path : Path) :
    Except Fault FileSystem :=
  match fileSystem.location .occupy path with
  | .error fault => .error fault
  | .ok location =>
      if (fileSystem.entry? location).isSome then
        .error .alreadyExists
      else
        .ok (fileSystem.set location .directory)

/-- Make a link in an existing directory. No slash may stand behind its name. -/
def makeLink
    (fileSystem : FileSystem)
    (path : Path)
    (target : Path) :
    Except Fault FileSystem :=
  match (pathFault? target.text).elim
    (fileSystem.location .occupy path) .error with
  | .error fault => .error fault
  | .ok location =>
      if (fileSystem.entry? location).isSome then
        .error .alreadyExists
      else if path.segments.getLast? = some "" then
        .error .notFound
      else
        .ok (fileSystem.set location (.link target))

/-- Remove a file or a link, or a directory with all that is in it. -/
def remove
    (fileSystem : FileSystem)
    (path : Path) :
    Except Fault FileSystem :=
  match fileSystem.location .inspect path with
  | .error fault => .error fault
  | .ok location =>
      if (fileSystem.entry? location).isSome then
        .ok (fileSystem.drop location)
      else
        .error .notFound

end FileSystem

end Eisen
