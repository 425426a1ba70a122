import Eisen.Text.Ascii

namespace Eisen

/-!
# Paths

A path is kept as it is written: the segments between its slashes, empty ones
included. Its components are the segments that mean something, and all
questions about names are asked of the components.
-/

/--
A path. The path without text and the path that is a single slash have no
segments.
-/
structure Path where
  isAbsolute : Bool
  segments : List String
  deriving Repr, DecidableEq

namespace Path

/-- The parts of a text between its slashes. -/
def betweenSlashes : List Char → List (List Char)
  | [] => [[]]
  | character :: rest =>
      if character = '/' then
        [] :: betweenSlashes rest
      else
        match betweenSlashes rest with
        | [] => [[character]]
        | first :: more => (character :: first) :: more

/-- The path with the given segments; a single empty segment is none. -/
def ofSegments
    (isAbsolute : Bool)
    (segments : List String) : Path where
  isAbsolute := isAbsolute
  segments := if segments = [""] then [] else segments

/-- The path that a text writes. -/
def ofText (text : String) : Path :=
  match text.toList with
  | '/' :: rest => ofSegments true ((betweenSlashes rest).map String.ofList)
  | characters =>
      ofSegments false ((betweenSlashes characters).map String.ofList)

/-- The text of a path. -/
def text (path : Path) : String :=
  (if path.isAbsolute then "/" else "") ++ "/".intercalate path.segments

/-- The path without text. -/
def empty : Path where
  isAbsolute := false
  segments := []

/-- The relative path of some names. -/
def ofNames (names : List String) : Path where
  isAbsolute := false
  segments := names

/-- A part of a path that means something. -/
inductive Component where
  /-- The slash in front of an absolute path. -/
  | root
  /-- The dot in front of a relative path. -/
  | current
  | parent
  | name (text : String)
  deriving Repr, DecidableEq

/-- A segment without a meaning: an empty one, or a dot. -/
def isFiller (segment : String) : Bool :=
  segment == "" || segment == "."

/-- The component that a segment stands for. -/
def Component.ofSegment? (segment : String) : Option Component :=
  if isFiller segment then
    none
  else if segment = ".." then
    some .parent
  else
    some (.name segment)

/-- The components behind the front of a path. -/
def body (path : Path) : List Component :=
  path.segments.filterMap Component.ofSegment?

/-- The component in front: a slash, or the dot of a relative path. -/
def front (path : Path) : List Component :=
  if path.isAbsolute then
    [.root]
  else if path.segments.head? = some "." then
    [.current]
  else
    []

/-- The components of a path. -/
def components (path : Path) : List Component :=
  path.front ++ path.body

/-- The last name of a path, unless the path ends in another component. -/
def fileName? (path : Path) : Option String :=
  match path.components.getLast? with
  | some (.name name) => some name
  | _ => none

/-- Drop the fillers at the end of some segments. -/
def dropFillersAtEnd (segments : List String) : List String :=
  (segments.reverse.dropWhile isFiller).reverse

/-- A path without the fillers at its end. A dot in front is no filler. -/
def trimmedEnd (path : Path) : Path where
  isAbsolute := path.isAbsolute
  segments :=
    match path.isAbsolute, path.segments with
    | false, first :: rest => first :: dropFillersAtEnd rest
    | _, segments => dropFillersAtEnd segments

/-- The path in front of the last component. -/
def parent? (path : Path) : Option Path :=
  let trimmed := path.trimmedEnd
  if trimmed.segments.isEmpty then
    none
  else
    some (trimmedEnd ⟨trimmed.isAbsolute, trimmed.segments.dropLast⟩)

/-- Split a name at its last dot, unless there is none but in front. -/
def splitName (name : String) : String × Option String :=
  let reversed := name.toList.reverse
  let behind := reversed.takeWhile (· != '.')
  let before := reversed.drop (behind.length + 1)
  if before.isEmpty then
    (name, none)
  else
    (String.ofList before.reverse, some (String.ofList behind.reverse))

/-- The file name without its extension. -/
def stem? (path : Path) : Option String :=
  path.fileName?.map fun name => (splitName name).1

/-- The extension of the file name. -/
def extension? (path : Path) : Option String :=
  path.fileName?.bind fun name => (splitName name).2

/-- Whether the file name has an extension, ignoring the case of letters. -/
def hasExtension
    (path : Path)
    (extension : String) : Bool :=
  match path.extension? with
  | some found => Text.sameLetters found extension
  | none => false

/--
Replace the extension of the file name, or add one; an empty one leaves the stem
alone. The old extension is cut off first, so a name that is two dots without
it is no file name any more and takes no extension.
-/
def withExtension
    (path : Path)
    (extension : String) : Path :=
  match path.fileName? with
  | none => path
  | some name =>
      let trimmed := path.trimmedEnd
      let (stem, old) := splitName name
      let renamed :=
        if old.isSome ∧ stem = "." ∧ trimmed = path then
          ".."
        else if extension = "" then
          stem
        else
          stem ++ "." ++ extension
      ⟨trimmed.isAbsolute, trimmed.segments.dropLast ++ [renamed]⟩

/-- Put a path behind another one; an absolute path stands for itself. -/
def join
    (path : Path)
    (other : Path) : Path :=
  if other.isAbsolute ∨ path = empty then
    other
  else
    let base :=
      if path.segments.getLast? = some "" then
        path.segments.dropLast
      else
        path.segments
    let added := if other.segments.isEmpty then [""] else other.segments
    ofSegments path.isAbsolute (base ++ added)

/-- The segments behind a number of components. -/
def afterComponents : Nat → List String → List String
  | 0, segments => segments
  | _ + 1, [] => []
  | count + 1, segment :: rest =>
      if isFiller segment then
        afterComponents (count + 1) rest
      else
        afterComponents count rest

/-- What is left of a path behind another one that it starts with. -/
def relativeTo?
    (path : Path)
    (root : Path) : Option Path :=
  if root.components.isEmpty then
    some path.trimmedEnd
  else if root.components.isPrefixOf path.components then
    let rest := afterComponents root.body.length path.segments
    some (ofNames (dropFillersAtEnd (rest.dropWhile isFiller)))
  else
    none

end Path

end Eisen
