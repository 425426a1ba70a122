import Eisen.Storage.FileSystem

namespace Eisen

/-!
# Directories with their parents

Making a directory together with all directories above it. What was made before
a fault stays.
-/

namespace Path

/-- Dropping fillers makes no segments. -/
theorem length_dropFillersAtEnd_le
    (segments : List String) :
    (dropFillersAtEnd segments).length ≤ segments.length := by
  have dropped :=
    (List.dropWhile_suffix (l := segments.reverse) isFiller).length_le
  simpa [dropFillersAtEnd] using dropped

/-- A path has no more segments without the fillers at its end. -/
theorem length_trimmedEnd_le
    (path : Path) :
    path.trimmedEnd.segments.length ≤ path.segments.length := by
  unfold trimmedEnd
  split
  · rename_i first rest _ shape
    have shorter := length_dropFillersAtEnd_le rest
    simp only [shape, List.length_cons]
    omega
  · exact length_dropFillersAtEnd_le _

/-- The parent of a path has fewer segments. -/
theorem length_parent_lt
    {path parent : Path}
    (found : path.parent? = some parent) :
    parent.segments.length < path.segments.length := by
  unfold parent? at found
  simp only at found
  split at found
  · cases found
  · rename_i nonempty
    cases found
    have trimmed := length_trimmedEnd_le path
    have again :=
      length_trimmedEnd_le
        ⟨path.trimmedEnd.isAbsolute, path.trimmedEnd.segments.dropLast⟩
    have positive : 0 < path.trimmedEnd.segments.length := by
      cases shape : path.trimmedEnd.segments with
      | nil => simp [shape] at nonempty
      | cons first rest => simp
    simp only [List.length_dropLast] at again
    omega

end Path

namespace FileSystem

open Storage

/-- Make a directory and the directories above it that are missing. -/
def makeDirectories
    (fileSystem : FileSystem)
    (path : Path) :
    FileSystem × Except Fault Unit :=
  if path = Path.empty then
    (fileSystem, .ok ())
  else
    match fileSystem.makeDirectory path with
    | .ok made => (made, .ok ())
    | .error .notFound =>
        match _ : path.parent? with
        | none => (fileSystem, .error .notFound)
        | some parent =>
            match fileSystem.makeDirectories parent with
            | (made, .error fault) => (made, .error fault)
            | (made, .ok ()) =>
                match made.makeDirectory path with
                | .ok complete => (complete, .ok ())
                | .error fault =>
                    (made,
                      if made.isDirectory path then .ok () else .error fault)
    | .error fault =>
        (fileSystem,
          if fileSystem.isDirectory path then .ok () else .error fault)
termination_by path.segments.length
decreasing_by
  rename_i found
  exact Path.length_parent_lt found

/-- Write a file after making the directories above it. -/
def writeWithParents
    (fileSystem : FileSystem)
    (path : Path)
    (content : Content) :
    FileSystem × Except Fault Unit :=
  match fileSystem.makeDirectories (path.parent?.getD Path.empty) with
  | (made, .error fault) => (made, .error fault)
  | (made, .ok ()) =>
      match made.write path content with
      | .ok complete => (complete, .ok ())
      | .error fault => (made, .error fault)

/-- Make a link after making the directories above it. -/
def linkWithParents
    (fileSystem : FileSystem)
    (path : Path)
    (target : Path) :
    FileSystem × Except Fault Unit :=
  match fileSystem.makeDirectories (path.parent?.getD Path.empty) with
  | (made, .error fault) => (made, .error fault)
  | (made, .ok ()) =>
      match made.makeLink path target with
      | .ok complete => (complete, .ok ())
      | .error fault => (made, .error fault)

end FileSystem

end Eisen
