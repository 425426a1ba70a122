import Eisen.Conversion.Files
import Eisen.Proofs.Catalog.Scan
import Eisen.Proofs.Storage.Components

namespace Eisen

/-!
# Where converted scripts go

The output of a script stands in the same place below the output directory
as the script below its root. As a description it takes the name of the
script's example.
-/

open Eisen.Path Storage

/-! Names of examples. -/

namespace Example

end Example

namespace Conversion

/-! Outputs of scripts below a root. -/

section

variable {root script : Path} {folder : List Component} {name : String}

theorem fileName?_of_isBelow
    (isBelow : IsBelow root script (folder ++ [.name name])) :
    script.fileName? = some name := by
  rw [fileName?_eq_some_iff, isBelow.body]
  simp

theorem isAbsolute_outputName
    (script : Path)
    (format : Format) :
    (outputName script format).isAbsolute = false := by
  cases format with
  | xml => rfl
  | json => exact isAbsolute_withExtension _ _

/-- The parent of a script lies one name above it. -/
theorem exists_parent_of_isBelow
    (isBelow : IsBelow root script (folder ++ [.name name])) :
    ∃ parent, script.parent? = some parent ∧ IsBelow root parent folder ∧
      (script.IsWritten → parent.IsWritten) := by
  obtain ⟨parent, isParent, sameKind, sameFront, sameBody, written⟩ :=
    exists_parent (fileName?_of_isBelow isBelow)
  refine ⟨parent, isParent, ⟨sameKind.trans isBelow.sameKind, ?_, ?_⟩, written⟩
  · exact fun nonempty => sameFront.trans (isBelow.sameFront nonempty)
  · rw [isBelow.body, ← List.append_assoc] at sameBody
    exact (List.append_cancel_right sameBody).symm

/--
The output directory is left by the same components by which the script
leaves its root.
-/
theorem exists_outputDirectory
    (written : root.IsWritten)
    (isBelow : IsBelow root script (folder ++ [.name name]))
    (directory : Path) :
    ∃ relative, outputDirectory root script directory =
      directory.join relative ∧
      relative.isAbsolute = false ∧ relative.body = folder := by
  obtain ⟨parent, isParent, parentBelow, -⟩ := exists_parent_of_isBelow isBelow
  obtain ⟨relative, found, isRelative, -, form⟩ :=
    parentBelow.exists_relativeTo? written
  exact ⟨relative, by simp [outputDirectory, isParent, found], isRelative, form⟩

end

end Conversion

end Eisen
