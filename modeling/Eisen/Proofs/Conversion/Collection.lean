import Eisen.Proofs.Catalog.Scan
import Eisen.Proofs.Conversion.Scripts
import Eisen.Proofs.Storage.Descent

namespace Eisen

/-!
# The scripts of a run and of a catalog

A run over a directory converts the scripts below it in the order of their
paths, component by component. They are the scripts that a catalog of the
directory knows: each half of an example that is a script is one of them, and
each of them gives its name to an example with such a half.
-/

open Storage

namespace Path

/-- The place of a kind of component in the order of components. -/
def Component.rank : Component → Nat
  | .root => 0
  | .current => 1
  | .parent => 2
  | .name _ => 3

/-- The order of components: by their kinds, and names by their bytes. -/
def Component.Before : Component → Component → Prop
  | .name left, .name right => Text.bytes left < Text.bytes right
  | left, right => left.rank < right.rank

/-- The order of paths, component by component. -/
def Precedes (left right : Path) : Prop :=
  List.Lex Component.Before left.components right.components

/-- A common front does not change an order by letters. -/
theorem lex_append_left
    {α : Type}
    {Before : α → α → Prop}
    (front : List α)
    {left right : List α}
    (before : List.Lex Before left right) :
    List.Lex Before (front ++ left) (front ++ right) := by
  induction front with
  | nil => exact before
  | cons first rest inductionHypothesis => exact .cons inductionHypothesis

/-- Names that are met in order make up components in order. -/
theorem lex_map_name
    {names others : List String}
    (before : FileSystem.MetBefore names others) :
    List.Lex Component.Before (names.map .name) (others.map .name) := by
  induction before with
  | nil => exact .nil
  | rel less => exact .rel (Text.bytes_lt_of_lt less)
  | cons _ inductionHypothesis => exact .cons inductionHypothesis

/-- Below one root paths are ordered as a walk meets them. -/
theorem precedes_join_ofNames
    {root : Path}
    (written : root.IsWritten)
    (nonempty : root ≠ empty)
    {names others : List String}
    (areNames : ∀ name ∈ names, IsName name)
    (below : names ≠ [])
    (otherNames : ∀ name ∈ others, IsName name)
    (otherBelow : others ≠ [])
    (before : FileSystem.MetBefore names others) :
    (root.join (ofNames names)).Precedes (root.join (ofNames others)) := by
  rw [Precedes, components_join_ofNames written nonempty areNames below,
    components_join_ofNames written nonempty otherNames otherBelow]
  exact lex_append_left _ (lex_map_name before)

end Path

namespace Conversion

open Catalog

section

variable
  {fileSystem : FileSystem}
  {script data : String}
  {extensions : PairExtensions}
  {root : Path}
  {directory : Location}
  (tree : fileSystem.IsTree)
  (isRoot : IsRoot fileSystem root directory)

include isRoot

/--
The scripts below a root are its visible files with the extension, in their
order.
-/
theorem scriptsBelow_eq (extension : String) :
    scriptsBelow fileSystem root extension =
      ((fileSystem.visibleNames directory).map fun names =>
        root.join (Path.ofNames names)).filter
        fun path => path.hasExtension extension := by
  rw [scriptsBelow, walk_eq isRoot]

include tree

/-- The scripts below a root are listed in the order of their paths. -/
theorem pairwise_scriptsBelow (extension : String) :
    (scriptsBelow fileSystem root extension).Pairwise Path.Precedes := by
  rw [scriptsBelow_eq isRoot]
  refine List.Pairwise.filter _ (List.pairwise_map.mpr ?_)
  refine (FileSystem.pairwise_metBefore_visibleNames tree directory).imp_of_mem
    ?_
  intro names others met otherMet before
  have isVisible := (FileSystem.mem_visibleNames_iff tree).mp met
  have otherVisible := (FileSystem.mem_visibleNames_iff tree).mp otherMet
  exact Path.precedes_join_ofNames isRoot.written isRoot.ne_empty
    (FileSystem.isName_of_isVisibleFile tree isVisible) isVisible.below
    (FileSystem.isName_of_isVisibleFile tree otherVisible)
      otherVisible.below before

/--
The scripts below a root are exactly its visible files with the extension.
-/
theorem mem_scriptsBelow_iff_isVisibleFile
    {extension : String}
    {path : Path} :
    path ∈ scriptsBelow fileSystem root extension ↔
      (∃ names, fileSystem.IsVisibleFile directory names ∧
        path = root.join (Path.ofNames names)) ∧
        path.hasExtension extension = true := by
  rw [scriptsBelow_eq isRoot, List.mem_filter, List.mem_map]
  simp only [FileSystem.mem_visibleNames_iff tree, eq_comm (a := path)]

variable (accepted : PairExtensions.ofTexts script data = .ok extensions)

include accepted

/--
A script that a catalog has recorded is one of the scripts below its root.
-/
theorem mem_scriptsBelow_of_recorded
    {pair : Example}
    (member : pair ∈ paired (halvesBelow fileSystem extensions root directory))
    {path : Path}
    (recorded : pair.script = some path) :
    path ∈ scriptsBelow fileSystem root extensions.script := by
  have recorded : pair.half? .script = some path := recorded
  obtain ⟨spot, isHalf, rfl, -, -⟩ :=
    exists_spot_of_recorded tree accepted isRoot member recorded
  exact (mem_scriptsBelow_iff tree isRoot).mpr
    ⟨spot, ⟨isHalf.isVisible, isHalf.lastDot, isHalf.extension⟩, rfl⟩

/-- A script below the root of a catalog belongs to an example with a script. -/
theorem exists_pair_of_mem_scriptsBelow
    {path : Path}
    (member : path ∈ scriptsBelow fileSystem root extensions.script) :
    ∃ pair ∈ paired (halvesBelow fileSystem extensions root directory),
      Example.nameBelow? root path = some pair.name ∧
        pair.script.isSome = true := by
  obtain ⟨spot, isScript, rfl⟩ := (mem_scriptsBelow_iff tree isRoot).mp member
  have isHalf : IsHalf fileSystem extensions directory .script spot :=
    ⟨isScript.isVisible, isScript.lastDot, isScript.extension⟩
  obtain ⟨pair, inPairs, isName, isSome⟩ :=
    exists_pair_of_isHalf tree accepted isRoot isHalf
  exact ⟨pair, inPairs, isName ▸ isHalf_nameBelow? tree isRoot isHalf, isSome⟩

end

/--
Collecting the scripts below a directory lists the visible files with the
extension of scripts, each once and in the order of paths; a walk that goes
through each directory by name meets them so. The scripts of a catalog of the
directory are among them, and each of them belongs to an example of the catalog
that has a script.
-/
theorem collect_lists_scripts_of_catalog
    {fileSystem : FileSystem}
    (tree : fileSystem.IsTree)
    {script data : String}
    {extensions : PairExtensions}
    (accepted : PairExtensions.ofTexts script data = .ok extensions)
    {root : String}
    (isDirectory : fileSystem.isDirectory (Path.ofText root) = true) :
    ∃ directory scripts catalog,
      fileSystem.location .use (Path.ofText root) = .ok directory ∧
        collect fileSystem (Path.ofText root) extensions.script = .ok scripts ∧
        scan fileSystem extensions (Path.ofText root) = .ok catalog ∧
        scripts.Nodup ∧
        scripts.Pairwise Path.Precedes ∧
        scripts =
          ((fileSystem.descend fileSystem.height directory).map fun names =>
          (Path.ofText root).join (Path.ofNames names)).filter
            extensions.isScript ∧
        (∀ path, path ∈ scripts ↔
          (∃ names, fileSystem.IsVisibleFile directory names ∧
              path = (Path.ofText root).join (Path.ofNames names)) ∧
            extensions.isScript path = true) ∧
        (∀ pair ∈ catalog.examples, ∀ path,
          pair.script = some path → path ∈ scripts) ∧
        ∀ path ∈ scripts, ∃ pair ∈ catalog.examples,
          Example.nameBelow? (Path.ofText root) path = some pair.name ∧
            pair.script.isSome = true := by
  obtain ⟨directory, isRoot⟩ := exists_isRoot isDirectory
  obtain ⟨catalog, scanned, -, -, members⟩ := exists_scan tree isRoot extensions
  refine ⟨directory, _, catalog, isRoot.located, collect_eq isRoot _, scanned,
    nodup_scriptsBelow tree isRoot _, pairwise_scriptsBelow tree isRoot _, ?_,
    fun path => mem_scriptsBelow_iff_isVisibleFile tree isRoot, ?_, ?_⟩
  · rw [scriptsBelow_eq isRoot, FileSystem.visibleNames_eq_descend tree]
    rfl
  · intro pair member path recorded
    exact mem_scriptsBelow_of_recorded tree isRoot accepted
      ((members pair).mp member) recorded
  · intro path member
    obtain ⟨pair, inPairs, named⟩ :=
      exists_pair_of_mem_scriptsBelow tree isRoot accepted member
    exact ⟨pair, (members pair).mpr inPairs, named⟩

/--
A directory whose name is the front of a script's name, with a script and a
hidden file in it.
-/
def sideBySide : FileSystem where
  entries :=
    [(["root"], .directory), (["root", "a.es"], .file (.ofText "box")),
      (["root", "a"], .directory),
      (["root", "a", "z.ES"], .file (.ofText "grid")),
      (["root", "a", ".z.es"], .file (.ofText "grid"))]
  working := []

theorem sideBySide_isTree : sideBySide.IsTree := by
  decide

theorem isRoot_sideBySide : IsRoot sideBySide (Path.ofText "root") ["root"] :=
  isRoot_of_entry rfl rfl

theorem visibleNames_sideBySide :
    sideBySide.visibleNames ["root"] = [["a", "z.ES"], ["a.es"]] := by
  have visible : sideBySide.entries.filterMap (visibleFile? ["root"]) =
      [["a.es"], ["a", "z.ES"]] := by
    decide
  refine FileSystem.eq_of_pairwise_metBefore
    (FileSystem.pairwise_metBefore_visibleNames sideBySide_isTree _) ?_
      fun names => ?_
  · exact List.pairwise_pair.mpr (.rel (by decide))
  · rw [FileSystem.visibleNames, List.mem_mergeSort, visible]
    simp [or_comm]

/--
The file in the directory comes first, although a dot comes before a
slash in the text.
-/
theorem collect_lists_scripts_sideBySide :
    sideBySide.IsTree ∧ PairExtensions.ofTexts "es" "json" = .ok .default ∧
      sideBySide.isDirectory (Path.ofText "root") = true ∧
      collect sideBySide (Path.ofText "root") "es" =
        .ok [Path.ofText "root/a/z.ES", Path.ofText "root/a.es"] ∧
      (Path.ofText "root/a/z.ES").Precedes (Path.ofText "root/a.es") ∧
      (Path.ofText "root/a.es").text < (Path.ofText "root/a/z.ES").text := by
  have isDirectory := isDirectory_of_isRoot isRoot_sideBySide
  obtain ⟨directory, scripts, catalog, located, collected, -, -,
      ordered, form, -⟩ :=
    collect_lists_scripts_of_catalog sideBySide_isTree
      ofTexts_default isDirectory
  obtain rfl : ["root"] = directory :=
    Except.ok.inj (isRoot_sideBySide.located.symm.trans located)
  obtain rfl : scripts =
      [Path.ofText "root/a/z.ES", Path.ofText "root/a.es"] := by
    rw [form, ← FileSystem.visibleNames_eq_descend sideBySide_isTree,
      visibleNames_sideBySide]
    decide
  exact ⟨sideBySide_isTree, ofTexts_default, isDirectory, collected,
    List.pairwise_pair.mp ordered, by decide⟩

end Conversion

end Eisen
