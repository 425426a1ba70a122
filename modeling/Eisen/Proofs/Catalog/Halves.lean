import Eisen.Catalog.Scan
import Eisen.Proofs.Storage.Tree
import Mathlib.Order.Monotone.Basic

namespace Eisen

/-!
# Halves of examples

A visible file below a root is half of an example if its name ends in a dot and
one of the two extensions, in any case of letters. The example is named by the
way to the file and the part of its name before that dot.
-/

/-! Extensions. -/

/-- A letter that is in lower case already stays as it is. -/
theorem Text.toLower_toLower (character : Char) :
    character.toLower.toLower = character.toLower := by
  delta Char.toLower
  simp only [ge_iff_le, UInt32.le_iff_toNat_le]
  split
  · next isUpper =>
      have distance : ('a'.val - 'A'.val).toNat = 32 := rfl
      have first : 'A'.val.toNat = 65 := rfl
      have last : 'Z'.val.toNat = 90 := rfl
      rw [dif_neg]
      intro again
      simp only [UInt32.toNat_add, distance] at again
      omega
  · rfl

/-- A text in lower case stays as it is. -/
theorem Text.lower_lower (text : String) : lower (lower text) = lower text := by
  have again : Char.toLower ∘ Char.toLower = Char.toLower :=
    funext toLower_toLower
  rw [lower, lower, String.toList_ofList, List.map_map, again]

namespace PairExtensions

/-- The extension of one half of a pair. -/
def ofSide
    (extensions : PairExtensions) : Side → String
  | .script => extensions.script
  | .data => extensions.data

/-- Accepted extensions are the two texts in their normal form, which differ. -/
theorem eq_normalized_of_ofTexts
    {script data : String}
    {extensions : PairExtensions}
    (accepted : ofTexts script data = .ok extensions) :
    normalized script ≠ normalized data ∧
      extensions =
        { script := normalized script, data := normalized data } := by
  unfold ofTexts at accepted
  simp only at accepted
  split at accepted
  · contradiction
  · split at accepted
    · contradiction
    · next differ => exact ⟨differ, (Except.ok.inj accepted).symm⟩

/-- Accepted extensions are in lower case. -/
theorem lower_ofSide
    {script data : String}
    {extensions : PairExtensions}
    (accepted : ofTexts script data = .ok extensions)
    (side : Side) :
    Text.lower (extensions.ofSide side) = extensions.ofSide side := by
  obtain ⟨-, rfl⟩ := eq_normalized_of_ofTexts accepted
  cases side <;> exact Text.lower_lower _

/-- No extension is that of both halves. -/
theorem side_eq_of_sameLetters
    {script data : String}
    {extensions : PairExtensions}
    (accepted : ofTexts script data = .ok extensions)
    {suffix : String}
    {left right : Side}
    (isLeft : Text.sameLetters suffix (extensions.ofSide left) = true)
    (isRight : Text.sameLetters suffix (extensions.ofSide right) = true) :
    left = right := by
  have same : extensions.ofSide left = extensions.ofSide right := by
    rw [Text.sameLetters, beq_iff_eq, lower_ofSide accepted] at isLeft isRight
    exact isLeft.symm.trans isRight
  obtain ⟨differ, rfl⟩ := eq_normalized_of_ofTexts accepted
  cases left <;> cases right
  · rfl
  · exact absurd same differ
  · exact absurd same.symm differ
  · rfl

end PairExtensions

namespace Example

/-- One half of an example. -/
def half?
    (pair : Example) : Side → Option Path
  | .script => pair.script
  | .data => pair.data

/-- The name of the example to which a path below a root belongs. -/
def nameBelow?
    (root path : Path) : Option String :=
  (path.relativeTo? root).bind name?

theorem mapM_namePart?_names (names : List String) :
    ∃ parts, (names.map Path.Component.name).mapM namePart? = some parts ∧
      parts.flatten = names := by
  induction names with
  | nil => exact ⟨[], rfl, rfl⟩
  | cons name rest inductionHypothesis =>
      obtain ⟨parts, found, flat⟩ := inductionHypothesis
      refine ⟨[name] :: parts, ?_, ?_⟩
      · rw [List.map_cons, List.mapM_cons, found]
        rfl
      · rw [List.flatten_cons, flat, List.singleton_append]

end Example

namespace Catalog

open Storage

/-! Places of halves. -/

/-- Where a file stands below a root, with its name around a dot. -/
@[ext]
structure Spot where
  folder : List String
  stem : String
  suffix : String
  deriving Repr, DecidableEq

namespace Spot

/-- The names on the way to a file. -/
def names (spot : Spot) : List String :=
  spot.folder ++ [spot.stem ++ "." ++ spot.suffix]

/-- The path of a file below a root. -/
def path
    (spot : Spot)
    (root : Path) : Path :=
  root.join (Path.ofNames spot.names)

/-- The name of the example to which a file belongs. -/
def title (spot : Spot) : String :=
  "/".intercalate (spot.folder ++ [spot.stem])

/-- The half of an example that a file is. -/
def half
    (spot : Spot)
    (root : Path)
    (side : Side) : Half where
  name := spot.title
  side := side
  relative := Path.ofNames spot.names
  path := spot.path root

end Spot

/-- A visible file below a directory whose extension is that of a half. -/
structure IsHalf
    (fileSystem : FileSystem)
    (extensions : PairExtensions)
    (directory : Location)
    (side : Side)
    (spot : Spot) : Prop where
  isVisible : fileSystem.IsVisibleFile directory spot.names
  lastDot : '.' ∉ spot.suffix.toList
  extension : Text.sameLetters spot.suffix (extensions.ofSide side) = true

/--
What is known of a spot on which a walk meets a file, if the dot is the last
one of its name.
-/
structure Spot.IsMet (spot : Spot) : Prop where
  areNames : ∀ name ∈ spot.names, IsName name
  visible : ∀ name ∈ spot.names, name.toList.head? ≠ some '.'
  lastDot : '.' ∉ spot.suffix.toList

/-- The spot of a half is one that a walk can meet. -/
theorem IsHalf.isMet
    {fileSystem : FileSystem}
    {extensions : PairExtensions}
    {directory : Location}
    {side : Side}
    {spot : Spot}
    (tree : fileSystem.IsTree)
    (isHalf : IsHalf fileSystem extensions directory side spot) :
    spot.IsMet where
  areNames := FileSystem.isName_of_isVisibleFile tree isHalf.isVisible
  visible := isHalf.isVisible.visible
  lastDot := isHalf.lastDot

namespace Spot.IsMet

variable {spot other : Spot} {root : Path}

/--
With no stem, or with one that starts with a dot, the file would be hidden.
-/
theorem stem_shown (isMet : spot.IsMet) :
    spot.stem ≠ "" ∧ spot.stem.toList.head? ≠ some '.' := by
  have shown :=
    isMet.visible _ (List.mem_append_right spot.folder List.mem_cons_self)
  cases characters : spot.stem.toList with
  | nil => simp [String.toList_append, characters] at shown
  | cons first rest =>
      constructor
      · intro isEmpty
        simp [isEmpty] at characters
      · simpa [String.toList_append, characters] using shown

theorem splitName_last (isMet : spot.IsMet) :
    Path.splitName (spot.stem ++ "." ++ spot.suffix) =
      (spot.stem, some spot.suffix) :=
  Path.splitName_append isMet.stem_shown.1 isMet.lastDot

theorem isName_stem (isMet : spot.IsMet) : IsName spot.stem := by
  have isName :=
    isMet.areNames _ (List.mem_append_right spot.folder List.mem_cons_self)
  obtain ⟨ink, shown⟩ := isMet.stem_shown
  refine ⟨ink, ?_, ?_, ?_⟩
  · intro dot
    rw [dot] at shown
    exact absurd shown (by decide)
  · intro dots
    rw [dots] at shown
    exact absurd shown (by decide)
  · intro slash
    exact isName.noSlash (by simp [String.toList_append, slash])

theorem areNames_stem (isMet : spot.IsMet) :
    ∀ name ∈ spot.folder ++ [spot.stem], IsName name := by
  intro name member
  rcases List.mem_append.mp member with inFolder | isStem
  · exact isMet.areNames name (List.mem_append_left _ inFolder)
  · rw [List.mem_singleton.mp isStem]
    exact isMet.isName_stem

/-- A file belongs to the example that has its name without the extension. -/
theorem name?_names (isMet : spot.IsMet) :
    Example.name? (Path.ofNames spot.names) = some spot.title := by
  have shown : spot.stem ≠ "." := isMet.isName_stem.noDot
  obtain ⟨parts, found, flat⟩ :=
    Example.mapM_namePart?_names (spot.folder ++ [spot.stem])
  rw [Example.name?, names,
    Path.withExtension_ofNames isMet.areNames isMet.splitName_last shown,
    Path.components_ofNames isMet.areNames_stem, found]
  simp [flat, title]

/-- A half is named by its title, whatever its root is called. -/
theorem nameBelow?_path
    (isMet : spot.IsMet)
    (written : root.IsWritten)
    (nonempty : root ≠ Path.empty) :
    Example.nameBelow? root (spot.path root) = some spot.title := by
  rw [Example.nameBelow?, path,
    Path.relativeTo?_join_ofNames written nonempty isMet.areNames
      (by simp [names])]
  exact isMet.name?_names

/--
A path has the extension that its suffix equals up to the case of letters.
-/
theorem hasExtension_path
    (isMet : spot.IsMet)
    (written : root.IsWritten)
    (nonempty : root ≠ Path.empty)
    (extension : String) :
    (spot.path root).hasExtension extension =
      Text.sameLetters spot.suffix extension := by
  rw [Path.hasExtension, Path.extension?, path, names,
    Path.fileName?_join_ofNames written nonempty isMet.areNames,
    Option.bind_some,
    isMet.splitName_last]

/--
Files belong to the same example if they are in one directory and have one stem.
-/
theorem title_eq_iff
    (isMet : spot.IsMet)
    (otherMet : other.IsMet) :
    spot.title = other.title ↔
      spot.folder = other.folder ∧ spot.stem = other.stem := by
  constructor
  · intro same
    have whole : spot.folder ++ [spot.stem] = other.folder ++ [other.stem] :=
      Path.eq_of_intercalate_eq
        (fun name member => (isMet.areNames_stem name member).noSlash)
        (fun name member => (otherMet.areNames_stem name member).noSlash)
        (by simp) (by simp) same
    simpa using List.append_inj' whole rfl
  · rintro ⟨sameFolder, sameStem⟩
    rw [title, title, sameFolder, sameStem]

theorem eq_of_names_eq
    (isMet : spot.IsMet)
    (otherMet : other.IsMet)
    (same : spot.names = other.names) :
    spot = other := by
  obtain ⟨sameFolder, sameLast⟩ := List.append_inj' same rfl
  have parts := isMet.splitName_last
  rw [List.singleton_inj.mp sameLast, otherMet.splitName_last, Prod.mk.injEq,
    Option.some.injEq] at parts
  exact Spot.ext sameFolder parts.1.symm parts.2.symm

/-- Different files have different paths. -/
theorem eq_of_path_eq
    (isMet : spot.IsMet)
    (otherMet : other.IsMet)
    (written : root.IsWritten)
    (nonempty : root ≠ Path.empty)
    (same : spot.path root = other.path root) :
    spot = other := by
  have relative := Path.relativeTo?_join_ofNames written nonempty isMet.areNames
    (by simp [names])
  rw [← path, same, path,
    Path.relativeTo?_join_ofNames written nonempty otherMet.areNames
      (by simp [names]),
    Option.some.injEq] at relative
  exact isMet.eq_of_names_eq otherMet (congrArg Path.segments relative).symm

end Spot.IsMet

/-- Files of one example are met in the order of their extensions. -/
theorem Spot.metNotAfter_names_iff
    {spot other : Spot}
    (sameFolder : spot.folder = other.folder)
    (sameStem : spot.stem = other.stem) :
    metNotAfter spot.names other.names = true ↔ spot.suffix ≤ other.suffix := by
  have increasing : StrictMono fun suffix : String =>
      other.stem ++ "." ++ suffix := by
    intro left right before
    rw [String.lt_iff_toList_lt] at before ⊢
    simp only [String.toList_append]
    exact List.append_left_lt before
  rw [names, names, sameFolder, sameStem, metNotAfter_siblings]
  exact increasing.le_iff_le

/-! Halves of examples. -/

/-- A path that a text writes and that leads to a directory. -/
structure IsRoot
    (fileSystem : FileSystem)
    (root : Path)
    (directory : Location) : Prop where
  written : root.IsWritten
  located : fileSystem.location .use root = .ok directory
  isDirectory : fileSystem.entry? directory = some .directory

theorem IsRoot.ne_empty
    {fileSystem : FileSystem}
    {root : Path}
    {directory : Location}
    (isRoot : IsRoot fileSystem root directory) :
    root ≠ Path.empty := by
  rintro rfl
  have located := isRoot.located
  have refused : FileSystem.pathFault? Path.empty.text = some .notFound := by
    decide
  rw [FileSystem.location, refused] at located
  cases located

/-- A path of a directory is the root of a scan. -/
theorem exists_isRoot
    {fileSystem : FileSystem}
    {root : String}
    (isDirectory : fileSystem.isDirectory (Path.ofText root) = true) :
    ∃ directory, IsRoot fileSystem (Path.ofText root) directory := by
  rw [FileSystem.isDirectory, beq_iff_eq, FileSystem.find?] at isDirectory
  split at isDirectory
  · next directory located =>
      exact ⟨directory, Path.isWritten_ofText root, located, isDirectory⟩
  · cases isDirectory

section

variable {fileSystem : FileSystem} {script data : String}
  {extensions : PairExtensions}
  {root : Path} {directory : Location}

/-- The half of an example that the file behind some names below a root is. -/
def halfBelow?
    (extensions : PairExtensions)
    (root : Path)
    (names : List String) : Option Half :=
  (side? extensions (root.join (Path.ofNames names))).bind fun side =>
    (Example.name? (Path.ofNames names)).map fun name =>
      { name, side
        relative := Path.ofNames names
        path := root.join (Path.ofNames names) }

/-- The halves among the visible files below a directory. -/
def halvesBelow
    (fileSystem : FileSystem)
    (extensions : PairExtensions)
    (root : Path)
    (directory : Location) : List Half :=
  (fileSystem.visibleNames directory).filterMap (halfBelow? extensions root)

/-- A file behind names is below the root, so it has a way from there. -/
theorem half?_join_ofNames
    (isRoot : IsRoot fileSystem root directory)
    {names : List String}
    (areNames : ∀ name ∈ names, IsName name)
    (below : names ≠ []) :
    half? extensions root (root.join (Path.ofNames names)) =
      .ok (halfBelow? extensions root names) := by
  have relative :=
    Path.relativeTo?_join_ofNames isRoot.written isRoot.ne_empty areNames below
  rw [half?, halfBelow?]
  cases side? extensions (root.join (Path.ofNames names)) with
  | none => rfl
  | some side =>
      simp only [relative]
      rfl

/-- Where each file has a way from the root, all halves among them are found. -/
theorem halvesAmong_eq_ok
    {files : List (List String)}
    (each :
      ∀ names ∈ files, half? extensions root (root.join (Path.ofNames names)) =
      .ok (halfBelow? extensions root names)) :
    halvesAmong extensions root
      (files.map fun names => root.join (Path.ofNames names)) =
      .ok (files.filterMap (halfBelow? extensions root)) := by
  induction files with
  | nil => rfl
  | cons names rest inductionHypothesis =>
      obtain ⟨first, others⟩ := List.forall_mem_cons.mp each
      rw [List.map_cons, halvesAmong, first, inductionHypothesis others,
        List.filterMap_cons]
      cases halfBelow? extensions root names <;> rfl

theorem relative_of_halfBelow?
    {names : List String}
    {half : Half}
    (found : halfBelow? extensions root names = some half) :
    half.relative = Path.ofNames names := by
  obtain ⟨side, -, named⟩ := Option.bind_eq_some_iff.mp found
  obtain ⟨name, -, rfl⟩ := Option.map_eq_some_iff.mp named
  rfl

/-- A file is the half of the side whose extension its suffix spells. -/
theorem halfBelow?_of_isMet
    (accepted : PairExtensions.ofTexts script data = .ok extensions)
    (isRoot : IsRoot fileSystem root directory)
    {spot : Spot}
    (isMet : spot.IsMet)
    {half : Half} :
    halfBelow? extensions root spot.names = some half ↔
      ∃ side, Text.sameLetters spot.suffix (extensions.ofSide side) = true ∧
        half = spot.half root side := by
  have isScript : extensions.isScript (root.join (Path.ofNames spot.names)) =
      Text.sameLetters spot.suffix (extensions.ofSide .script) :=
    isMet.hasExtension_path isRoot.written isRoot.ne_empty _
  have isData : extensions.isData (root.join (Path.ofNames spot.names)) =
      Text.sameLetters spot.suffix (extensions.ofSide .data) :=
    isMet.hasExtension_path isRoot.written isRoot.ne_empty _
  -- The extensions differ, so the first test that succeeds is the only one.
  have unique {side : Side}
      (isSide : Text.sameLetters spot.suffix (extensions.ofSide side) = true) :
      half = spot.half root side ↔
        ∃ side, Text.sameLetters spot.suffix (extensions.ofSide side) = true ∧
          half = spot.half root side := by
    constructor
    · exact fun isHalf => ⟨side, isSide, isHalf⟩
    · rintro ⟨other, isOther, isHalf⟩
      rwa [PairExtensions.side_eq_of_sameLetters accepted isSide isOther]
  simp only [halfBelow?, side?, isScript, isData, isMet.name?_names,
    Option.map_some]
  by_cases hasScript :
      Text.sameLetters spot.suffix (extensions.ofSide .script) = true
  · rw [if_pos hasScript, ← unique hasScript, Option.bind_some,
      Option.some.injEq]
    exact eq_comm
  · rw [if_neg hasScript]
    by_cases hasData :
        Text.sameLetters spot.suffix (extensions.ofSide .data) = true
    · rw [if_pos hasData, ← unique hasData, Option.bind_some, Option.some.injEq]
      exact eq_comm
    · rw [if_neg hasData, Option.bind_none]
      refine iff_of_false (by simp) ?_
      rintro ⟨side, isSide, -⟩
      cases side
      · exact hasScript isSide
      · exact hasData isSide

/--
A file with an extension has a dot in its name, the last one of which
is in front of it.
-/
theorem exists_spot_of_hasExtension
    (isRoot : IsRoot fileSystem root directory)
    {names : List String}
    (areNames : ∀ name ∈ names, IsName name)
    (below : names ≠ [])
    {extension : String}
    (hasExtension :
      (root.join (Path.ofNames names)).hasExtension extension = true) :
    ∃ spot : Spot, names = spot.names ∧ '.' ∉ spot.suffix.toList := by
  obtain ⟨folder, name, rfl⟩ := (List.eq_nil_or_concat names).resolve_left below
  rw [List.concat_eq_append] at areNames hasExtension ⊢
  rw [Path.hasExtension, Path.extension?,
    Path.fileName?_join_ofNames isRoot.written isRoot.ne_empty areNames,
    Option.bind_some]
    at hasExtension
  cases parts : Path.splitName name with
  | mk stem suffix? =>
      cases suffix? with
      | none => simp [parts] at hasExtension
      | some suffix =>
          obtain ⟨rfl, -, lastDot⟩ := Path.eq_append_of_splitName parts
          exact ⟨⟨folder, stem, suffix⟩, rfl, lastDot⟩

/-- The file of a half has a spot. -/
theorem exists_spot_of_halfBelow?
    (isRoot : IsRoot fileSystem root directory)
    {names : List String}
    (areNames : ∀ name ∈ names, IsName name)
    (below : names ≠ [])
    {half : Half}
    (found : halfBelow? extensions root names = some half) :
    ∃ spot : Spot, names = spot.names ∧ '.' ∉ spot.suffix.toList := by
  obtain ⟨side, isSide, -⟩ := Option.bind_eq_some_iff.mp found
  unfold side? at isSide
  split at isSide
  · next isScript =>
      exact exists_spot_of_hasExtension isRoot areNames below isScript
  · split at isSide
    · next isData =>
        exact exists_spot_of_hasExtension isRoot areNames below isData
    · cases isSide

/--
A walk meets the visible files below its root, in the order of their names.
-/
theorem walk_eq (isRoot : IsRoot fileSystem root directory) :
    fileSystem.walk root =
      (fileSystem.visibleNames directory).map fun names =>
        root.join (Path.ofNames names) := by
  rw [FileSystem.walk, isRoot.located]
  simp only [isRoot.isDirectory]

/-- A root is a directory that is there. -/
theorem find?_root (isRoot : IsRoot fileSystem root directory) :
    fileSystem.find? root = some .directory := by
  rw [FileSystem.find?, isRoot.located]
  exact isRoot.isDirectory

/--
No file that a walk meets is outside the root, so nothing ends the
search for halves.
-/
theorem halves_eq_ok
    (tree : fileSystem.IsTree)
    (isRoot : IsRoot fileSystem root directory)
    (extensions : PairExtensions) :
    halves fileSystem extensions root =
      .ok (halvesBelow fileSystem extensions root directory) := by
  have found : halves fileSystem extensions root =
      halvesAmong extensions root (fileSystem.walk root) := by
    simp [halves, FileSystem.exists?, FileSystem.isDirectory, find?_root isRoot]
  rw [found, walk_eq isRoot]
  refine halvesAmong_eq_ok fun names met => ?_
  have isVisible := (FileSystem.mem_visibleNames_iff tree).mp met
  exact half?_join_ofNames isRoot
    (FileSystem.isName_of_isVisibleFile tree isVisible)
    isVisible.below

/-- The halves are the files with one of the extensions and nothing else. -/
theorem mem_halvesBelow_iff
    (tree : fileSystem.IsTree)
    (accepted : PairExtensions.ofTexts script data = .ok extensions)
    (isRoot : IsRoot fileSystem root directory)
    {half : Half} :
    half ∈ halvesBelow fileSystem extensions root directory ↔
      ∃ side spot, IsHalf fileSystem extensions directory side spot ∧
        half = spot.half root side := by
  rw [halvesBelow, List.mem_filterMap]
  constructor
  · rintro ⟨names, met, found⟩
    have isVisible := (FileSystem.mem_visibleNames_iff tree).mp met
    have areNames := FileSystem.isName_of_isVisibleFile tree isVisible
    obtain ⟨spot, rfl, lastDot⟩ :=
      exists_spot_of_halfBelow? isRoot areNames isVisible.below found
    have isMet : spot.IsMet := ⟨areNames, isVisible.visible, lastDot⟩
    obtain ⟨side, extension, rfl⟩ :=
      (halfBelow?_of_isMet accepted isRoot isMet).mp found
    exact ⟨side, spot, ⟨isVisible, lastDot, extension⟩, rfl⟩
  · rintro ⟨side, spot, isHalf, rfl⟩
    refine ⟨spot.names,
      (FileSystem.mem_visibleNames_iff tree).mpr isHalf.isVisible, ?_⟩
    exact (halfBelow?_of_isMet accepted isRoot (isHalf.isMet tree)).mpr
      ⟨side, isHalf.extension, rfl⟩

/-- Halves stand in the order in which a walk meets them. -/
theorem pairwise_halvesBelow
    (fileSystem : FileSystem)
    (extensions : PairExtensions)
    (root : Path)
    (directory : Location) :
    (halvesBelow fileSystem extensions root directory).Pairwise
      fun earlier later =>
      metNotAfter earlier.relative.segments later.relative.segments = true := by
  rw [halvesBelow, List.pairwise_filterMap]
  refine (FileSystem.pairwise_visibleNames fileSystem directory).imp ?_
  intro earlier later met first isFirst second isSecond
  rw [relative_of_halfBelow? isFirst, relative_of_halfBelow? isSecond]
  exact met

end

end Catalog

end Eisen
