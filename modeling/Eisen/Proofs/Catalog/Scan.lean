import Eisen.Catalog.Validation
import Eisen.Proofs.Catalog.Halves
import Eisen.Proofs.Text.Order

namespace Eisen.Catalog

/-!
# What a scan finds

A scan lists an example for every name that one of the halves below its
root has. Files whose extensions differ only in the case of letters are the
same half of the same example, and of these the example keeps the one whose
name comes last.
-/

open Storage

/-! Pairs of halves. -/

theorem nodup_names_paired (halves : List Half) :
    ((paired halves).map Example.name).Nodup := by
  rw [paired, List.map_map]
  exact (List.map_id _).symm ▸ Text.nodup_eraseDups _

/-- An example holds the halves that are chosen for its name. -/
theorem mem_paired_iff
    {halves : List Half}
    {pair : Example} :
    pair ∈ paired halves ↔
      (∃ half ∈ halves, half.name = pair.name) ∧
        ∀ side, pair.half? side = chosen? halves pair.name side := by
  rw [paired, List.mem_map]
  simp only [List.mem_eraseDups, List.mem_map]
  constructor
  · rintro ⟨name, named, rfl⟩
    refine ⟨named, fun side => ?_⟩
    cases side <;> rfl
  · rintro ⟨named, chosen⟩
    refine ⟨pair.name, named, ?_⟩
    rw [← chosen .script, ← chosen .data]
    rfl

/-- Every half belongs to an example with its name. -/
theorem exists_mem_paired
    {halves : List Half}
    {half : Half}
    (member : half ∈ halves) :
    ∃ pair ∈ paired halves, pair.name = half.name :=
  ⟨_, List.mem_map_of_mem
    (List.mem_eraseDups.mpr (List.mem_map_of_mem member)), rfl⟩

/-- For the name and the side of a half, some half is chosen. -/
theorem chosen?_isSome
    {halves : List Half}
    {half : Half}
    (member : half ∈ halves) :
    (chosen? halves half.name half.side).isSome = true := by
  rw [chosen?, Option.isSome_map, List.getLast?_isSome]
  exact List.ne_nil_of_mem (List.mem_filter.mpr ⟨member, by simp⟩)

/-- Of the files for one half the last one counts that a walk meets. -/
theorem exists_last_of_chosen?
    {halves : List Half}
    (met : halves.Pairwise fun earlier later =>
      metNotAfter earlier.relative.segments later.relative.segments = true)
    {name : String}
    {side : Side}
    {path : Path}
    (found : chosen? halves name side = some path) :
    ∃ last ∈ halves, last.name = name ∧ last.side = side ∧ last.path = path ∧
      ∀ other ∈ halves, other.name = name → other.side = side →
        metNotAfter other.relative.segments last.relative.segments = true := by
  obtain ⟨last, isLast, rfl⟩ := Option.map_eq_some_iff.mp found
  obtain ⟨before, form⟩ := List.getLast?_eq_some_iff.mp isLast
  have isCandidate (half : Half) :
      half ∈ before ++ [last] ↔
        half ∈ halves ∧ half.name = name ∧ half.side = side := by
    rw [← form, List.mem_filter, Bool.and_eq_true, beq_iff_eq, beq_iff_eq]
  obtain ⟨member, isName, isSide⟩ := (isCandidate last).mp (by simp)
  refine ⟨last, member, isName, isSide, rfl,
    fun other inHalves otherName otherSide => ?_⟩
  have ordered := met.filter fun half => half.name == name && half.side == side
  rw [form, List.pairwise_append] at ordered
  rcases List.mem_append.mp ((isCandidate other).mpr
    ⟨inHalves, otherName, otherSide⟩) with earlier | same
  · exact ordered.2.2 other earlier last (List.mem_singleton.mpr rfl)
  · rw [List.mem_singleton.mp same]
    exact metNotAfter_refl _

/-! Catalogs. -/

/--
The files below a directory, as a catalog shows them by the names
of their examples.
-/
structure Represents
    (fileSystem : FileSystem)
    (extensions : PairExtensions)
    (directory : Location)
    (catalog : Catalog) : Prop where
  increasing : catalog.examples.Pairwise fun earlier later =>
    Text.bytes earlier.name < Text.bytes later.name
  inhabited : ∀ pair ∈ catalog.examples, ∃ side, (pair.half? side).isSome = true
  recorded : ∀ pair ∈ catalog.examples, ∀ side path,
    pair.half? side = some path →
    ∃ spot, IsHalf fileSystem extensions directory side spot ∧
      path = spot.path catalog.root ∧
      Example.nameBelow? catalog.root path = some pair.name
  named : ∀ name, (∃ pair ∈ catalog.examples, pair.name = name) ↔
    ∃ side spot, IsHalf fileSystem extensions directory side spot ∧
      Example.nameBelow? catalog.root (spot.path catalog.root) = some name
  shared : ∀ side spot otherSide other,
    IsHalf fileSystem extensions directory side spot →
    IsHalf fileSystem extensions directory otherSide other →
      (Example.nameBelow? catalog.root (spot.path catalog.root) =
          Example.nameBelow? catalog.root (other.path catalog.root) ↔
        spot.folder = other.folder ∧ spot.stem = other.stem)

/-- No file for the same half of the same example has a later extension. -/
def IsLastSpelling
    (fileSystem : FileSystem)
    (extensions : PairExtensions)
    (directory : Location)
    (side : Side)
    (spot : Spot) : Prop :=
  ∀ other, IsHalf fileSystem extensions directory side other →
    other.folder = spot.folder → other.stem = spot.stem →
      other.suffix ≤ spot.suffix

section

variable {fileSystem : FileSystem} {script data : String}
  {extensions : PairExtensions}
  {root : Path} {directory : Location}

/--
A scan of a directory never fails: its catalog is made up of the
halves below it.
-/
theorem scan_eq_ok
    (tree : fileSystem.IsTree)
    (isRoot : IsRoot fileSystem root directory)
    (extensions : PairExtensions) :
    scan fileSystem extensions root =
      .ok (ofHalves root
        (halvesBelow fileSystem extensions root directory)) := by
  rw [scan, halves_eq_ok tree isRoot]
  rfl

/-- The catalog that a scan gives lists the pairs of halves by name. -/
theorem exists_scan
    (tree : fileSystem.IsTree)
    (isRoot : IsRoot fileSystem root directory)
    (extensions : PairExtensions) :
    ∃ catalog, scan fileSystem extensions root = .ok catalog ∧
      catalog.root = root ∧
      catalog.examples.Pairwise
        (fun earlier later => earlier.name < later.name) ∧
        ∀ pair, pair ∈ catalog.examples ↔
          pair ∈ paired (halvesBelow fileSystem extensions root directory) := by
  refine ⟨_, scan_eq_ok tree isRoot extensions, rfl, ?_, ?_⟩
  · exact Text.pairwise_sortBy (nodup_names_paired _)
  · intro pair
    exact (Text.sortBy_perm _ _).mem_iff

/--
What an example records for one half is the file with the last spelling
of the extension.
-/
theorem exists_spot_of_recorded
    (tree : fileSystem.IsTree)
    (accepted : PairExtensions.ofTexts script data = .ok extensions)
    (isRoot : IsRoot fileSystem root directory)
    {pair : Example}
    (member : pair ∈ paired (halvesBelow fileSystem extensions root directory))
    {side : Side}
    {path : Path}
    (recorded : pair.half? side = some path) :
    ∃ spot, IsHalf fileSystem extensions directory side spot ∧
      path = spot.path root ∧
      spot.title = pair.name ∧
        IsLastSpelling fileSystem extensions directory side spot := by
  rw [(mem_paired_iff.mp member).2 side] at recorded
  obtain ⟨last, inHalves, isName, isSide, rfl, isLast⟩ :=
    exists_last_of_chosen? (pairwise_halvesBelow ..) recorded
  obtain ⟨found, spot, isHalf, rfl⟩ :=
    (mem_halvesBelow_iff tree accepted isRoot).mp inHalves
  obtain rfl : found = side := isSide
  refine ⟨spot, isHalf, rfl, isName,
    fun other otherHalf sameFolder sameStem => ?_⟩
  have sameTitle : other.title = pair.name :=
    (((otherHalf.isMet tree).title_eq_iff (isHalf.isMet tree)).mpr
      ⟨sameFolder, sameStem⟩).trans isName
  have met := isLast (other.half root found)
    ((mem_halvesBelow_iff tree accepted isRoot).mpr
      ⟨found, other, otherHalf, rfl⟩) sameTitle rfl
  exact (Spot.metNotAfter_names_iff sameFolder sameStem).mp met

/-- Every file that is a half gives its name to an example with such a half. -/
theorem exists_pair_of_isHalf
    (tree : fileSystem.IsTree)
    (accepted : PairExtensions.ofTexts script data = .ok extensions)
    (isRoot : IsRoot fileSystem root directory)
    {side : Side}
    {spot : Spot}
    (isHalf : IsHalf fileSystem extensions directory side spot) :
    ∃ pair ∈ paired (halvesBelow fileSystem extensions root directory),
      pair.name = spot.title ∧
      (pair.half? side).isSome = true := by
  have inHalves :=
    (mem_halvesBelow_iff tree accepted isRoot).mpr ⟨side, spot, isHalf, rfl⟩
  have chosen := chosen?_isSome inHalves
  obtain ⟨pair, member, isName⟩ := exists_mem_paired inHalves
  refine ⟨pair, member, isName, ?_⟩
  rw [(mem_paired_iff.mp member).2 side, isName]
  exact chosen

/--
A file is recorded exactly where no other spelling of its extension comes later.
-/
theorem recorded_iff_isLastSpelling
    (tree : fileSystem.IsTree)
    (accepted : PairExtensions.ofTexts script data = .ok extensions)
    (isRoot : IsRoot fileSystem root directory)
    {side : Side}
    {spot : Spot}
    (isHalf : IsHalf fileSystem extensions directory side spot) :
    (∃ pair ∈ paired (halvesBelow fileSystem extensions root directory),
        pair.half? side = some (spot.path root)) ↔
      IsLastSpelling fileSystem extensions directory side spot := by
  constructor
  · rintro ⟨pair, member, recorded⟩
    obtain ⟨found, foundHalf, samePath, -, isLast⟩ :=
      exists_spot_of_recorded tree accepted isRoot member recorded
    rwa [(isHalf.isMet tree).eq_of_path_eq
      (foundHalf.isMet tree) isRoot.written isRoot.ne_empty samePath]
  · intro isLast
    obtain ⟨pair, member, isName, isSome⟩ :=
      exists_pair_of_isHalf tree accepted isRoot isHalf
    obtain ⟨path, recorded⟩ := Option.isSome_iff_exists.mp isSome
    obtain ⟨found, foundHalf, rfl, foundName, foundLast⟩ :=
      exists_spot_of_recorded tree accepted isRoot member recorded
    obtain ⟨sameFolder, sameStem⟩ :=
      ((foundHalf.isMet tree).title_eq_iff (isHalf.isMet tree)).mp
        (foundName.trans isName)
    have sameSuffix : found.suffix = spot.suffix :=
      le_antisymm (isLast found foundHalf sameFolder sameStem)
        (foundLast spot isHalf sameFolder.symm sameStem.symm)
    refine ⟨pair, member, ?_⟩
    rw [recorded, Spot.path, Spot.path, Spot.names, Spot.names, sameFolder,
      sameStem, sameSuffix]

/-- Every example has a half that is a file with its title. -/
theorem exists_half_of_mem_paired
    (tree : fileSystem.IsTree)
    (accepted : PairExtensions.ofTexts script data = .ok extensions)
    (isRoot : IsRoot fileSystem root directory)
    {pair : Example}
    (member :
      pair ∈ paired (halvesBelow fileSystem extensions root directory)) :
    ∃ side spot, IsHalf fileSystem extensions directory side spot ∧
      spot.title = pair.name ∧
      (pair.half? side).isSome = true := by
  obtain ⟨⟨half, inHalves, isName⟩, chosen⟩ := mem_paired_iff.mp member
  obtain ⟨side, spot, isHalf, rfl⟩ :=
    (mem_halvesBelow_iff tree accepted isRoot).mp inHalves
  refine ⟨side, spot, isHalf, isName, ?_⟩
  rw [chosen side, ← isName]
  exact chosen?_isSome inHalves

/-- A half is named by its title below the root. -/
theorem isHalf_nameBelow?
    (tree : fileSystem.IsTree)
    (isRoot : IsRoot fileSystem root directory)
    {side : Side}
    {spot : Spot}
    (isHalf : IsHalf fileSystem extensions directory side spot) :
    Example.nameBelow? root (spot.path root) = some spot.title :=
  (isHalf.isMet tree).nameBelow?_path isRoot.written isRoot.ne_empty

end

/-- No file is a script and a data file. -/
theorem not_isScript_and_isData
    {script data : String}
    {extensions : PairExtensions}
    (accepted : PairExtensions.ofTexts script data = .ok extensions)
    (path : Path) :
    ¬ (extensions.isScript path = true ∧ extensions.isData path = true) := by
  rintro ⟨isScript, isData⟩
  rw [PairExtensions.isScript, Path.hasExtension] at isScript
  rw [PairExtensions.isData, Path.hasExtension] at isData
  cases found : path.extension? with
  | none => simp [found] at isScript
  | some suffix =>
      rw [found] at isScript isData
      have hasScript :
          Text.sameLetters suffix (extensions.ofSide .script) = true := isScript
      have hasData : Text.sameLetters suffix (extensions.ofSide .data) = true :=
        isData
      cases PairExtensions.side_eq_of_sameLetters accepted hasScript hasData

/-- A scan of a directory gives a catalog that represents the files below it. -/
theorem scan_represents_files
    {fileSystem : FileSystem}
    (tree : fileSystem.IsTree)
    {script data : String}
    {extensions : PairExtensions}
    (accepted : PairExtensions.ofTexts script data = .ok extensions)
    {root : String}
    (isDirectory : fileSystem.isDirectory (Path.ofText root) = true) :
    (∀ path,
      ¬ (extensions.isScript path = true ∧ extensions.isData path = true)) ∧
      ∃ directory catalog,
        fileSystem.location .use (Path.ofText root) = .ok directory ∧
          scan fileSystem extensions (Path.ofText root) = .ok catalog ∧
            catalog.root = Path.ofText root ∧
              Represents fileSystem extensions directory catalog := by
  refine ⟨not_isScript_and_isData accepted, ?_⟩
  obtain ⟨directory, isRoot⟩ := exists_isRoot isDirectory
  obtain ⟨catalog, scanned, sameRoot, sorted, members⟩ :=
    exists_scan tree isRoot extensions
  refine ⟨directory, catalog, isRoot.located, scanned, sameRoot, ?_⟩
  constructor
  case increasing => exact sorted.imp Text.bytes_lt_of_lt
  case inhabited =>
    intro pair member
    obtain ⟨side, spot, -, -, isSome⟩ :=
      exists_half_of_mem_paired tree accepted isRoot ((members pair).mp member)
    exact ⟨side, isSome⟩
  case recorded =>
    intro pair member side path recorded
    obtain ⟨spot, isHalf, rfl, isName, -⟩ :=
      exists_spot_of_recorded tree accepted isRoot
        ((members pair).mp member) recorded
    rw [sameRoot, ← isName]
    exact ⟨spot, isHalf, rfl, isHalf_nameBelow? tree isRoot isHalf⟩
  case named =>
    intro name
    rw [sameRoot]
    constructor
    · rintro ⟨pair, member, rfl⟩
      obtain ⟨side, spot, isHalf, isName, -⟩ :=
        exists_half_of_mem_paired tree accepted isRoot
          ((members pair).mp member)
      rw [← isName]
      exact ⟨side, spot, isHalf, isHalf_nameBelow? tree isRoot isHalf⟩
    · rintro ⟨side, spot, isHalf, isName⟩
      obtain ⟨pair, member, isTitle, -⟩ :=
        exists_pair_of_isHalf tree accepted isRoot isHalf
      rw [isHalf_nameBelow? tree isRoot isHalf, Option.some.injEq] at isName
      exact ⟨pair, (members pair).mpr member, isTitle.trans isName⟩
  case shared =>
    intro side spot otherSide other isHalf otherHalf
    rw [sameRoot, isHalf_nameBelow? tree isRoot isHalf,
      isHalf_nameBelow? tree isRoot otherHalf, Option.some.injEq]
    exact (isHalf.isMet tree).title_eq_iff (otherHalf.isMet tree)

/--
A directory with a script in two spellings, a hidden script, and a data
file further down.
-/
def sample : FileSystem where
  entries :=
    [(["root"], .directory), (["root", "a.ES"], .file (.ofText "box")),
      (["root", "a.es"], .file (.ofText "sphere")),
      (["root", ".b.es"], .file (.ofText "box")),
      (["root", "c"], .directory),
      (["root", "c", "a.Json"], .file (.ofText "null"))]
  working := []

theorem sample_isTree : sample.IsTree := by
  decide

theorem location_sample :
    sample.location .use (Path.ofText "root") = .ok ["root"] := by
  have form : Path.ofText "root" = ⟨false, ["root"]⟩ := by decide
  have noFault :
      FileSystem.pathFault? (Path.mk false ["root"]).text = none := by decide
  have proper : Path.isFiller "root" = false := by decide
  have short : ¬ FileSystem.nameLimit < "root".utf8ByteSize := by decide
  rw [form, FileSystem.location, noFault]
  simp [sample, FileSystem.locate, FileSystem.isDirectoryAt, FileSystem.entry?,
    proper, short]

theorem isDirectory_sample :
    sample.isDirectory (Path.ofText "root") = true := by
  rw [FileSystem.isDirectory, FileSystem.find?, location_sample]
  rfl

theorem ofTexts_default :
    PairExtensions.ofTexts "es" "json" = .ok .default := by
  decide

/--
The second spelling of the script, and the data file: each lacks its other half.
-/
def sampleExamples : List Example :=
  [⟨"a", some (Path.ofText "root/a.es"), none⟩,
    ⟨"c/a", none, some (Path.ofText "root/c/a.Json")⟩]

/-- A scan of the sample finds these examples. -/
theorem scan_sample :
    scan sample .default (Path.ofText "root") =
      .ok ⟨Path.ofText "root", sampleExamples⟩ := by
  have isRoot : IsRoot sample (Path.ofText "root") ["root"] :=
    ⟨Path.isWritten_ofText "root", location_sample, rfl⟩
  have visible : sample.entries.filterMap (Storage.visibleFile? ["root"]) =
      [["a.ES"], ["a.es"], ["c", "a.Json"]] := by
    decide
  have names :
      sample.visibleNames ["root"] = [["a.ES"], ["a.es"], ["c", "a.Json"]] := by
    rw [FileSystem.visibleNames, visible]
    exact List.mergeSort_of_pairwise (by decide)
  have pairs :
      paired (halvesBelow sample .default (Path.ofText "root") ["root"]) =
      sampleExamples := by
    rw [halvesBelow, names]
    decide
  have sorted : Text.sortBy Example.name sampleExamples = sampleExamples :=
    List.mergeSort_of_pairwise (by decide)
  rw [scan_eq_ok sample_isTree isRoot, ofHalves, ofExamples, pairs, sorted]

/-- The hidden script is in no example, and the two spellings are in one. -/
theorem scan_represents_sample :
    sample.IsTree ∧ PairExtensions.ofTexts "es" "json" = .ok .default ∧
      sample.isDirectory (Path.ofText "root") = true ∧
        ∃ directory catalog,
          sample.location .use (Path.ofText "root") = .ok directory ∧
            scan sample .default (Path.ofText "root") = .ok catalog ∧
              catalog.root = Path.ofText "root" ∧
              Represents sample .default directory catalog ∧
              catalog.examples =
                [⟨"a", some (Path.ofText "root/a.es"), none⟩,
                  ⟨"c/a", none, some (Path.ofText "root/c/a.Json")⟩] := by
  obtain ⟨directory, catalog, located, scanned, sameRoot, represents⟩ :=
    (scan_represents_files sample_isTree ofTexts_default isDirectory_sample).2
  obtain rfl := Except.ok.inj (scan_sample.symm.trans scanned)
  exact ⟨sample_isTree, ofTexts_default, isDirectory_sample, directory, _,
    located, scanned, sameRoot, represents, rfl⟩

/-! What happens to a file. -/

/--
An example with both files is compared, and another one is reported for
the file it lacks.
-/
def IsAnswered
    (fileSystem : FileSystem)
    (schema : Description.LabelledSchema)
    (pair : Example) : Prop :=
  match pair.script, pair.data with
  | some script, some data =>
      (Validation.ofExample fileSystem schema pair).discrepancies =
        Validation.pairFindings schema (fileSystem.readText script)
          (fileSystem.readText data)
  | some _, none =>
      (Validation.ofExample fileSystem schema pair).discrepancies =
        [.missingData]
  | none, some _ =>
      (Validation.ofExample fileSystem schema pair).discrepancies =
        [.missingScript]
  | none, none => False

/-- An example with a half is compared or reported. -/
theorem isAnswered_of_half?
    (fileSystem : FileSystem)
    (schema : Description.LabelledSchema)
    {pair : Example}
    {side : Side}
    (isSome : (pair.half? side).isSome = true) :
    IsAnswered fileSystem schema pair := by
  obtain ⟨name, script?, data?⟩ := pair
  cases script? with
  | some script => cases data? <;> rfl
  | none =>
      cases data? with
      | some data => rfl
      | none => cases side <;> cases isSome

/--
A file is recorded as a half unless another one is there that differs from it
only in the case of letters of the extension and comes later. Every example is
then compared or reported.
-/
theorem scan_records_last_spelling
    {fileSystem : FileSystem}
    (tree : fileSystem.IsTree)
    {script data : String}
    {extensions : PairExtensions}
    (accepted : PairExtensions.ofTexts script data = .ok extensions)
    {root : String}
    (isDirectory : fileSystem.isDirectory (Path.ofText root) = true) :
    ∃ directory catalog,
      fileSystem.location .use (Path.ofText root) = .ok directory ∧
        scan fileSystem extensions (Path.ofText root) = .ok catalog ∧
          (∀ side spot, IsHalf fileSystem extensions directory side spot →
            ((∃ pair ∈ catalog.examples,
                pair.half? side = some (spot.path (Path.ofText root))) ↔
              IsLastSpelling fileSystem extensions directory side spot)) ∧
            ∀ schema, ∀ pair ∈ catalog.examples,
              IsAnswered fileSystem schema pair := by
  obtain ⟨directory, isRoot⟩ := exists_isRoot isDirectory
  obtain ⟨catalog, scanned, -, -, members⟩ := exists_scan tree isRoot extensions
  refine ⟨directory, catalog, isRoot.located, scanned,
    fun side spot isHalf => ?_, ?_⟩
  · simp only [members]
    exact recorded_iff_isLastSpelling tree accepted isRoot isHalf
  · intro schema pair member
    obtain ⟨side, -, -, -, isSome⟩ :=
      exists_half_of_mem_paired tree accepted isRoot ((members pair).mp member)
    exact isAnswered_of_half? fileSystem schema isSome

/-- The script `a.ES` is lost beside `a.es`. -/
theorem scan_loses_earlier_spelling :
    sample.IsTree ∧ PairExtensions.ofTexts "es" "json" = .ok .default ∧
      sample.isDirectory (Path.ofText "root") = true ∧
        IsHalf sample .default ["root"] .script ⟨[], "a", "ES"⟩ ∧
          ∃ catalog, scan sample .default (Path.ofText "root") = .ok catalog ∧
            ¬ ∃ pair ∈ catalog.examples,
              pair.script = some (Path.ofText "root/a.ES") := by
  have earlier : IsHalf sample .default ["root"] .script ⟨[], "a", "ES"⟩ :=
    ⟨⟨by decide, ⟨_, rfl⟩, by decide⟩, by decide, by decide⟩
  have later : IsHalf sample .default ["root"] .script ⟨[], "a", "es"⟩ :=
    ⟨⟨by decide, ⟨_, rfl⟩, by decide⟩, by decide, by decide⟩
  obtain ⟨directory, catalog, located, scanned, records, -⟩ :=
    scan_records_last_spelling sample_isTree ofTexts_default isDirectory_sample
  obtain rfl : ["root"] = directory :=
    Except.ok.inj (location_sample.symm.trans located)
  refine ⟨sample_isTree, ofTexts_default, isDirectory_sample, earlier, catalog,
    scanned, ?_⟩
  have samePath : Path.ofText "root/a.ES" =
      Spot.path ⟨[], "a", "ES"⟩ (Path.ofText "root") := by
    decide
  rw [samePath]
  intro recorded
  have isLast := (records .script ⟨[], "a", "ES"⟩ earlier).mp recorded
  exact absurd (isLast ⟨[], "a", "es"⟩ later rfl rfl) (by decide)

end Eisen.Catalog
