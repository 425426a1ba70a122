import Eisen.Proofs.Conversion.Outputs
import Eisen.Proofs.Storage.Resolution
import Mathlib.Data.List.Nodup

namespace Eisen

/-!
# Scripts below a root and their outputs

The scripts below a root are the visible files with the extension of scripts.
The output of each is a file again: it stands in the same folder, and its name
is made of the script's name.
-/

open Eisen.Path Storage

namespace Path

/-- Names make up a path whose body is these names. -/
theorem body_ofNames
    {names : List String}
    (areNames : ∀ name ∈ names, IsName name) :
    (ofNames names).body = names.map .name :=
  filterMap_ofSegment?_names areNames

/-- Whether a component can stand behind the front of a path. -/
def Component.isInner : Component → Bool
  | .parent => true
  | .name _ => true
  | _ => false

theorem filter_isInner_components (path : Path) :
    path.components.filter Component.isInner = path.body := by
  have noFront : path.front.filter Component.isInner = [] := by
    rw [front]
    split
    · rfl
    · split <;> rfl
  have areInner : ∀ component ∈ path.body, component.isInner = true := by
    intro component member
    obtain ⟨segment, -, found⟩ := List.mem_filterMap.mp member
    unfold Component.ofSegment? at found
    split at found
    · cases found
    · split at found <;> cases found <;> rfl
  rw [components, List.filter_append, noFront, List.nil_append,
    List.filter_eq_self.mpr areInner]

end Path

namespace Conversion

open Catalog

/-- A visible file below a directory with the extension of scripts. -/
structure IsScript
    (fileSystem : FileSystem)
    (directory : Location)
    (extension : String)
    (spot : Spot) : Prop where
  isVisible : fileSystem.IsVisibleFile directory spot.names
  lastDot : '.' ∉ spot.suffix.toList
  extension : Text.sameLetters spot.suffix extension = true

/-- The spot of a script is one that a walk can meet. -/
theorem IsScript.isMet
    {fileSystem : FileSystem}
    {directory : Location}
    {extension : String}
    {spot : Spot}
    (tree : fileSystem.IsTree)
    (isScript : IsScript fileSystem directory extension spot) :
    spot.IsMet where
  areNames := FileSystem.isName_of_isVisibleFile tree isScript.isVisible
  visible := isScript.isVisible.visible
  lastDot := isScript.lastDot

section

variable {fileSystem : FileSystem} {root : Path} {directory : Location}
  {extension : String}

/-- The scripts are the visible files with the extension and nothing else. -/
theorem mem_scriptsBelow_iff
    (tree : fileSystem.IsTree)
    (isRoot : IsRoot fileSystem root directory)
    {script : Path} :
    script ∈ scriptsBelow fileSystem root extension ↔
      ∃ spot, IsScript fileSystem directory extension spot ∧
        script = spot.path root := by
  rw [scriptsBelow, walk_eq isRoot, List.mem_filter, List.mem_map]
  constructor
  · rintro ⟨⟨names, met, rfl⟩, hasExtension⟩
    have isVisible := (FileSystem.mem_visibleNames_iff tree).mp met
    have areNames := FileSystem.isName_of_isVisibleFile tree isVisible
    obtain ⟨spot, rfl, lastDot⟩ :=
      exists_spot_of_hasExtension isRoot areNames isVisible.below hasExtension
    have isMet : spot.IsMet := ⟨areNames, isVisible.visible, lastDot⟩
    have isExtension :=
      isMet.hasExtension_path isRoot.written isRoot.ne_empty extension
    exact ⟨spot, ⟨isVisible, lastDot, isExtension.symm.trans hasExtension⟩, rfl⟩
  · rintro ⟨spot, isScript, rfl⟩
    have isMet := isScript.isMet tree
    refine ⟨⟨spot.names,
        (FileSystem.mem_visibleNames_iff tree).mpr isScript.isVisible, rfl⟩, ?_⟩
    rw [isMet.hasExtension_path isRoot.written isRoot.ne_empty]
    exact isScript.extension

theorem isDirectory_of_isRoot
    (isRoot : IsRoot fileSystem root directory) :
    fileSystem.isDirectory root = true := by
  rw [FileSystem.isDirectory, FileSystem.find?, isRoot.located]
  exact beq_iff_eq.mpr isRoot.isDirectory

/-- The scripts of a root are those below it. -/
theorem collect_eq
    (isRoot : IsRoot fileSystem root directory)
    (extension : String) :
    collect fileSystem root extension =
      .ok (scriptsBelow fileSystem root extension) := by
  simp [collect, isDirectory_of_isRoot isRoot]

/-- No script is listed twice. -/
theorem nodup_scriptsBelow
    (tree : fileSystem.IsTree)
    (isRoot : IsRoot fileSystem root directory)
    (extension : String) :
    (scriptsBelow fileSystem root extension).Nodup := by
  rw [scriptsBelow, walk_eq isRoot]
  refine List.Nodup.filter
    _ (List.Nodup.map_on ?_ (FileSystem.nodup_visibleNames tree directory))
  intro names met others otherMet same
  have relative {names : List String}
      (met : names ∈ fileSystem.visibleNames directory) :
      (root.join (ofNames names)).relativeTo? root = some (ofNames names) := by
    have isVisible := (FileSystem.mem_visibleNames_iff tree).mp met
    exact relativeTo?_join_ofNames isRoot.written isRoot.ne_empty
      (FileSystem.isName_of_isVisibleFile tree isVisible) isVisible.below
  have samePath : root.join (ofNames names) = root.join (ofNames others) := same
  have sameNames := relative met
  rw [samePath, relative otherMet, Option.some.injEq] at sameNames
  exact (congrArg Path.segments sameNames).symm

end

/-! Outputs as files. -/

/-- The extension of outputs. -/
def Format.extension : Format → String
  | .xml => "xml"
  | .json => "json"

/-- The file into which a script is converted. -/
def converted
    (spot : Spot) :
    Format → Spot
  | .xml =>
      { spot with stem := spot.stem ++ "." ++ spot.suffix, suffix := "xml" }
  | .json => { spot with suffix := "json" }

/-- Where the output of a script goes that is found below a root. -/
def outputOf
    (root : Path)
    (directory : Option Path)
    (format : Format)
    (script : Path) : Path :=
  outputPath script
    (directory.map fun output => outputDirectory root script output) format

theorem folder_converted
    (spot : Spot)
    (format : Format) :
    (converted spot format).folder = spot.folder := by
  cases format <;> rfl

theorem suffix_converted
    (spot : Spot)
    (format : Format) :
    (converted spot format).suffix = format.extension := by
  cases format <;> rfl

/--
A spot is one that a walk can meet if its names are visible and its suffix has
neither slash nor dot.
-/
theorem isMet_of_stem
    {folder : List String}
    {stem suffix : String}
    (areNames : ∀ name ∈ folder ++ [stem], IsName name)
    (visible : ∀ name ∈ folder ++ [stem], name.toList.head? ≠ some '.')
    (noSlash : '/' ∉ suffix.toList)
    (noDot : '.' ∉ suffix.toList) :
    (Spot.mk folder stem suffix).IsMet := by
  have isStem := areNames stem (by simp)
  have shown := visible stem (by simp)
  obtain ⟨first, more, characters⟩ : ∃ first more,
      stem.toList = first :: more :=
    List.exists_cons_of_ne_nil (by simpa using isStem.ink)
  have isFirst : first ≠ '.' := by simpa [characters] using shown
  have whole : (stem ++ "." ++ suffix).toList =
      first :: (more ++ '.' :: suffix.toList) := by
    simp [String.toList_append, characters]
  have isLast : IsName (stem ++ "." ++ suffix) := by
    have differs {text : String} (starts : text.toList.head? ≠ some first) :
        stem ++ "." ++ suffix ≠ text := by
      rintro rfl
      simp [whole] at starts
    refine ⟨differs (by simp), differs ?_, differs ?_, ?_⟩
    · exact fun same => isFirst (Option.some.inj same).symm
    · exact fun same => isFirst (Option.some.inj same).symm
    · have stemSlash := isStem.noSlash
      rw [characters] at stemSlash
      simp only [whole, List.mem_cons, List.mem_append, not_or] at stemSlash ⊢
      exact ⟨stemSlash.1, stemSlash.2, by decide, noSlash⟩
  constructor
  case lastDot => exact noDot
  case areNames =>
    intro name member
    rcases List.mem_append.mp member with inFolder | last
    · exact areNames name (List.mem_append_left _ inFolder)
    · rwa [List.mem_singleton.mp last]
  case visible =>
    intro name member
    rcases List.mem_append.mp member with inFolder | last
    · exact visible name (List.mem_append_left _ inFolder)
    · rw [List.mem_singleton.mp last, whole]
      simpa using isFirst

section

variable {spot other : Spot} {root : Path}

/-- The output of a script that a walk meets would be met as well. -/
theorem isMet_converted
    (isMet : spot.IsMet)
    (format : Format) :
    (converted spot format).IsMet := by
  cases format with
  | xml =>
      exact isMet_of_stem isMet.areNames isMet.visible (by decide) (by decide)
  | json =>
      refine isMet_of_stem isMet.areNames_stem (fun name member => ?_)
        (by decide) (by decide)
      rcases List.mem_append.mp member with inFolder | isStem
      · exact isMet.visible name (List.mem_append_left _ inFolder)
      · rw [List.mem_singleton.mp isStem]
        exact isMet.stem_shown.2

/-- The path of a spot lies below its root by the folder and the whole name. -/
theorem isBelow_path
    (isMet : spot.IsMet)
    (written : root.IsWritten) :
    IsBelow root (spot.path root)
      (spot.folder.map .name ++ [.name (spot.stem ++ "." ++ spot.suffix)]) := by
  have isBelow : IsBelow root (spot.path root) (ofNames spot.names).body :=
    .join written rfl
  rwa [body_ofNames isMet.areNames, Spot.names, List.map_append] at isBelow

/-- The name of the output of a spot is that of the converted spot. -/
theorem outputName_path
    (isMet : spot.IsMet)
    (written : root.IsWritten)
    (format : Format) :
    outputName (spot.path root) format =
      ofNames [(converted spot format).stem ++ "." ++
        (converted spot format).suffix] := by
  have named := fileName?_of_isBelow (isBelow_path isMet written)
  cases format with
  | xml => simp [outputName, named, converted, String.append_assoc]
  | json =>
      have isLast : (ofNames [spot.stem ++ "." ++ spot.suffix]).fileName? =
          some (spot.stem ++ "." ++ spot.suffix) := by
        rw [fileName?_eq_some_iff, body_ofNames fun name member => ?_]
        · simp
        · exact isMet.areNames name (List.mem_append_right _ member)
      have isRenamed : renamed (spot.stem ++ "." ++ spot.suffix) "json" =
          spot.stem ++ "." ++ "json" := by
        simp [renamed, isMet.splitName_last, isMet.isName_stem.noDot]
      simp only [outputName, named, Option.getD_some]
      rw [withExtension_eq isLast rfl, isRenamed]
      rfl

/--
An output is the file of its script below the root, or below the
output directory.
-/
theorem body_outputOf
    (isMet : spot.IsMet)
    (written : root.IsWritten)
    (directory : Option Path)
    (format : Format) :
    (outputOf root directory format (spot.path root)).body =
      (directory.getD root).body ++
        (converted spot format).names.map .name := by
  have isBelow := isBelow_path isMet written
  have isOutput : (outputName (spot.path root) format).body =
      [.name ((converted spot format).stem ++ "." ++
          (converted spot format).suffix)] := by
    rw [outputName_path isMet written, body_ofNames fun name member => ?_]
    · simp
    · exact (isMet_converted isMet format).areNames name
        (List.mem_append_right _ member)
  have inFolder : (converted spot format).names.map Component.name =
      spot.folder.map .name ++ (outputName (spot.path root) format).body := by
    rw [isOutput, Spot.names, folder_converted, List.map_append,
      List.map_singleton]
  rw [inFolder, ← List.append_assoc]
  cases directory with
  | none =>
      obtain ⟨parent, isParent, parentBelow, -⟩ :=
        exists_parent_of_isBelow isBelow
      rw [outputOf, outputPath, Option.map_none, Option.getD_none, isParent,
        Option.getD_some, body_join _ (isAbsolute_outputName _ format),
        parentBelow.body, Option.getD_none]
  | some directory =>
      obtain ⟨relative, isDirectory, isRelative, form⟩ :=
        exists_outputDirectory written isBelow directory
      rw [outputOf, outputPath, Option.map_some, Option.getD_some, isDirectory,
        body_join _ (isAbsolute_outputName _ format),
        body_join _ isRelative, form,
        Option.getD_some]

/-- Outputs are the same path only if they are the same file. -/
theorem converted_eq_of_components_eq
    (isMet : spot.IsMet)
    (otherMet : other.IsMet)
    (written : root.IsWritten)
    {directory : Option Path}
    {format : Format}
    (same : (outputOf root directory format (spot.path root)).components =
      (outputOf root directory format (other.path root)).components) :
    converted spot format = converted other format := by
  have sameBody := congrArg (List.filter Component.isInner) same
  rw [filter_isInner_components, filter_isInner_components,
    body_outputOf isMet written, body_outputOf otherMet written] at sameBody
  have sameNames := List.map_injective_iff.mpr (fun _ _ => Component.name.inj)
    (List.append_cancel_left sameBody)
  exact (isMet_converted isMet format).eq_of_names_eq
    (isMet_converted otherMet format) sameNames

/--
Only descriptions can be the output of several scripts, which have one
folder and one stem.
-/
theorem converted_eq_iff
    (isMet : spot.IsMet)
    (otherMet : other.IsMet)
    (differ : spot ≠ other)
    (format : Format) :
    converted spot format = converted other format ↔
      format = .json ∧ spot.folder = other.folder ∧ spot.stem = other.stem := by
  rw [Spot.ext_iff, folder_converted, folder_converted, suffix_converted,
    suffix_converted]
  cases format with
  | json => simp [converted]
  | xml =>
      refine iff_of_false ?_ (by simp)
      rintro ⟨sameFolder, sameName, -⟩
      refine differ (isMet.eq_of_names_eq otherMet ?_)
      have sameLast : spot.stem ++ "." ++ spot.suffix =
          other.stem ++ "." ++ other.suffix := sameName
      rw [Spot.names, Spot.names, sameFolder, sameLast]

/-- The parent of a spot is its folder below the root. -/
theorem parent?_path
    (isMet : spot.IsMet)
    (nonempty : root ≠ empty) :
    (spot.path root).parent? =
      some (trimmedEnd ⟨root.isAbsolute, root.base ++ spot.folder⟩) := by
  have isLast :=
    isMet.areNames _ (List.mem_append_right spot.folder List.mem_cons_self)
  have form : spot.path root =
      ⟨root.isAbsolute,
        root.base ++ spot.folder ++ [spot.stem ++ "." ++ spot.suffix]⟩ := by
    rw [Spot.path, join_ofNames nonempty isMet.areNames (by simp [Spot.names]),
      Spot.names, List.append_assoc]
  have someBody : (spot.path root).body ≠ [] := by
    simp [form, body, ofSegment?_of_isName isLast]
  have kept : dropFillersAtEnd
      (root.base ++ spot.folder ++ [spot.stem ++ "." ++ spot.suffix]) =
      root.base ++ spot.folder ++ [spot.stem ++ "." ++ spot.suffix] :=
    List.rdropWhile_concat_neg isFiller
      _ _ (by simp [isFiller_of_isName isLast])
  have trimmed := trimmedEnd_segments someBody
  simp only [form, kept] at trimmed
  simp only [parent?, form, trimmed]
  rw [if_neg (by simp), List.dropLast_concat]
  rfl

theorem stem?_path
    (isMet : spot.IsMet)
    (written : root.IsWritten) :
    (spot.path root).stem? = some spot.stem := by
  rw [stem?, fileName?_of_isBelow (isBelow_path isMet written), Option.map_some,
    isMet.splitName_last]

/--
Scripts of one folder and one stem are converted into the same description.
-/
theorem outputOf_json_eq
    (isMet : spot.IsMet)
    (otherMet : other.IsMet)
    (written : root.IsWritten)
    (directory : Option Path)
    (sameParent : (spot.path root).parent? = (other.path root).parent?)
    (sameStem : spot.stem = other.stem) :
    outputOf root directory .json (spot.path root) =
      outputOf root directory .json (other.path root) := by
  have sameName : outputName (spot.path root) .json =
      outputName (other.path root) .json := by
    rw [outputName_path isMet written, outputName_path otherMet written]
    simp only [converted, sameStem]
  simp only [outputOf, outputPath, outputDirectory, sameParent, sameName]

/-- An output is absolute exactly where its directory is. -/
theorem isAbsolute_outputOf
    (isMet : spot.IsMet)
    (written : root.IsWritten)
    (directory : Option Path)
    (format : Format) :
    (outputOf root directory format (spot.path root)).isAbsolute =
      (directory.getD root).isAbsolute := by
  have isBelow := isBelow_path isMet written
  rw [outputOf, outputPath, isAbsolute_join _ (isAbsolute_outputName _ format)]
  cases directory with
  | none =>
      obtain ⟨parent, isParent, parentBelow, -⟩ :=
        exists_parent_of_isBelow isBelow
      rw [Option.map_none, Option.getD_none, isParent]
      exact parentBelow.sameKind
  | some directory =>
      obtain ⟨relative, isDirectory, isRelative, -⟩ :=
        exists_outputDirectory written isBelow directory
      rw [Option.map_some, Option.getD_some, isDirectory]
      exact isAbsolute_join directory isRelative

/-- Names lead down, one below the other. -/
theorem foldl_descend_names
    (here : Location)
    (names : List String) :
    (names.map Component.name).foldl FileSystem.Leads.descend here =
      here ++ names := by
  induction names generalizing here with
  | nil => exact (List.append_nil here).symm
  | cons name rest inductionHypothesis =>
      rw [List.map_cons, List.foldl_cons, inductionHypothesis]
      exact List.append_assoc here [name] rest

/--
Where there are no links, outputs lead to the same location only if they
are the same file.
-/
theorem converted_eq_of_location_eq
    (isMet : spot.IsMet)
    (otherMet : other.IsMet)
    (written : root.IsWritten)
    {directory : Option Path}
    {format : Format}
    {fileSystem : FileSystem}
    (noLinks :
      ∀ location target, fileSystem.entry? location ≠ some (.link target))
    {purpose : FileSystem.Purpose}
    {location : Location}
    (located : fileSystem.location purpose
      (outputOf root directory format (spot.path root)) =
      .ok location)
    (otherLocated : fileSystem.location purpose
      (outputOf root directory format (other.path root)) =
      .ok location) :
    converted spot format = converted other format := by
  have isLocation {spot : Spot} (isMet : spot.IsMet)
      (located : fileSystem.location purpose
        (outputOf root directory format (spot.path root)) =
        .ok location) :
      location = ((directory.getD root).body.foldl FileSystem.Leads.descend
        (if (directory.getD root).isAbsolute then
            []
          else
            fileSystem.working)) ++
          (converted spot format).names := by
    obtain ⟨-, leads⟩ := FileSystem.location_eq_ok_iff.mp located
    have isEnd := leads.eq_foldl_descend noLinks
    rwa [← body, body_outputOf isMet written, List.foldl_append,
      foldl_descend_names, FileSystem.startOf,
      isAbsolute_outputOf isMet written] at isEnd
  have sameNames := List.append_cancel_left
    ((isLocation isMet located).symm.trans (isLocation otherMet otherLocated))
  exact (isMet_converted isMet format).eq_of_names_eq
    (isMet_converted otherMet format) sameNames

end

/--
Two scripts go into one description: they stand in one directory
and have one stem.
-/
structure Collides
    (format : Format)
    (left right : Path) : Prop where
  isJson : format = .json
  sameParent : left.parent? = right.parent?
  sameStem : left.stem? = right.stem?

/--
Two scripts below a root have different outputs, which are different files where
there are no links, unless they go into one description.
-/
theorem outputs_differ_unless_scripts_collide
    {fileSystem : FileSystem}
    (tree : fileSystem.IsTree)
    {root : String}
    (isDirectory : fileSystem.isDirectory (Path.ofText root) = true)
    (extension : String)
    (directory : Option Path)
    (format : Format) :
    ∃ scripts,
      collect fileSystem (Path.ofText root) extension = .ok scripts ∧
        scripts.Nodup ∧
        ∀ left ∈ scripts, ∀ right ∈ scripts, left ≠ right →
          let leftOutput := outputOf (Path.ofText root) directory format left
          let rightOutput := outputOf (Path.ofText root) directory format right
          (Collides format left right → leftOutput = rightOutput) ∧
            (leftOutput.components = rightOutput.components →
              Collides format left right) ∧
              ∀ later : FileSystem,
                (∀ location target,
                  later.entry? location ≠ some (.link target)) →
                  ∀ purpose location,
                    later.location purpose leftOutput = .ok location →
                    later.location purpose rightOutput = .ok location →
                      Collides format left right := by
  obtain ⟨location, isRoot⟩ := exists_isRoot isDirectory
  refine ⟨_, collect_eq isRoot extension,
    nodup_scriptsBelow tree isRoot extension, ?_⟩
  intro left leftMember right rightMember differ
  obtain ⟨spot, isScript, rfl⟩ :=
    (mem_scriptsBelow_iff tree isRoot).mp leftMember
  obtain ⟨other, isOther, rfl⟩ :=
    (mem_scriptsBelow_iff tree isRoot).mp rightMember
  have isMet := isScript.isMet tree
  have otherMet := isOther.isMet tree
  have otherSpot : spot ≠ other :=
    fun same => differ (congrArg (Spot.path · _) same)
  have collides (same : converted spot format = converted other format) :
      Collides format (spot.path (Path.ofText root))
        (other.path (Path.ofText root)) := by
    obtain ⟨isJson, sameFolder, sameStem⟩ :=
      (converted_eq_iff isMet otherMet otherSpot format).mp same
    refine ⟨isJson, ?_, ?_⟩
    · rw [parent?_path isMet isRoot.ne_empty,
        parent?_path otherMet isRoot.ne_empty, sameFolder]
    · rw [stem?_path isMet isRoot.written,
        stem?_path otherMet isRoot.written, sameStem]
  refine ⟨fun collision => ?_, fun same => ?_,
    fun later noLinks purpose place located isOther => ?_⟩
  · obtain ⟨rfl, sameParent, sameStem⟩ := collision
    rw [stem?_path isMet isRoot.written, stem?_path otherMet isRoot.written,
      Option.some.injEq] at sameStem
    exact outputOf_json_eq isMet otherMet isRoot.written directory
      sameParent sameStem
  · exact collides
      (converted_eq_of_components_eq isMet otherMet isRoot.written same)
  · exact collides
      (converted_eq_of_location_eq isMet otherMet isRoot.written noLinks
        located isOther)

/-- A directory at the top of a file system is a root. -/
theorem isRoot_of_entry
    {fileSystem : FileSystem}
    (startsAtTop : fileSystem.working = [])
    (isDirectory : fileSystem.entry? ["root"] = some .directory) :
    IsRoot fileSystem (Path.ofText "root") ["root"] := by
  have form : Path.ofText "root" = ⟨false, ["root"]⟩ := by decide
  have isStep : fileSystem.IsStep [] "root" :=
    ⟨rfl, by decide, by decide, by decide⟩
  refine ⟨isWritten_ofText "root", ?_, isDirectory⟩
  rw [form, FileSystem.location_eq_ok_iff, FileSystem.startOf, startsAtTop]
  exact ⟨by decide,
    .entry isStep (FileSystem.looksUp_use _) isDirectory (by simp) .here⟩

/-- The scripts `a.ES` and `a.es` go into one description. -/
theorem outputs_of_two_spellings_coincide :
    sample.IsTree ∧ sample.isDirectory (Path.ofText "root") = true ∧
      ∃ scripts, collect sample (Path.ofText "root") "es" = .ok scripts ∧
        Path.ofText "root/a.ES" ∈ scripts ∧ Path.ofText "root/a.es" ∈ scripts ∧
          outputOf (Path.ofText "root") none .json (Path.ofText "root/a.ES") =
            outputOf (Path.ofText "root") none .json
              (Path.ofText "root/a.es") := by
  obtain ⟨scripts, collected, -, outputs⟩ :=
    outputs_differ_unless_scripts_collide sample_isTree isDirectory_sample
      "es" none .json
  have isRoot : IsRoot sample (Path.ofText "root") ["root"] :=
    isRoot_of_entry rfl rfl
  have upper : IsScript sample ["root"] "es" ⟨[], "a", "ES"⟩ :=
    ⟨⟨by decide, ⟨_, rfl⟩, by decide⟩, by decide, by decide⟩
  have lower : IsScript sample ["root"] "es" ⟨[], "a", "es"⟩ :=
    ⟨⟨by decide, ⟨_, rfl⟩, by decide⟩, by decide, by decide⟩
  have isScripts :=
    Except.ok.inj ((collect_eq isRoot "es").symm.trans collected)
  have upperMember : Path.ofText "root/a.ES" ∈ scripts := by
    rw [← isScripts]
    exact (mem_scriptsBelow_iff sample_isTree isRoot).mpr ⟨_, upper, by decide⟩
  have lowerMember : Path.ofText "root/a.es" ∈ scripts := by
    rw [← isScripts]
    exact (mem_scriptsBelow_iff sample_isTree isRoot).mpr ⟨_, lower, by decide⟩
  refine ⟨sample_isTree, isDirectory_sample, scripts, collected, upperMember,
    lowerMember, ?_⟩
  have collision :
      Collides .json (Path.ofText "root/a.ES") (Path.ofText "root/a.es") :=
    ⟨rfl, by decide, by decide⟩
  exact (outputs _ upperMember _ lowerMember (by decide)).1 collision

end Conversion

end Eisen
