import Eisen.Proofs.Conversion.Runs

namespace Eisen.Conversion

/-!
# What converting one file changes

A file that cannot be read or converted leaves no trace. A converted one changes
the file to which its output leads, and all else that is new are directories:
the output directory and those above it, as far as they were missing.
-/

open Storage

/-- A file is converted exactly where it can be read and its text converted. -/
theorem convertedText_eq_ok_iff
    {fileSystem : FileSystem}
    {input : Path}
    {format : Format}
    {text : String} :
    convertedText fileSystem input format = .ok text ↔
      ∃ source, fileSystem.readText input = .ok source ∧
        convert source input.stem? format = .ok text := by
  unfold convertedText
  split
  · next fault isFault => simp [isFault]
  · next source isRead =>
      simp only [isRead, Except.ok.injEq, exists_eq_left']
      cases convert source input.stem? format <;> simp [Except.mapError]

/--
A location is as it was, or it was vacant and is a directory now, to which the
output directory leads or one above it.
-/
def IsKeptOrMade
    (earlier : FileSystem)
    (directory : Option Path)
    (later : FileSystem)
    (location : Location) : Prop :=
  later.entry? location = earlier.entry? location ∨
    earlier.entry? location = none ∧ later.entry? location = some .directory ∧
      ∃ named ∈ directory, ∃ above : Path,
        above.IsAbove named ∧ later.location .use above = .ok location

section

variable
  {earlier prepared later : FileSystem}
  {directory : Option Path}

/--
Preparing an output directory keeps every location or makes a directory on the
way.
-/
theorem Prepares.isKeptOrMade
    (prepares : Prepares earlier directory later)
    (location : Location) :
    IsKeptOrMade earlier directory later location := by
  rcases prepares.growth.entries location with same | ⟨isVacant, isDirectory⟩
  · exact .inl same
  · exact .inr ⟨isVacant, isDirectory,
      prepares.made location isVacant isDirectory⟩

/-- Writing a file leaves what was prepared, and the ways that lead there. -/
theorem Prepares.isKeptOrMade_of_writes
    (prepares : Prepares earlier directory prepared)
    {output : Path}
    {content : Content}
    {target : Location}
    (writes : prepared.Writes output content target later)
    {location : Location}
    (elsewhere : location ≠ target) :
    IsKeptOrMade earlier directory later location := by
  have same := writes.others location elsewhere
  rcases prepares.isKeptOrMade location with
    isKept | ⟨isVacant, isDirectory, named, isNamed, above, isAbove, located⟩
  · exact .inl (same.trans isKept)
  · have isDirectory := same.trans isDirectory
    exact .inr ⟨isVacant, isDirectory, named, isNamed, above, isAbove,
      FileSystem.location_use_of_directory writes.growth
        (by simp) located isDirectory⟩

end

/--
Where a file cannot be read or converted, nothing has changed. Where it is
converted, the answer is the path of the output, the file to which that path
leads holds the converted text, and all else is as it was, apart from new
directories among the output directory and those above it. Where the output
cannot be written, only such directories are new.
-/
theorem convertFile_changes_output_only
    {fileSystem : FileSystem}
    (nested : fileSystem.IsNested)
    (input : Path)
    (directory : Option Path)
    (format : Format) :
    (∀ fault, fileSystem.readText input = .error fault →
        convertFile fileSystem input directory format =
          (fileSystem, .error (.unread input fault))) ∧
      (∀ source fault, fileSystem.readText input = .ok source →
        convert source input.stem? format = .error fault →
          convertFile fileSystem input directory format =
            (fileSystem, .error (.refused input fault))) ∧
      (∀ later fault,
        convertFile fileSystem input directory format = (later, .error fault) →
        later.working = fileSystem.working ∧
          ∀ other, IsKeptOrMade fileSystem directory later other) ∧
      ∀ later output,
        convertFile fileSystem input directory format = (later, .ok output) →
        output = outputPath input directory format ∧
          ∃ source text location,
            fileSystem.readText input = .ok source ∧
              convert source input.stem? format = .ok text ∧
              later.location .use output = .ok location ∧
              later.content output = .ok (.ofText text) ∧
              later.working = fileSystem.working ∧
              ∀ other, other ≠ location →
                IsKeptOrMade fileSystem directory later other := by
  have step := step_convertFile nested input directory format
  refine ⟨fun fault isFault => ?_, fun source fault isRead isRefused => ?_,
    fun later fault outcome => ?_, fun later output outcome => ?_⟩
  · simp only [convertFile, convertedText, isFault]
  · simp only [convertFile, convertedText, isRead, isRefused, Except.mapError]
  · rw [outcome] at step
    cases step with
    | failed prepares => exact ⟨prepares.growth.working, prepares.isKeptOrMade⟩
  · rw [outcome] at step
    cases step with
    | @written prepared _ text location isConverted prepares writes =>
        obtain ⟨source, isRead, isText⟩ :=
          convertedText_eq_ok_iff.mp isConverted
        have located := FileSystem.location_use_of_extends writes.growth
          writes.located writes.isFile
        refine ⟨rfl, source, text, location, isRead, isText, located, ?_,
          writes.growth.working.trans prepares.growth.working,
          fun other elsewhere =>
            prepares.isKeptOrMade_of_writes writes elsewhere⟩
        rw [FileSystem.content, located]
        simp only [writes.isFile]

/-- A script, and a link to a directory. -/
def linked : FileSystem where
  entries :=
    [(["a.es"], .file (.ofText "box")), (["store"], .directory),
      (["link"], .link (Path.ofNames ["store"]))]
  working := []

/-- The same behind making a directory behind the link. -/
def linkedPrepared : FileSystem :=
  linked.set ["store", "out"] .directory

theorem linked_isTree : linked.IsTree := by
  decide

/-- A directory behind a link is made where the link leads. -/
theorem makeDirectories_linked :
    linked.makeDirectories (Path.ofText "link/out") =
      (linkedPrepared, .ok ()) := by
  have form : Path.ofText "link/out" = ⟨false, ["link", "out"]⟩ := by decide
  have toLink : linked.IsStep [] "link" :=
    ⟨by decide, by decide, by decide, by decide⟩
  have toStore : linked.IsStep [] "store" :=
    ⟨by decide, by decide, by decide, by decide⟩
  have toOut : linked.IsStep ["store"] "out" :=
    ⟨by decide, by decide, by decide, by decide⟩
  have located : linked.location .occupy ⟨false, ["link", "out"]⟩ =
      .ok ["store", "out"] := by
    refine FileSystem.location_eq_ok_iff.mpr ⟨by decide, ?_⟩
    exact .link toLink ⟨by decide, by simp⟩ rfl (by simp)
      (.entry toStore ⟨by decide, by simp⟩ rfl (by simp)
        (.occupied toOut rfl rfl))
  have made :
      linked.makeDirectory ⟨false, ["link", "out"]⟩ = .ok linkedPrepared := by
    rw [FileSystem.makeDirectory, located]
    rfl
  rw [form, FileSystem.makeDirectories, if_neg (by decide), made]

/-- A file behind a link is written where the link leads. -/
theorem write_linkedPrepared (text : String) :
    linkedPrepared.write (Path.ofText "link/out/a.es.xml") (.ofText text) =
      .ok (linkedPrepared.set ["store", "out", "a.es.xml"]
        (.file (.ofText text))) := by
  have form : Path.ofText "link/out/a.es.xml" =
      ⟨false, ["link", "out", "a.es.xml"]⟩ := by
    decide
  have toLink : linkedPrepared.IsStep [] "link" :=
    ⟨by decide, by decide, by decide, by decide⟩
  have toStore : linkedPrepared.IsStep [] "store" :=
    ⟨by decide, by decide, by decide, by decide⟩
  have toOut : linkedPrepared.IsStep ["store"] "out" :=
    ⟨by decide, by decide, by decide, by decide⟩
  have toFile : linkedPrepared.IsStep ["store", "out"] "a.es.xml" :=
    ⟨by decide, by decide, by decide, by decide⟩
  have located :
      linkedPrepared.location .write ⟨false, ["link", "out", "a.es.xml"]⟩ =
      .ok ["store", "out", "a.es.xml"] := by
    refine FileSystem.location_eq_ok_iff.mpr ⟨by decide, ?_⟩
    exact .link toLink ⟨by simp, by decide⟩ rfl (by simp)
      (.entry toStore ⟨by simp, by decide⟩ rfl (by simp)
        (.entry toOut ⟨by simp, by decide⟩ rfl (by simp)
          (.vacant toFile ⟨by simp, by decide⟩ rfl rfl)))
  rw [form, FileSystem.write, located]
  rfl

theorem readText_linked : linked.readText (Path.ofText "a.es") = .ok "box" := by
  have form : Path.ofText "a.es" = ⟨false, ["a.es"]⟩ := by decide
  have toScript : linked.IsStep [] "a.es" :=
    ⟨by decide, by decide, by decide, by decide⟩
  have located : linked.location .use ⟨false, ["a.es"]⟩ = .ok ["a.es"] := by
    refine FileSystem.location_eq_ok_iff.mpr ⟨by decide, ?_⟩
    exact .entry toScript (FileSystem.looksUp_use _) rfl (by simp) .here
  rw [form, FileSystem.readText, FileSystem.content, located]
  rfl

/-- The conversion goes through the link and writes its output behind it. -/
theorem exists_convertFile_linked :
    ∃ text, convertFile linked (Path.ofText "a.es")
      (some (Path.ofText "link/out")) .xml =
      (linkedPrepared.set ["store", "out", "a.es.xml"] (.file (.ofText text)),
        .ok (Path.ofText "link/out/a.es.xml")) := by
  obtain ⟨ruleSet, accepted⟩ := exists_ruleSet_of_box
  have isConverted : convertedText linked (Path.ofText "a.es") .xml =
      .ok (render (Path.ofText "a.es").stem? ruleSet .xml) := by
    refine convertedText_eq_ok_iff.mpr ⟨"box", readText_linked, ?_⟩
    rw [convert, accepted]
    rfl
  have output :
      outputPath (Path.ofText "a.es") (some (Path.ofText "link/out")) .xml =
      Path.ofText "link/out/a.es.xml" := by
    decide
  refine ⟨render (Path.ofText "a.es").stem? ruleSet .xml, ?_⟩
  simp only [convertFile, isConverted, prepare, makeDirectories_linked,
    Except.mapError, output, write_linkedPrepared]

/-- Behind a link one directory is made and one file is written. -/
theorem convertFile_changes_output_behind_link :
    linked.IsNested ∧ ∃ later,
      convertFile linked (Path.ofText "a.es")
        (some (Path.ofText "link/out")) .xml =
          (later, .ok (Path.ofText "link/out/a.es.xml")) ∧
        linked.entry? ["store", "out"] = none ∧
        later.entry? ["store", "out"] = some .directory ∧
        ∃ text location,
          convert "box" (some "a") .xml = .ok text ∧
            later.location .use (Path.ofText "link/out/a.es.xml") =
              .ok location ∧
            later.content (Path.ofText "link/out/a.es.xml") =
              .ok (.ofText text) ∧
            ∀ other, other ≠ location →
              IsKeptOrMade linked
                (some (Path.ofText "link/out")) later other := by
  obtain ⟨written, outcome⟩ := exists_convertFile_linked
  have changes :=
    convertFile_changes_output_only linked_isTree.isNested (Path.ofText "a.es")
    (some (Path.ofText "link/out")) .xml
  obtain ⟨-, source, text, location, isRead, isText, located, holds,
      -, frame⟩ :=
    changes.2.2.2 _ _ outcome
  obtain rfl : "box" = source :=
    Except.ok.inj (readText_linked.symm.trans isRead)
  have isStem : (Path.ofText "a.es").stem? = some "a" := by decide
  rw [isStem] at isText
  exact ⟨linked_isTree.isNested, _, outcome, rfl, rfl, text, location, isText,
    located, holds, frame⟩

end Eisen.Conversion
