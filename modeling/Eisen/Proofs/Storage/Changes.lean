import Eisen.Proofs.Storage.Resolution
import Eisen.Storage.Directories

namespace Eisen

/-!
# What writing and making directories change

Writing a file changes what stands at one location, which was vacant or a
file before, and making directories puts directories at vacant locations.
Neither touches a directory or a link, so a path that once led to a file
leads there for good.
-/

namespace FileSystem

open Storage

/-- What writing and making directories leave as it is. -/
structure Extends (earlier later : FileSystem) : Prop where
  working : later.working = earlier.working
  directories : ∀ location,
    earlier.entry? location = some .directory →
      later.entry? location = some .directory
  links : ∀ location target,
    later.entry? location = some (.link target) ↔
      earlier.entry? location = some (.link target)
  files : ∀ location content, earlier.entry? location = some (.file content) →
    ∃ laterContent, later.entry? location = some (.file laterContent)

namespace Extends

variable {earlier between later : FileSystem}

/-- Every file system extends itself. -/
theorem refl (fileSystem : FileSystem) : fileSystem.Extends fileSystem :=
  ⟨rfl, fun _ => id, fun _ _ => Iff.rfl,
    fun _ content isFile => ⟨content, isFile⟩⟩

/-- Extending is transitive. -/
theorem trans
    (first : earlier.Extends between)
    (second : between.Extends later) :
    earlier.Extends later where
  working := second.working.trans first.working
  directories location isDirectory :=
    second.directories location (first.directories location isDirectory)
  links location target :=
    (second.links location target).trans (first.links location target)
  files location content isFile := by
    obtain ⟨other, isOther⟩ := first.files location content isFile
    exact second.files location other isOther

/-- Directories stay directories. -/
theorem isDirectoryAt
    (growth : earlier.Extends later)
    {location : Location}
    (isDirectory : earlier.isDirectoryAt location = true) :
    later.isDirectoryAt location = true :=
  isDirectoryAt_iff.mpr
    (growth.directories location (isDirectoryAt_iff.mp isDirectory))

/-- A step that could be taken can be taken later. -/
theorem isStep
    (growth : earlier.Extends later)
    {here : Location}
    {name : String}
    (isStep : earlier.IsStep here name) :
    later.IsStep here name :=
  ⟨growth.isDirectoryAt isStep.isDirectory, isStep.noFiller, isStep.noParent,
    isStep.short⟩

theorem startOf
    (growth : earlier.Extends later)
    (path : Path) :
    later.startOf path = earlier.startOf path := by
  rw [FileSystem.startOf, FileSystem.startOf, growth.working]

/-- Where there was a file or a directory, there is one later. -/
theorem exists_entry
    (growth : earlier.Extends later)
    {location : Location}
    {entry : Entry}
    (found : earlier.entry? location = some entry)
    (noLink : ∀ target, entry ≠ .link target) :
    ∃ laterEntry, later.entry? location = some laterEntry ∧
      ∀ target, laterEntry ≠ .link target := by
  cases entry with
  | directory => exact ⟨.directory, growth.directories location found, by simp⟩
  | file content =>
      obtain ⟨other, isOther⟩ := growth.files location content found
      exact ⟨.file other, isOther, by simp⟩
  | link target => exact absurd rfl (noLink target)

end Extends

/-- Slashes behind a directory lead nowhere else. -/
theorem leads_of_onlySlashes
    {fileSystem : FileSystem}
    {links : Nat}
    {here : Location}
    {rest : List String}
    (onlySlashes : rest.all (· == "") = true)
    (isDirectory : rest ≠ [] → fileSystem.isDirectoryAt here = true) :
    Leads fileSystem .use links here rest here := by
  induction rest with
  | nil => exact .here
  | cons segment others inductionHypothesis =>
      rw [List.all_cons, Bool.and_eq_true, beq_iff_eq] at onlySlashes
      obtain ⟨rfl, onlySlashes⟩ := onlySlashes
      have isDirectory := isDirectory (List.cons_ne_nil _ _)
      exact .filler isDirectory rfl
        (inductionHypothesis onlySlashes fun _ => isDirectory)

/--
The way to a new entry stays open. Slashes may stand behind the name of
a directory only.
-/
theorem Leads.extend
    {earlier later : FileSystem}
    {purpose : Purpose}
    {links : Nat}
    {here last : Location}
    {segments : List String}
    (growth : earlier.Extends later)
    (leads : Leads earlier purpose links here segments last)
    (follows : purpose ≠ .inspect)
    {entry : Entry}
    (found : later.entry? last = some entry)
    (noLink : ∀ target, entry ≠ .link target)
    (slashed : purpose = .write ∨ entry = .directory) :
    Leads later .use links here segments last := by
  induction leads with
  | here => exact .here
  | filler isDirectory isFiller next inductionHypothesis =>
      exact .filler (growth.isDirectoryAt isDirectory) isFiller
        (inductionHypothesis found)
  | parent isDirectory next inductionHypothesis =>
      exact .parent (growth.isDirectoryAt isDirectory)
        (inductionHypothesis found)
  | occupied isStep isLast occupies =>
      have isDirectory : entry = .directory := by
        rcases slashed with isWrite | isDirectory
        · rw [isWrite] at occupies
          cases occupies
        · exact isDirectory
      refine .entry (growth.isStep isStep) (looksUp_use _) found noLink
        (leads_of_onlySlashes isLast fun _ => isDirectoryAt_iff.mpr ?_)
      rw [found, isDirectory]
  | @vacant _ _ _ rest isStep looksUp isLast isVacant =>
      refine .entry (growth.isStep isStep) (looksUp_use _) found noLink
        (leads_of_onlySlashes isLast fun slashes => isDirectoryAt_iff.mpr ?_)
      -- No slash may stand behind the name of a file to write.
      have notWrite : purpose ≠ .write := fun isWrite =>
        looksUp.slashed ⟨isLast, by simpa using slashes, isWrite⟩
      rw [found, slashed.resolve_left notWrite]
  | inspected isStep isLink inspects => exact absurd inspects follows
  | link isStep looksUp isLink isFollowed next inductionHypothesis =>
      exact .link (growth.isStep isStep) (looksUp_use _)
        ((growth.links _ _).mpr isLink) (by simp)
        (inductionHypothesis found)
  | entry isStep looksUp isEntry isNoLink next inductionHypothesis =>
      obtain ⟨laterKind, laterFound, laterNoLink⟩ :=
        growth.exists_entry isEntry isNoLink
      exact .entry (growth.isStep isStep) (looksUp_use _) laterFound laterNoLink
        (inductionHypothesis found)

section

variable
  {earlier later : FileSystem}
  (growth : earlier.Extends later)
  {path : Path}
  {location : Location}

include growth

/-- A path that has been written to leads to its file. -/
theorem location_use_of_extends
    (located : earlier.location .write path = .ok location)
    {content : Content}
    (isFile : later.entry? location = some (.file content)) :
    later.location .use path = .ok location := by
  obtain ⟨accepted, leads⟩ := location_eq_ok_iff.mp located
  refine location_eq_ok_iff.mpr ⟨accepted, ?_⟩
  rw [growth.startOf]
  exact leads.extend growth (by simp) isFile (by simp) (.inl rfl)

/-- A path that leads to a directory goes on leading there. -/
theorem location_use_of_directory
    {purpose : Purpose}
    (follows : purpose ≠ .inspect)
    (located : earlier.location purpose path = .ok location)
    (isDirectory : later.entry? location = some .directory) :
    later.location .use path = .ok location := by
  obtain ⟨accepted, leads⟩ := location_eq_ok_iff.mp located
  refine location_eq_ok_iff.mpr ⟨accepted, ?_⟩
  rw [growth.startOf]
  exact leads.extend growth follows isDirectory (by simp) (.inr rfl)

end

/-! Putting an entry at a location. -/

section

variable {fileSystem : FileSystem} {location : Location} {entry : Entry}

theorem entry?_set_self
    (below : location ≠ [])
    (entry : Entry) :
    entry? (fileSystem.set location entry) location = some entry := by
  unfold FileSystem.entry?
  rw [if_neg (by simpa using below), set, List.lookup_cons_self]

theorem lookup_filter_of_ne
    {other : Location}
    (differs : other ≠ location)
    (entries : List (Location × Entry)) :
    (entries.filter fun item => item.1 != location).lookup other =
      entries.lookup other := by
  induction entries with
  | nil => rfl
  | cons item rest inductionHypothesis =>
      obtain ⟨place, kind⟩ := item
      by_cases isPlace : place = location
      · have otherPlace : (other == place) = false := by
          simpa [isPlace] using differs
        rw [List.filter_cons_of_neg (by simpa using isPlace),
          inductionHypothesis, List.lookup_cons, otherPlace]
      · rw [List.filter_cons_of_pos (by simpa using isPlace), List.lookup_cons,
          List.lookup_cons, inductionHypothesis]

/-- Setting an entry keeps the others. -/
theorem entry?_set_of_ne
    {other : Location}
    (differs : other ≠ location)
    (entry : Entry) :
    entry? (fileSystem.set location entry) other = fileSystem.entry? other := by
  have otherPlace : (other == location) = false := by simpa using differs
  unfold FileSystem.entry?
  rw [set, List.lookup_cons, otherPlace]
  dsimp only
  rw [lookup_filter_of_ne differs]

/-- Setting a file or a new directory extends a file system. -/
theorem extends_set
    (below : location ≠ [])
    (noDirectory : fileSystem.entry? location ≠ some .directory)
    (noLink : ∀ target, fileSystem.entry? location ≠ some (.link target))
    (entryNoLink : ∀ target, entry ≠ .link target)
    (staysFile : ∀ content, fileSystem.entry? location = some (.file content) →
      ∃ laterContent, entry = .file laterContent) :
    fileSystem.Extends (fileSystem.set location entry) := by
  have isSet : entry? (fileSystem.set location entry) location = some entry :=
    entry?_set_self below entry
  refine ⟨rfl, fun place isDirectory => ?_, fun place target => ?_,
    fun place content isFile => ?_⟩
  · rwa [entry?_set_of_ne]
    rintro rfl
    exact noDirectory isDirectory
  · by_cases isPlace : place = location
    · subst isPlace
      rw [isSet]
      refine iff_of_false
        (fun same => entryNoLink target (Option.some.inj same)) (noLink target)
    · rw [entry?_set_of_ne isPlace]
  · by_cases isPlace : place = location
    · subst isPlace
      obtain ⟨laterContent, rfl⟩ := staysFile content isFile
      exact ⟨laterContent, isSet⟩
    · exact ⟨content, by rwa [entry?_set_of_ne isPlace]⟩

/-- Setting an entry in a directory keeps the nesting. -/
theorem isNested_set
    (nested : fileSystem.IsNested)
    (inDirectory : fileSystem.isDirectoryAt location.dropLast = true)
    (growth : fileSystem.Extends (fileSystem.set location entry)) :
    (fileSystem.set location entry).IsNested := by
  intro place kind found
  apply growth.isDirectoryAt
  by_cases isPlace : place = location
  · rwa [isPlace]
  · rw [entry?_set_of_ne isPlace] at found
    exact nested place kind found

end

/-! Writing a file. -/

/-- A path leads to a place where resolution can end. -/
theorem isEnd_of_location
    {fileSystem : FileSystem}
    (nested : fileSystem.IsNested)
    {purpose : Purpose}
    {path : Path}
    {location : Location}
    (located : fileSystem.location purpose path = .ok location) :
    fileSystem.IsEnd purpose location := by
  obtain ⟨accepted, leads⟩ := location_eq_ok_iff.mp located
  refine leads.isEnd nested fun noSegments =>
    isEnd_of_isDirectoryAt nested ?_ purpose
  -- A path without segments is the top, since a path without a text is refused.
  have isAbsolute : path.isAbsolute = true := by
    by_contra isRelative
    have noText : path.text = "" := by simp [Path.text, isRelative, noSegments]
    rw [noText] at accepted
    cases accepted
  rw [startOf, if_pos isAbsolute]
  rfl

/-- What writing a file changes. -/
structure Writes
    (earlier : FileSystem)
    (path : Path)
    (content : Content)
    (location : Location)
    (later : FileSystem) : Prop where
  located : earlier.location .write path = .ok location
  isFile : later.entry? location = some (.file content)
  others : ∀ place, place ≠ location → later.entry? place = earlier.entry? place
  growth : earlier.Extends later
  nested : later.IsNested

/-- A write that succeeds puts its content at the place where its path leads. -/
theorem exists_writes
    {earlier later : FileSystem}
    (nested : earlier.IsNested)
    {path : Path}
    {content : Content}
    (written : earlier.write path content = .ok later) :
    ∃ location, Writes earlier path content location later := by
  unfold write at written
  split at written
  · cases written
  · next location located =>
      split at written
      · cases written
      · next noDirectory =>
          obtain rfl := Except.ok.inj written
          rw [isDirectoryAt_iff] at noDirectory
          have isEnd := isEnd_of_location nested located
          have below : location ≠ [] := by
            rintro rfl
            exact noDirectory rfl
          have growth :
              earlier.Extends (earlier.set location (.file content)) :=
            extends_set below noDirectory (isEnd.noLink (.inr rfl)) (by simp)
              fun _ _ => ⟨_, rfl⟩
          exact ⟨location, {
            located
            isFile := entry?_set_self below _
            others := fun place differs => entry?_set_of_ne differs _
            growth
            nested := isNested_set nested isEnd.inDirectory growth }⟩

/-! Making directories. -/

/-- Directories were put at vacant locations. -/
structure Grows (earlier later : FileSystem) : Prop where
  working : later.working = earlier.working
  entries : ∀ location, later.entry? location = earlier.entry? location ∨
    earlier.entry? location = none ∧ later.entry? location = some .directory
  nested : earlier.IsNested → later.IsNested

namespace Grows

variable {earlier between later : FileSystem}

/-- A file system may grow by nothing. -/
theorem refl (fileSystem : FileSystem) : fileSystem.Grows fileSystem :=
  ⟨rfl, fun _ => .inl rfl, id⟩

/-- Growing is transitive. -/
theorem trans
    (first : earlier.Grows between)
    (second : between.Grows later) :
    earlier.Grows later where
  working := second.working.trans first.working
  nested := second.nested ∘ first.nested
  entries location := by
    rcases second.entries location with same | ⟨vacant, made⟩
    · rw [same]
      exact first.entries location
    · rcases first.entries location with same | ⟨-, isDirectory⟩
      · exact .inr ⟨same ▸ vacant, made⟩
      · rw [isDirectory] at vacant
        cases vacant

/-- Growth keeps every entry. -/
theorem entry?_eq
    (growth : earlier.Grows later)
    {location : Location}
    {entry : Entry}
    (found : earlier.entry? location = some entry) :
    later.entry? location = some entry := by
  rcases growth.entries location with same | ⟨vacant, -⟩
  · rwa [same]
  · rw [found] at vacant
    cases vacant

theorem toExtends
    (growth : earlier.Grows later) :
    earlier.Extends later where
  working := growth.working
  directories _ isDirectory := growth.entry?_eq isDirectory
  files _ content isFile := ⟨content, growth.entry?_eq isFile⟩
  links location target := by
    refine ⟨fun isLink => ?_, growth.entry?_eq⟩
    rcases growth.entries location with same | ⟨-, isDirectory⟩
    · rwa [same] at isLink
    · rw [isDirectory] at isLink
      cases isLink

end Grows

/-- What making a directory changes. -/
structure Makes
    (earlier : FileSystem)
    (path : Path)
    (location : Location)
    (later : FileSystem) : Prop where
  located : earlier.location .occupy path = .ok location
  isVacant : earlier.entry? location = none
  isDirectory : later.entry? location = some .directory
  others : ∀ place, place ≠ location → later.entry? place = earlier.entry? place
  growth : earlier.Grows later

/-- A directory that is made stands where its path leads. -/
theorem exists_makes
    {earlier later : FileSystem}
    {path : Path}
    (made : earlier.makeDirectory path = .ok later) :
    ∃ location, Makes earlier path location later := by
  unfold makeDirectory at made
  split at made
  · cases made
  · next location located =>
      split at made
      · cases made
      · next isVacant =>
          obtain rfl := Except.ok.inj made
          have vacant : earlier.entry? location = none := by
            simpa using isVacant
          have below : location ≠ [] := by
            rintro rfl
            cases vacant
          have extension : earlier.Extends (earlier.set location .directory) :=
            extends_set below (by simp [vacant]) (by simp [vacant]) (by simp)
              (by simp [vacant])
          have others (place : Location) (differs : place ≠ location) :
              entry? (earlier.set location .directory) place =
                earlier.entry? place :=
            entry?_set_of_ne differs _
          refine ⟨location, located, vacant, entry?_set_self below _, others,
            ⟨rfl, fun place => ?_, fun nested => ?_⟩⟩
          · by_cases isPlace : place = location
            · subst isPlace
              exact .inr ⟨vacant, entry?_set_self below _⟩
            · exact .inl (others place isPlace)
          · exact isNested_set nested
              (isEnd_of_location nested located).inDirectory extension

end FileSystem

/-- A path is another one, or stands above it. -/
inductive Path.IsAbove : Path → Path → Prop
  | self {path : Path} : IsAbove path path
  | parent
      {above parent path : Path}
      (isParent : path.parent? = some parent)
      (isAbove : IsAbove above parent) :
      IsAbove above path

namespace FileSystem

open Storage

/--
Directories were put at vacant locations to which a path leads, or one above it.
-/
structure Prepares
    (earlier : FileSystem)
    (path : Path)
    (later : FileSystem) : Prop where
  growth : earlier.Grows later
  made : ∀ location,
    earlier.entry? location = none → later.entry? location = some .directory →
    ∃ above : Path,
      above.IsAbove path ∧ later.location .use above = .ok location

namespace Prepares

variable {earlier between later : FileSystem} {path parent : Path}

/-- A path may need no directory to be made. -/
theorem refl
    (fileSystem : FileSystem)
    (path : Path) :
    fileSystem.Prepares path fileSystem := by
  refine ⟨.refl fileSystem, fun location isVacant isDirectory => ?_⟩
  rw [isVacant] at isDirectory
  cases isDirectory

theorem ofParent
    (prepares : earlier.Prepares parent later)
    (isParent : path.parent? = some parent) :
    earlier.Prepares path later := by
  refine ⟨prepares.growth, fun location isVacant isDirectory => ?_⟩
  obtain ⟨above, isAbove, located⟩ :=
    prepares.made location isVacant isDirectory
  exact ⟨above, .parent isParent isAbove, located⟩

/-- After the directories above a path the last one is made. -/
theorem makes
    (prepares : earlier.Prepares path between)
    {location : Location}
    (makes : Makes between path location later) :
    earlier.Prepares path later := by
  refine ⟨prepares.growth.trans makes.growth,
    fun place isVacant isDirectory => ?_⟩
  have extension := makes.growth.toExtends
  by_cases isPlace : place = location
  · subst isPlace
    exact ⟨path, .self,
      location_use_of_directory extension (by simp) makes.located isDirectory⟩
  · have already : between.entry? place = some .directory := by
      rwa [← makes.others place isPlace]
    obtain ⟨above, isAbove, located⟩ := prepares.made place isVacant already
    exact ⟨above, isAbove,
      location_use_of_directory extension (by simp) located isDirectory⟩

end Prepares

theorem prepares_makeDirectories
    (fileSystem : FileSystem)
    (path : Path) :
    fileSystem.Prepares path (fileSystem.makeDirectories path).1 := by
  fun_induction makeDirectories fileSystem path with
  | case1 => exact .refl _ _
  | case2 path nonempty made isMade =>
      obtain ⟨location, makes⟩ := exists_makes isMade
      exact (Prepares.refl _ _).makes makes
  | case3 => exact .refl _ _
  | case4 path nonempty missing parent isParent made fault above
    inductionHypothesis =>
      rw [above] at inductionHypothesis
      exact inductionHypothesis.ofParent isParent
  | case5 path nonempty missing parent isParent made above complete isMade
    inductionHypothesis =>
      rw [above] at inductionHypothesis
      obtain ⟨location, makes⟩ := exists_makes isMade
      exact (inductionHypothesis.ofParent isParent).makes makes
  | case6 path nonempty missing parent isParent made above fault failed
    inductionHypothesis =>
      rw [above] at inductionHypothesis
      exact inductionHypothesis.ofParent isParent
  | case7 => exact .refl _ _

end FileSystem

end Eisen
