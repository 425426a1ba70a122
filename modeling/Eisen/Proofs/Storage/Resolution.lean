import Eisen.Proofs.Storage.Components
import Eisen.Proofs.Storage.Tree

namespace Eisen

/-!
# How a path leads to a location

A path is followed segment by segment, and so are the targets of the links on
its way. A way that comes to an end is written here as a derivation with one
constructor for each kind of step, so that what is known of its end follows by
induction on the way.
-/

namespace FileSystem

open Storage

/-- A segment is a name that can be looked up in a directory. -/
structure IsStep
    (fileSystem : FileSystem)
    (here : Location)
    (name : String) : Prop where
  isDirectory : fileSystem.isDirectoryAt here = true
  noFiller : ¬ Path.isFiller name = true
  noParent : name ≠ ".."
  short : ¬ nameLimit < name.utf8ByteSize

/-- A step goes by a name. -/
theorem IsStep.ofSegment?
    {fileSystem : FileSystem}
    {here : Location}
    {name : String}
    (isStep : fileSystem.IsStep here name) :
    Path.Component.ofSegment? name = some (.name name) := by
  rw [Path.Component.ofSegment?, if_neg isStep.noFiller, if_neg isStep.noParent]

/-- What stands at a name decides how the way goes on behind it. -/
structure Purpose.LooksUp
    (purpose : Purpose)
    (rest : List String) : Prop where
  occupies : ¬ (rest.all (· == "") = true ∧ purpose = .occupy)
  slashed : ¬ (rest.all (· == "") = true ∧ (!rest.isEmpty) = true ∧
    purpose = .write)

theorem looksUp_use (rest : List String) : Purpose.LooksUp .use rest :=
  ⟨by simp, by simp⟩

/--
A way along segments, on which no more than some number of links is followed.
-/
inductive Leads
    (fileSystem : FileSystem)
    (purpose : Purpose) :
    Nat → Location → List String → Location → Prop
  | here
      {links : Nat}
      {here : Location} :
      Leads fileSystem purpose links here [] here
  | filler
      {links : Nat}
      {here last : Location}
      {segment : String}
      {rest : List String}
      (isDirectory : fileSystem.isDirectoryAt here = true)
      (isFiller : Path.isFiller segment = true)
      (next : Leads fileSystem purpose links here rest last) :
      Leads fileSystem purpose links here (segment :: rest) last
  | parent
      {links : Nat}
      {here last : Location}
      {rest : List String}
      (isDirectory : fileSystem.isDirectoryAt here = true)
      (next : Leads fileSystem purpose links here.dropLast rest last) :
      Leads fileSystem purpose links here (".." :: rest) last
  | occupied
      {links : Nat}
      {here : Location}
      {name : String}
      {rest : List String}
      (isStep : fileSystem.IsStep here name)
      (isLast : rest.all (· == "") = true)
      (occupies : purpose = .occupy) :
      Leads fileSystem purpose links here (name :: rest) (here ++ [name])
  | vacant
      {links : Nat}
      {here : Location}
      {name : String}
      {rest : List String}
      (isStep : fileSystem.IsStep here name)
      (looksUp : purpose.LooksUp rest)
      (isLast : rest.all (· == "") = true)
      (isVacant : fileSystem.entry? (here ++ [name]) = none) :
      Leads fileSystem purpose links here (name :: rest) (here ++ [name])
  | inspected
      {links : Nat}
      {here : Location}
      {name : String}
      {target : Path}
      (isStep : fileSystem.IsStep here name)
      (isLink : fileSystem.entry? (here ++ [name]) = some (.link target))
      (inspects : purpose = .inspect) :
      Leads fileSystem purpose links here [name] (here ++ [name])
  | link
      {links : Nat}
      {here last : Location}
      {name : String}
      {rest : List String}
      {target : Path}
      (isStep : fileSystem.IsStep here name)
      (looksUp : purpose.LooksUp rest)
      (isLink : fileSystem.entry? (here ++ [name]) = some (.link target))
      (isFollowed : ¬ (rest.isEmpty = true ∧ purpose = .inspect))
      (next :
        Leads fileSystem purpose links (if target.isAbsolute then [] else here)
        (target.segments ++ rest) last) :
      Leads fileSystem purpose (links + 1) here (name :: rest) last
  | entry
      {links : Nat}
      {here last : Location}
      {name : String}
      {rest : List String}
      {entry : Entry}
      (isStep : fileSystem.IsStep here name)
      (looksUp : purpose.LooksUp rest)
      (found : fileSystem.entry? (here ++ [name]) = some entry)
      (noLink : ∀ target, entry ≠ .link target)
      (next : Leads fileSystem purpose links (here ++ [name]) rest last) :
      Leads fileSystem purpose links here (name :: rest) last

/-- The tests in front of a step are what a step needs. -/
theorem isStep_of_tests
    {fileSystem : FileSystem}
    {here : Location}
    {name : String}
    (isDirectory : ¬ (!fileSystem.isDirectoryAt here) = true)
    (noFiller : ¬ Path.isFiller name = true)
    (noParent : ¬ name = "..")
    (short : ¬ nameLimit < name.utf8ByteSize) :
    fileSystem.IsStep here name :=
  ⟨by simpa using isDirectory, noFiller, noParent, short⟩

/-- What resolution finds is where the segments lead. -/
theorem leads_of_locate
    {fileSystem : FileSystem}
    {purpose : Purpose}
    {links : Nat}
    {here last : Location}
    {segments : List String}
    (located : fileSystem.locate purpose links here segments = .ok last) :
    Leads fileSystem purpose links here segments last := by
  fun_induction locate fileSystem purpose links here segments with
  | case1 =>
      cases located
      exact .here
  | case3 links here segment rest isDirectory isFiller inductionHypothesis =>
      exact .filler (by simpa using isDirectory) isFiller
        (inductionHypothesis located)
  | case4 links here rest isDirectory noFiller inductionHypothesis =>
      exact .parent (by simpa using isDirectory) (inductionHypothesis located)
  | case6 links here segment rest isDirectory noFiller noParent short child
    isLast occupies =>
      obtain rfl : here ++ [segment] = last := Except.ok.inj located
      exact .occupied (isStep_of_tests isDirectory noFiller noParent short)
        occupies.1 occupies.2
  | case8 links here segment rest isDirectory noFiller noParent short child
    isLast occupies slashed
      isVacant isEnd =>
      obtain rfl : here ++ [segment] = last := Except.ok.inj located
      exact .vacant (isStep_of_tests isDirectory noFiller noParent short)
        ⟨occupies, slashed⟩ isEnd
        isVacant
  | case10 links here segment rest isDirectory noFiller noParent short child
    isLast occupies slashed
      target isLink inspects =>
      obtain rfl : here ++ [segment] = last := Except.ok.inj located
      obtain rfl : rest = [] := List.isEmpty_iff.mp inspects.1
      exact .inspected
        (isStep_of_tests isDirectory noFiller noParent short) isLink inspects.2
  | case12 here segment rest isDirectory noFiller noParent short child isLast
    occupies slashed
      target isLink isFollowed fewer inductionHypothesis =>
      exact .link (isStep_of_tests isDirectory noFiller noParent short)
        ⟨occupies, slashed⟩ isLink
        isFollowed (inductionHypothesis located)
  | case13 links here segment rest isDirectory noFiller noParent short child
    isLast occupies slashed
      entry noLink found inductionHypothesis =>
      exact .entry (isStep_of_tests isDirectory noFiller noParent short)
        ⟨occupies, slashed⟩ found
        noLink (inductionHypothesis located)
  | case2 => cases located
  | case5 => cases located
  | case7 => cases located
  | case9 => cases located
  | case11 => cases located

/-- What is left to decide once a segment is a name. -/
theorem locate_of_isStep
    {fileSystem : FileSystem}
    {here : Location}
    {name : String}
    (isStep : fileSystem.IsStep here name)
    (purpose : Purpose)
    (links : Nat)
    (rest : List String) :
    fileSystem.locate purpose links here (name :: rest) =
      if rest.all (· == "") = true ∧ purpose = .occupy then
        .ok (here ++ [name])
      else if rest.all (· == "") = true ∧ (!rest.isEmpty) = true ∧
          purpose = .write then
        .error .isDirectory
      else
        match fileSystem.entry? (here ++ [name]) with
        | none =>
            if rest.all (· == "") then
              .ok (here ++ [name])
            else
              .error .notFound
        | some (.link target) =>
            if rest.isEmpty ∧ purpose = .inspect then
              .ok (here ++ [name])
            else
              match links with
              | 0 => .error .tooManyLinks
              | fewer + 1 =>
                  fileSystem.locate purpose fewer
                    (if target.isAbsolute then [] else here)
                    (target.segments ++ rest)
        | some _ => fileSystem.locate purpose links (here ++ [name]) rest := by
  rw [locate, isStep.isDirectory, if_neg (by simp), if_neg isStep.noFiller,
    if_neg isStep.noParent]
  exact if_neg isStep.short

/-- Resolution finds where the segments lead. -/
theorem locate_of_leads
    {fileSystem : FileSystem}
    {purpose : Purpose}
    {links : Nat}
    {here last : Location}
    {segments : List String}
    (leads : Leads fileSystem purpose links here segments last) :
    fileSystem.locate purpose links here segments = .ok last := by
  induction leads with
  | here => rw [locate]
  | filler isDirectory isFiller next inductionHypothesis =>
      rw [locate, isDirectory, isFiller]
      exact inductionHypothesis
  | parent isDirectory next inductionHypothesis =>
      rw [locate, isDirectory]
      exact inductionHypothesis
  | occupied isStep isLast occupies =>
      rw [locate_of_isStep isStep, if_pos ⟨isLast, occupies⟩]
  | vacant isStep looksUp isLast isVacant =>
      rw [locate_of_isStep isStep, if_neg looksUp.occupies,
        if_neg looksUp.slashed, isVacant]
      exact if_pos isLast
  | inspected isStep isLink inspects =>
      rw [locate_of_isStep isStep, if_neg (by simp [inspects]),
        if_neg (by simp), isLink]
      exact if_pos ⟨rfl, inspects⟩
  | link isStep looksUp isLink isFollowed next inductionHypothesis =>
      rw [locate_of_isStep isStep, if_neg looksUp.occupies,
        if_neg looksUp.slashed, isLink]
      exact (if_neg isFollowed).trans inductionHypothesis
  | @entry _ _ _ _ _ kind isStep looksUp found noLink
    next inductionHypothesis =>
      rw [locate_of_isStep isStep, if_neg looksUp.occupies,
        if_neg looksUp.slashed, found]
      cases kind with
      | directory => exact inductionHypothesis
      | file content => exact inductionHypothesis
      | link target => exact absurd rfl (noLink target)

/-- The directory in which the way of a path starts. -/
def startOf
    (fileSystem : FileSystem)
    (path : Path) : Location :=
  if path.isAbsolute then [] else fileSystem.working

/-- A path has a location exactly if its text is accepted and it leads there. -/
theorem location_eq_ok_iff
    {fileSystem : FileSystem}
    {purpose : Purpose}
    {path : Path}
    {location : Location} :
    fileSystem.location purpose path = .ok location ↔
      pathFault? path.text = none ∧
        Leads fileSystem purpose linkLimit
          (fileSystem.startOf path) path.segments location := by
  unfold FileSystem.location
  split
  · next fault faulty => simp [faulty]
  · next accepted =>
      refine ⟨fun located => ⟨accepted, leads_of_locate located⟩, ?_⟩
      rintro ⟨-, leads⟩
      exact locate_of_leads leads

/-! Where a way ends. -/

/-- Every entry stands in a directory. -/
def IsNested (fileSystem : FileSystem) : Prop :=
  ∀ location entry, fileSystem.entry? location = some entry →
    fileSystem.isDirectoryAt location.dropLast = true

theorem IsTree.isNested
    {fileSystem : FileSystem}
    (tree : fileSystem.IsTree) :
    fileSystem.IsNested := by
  intro location entry found
  by_cases isTop : location = []
  · subst isTop
    rfl
  · exact (tree.nested _ ((entry?_eq_some_iff_mem tree isTop).mp found)).2

/-- A directory is an entry of this kind, or the top. -/
theorem isDirectoryAt_iff
    {fileSystem : FileSystem}
    {location : Location} :
    fileSystem.isDirectoryAt location = true ↔
      fileSystem.entry? location = some .directory := by
  rw [isDirectoryAt, beq_iff_eq]

/-- Purposes for which links are followed up to the end. -/
def Purpose.Follows (purpose : Purpose) : Prop :=
  purpose = .use ∨ purpose = .write

/-- A location at which a way can end. -/
structure IsEnd
    (fileSystem : FileSystem)
    (purpose : Purpose)
    (location : Location) : Prop where
  inDirectory : fileSystem.isDirectoryAt location.dropLast = true
  noLink : purpose.Follows → ∀ target,
    fileSystem.entry? location ≠ some (.link target)

/-- Resolution can end at a directory. -/
theorem isEnd_of_isDirectoryAt
    {fileSystem : FileSystem}
    (nested : fileSystem.IsNested)
    {location : Location}
    (isDirectory : fileSystem.isDirectoryAt location = true)
    (purpose : Purpose) :
    fileSystem.IsEnd purpose location := by
  rw [isDirectoryAt_iff] at isDirectory
  refine ⟨nested location _ isDirectory, fun _ target isLink => ?_⟩
  rw [isDirectory] at isLink
  cases isLink

/-- Resolution can end behind a step, unless it has to follow a link there. -/
theorem isEnd_step
    {fileSystem : FileSystem}
    {purpose : Purpose}
    {here : Location}
    {name : String}
    (isStep : fileSystem.IsStep here name)
    (noLink : purpose.Follows → ∀ target,
      fileSystem.entry? (here ++ [name]) ≠ some (.link target)) :
    fileSystem.IsEnd purpose (here ++ [name]) := by
  refine ⟨?_, noLink⟩
  rw [List.dropLast_concat]
  exact isStep.isDirectory

namespace Leads

variable
  {fileSystem : FileSystem}
  {purpose : Purpose}
  {links : Nat}
  {here last : Location}
  {segments : List String}

/-- A way ends in a directory, and behind all links if it follows them. -/
theorem isEnd
    (nested : fileSystem.IsNested)
    (leads : Leads fileSystem purpose links here segments last)
    (start : segments = [] → fileSystem.IsEnd purpose here) :
    fileSystem.IsEnd purpose last := by
  induction leads with
  | here => exact start rfl
  | filler isDirectory isFiller next inductionHypothesis =>
      exact inductionHypothesis fun _ =>
        isEnd_of_isDirectoryAt nested isDirectory purpose
  | parent isDirectory next inductionHypothesis =>
      have above := nested _ _ (isDirectoryAt_iff.mp isDirectory)
      exact inductionHypothesis fun _ =>
        isEnd_of_isDirectoryAt nested above purpose
  | occupied isStep isLast occupies =>
      refine isEnd_step isStep fun follows => ?_
      rcases follows with isUse | isWrite <;> simp_all
  | vacant isStep looksUp isLast isVacant =>
      exact isEnd_step isStep fun _ target isLink => by
        simp [isVacant] at isLink
  | inspected isStep isLink inspects =>
      refine isEnd_step isStep fun follows => ?_
      rcases follows with isUse | isWrite <;> simp_all
  | link isStep looksUp isLink isFollowed next inductionHypothesis =>
      refine inductionHypothesis fun _ =>
        isEnd_of_isDirectoryAt nested ?_ purpose
      split
      · rfl
      · exact isStep.isDirectory
  | entry isStep looksUp found noLink next inductionHypothesis =>
      refine inductionHypothesis fun _ =>
        isEnd_step isStep fun _ target isLink => ?_
      rw [found] at isLink
      exact noLink target (Option.some.inj isLink)

theorem last_cases
    {segment name : String}
    {rest : List String}
    (isLast : (segment :: rest).getLast? = some name) :
    rest = [] ∧ segment = name ∨ rest.getLast? = some name := by
  cases rest with
  | nil => exact .inl ⟨rfl, Option.some.inj isLast⟩
  | cons next others => exact .inr (by rwa [List.getLast?_cons_cons] at isLast)

/-- In front of slashes only, the last name is the segment itself. -/
theorem name_eq_of_onlySlashes
    {segment name : String}
    {rest : List String}
    (noFiller : Path.isFiller name = false)
    (onlySlashes : rest.all (· == "") = true)
    (isLast : (segment :: rest).getLast? = some name) :
    segment = name := by
  rcases last_cases isLast with ⟨-, isName⟩ | isLater
  · exact isName
  · have isSlash :=
      List.all_eq_true.mp onlySlashes name (List.mem_of_getLast? isLater)
    rw [beq_iff_eq] at isSlash
    rw [isSlash] at noFiller
    cases noFiller

/--
A way whose last segment is a name ends at that name, unless the name is a link.
-/
theorem getLast?_eq
    {name : String}
    (isName : Path.Component.ofSegment? name = some (.name name))
    (noLink : ∀ folder target,
      fileSystem.entry? (folder ++ [name]) ≠ some (.link target))
    (leads : Leads fileSystem purpose links here segments last)
    (isLast : segments.getLast? = some name) :
    last.getLast? = some name := by
  obtain ⟨-, noFiller, noParent⟩ := Path.eq_of_ofSegment?_eq_name isName
  induction leads with
  | here => cases isLast
  | filler isDirectory isFiller next inductionHypothesis =>
      rcases last_cases isLast with ⟨-, rfl⟩ | isLater
      · rw [noFiller] at isFiller
        cases isFiller
      · exact inductionHypothesis isLater
  | parent isDirectory next inductionHypothesis =>
      rcases last_cases isLast with ⟨-, rfl⟩ | isLater
      · exact absurd rfl noParent
      · exact inductionHypothesis isLater
  | occupied isStep onlySlashes occupies =>
      rw [name_eq_of_onlySlashes noFiller onlySlashes isLast,
        List.getLast?_concat]
  | vacant isStep looksUp onlySlashes isVacant =>
      rw [name_eq_of_onlySlashes noFiller onlySlashes isLast,
        List.getLast?_concat]
  | inspected isStep isLink inspects =>
      rw [name_eq_of_onlySlashes noFiller rfl isLast, List.getLast?_concat]
  | link isStep looksUp isLink isFollowed next inductionHypothesis =>
      rcases last_cases isLast with ⟨-, rfl⟩ | isLater
      · exact absurd isLink (noLink _ _)
      · exact inductionHypothesis
          (by rw [List.getLast?_append, isLater, Option.some_or])
  | entry isStep looksUp found isEntry next inductionHypothesis =>
      rcases last_cases isLast with ⟨rfl, rfl⟩ | isLater
      · cases next
        exact List.getLast?_concat
      · exact inductionHypothesis isLater

/--
All segments of a way to an entry are names of entries, but for
fillers and steps back.
-/
theorem segment_cases
    (leads : Leads fileSystem purpose links here segments last)
    (isThere : (fileSystem.entry? last).isSome = true)
    {segment : String}
    (member : segment ∈ segments) :
    Path.isFiller segment = true ∨ segment = ".." ∨
      ∃ folder, (fileSystem.entry? (folder ++ [segment])).isSome = true := by
  have slash (rest : List String) (onlySlashes : rest.all (· == "") = true)
      (inRest : segment ∈ rest) : Path.isFiller segment = true := by
    rw [beq_iff_eq.mp (List.all_eq_true.mp onlySlashes segment inRest)]
    rfl
  induction leads with
  | here => cases member
  | filler isDirectory isFiller next inductionHypothesis =>
      rcases List.mem_cons.mp member with rfl | inRest
      · exact .inl isFiller
      · exact inductionHypothesis isThere inRest
  | parent isDirectory next inductionHypothesis =>
      rcases List.mem_cons.mp member with rfl | inRest
      · exact .inr (.inl rfl)
      · exact inductionHypothesis isThere inRest
  | occupied isStep onlySlashes occupies =>
      rcases List.mem_cons.mp member with rfl | inRest
      · exact .inr (.inr ⟨_, isThere⟩)
      · exact .inl (slash _ onlySlashes inRest)
  | vacant isStep looksUp onlySlashes isVacant =>
      rw [isVacant] at isThere
      cases isThere
  | inspected isStep isLink inspects =>
      rw [List.mem_singleton.mp member]
      exact .inr (.inr ⟨_, isThere⟩)
  | link isStep looksUp isLink isFollowed next inductionHypothesis =>
      rcases List.mem_cons.mp member with rfl | inRest
      · exact .inr (.inr ⟨_, Option.isSome_of_eq_some isLink⟩)
      · exact inductionHypothesis isThere (List.mem_append_right _ inRest)
  | entry isStep looksUp found isEntry next inductionHypothesis =>
      rcases List.mem_cons.mp member with rfl | inRest
      · exact .inr (.inr ⟨_, Option.isSome_of_eq_some found⟩)
      · exact inductionHypothesis isThere inRest

/-- Where a component leads. -/
def descend
    (here : Location) :
    Path.Component → Location
  | .name name => here ++ [name]
  | .parent => here.dropLast
  | _ => here

theorem filterMap_of_onlySlashes
    {rest : List String}
    (onlySlashes : rest.all (· == "") = true) :
    rest.filterMap Path.Component.ofSegment? = [] := by
  rw [List.filterMap_eq_nil_iff]
  intro segment member
  have isSlash := List.all_eq_true.mp onlySlashes segment member
  rw [beq_iff_eq] at isSlash
  rw [isSlash]
  rfl

/-- Without links a way goes where its components lead. -/
theorem eq_foldl_descend
    (noLinks :
      ∀ location target, fileSystem.entry? location ≠ some (.link target))
    (leads : Leads fileSystem purpose links here segments last) :
    last = (segments.filterMap Path.Component.ofSegment?).foldl
      descend here := by
  induction leads with
  | here => rfl
  | filler isDirectory isFiller next inductionHypothesis =>
      have dropped := (Path.ofSegment?_eq_none_iff _).mpr isFiller
      rw [List.filterMap_cons_none dropped]
      exact inductionHypothesis
  | parent isDirectory next inductionHypothesis => exact inductionHypothesis
  | occupied isStep onlySlashes occupies =>
      rw [List.filterMap_cons_some isStep.ofSegment?,
        filterMap_of_onlySlashes onlySlashes]
      rfl
  | vacant isStep looksUp onlySlashes isVacant =>
      rw [List.filterMap_cons_some isStep.ofSegment?,
        filterMap_of_onlySlashes onlySlashes]
      rfl
  | inspected isStep isLink inspects => exact absurd isLink (noLinks _ _)
  | link isStep looksUp isLink isFollowed next inductionHypothesis =>
      exact absurd isLink (noLinks _ _)
  | entry isStep looksUp found isEntry next inductionHypothesis =>
      rw [List.filterMap_cons_some isStep.ofSegment?]
      exact inductionHypothesis

end Leads

end FileSystem

end Eisen
