import Eisen.Proofs.Storage.Tree
import Eisen.Proofs.Text.Order
import Mathlib.Data.List.Induction
import Mathlib.Data.List.Lex

namespace Eisen.FileSystem

/-!
# Walks by descent

A walk that goes through each directory by name, and enters a directory where it
meets it, meets files in the lexicographic order of the names on the way to
them. So it comes to the same to sort all visible files at once.
-/

open Storage

/-- The name of an entry that stands in a directory itself. -/
def childName?
    (directory : Location)
    (entry : Location × Entry) :
    Option String :=
  match namesBelow? directory entry.1 with
  | some [name] => some name
  | _ => none

/-- The names in a directory, in order. -/
def childNames
    (fileSystem : FileSystem)
    (directory : Location) : List String :=
  Text.sortBy id (fileSystem.entries.filterMap (childName? directory))

/--
What a walk meets at a name: a file, or what is below a directory. Links
are passed over.
-/
def metAt
    (name : String)
    (entry : Option Entry)
    (below : List (List String)) : List (List String) :=
  match entry with
  | some .directory => below.map (name :: ·)
  | some (.file _) => [[name]]
  | _ => []

/-- The visible files that a walk meets which goes down to a depth. -/
def descend
    (fileSystem : FileSystem) :
    Nat → Location → List (List String)
  | 0, _ => []
  | depth + 1, directory =>
      ((fileSystem.childNames directory).filter fun name =>
          name.toList.head? != some '.').flatMap fun name =>
        metAt name (fileSystem.entry? (directory ++ [name]))
          (fileSystem.descend depth (directory ++ [name]))

/-- The length of the longest location. -/
def height (fileSystem : FileSystem) : Nat :=
  (fileSystem.entries.map fun entry => entry.1.length).foldr max 0

/-! The order of files. -/

/-- The order in which a walk meets files, by the names on the way to them. -/
def MetBefore (earlier later : List String) : Prop :=
  List.Lex (· < ·) earlier later

/-- Of two files only one is met before the other. -/
theorem MetBefore.asymm
    {earlier later : List String}
    (before : MetBefore earlier later) :
    ¬ MetBefore later earlier :=
  List.lex_asymm (fun less => less.asymm) before

theorem MetBefore.ne
    {earlier later : List String}
    (before : MetBefore earlier later) :
    earlier ≠ later := by
  rintro rfl
  exact before.asymm before

/-- Of different files, one that is not met after the other is met before it. -/
theorem metBefore_of_metNotAfter
    {earlier later : List String}
    (met : metNotAfter earlier later = true)
    (differ : earlier ≠ later) :
    MetBefore earlier later := by
  induction earlier generalizing later with
  | nil =>
      cases later with
      | nil => exact absurd rfl differ
      | cons other others => exact .nil
  | cons name rest inductionHypothesis =>
      cases later with
      | nil => cases met
      | cons other others =>
          rw [metNotAfter] at met
          by_cases same : name = other
          · subst same
            rw [if_pos rfl] at met
            exact .cons (inductionHypothesis met fun sameRest =>
              differ (by rw [sameRest]))
          · rw [if_neg same] at met
            exact .rel (lt_of_le_of_ne (of_decide_eq_true met) same)

/--
Files that are met in order are the same if they are the same in any order.
-/
theorem eq_of_pairwise_metBefore
    {left right : List (List String)}
    (leftMet : left.Pairwise MetBefore)
    (rightMet : right.Pairwise MetBefore)
    (sameMembers : ∀ names, names ∈ left ↔ names ∈ right) :
    left = right := by
  have distinct {files : List (List String)} (met : files.Pairwise MetBefore) :
      files.Nodup :=
    met.imp MetBefore.ne
  have permuted :=
    (List.perm_ext_iff_of_nodup (distinct leftMet) (distinct rightMet)).mpr
      sameMembers
  exact permuted.eq_of_pairwise
    (fun _ _ _ _ before after => absurd before after.asymm) leftMet
    rightMet

/-! One directory. -/

/-- A child of a directory is one name further down. -/
theorem childName?_eq_some_iff
    {directory : Location}
    {entry : Location × Entry}
    {name : String} :
    childName? directory entry = some name ↔ entry.1 = directory ++ [name] := by
  have below : namesBelow? directory entry.1 = some [name] ↔
      entry.1 = directory ++ [name] := by
    rw [namesBelow?_eq_some_iff]
    exact and_iff_left (List.cons_ne_nil _ _)
  rw [← below, childName?]
  constructor
  · intro found
    split at found
    · next other isOther =>
        cases found
        exact isOther
    · cases found
  · intro found
    rw [found]

/--
Below a name, a file is met itself, and a directory with what is below it.
-/
theorem mem_metAt_iff
    {name : String}
    {entry : Option Entry}
    {below : List (List String)}
    {names : List String} :
    names ∈ metAt name entry below ↔
      ∃ rest, names = name :: rest ∧
        (entry = some .directory ∧ rest ∈ below ∨
          rest = [] ∧ ∃ content, entry = some (.file content)) := by
  unfold metAt
  split
  · simp [eq_comm, and_comm]
  · simp
  · next noDirectory noFile =>
      refine iff_of_false (List.not_mem_nil) ?_
      rintro ⟨rest, -, ⟨isDirectory, -⟩ | ⟨-, content, isFile⟩⟩
      · exact noDirectory isDirectory
      · exact noFile content isFile

section

variable
  {fileSystem : FileSystem}
  (tree : fileSystem.IsTree)

include tree

/-- The children of a directory are the names of its entries. -/
theorem mem_childNames_iff
    {directory : Location}
    {name : String} :
    name ∈ fileSystem.childNames directory ↔
      ∃ entry, fileSystem.entry? (directory ++ [name]) = some entry := by
  rw [childNames, (Text.sortBy_perm _ _).mem_iff, List.mem_filterMap]
  simp only [childName?_eq_some_iff,
    entry?_eq_some_iff_mem tree
      (List.append_ne_nil_of_right_ne_nil directory (List.cons_ne_nil name []))]
  constructor
  · rintro ⟨⟨location, entry⟩, member, rfl⟩
    exact ⟨entry, member⟩
  · rintro ⟨entry, member⟩
    exact ⟨_, member, rfl⟩

theorem pairwise_childNames (directory : Location) :
    (fileSystem.childNames directory).Pairwise (· < ·) := by
  have distinct :
      ((fileSystem.entries.filterMap (childName? directory)).map id).Nodup := by
    rw [List.map_id, List.Nodup, List.pairwise_filterMap]
    refine (List.pairwise_map.mp tree.distinct).imp ?_
    intro earlier later differ name isName other isOther same
    rw [childName?_eq_some_iff.mp isName, childName?_eq_some_iff.mp isOther,
      same] at differ
    exact differ rfl
  exact Text.pairwise_sortBy distinct

/-- Above an entry there are directories. -/
theorem isDirectory_of_entry?
    {directory : Location}
    {names : List String}
    (below : names ≠ [])
    {entry : Entry}
    (found : fileSystem.entry? (directory ++ names) = some entry) :
    fileSystem.entry? directory = some .directory := by
  induction names using List.reverseRecOn generalizing entry with
  | nil => exact absurd rfl below
  | append_singleton front last inductionHypothesis =>
      have member := (entry?_eq_some_iff_mem tree (by simp)).mp found
      have above := (tree.nested _ member).2
      rw [← List.append_assoc, List.dropLast_concat, isDirectoryAt,
        beq_iff_eq] at above
      by_cases isTop : front = []
      · rwa [isTop, List.append_nil] at above
      · exact inductionHypothesis isTop above

/-! All directories. -/

/-- A descent meets exactly the visible files that are not too deep. -/
theorem mem_descend_iff
    {depth : Nat}
    {directory : Location}
    {names : List String} :
    names ∈ fileSystem.descend depth directory ↔
      fileSystem.IsVisibleFile directory names ∧ names.length ≤ depth := by
  induction depth generalizing directory names with
  | zero =>
      refine iff_of_false List.not_mem_nil ?_
      rintro ⟨isVisible, short⟩
      exact isVisible.below (List.length_eq_zero_iff.mp (Nat.le_zero.mp short))
  | succ depth inductionHypothesis =>
      simp only [descend, List.mem_flatMap, List.mem_filter,
        mem_childNames_iff tree, bne_iff_ne, mem_metAt_iff, inductionHypothesis]
      constructor
      · rintro ⟨name, ⟨-, shown⟩, rest, rfl,
          ⟨-, isVisible, short⟩ | ⟨rfl, isFile⟩⟩
        · refine ⟨⟨List.cons_ne_nil _ _, ?_,
              List.forall_mem_cons.mpr ⟨shown, isVisible.visible⟩⟩,
            Nat.succ_le_succ short⟩
          simpa using isVisible.isFile
        · exact ⟨⟨List.cons_ne_nil _ _, isFile,
              List.forall_mem_singleton.mpr shown⟩,
            Nat.succ_le_succ (Nat.zero_le depth)⟩
      · rintro ⟨⟨below, ⟨content, isFile⟩, visible⟩, short⟩
        obtain ⟨name, rest, rfl⟩ := List.exists_cons_of_ne_nil below
        obtain ⟨shown, visible⟩ := List.forall_mem_cons.mp visible
        rw [List.append_cons] at isFile
        by_cases isLast : rest = []
        · rw [isLast, List.append_nil] at isFile
          exact ⟨name, ⟨⟨_, isFile⟩, shown⟩, rest, rfl,
            .inr ⟨isLast, content, isFile⟩⟩
        · have isDirectory := isDirectory_of_entry? tree isLast isFile
          exact ⟨name, ⟨⟨_, isDirectory⟩, shown⟩, rest, rfl, .inl ⟨isDirectory,
            ⟨isLast, ⟨content, isFile⟩, visible⟩, Nat.le_of_succ_le_succ short⟩⟩

/-- A descent meets files in their order. -/
theorem pairwise_descend
    (depth : Nat)
    (directory : Location) :
    (fileSystem.descend depth directory).Pairwise MetBefore := by
  induction depth generalizing directory with
  | zero => exact List.Pairwise.nil
  | succ depth inductionHypothesis =>
      rw [descend, List.pairwise_flatMap]
      constructor
      · intro name _
        unfold metAt
        split
        · exact List.pairwise_map.mpr
            ((inductionHypothesis _).imp fun before => .cons before)
        · exact List.pairwise_singleton _ _
        · exact List.Pairwise.nil
      · refine ((pairwise_childNames tree directory).filter _).imp ?_
        intro name other less names isMet others otherMet
        obtain ⟨rest, rfl, -⟩ := mem_metAt_iff.mp isMet
        obtain ⟨otherRest, rfl, -⟩ := mem_metAt_iff.mp otherMet
        exact .rel less

omit tree in
theorem length_le_height_of_mem
    {entry : Location × Entry}
    (member : entry ∈ fileSystem.entries) :
    entry.1.length ≤ fileSystem.height := by
  obtain ⟨entries, working⟩ := fileSystem
  unfold height
  induction entries with
  | nil => cases member
  | cons first rest inductionHypothesis =>
      rw [List.map_cons, List.foldr_cons]
      rcases List.mem_cons.mp member with rfl | inRest
      · exact Nat.le_max_left _ _
      · exact Nat.le_trans (inductionHypothesis inRest) (Nat.le_max_right _ _)

/-- No visible file is deeper than the tree is high. -/
theorem length_le_height
    {directory : Location}
    {names : List String}
    (isVisible : fileSystem.IsVisibleFile directory names) :
    names.length ≤ fileSystem.height := by
  obtain ⟨content, isFile⟩ := isVisible.isFile
  have member :=
    (entry?_eq_some_iff_mem tree (by simp [isVisible.below])).mp isFile
  have short := length_le_height_of_mem member
  rw [List.length_append] at short
  exact Nat.le_trans (Nat.le_add_left _ _) short

/-- Visible files are listed in the order in which they are met. -/
theorem pairwise_metBefore_visibleNames (directory : Location) :
    (fileSystem.visibleNames directory).Pairwise MetBefore := by
  have sorted := pairwise_visibleNames fileSystem directory
  exact (sorted.and (nodup_visibleNames tree directory)).imp fun both =>
    metBefore_of_metNotAfter both.1 both.2

/--
A walk by descent meets the visible files in the order in which they are sorted.
-/
theorem visibleNames_eq_descend (directory : Location) :
    fileSystem.visibleNames directory =
      fileSystem.descend fileSystem.height directory := by
  refine eq_of_pairwise_metBefore
    (pairwise_metBefore_visibleNames tree directory)
    (pairwise_descend tree _ directory) fun names => ?_
  rw [mem_visibleNames_iff tree, mem_descend_iff tree]
  exact ⟨fun isVisible =>
    ⟨isVisible, length_le_height tree isVisible⟩, And.left⟩

end

end Eisen.FileSystem
