import Eisen.Proofs.Storage.Path
import Eisen.Storage.Walk
import Mathlib.Data.String.Basic

namespace Eisen

/-!
# Trees of files

What makes a list of entries a tree of directories, and what a walk through such
a tree meets: every visible file below a directory, each once, by name.
-/

namespace Storage

/-! The order of a walk. -/

/-- The order of a walk is transitive. -/
theorem metNotAfter_trans
    {first second third : List String}
    (one : metNotAfter first second = true)
    (two : metNotAfter second third = true) :
    metNotAfter first third = true := by
  induction first generalizing second third with
  | nil => rfl
  | cons name rest inductionHypothesis =>
      cases second with
      | nil => cases one
      | cons other others =>
          cases third with
          | nil => cases two
          | cons last further =>
              rw [metNotAfter] at one two ⊢
              by_cases sameFront : name = other
              · subst sameFront
                rw [if_pos rfl] at one
                by_cases sameBack : name = last
                · rw [if_pos sameBack] at two ⊢
                  exact inductionHypothesis one two
                · rwa [if_neg sameBack] at two ⊢
              · rw [if_neg sameFront] at one
                have before : name < other :=
                  lt_of_le_of_ne (of_decide_eq_true one) sameFront
                have further : other ≤ last := by
                  by_cases sameBack : other = last
                  · exact sameBack.le
                  · rw [if_neg sameBack] at two
                    exact of_decide_eq_true two
                have later : name < last := lt_of_lt_of_le before further
                rw [if_neg later.ne]
                exact decide_eq_true later.le

theorem metNotAfter_total (left right : List String) :
    (metNotAfter left right || metNotAfter right left) = true := by
  induction left generalizing right with
  | nil => rfl
  | cons name rest inductionHypothesis =>
      cases right with
      | nil => rfl
      | cons other others =>
          rw [metNotAfter, metNotAfter]
          by_cases same : name = other
          · subst same
            rw [if_pos rfl, if_pos rfl]
            exact inductionHypothesis others
          · rw [if_neg same, if_neg (Ne.symm same)]
            simpa [Text.notAfter] using le_total name other

theorem metNotAfter_refl (names : List String) :
    metNotAfter names names = true := by
  simpa using metNotAfter_total names names

/-- In one directory a walk goes by name. -/
theorem metNotAfter_siblings
    (folder : List String)
    (left right : String) :
    metNotAfter (folder ++ [left]) (folder ++ [right]) = true ↔
      left ≤ right := by
  induction folder with
  | nil =>
      rw [List.nil_append, List.nil_append, metNotAfter]
      by_cases same : left = right
      · simp [same, metNotAfter]
      · simp [same, Text.notAfter]
  | cons name rest inductionHypothesis =>
      rw [List.cons_append, List.cons_append, metNotAfter, if_pos rfl]
      exact inductionHypothesis

end Storage

namespace FileSystem

open Storage

/-- Every location has one entry, stands in a directory and is made of names. -/
structure IsTree (fileSystem : FileSystem) : Prop where
  distinct : (fileSystem.entries.map Prod.fst).Nodup
  named : ∀ entry ∈ fileSystem.entries, ∀ name ∈ entry.1, IsName name
  nested : ∀ entry ∈ fileSystem.entries,
    entry.1 ≠ [] ∧ fileSystem.isDirectoryAt entry.1.dropLast = true

instance (fileSystem : FileSystem) : Decidable fileSystem.IsTree :=
  decidable_of_iff
    ((fileSystem.entries.map Prod.fst).Nodup ∧
      (∀ entry ∈ fileSystem.entries, ∀ name ∈ entry.1, IsName name) ∧
      ∀ entry ∈ fileSystem.entries,
        entry.1 ≠ [] ∧ fileSystem.isDirectoryAt entry.1.dropLast = true)
    ⟨fun all => ⟨all.1, all.2.1, all.2.2⟩,
      fun tree => ⟨tree.distinct, tree.named, tree.nested⟩⟩

/--
A regular file below a directory, on the way to which no name starts with a dot.
-/
structure IsVisibleFile
    (fileSystem : FileSystem)
    (directory : Location)
    (names : List String) : Prop where
  below : names ≠ []
  isFile : ∃ content,
    fileSystem.entry? (directory ++ names) = some (.file content)
  visible : ∀ name ∈ names, name.toList.head? ≠ some '.'

/-- In a tree the entry at a location is the one that is listed with it. -/
theorem entry?_eq_some_iff_mem
    {fileSystem : FileSystem}
    (tree : fileSystem.IsTree)
    {location : Location}
    (below : location ≠ [])
    {entry : Entry} :
    fileSystem.entry? location = some entry ↔
      (location, entry) ∈ fileSystem.entries := by
  unfold FileSystem.entry?
  rw [if_neg (by simpa using below), List.lookup_eq_some_iff]
  constructor
  · rintro ⟨before, behind, form, -⟩
    rw [form]
    exact List.mem_append_right before List.mem_cons_self
  · intro member
    obtain ⟨before, behind, form⟩ := List.append_of_mem member
    refine ⟨before, behind, form,
      fun other inBefore => bne_iff_ne.mpr fun same => ?_⟩
    have distinct := tree.distinct
    rw [form, List.map_append, List.map_cons, List.nodup_append] at distinct
    exact distinct.2.2 _ (List.mem_map_of_mem inBefore)
      _ List.mem_cons_self same.symm

/-- The names on the way to a file of a tree are names of entries. -/
theorem isName_of_isVisibleFile
    {fileSystem : FileSystem}
    (tree : fileSystem.IsTree)
    {directory : Location}
    {names : List String}
    (isVisible : fileSystem.IsVisibleFile directory names) :
    ∀ name ∈ names, IsName name := by
  obtain ⟨content, found⟩ := isVisible.isFile
  have member :=
    (entry?_eq_some_iff_mem tree (by simp [isVisible.below])).mp found
  intro name inNames
  exact tree.named _ member name (List.mem_append_right directory inNames)

/-- The names below a directory are what follows it. -/
theorem namesBelow?_eq_some_iff
    {directory location : Location}
    {names : List String} :
    namesBelow? directory location = some names ↔
      location = directory ++ names ∧ names ≠ [] := by
  unfold namesBelow?
  split
  · next inside =>
      obtain ⟨⟨rest, rfl⟩, longer⟩ :=
        And.imp_left List.isPrefixOf_iff_prefix.mp inside
      rw [List.drop_left, Option.some.injEq, List.append_cancel_left_eq]
      constructor
      · rintro rfl
        refine ⟨rfl, ?_⟩
        rintro rfl
        simp at longer
      · exact fun same => same.1
  · next outside =>
      refine iff_of_false (by simp) ?_
      rintro ⟨rfl, below⟩
      refine outside
        ⟨List.isPrefixOf_iff_prefix.mpr (List.prefix_append _ _), ?_⟩
      have positive := List.length_pos_iff.mpr below
      rw [List.length_append]
      omega

/--
A visible file is a file below the directory without hidden names on its way.
-/
theorem visibleFile?_eq_some_iff
    {directory : Location}
    {entry : Location × Entry}
    {names : List String} :
    visibleFile? directory entry = some names ↔
      names ≠ [] ∧ (∃ content, entry = (directory ++ names, .file content)) ∧
        ∀ name ∈ names, name.toList.head? ≠ some '.' := by
  obtain ⟨location, kind⟩ := entry
  cases kind with
  | file content =>
      have shown : (!names.any isHidden) = true ↔
          ∀ name ∈ names, name.toList.head? ≠ some '.' := by
        simp [isHidden]
      simp only [visibleFile?, Option.filter_eq_some_iff,
        namesBelow?_eq_some_iff, shown]
      constructor
      · rintro ⟨⟨rfl, below⟩, visible⟩
        exact ⟨below, ⟨content, rfl⟩, visible⟩
      · rintro ⟨below, ⟨_, same⟩, visible⟩
        cases same
        exact ⟨⟨rfl, below⟩, visible⟩
  | directory => simp [visibleFile?]
  | link target => simp [visibleFile?]

/-- A walk meets the visible files and nothing else. -/
theorem mem_visibleNames_iff
    {fileSystem : FileSystem}
    (tree : fileSystem.IsTree)
    {directory : Location}
    {names : List String} :
    names ∈ fileSystem.visibleNames directory ↔
      fileSystem.IsVisibleFile directory names := by
  rw [visibleNames, List.mem_mergeSort, List.mem_filterMap]
  simp only [visibleFile?_eq_some_iff]
  constructor
  · rintro ⟨entry, member, below, ⟨content, rfl⟩, visible⟩
    exact ⟨below, ⟨content,
        (entry?_eq_some_iff_mem tree (by simp [below])).mpr member⟩, visible⟩
  · rintro ⟨below, ⟨content, found⟩, visible⟩
    exact ⟨_, (entry?_eq_some_iff_mem tree (by simp [below])).mp found, below,
      ⟨content, rfl⟩, visible⟩

/-- Visible files are listed in the order of a walk. -/
theorem pairwise_visibleNames
    (fileSystem : FileSystem)
    (directory : Location) :
    (fileSystem.visibleNames directory).Pairwise fun earlier later =>
      metNotAfter earlier later = true := by
  apply List.pairwise_mergeSort
  · intro first second third one two
    exact metNotAfter_trans one two
  · exact metNotAfter_total

/-- A walk meets every file once. -/
theorem nodup_visibleNames
    {fileSystem : FileSystem}
    (tree : fileSystem.IsTree)
    (directory : Location) :
    (fileSystem.visibleNames directory).Nodup := by
  rw [visibleNames, (List.mergeSort_perm _ _).nodup_iff, List.Nodup,
    List.pairwise_filterMap]
  refine (List.pairwise_map.mp tree.distinct).imp ?_
  intro earlier later differ names isEarlier others isLater same
  obtain ⟨-, ⟨content, rfl⟩, -⟩ := visibleFile?_eq_some_iff.mp isEarlier
  obtain ⟨-, ⟨otherContent, rfl⟩, -⟩ := visibleFile?_eq_some_iff.mp isLater
  exact differ (congrArg (directory ++ ·) same)

end FileSystem

end Eisen
