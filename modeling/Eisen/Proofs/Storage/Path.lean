import Eisen.Catalog.Basic
import Mathlib.Data.List.Basic
import Mathlib.Data.List.TakeWhile

namespace Eisen

/-!
# Paths below a root

A path is put together from a root and the names on the way down, and taken
apart again: its last name is the last of these names, and relative to the root
it is these names again.
-/

/-- What a file or directory may be called. -/
structure Storage.IsName (name : String) : Prop where
  ink : name ≠ ""
  noDot : name ≠ "."
  noParent : name ≠ ".."
  noSlash : '/' ∉ name.toList

instance (name : String) : Decidable (Storage.IsName name) :=
  decidable_of_iff (name ≠ "" ∧ name ≠ "." ∧ name ≠ ".." ∧ '/' ∉ name.toList)
    ⟨fun all => ⟨all.1, all.2.1, all.2.2.1, all.2.2.2⟩,
      fun isName => ⟨isName.ink, isName.noDot, isName.noParent, isName.noSlash⟩⟩

namespace Path

open Storage

/-! Names as segments. -/

theorem isFiller_of_isName
    {name : String}
    (isName : IsName name) :
    isFiller name = false := by
  simp [isFiller, isName.ink, isName.noDot]

/-- A name is its own component. -/
theorem ofSegment?_of_isName
    {name : String}
    (isName : IsName name) :
    Component.ofSegment? name = some (.name name) := by
  simp [Component.ofSegment?, isFiller_of_isName isName, isName.noParent]

/-- Names are their own components. -/
theorem filterMap_ofSegment?_names
    {names : List String}
    (areNames : ∀ name ∈ names, IsName name) :
    names.filterMap Component.ofSegment? = names.map Component.name := by
  rw [← List.filterMap_eq_map]
  apply List.filterMap_congr
  intro name member
  exact ofSegment?_of_isName (areNames name member)

theorem dropWhile_isFiller_names
    {names : List String}
    (areNames : ∀ name ∈ names, IsName name) :
    names.dropWhile isFiller = names := by
  apply List.dropWhile_eq_self_iff.mpr
  intro nonempty
  simp [isFiller_of_isName (areNames _ (List.getElem_mem nonempty))]

/-- Names have no filler at the end. -/
theorem dropFillersAtEnd_names
    {names : List String}
    (areNames : ∀ name ∈ names, IsName name) :
    dropFillersAtEnd names = names := by
  have kept : names.reverse.dropWhile isFiller = names.reverse :=
    dropWhile_isFiller_names fun name member =>
      areNames name (List.mem_reverse.mp member)
  rw [dropFillersAtEnd, kept, List.reverse_reverse]

/-! Roots. -/

/--
A path that a text writes. A relative one has a segment in front
that is not empty.
-/
structure IsWritten (path : Path) : Prop where
  starts : path.isAbsolute = false → path.segments.head? ≠ some ""
  single : path.segments ≠ [""]

/-- Segments make up a path that can be written. -/
theorem isWritten_ofSegments
    {isAbsolute : Bool}
    {segments : List String}
    (starts : isAbsolute = false → segments = [""] ∨ segments.head? ≠ some "") :
    (ofSegments isAbsolute segments).IsWritten := by
  unfold ofSegments
  split
  · exact ⟨fun _ => by simp, by simp⟩
  · next several =>
      exact ⟨fun relative => (starts relative).resolve_left several, several⟩

theorem isWritten_ofText (text : String) : (ofText text).IsWritten := by
  unfold ofText
  split
  · exact isWritten_ofSegments fun relative => absurd relative (by decide)
  · next noSlash =>
      apply isWritten_ofSegments
      intro _
      cases characters : text.toList with
      | nil => exact .inl rfl
      | cons first rest =>
          right
          have inFront : first ≠ '/' :=
            fun slash => noSlash rest (slash ▸ characters)
          rw [betweenSlashes, if_neg inFront]
          cases betweenSlashes rest <;> simp

/-- The segments of a path in front of the ones that are put behind it. -/
def base (path : Path) : List String :=
  if path.segments.getLast? = some "" then
    path.segments.dropLast
  else
    path.segments

theorem filterMap_base (path : Path) :
    path.base.filterMap Component.ofSegment? = path.body := by
  unfold base body
  split
  · next slash =>
      obtain ⟨front, form⟩ := List.getLast?_eq_some_iff.mp slash
      rw [form, List.dropLast_concat, List.filterMap_append]
      simp [Component.ofSegment?, isFiller]
  · rfl

/-- Names are joined behind the segments of a root. -/
theorem join_ofNames
    {root : Path}
    (written : root ≠ empty)
    {names : List String}
    (areNames : ∀ name ∈ names, IsName name)
    (below : names ≠ []) :
    root.join (ofNames names) = ⟨root.isAbsolute, root.base ++ names⟩ := by
  have several : root.base ++ names ≠ [""] := by
    intro single
    have inside : names ⊆ [""] :=
      single ▸ List.subset_append_right root.base names
    obtain ⟨name, member⟩ := List.exists_mem_of_ne_nil names below
    exact (areNames name member).ink (List.mem_singleton.mp (inside member))
  have noFront : ¬ ((ofNames names).isAbsolute = true ∨ root = empty) := by
    simp [ofNames, written]
  rw [join, if_neg noFront]
  simp only [ofNames, List.isEmpty_iff, below, if_false]
  rw [ofSegments]
  simp only [base] at several
  simp only [base, if_neg several]

/-- The first segment of a relative root stays in front. -/
theorem exists_base_eq_cons
    {root : Path}
    (written : root.IsWritten)
    (nonempty : root ≠ empty)
    (relative : root.isAbsolute = false) :
    ∃ first more rest, root.segments = first :: more ∧
      root.base = first :: rest ∧ first ≠ "" := by
  have starts := written.starts relative
  cases form : root.segments with
  | nil => exact absurd (by rw [empty, ← relative, ← form]) nonempty
  | cons first more =>
      rw [form, List.head?_cons, ne_eq, Option.some.injEq] at starts
      rw [base, form]
      split
      · next slash =>
          cases more with
          | nil => exact absurd (Option.some.inj slash) starts
          | cons second others =>
              exact ⟨first, _, _, rfl, List.dropLast_cons_cons, starts⟩
      · exact ⟨first, more, more, rfl, rfl, starts⟩

/--
A root that is not the empty path is still in front of the names put behind it.
-/
theorem components_join_ofNames
    {root : Path}
    (written : root.IsWritten)
    (nonempty : root ≠ empty)
    {names : List String}
    (areNames : ∀ name ∈ names, IsName name)
    (below : names ≠ []) :
    (root.join (ofNames names)).components =
      root.components ++ names.map Component.name := by
  have sameFront :
      (Path.mk root.isAbsolute (root.base ++ names)).front = root.front := by
    cases absolute : root.isAbsolute with
    | true => simp [front, absolute]
    | false =>
        obtain ⟨first, more, rest, form, isBase, -⟩ :=
          exists_base_eq_cons written nonempty absolute
        simp [front, absolute, form, isBase]
  rw [join_ofNames nonempty areNames below, components, components, sameFront,
    List.append_assoc, body, List.filterMap_append, filterMap_base,
    filterMap_ofSegment?_names areNames]

/-- A path that is not empty has a component. -/
theorem components_ne_nil
    {root : Path}
    (written : root.IsWritten)
    (nonempty : root ≠ empty) :
    root.components ≠ [] := by
  cases absolute : root.isAbsolute with
  | true => simp [components, front, absolute]
  | false =>
      obtain ⟨first, more, rest, form, -, ink⟩ :=
        exists_base_eq_cons written nonempty absolute
      by_cases dot : first = "."
      · simp [components, front, absolute, form, dot]
      · by_cases parent : first = ".." <;>
          simp [components, body, form, Component.ofSegment?, isFiller, ink,
            dot, parent]

/-- Behind the components of some segments stand the names that follow them. -/
theorem afterComponents_append_names
    {names : List String}
    (areNames : ∀ name ∈ names, IsName name)
    (segments : List String) :
    (afterComponents (segments.filterMap Component.ofSegment?).length
      (segments ++ names)).dropWhile isFiller = names := by
  induction segments with
  | nil =>
      rw [List.filterMap_nil, List.length_nil, afterComponents]
      exact dropWhile_isFiller_names areNames
  | cons segment rest inductionHypothesis =>
      by_cases filler : isFiller segment = true
      · have skipped : Component.ofSegment? segment = none := by
          rw [Component.ofSegment?, if_pos filler]
        rw [List.filterMap_cons_none skipped, List.cons_append]
        cases count : (rest.filterMap Component.ofSegment?).length with
        | zero =>
            rw [count, afterComponents] at inductionHypothesis
            rw [afterComponents, List.dropWhile_cons_of_pos filler,
              inductionHypothesis]
        | succ fewer =>
            rw [afterComponents, if_pos filler, ← count, inductionHypothesis]
      · have counted :
            ∃ component, Component.ofSegment? segment = some component := by
          rw [Component.ofSegment?, if_neg filler]
          split <;> exact ⟨_, rfl⟩
        obtain ⟨component, found⟩ := counted
        rw [List.filterMap_cons_some found, List.length_cons, List.cons_append,
          afterComponents, if_neg filler, inductionHypothesis]

/-- What is put behind a root is found again behind it. -/
theorem relativeTo?_join_ofNames
    {root : Path}
    (written : root.IsWritten)
    (nonempty : root ≠ empty)
    {names : List String}
    (areNames : ∀ name ∈ names, IsName name)
    (below : names ≠ []) :
    (root.join (ofNames names)).relativeTo? root = some (ofNames names) := by
  have isPrefix : root.components.isPrefixOf
      (root.join (ofNames names)).components = true := by
    rw [components_join_ofNames written nonempty areNames below,
      List.isPrefixOf_iff_prefix]
    exact List.prefix_append _ _
  have someFront : root.components.isEmpty = false :=
    List.isEmpty_eq_false_iff.mpr (components_ne_nil written nonempty)
  rw [relativeTo?, someFront, isPrefix, join_ofNames nonempty areNames below]
  simp only [Bool.false_eq_true, if_false, if_true]
  rw [← filterMap_base root, afterComponents_append_names areNames,
    dropFillersAtEnd_names areNames]

/-- A path is called by the last name that is joined. -/
theorem fileName?_join_ofNames
    {root : Path}
    (written : root.IsWritten)
    (nonempty : root ≠ empty)
    {folder : List String}
    {name : String}
    (areNames : ∀ part ∈ folder ++ [name], IsName part) :
    (root.join (ofNames (folder ++ [name]))).fileName? = some name := by
  rw [fileName?, components_join_ofNames written nonempty areNames (by simp)]
  simp

/-! Paths without a root, and their extensions. -/

theorem components_ofNames
    {names : List String}
    (areNames : ∀ name ∈ names, IsName name) :
    (ofNames names).components = names.map Component.name := by
  have noDot : names.head? ≠ some "." := fun dot =>
    (areNames "." (List.mem_of_mem_head? dot)).noDot rfl
  simp [components, front, body, ofNames, noDot,
    filterMap_ofSegment?_names areNames]

/-- A path of names is trimmed. -/
theorem trimmedEnd_ofNames
    {names : List String}
    (areNames : ∀ name ∈ names, IsName name) :
    (ofNames names).trimmedEnd = ofNames names := by
  cases names with
  | nil => rfl
  | cons first rest =>
      have kept := dropFillersAtEnd_names fun name member =>
        areNames name (List.mem_cons_of_mem first member)
      simp only [trimmedEnd, ofNames, kept]

/-- A name is split at its last dot. -/
theorem splitName_append
    {stem suffix : String}
    (ink : stem ≠ "")
    (noDot : '.' ∉ suffix.toList) :
    splitName (stem ++ "." ++ suffix) = (stem, some suffix) := by
  have reversed : (stem ++ "." ++ suffix).toList.reverse =
      suffix.toList.reverse ++ '.' :: stem.toList.reverse := by
    simp [String.toList_append]
  have behind : (suffix.toList.reverse ++ '.' :: stem.toList.reverse).takeWhile
      (· != '.') =
      suffix.toList.reverse := by
    rw [List.takeWhile_append_of_pos, List.takeWhile_cons_of_neg (by decide),
      List.append_nil]
    intro character member
    exact bne_iff_ne.mpr fun dot => noDot (dot ▸ List.mem_reverse.mp member)
  have before : (suffix.toList.reverse ++ '.' :: stem.toList.reverse).drop
      (suffix.toList.reverse.length + 1) = stem.toList.reverse := by
    rw [← List.drop_drop, List.drop_left, List.drop_one, List.tail_cons]
  have some : stem.toList.reverse.isEmpty = false := by simpa using ink
  simp only [splitName, reversed, behind, before, some]
  simp

/-- A name is split at its last dot. -/
theorem eq_append_of_splitName
    {name stem suffix : String}
    (found : splitName name = (stem, some suffix)) :
    name = stem ++ "." ++ suffix ∧ stem ≠ "" ∧ '.' ∉ suffix.toList := by
  have parts :=
    List.takeWhile_append_dropWhile (p := (· != '.')) (l := name.toList.reverse)
  have noDot : '.' ∉ name.toList.reverse.takeWhile (· != '.') :=
    fun member => absurd (List.mem_takeWhile_imp member) (by decide)
  simp only [splitName] at found
  generalize name.toList.reverse.takeWhile (· != '.') =
    behind at found parts noDot
  cases cut : name.toList.reverse.dropWhile (· != '.') with
  | nil =>
      rw [cut, List.append_nil] at parts
      simp [← parts] at found
  | cons dot before =>
      have isDot : dot = '.' := by
        have head := List.head_dropWhile_not (· != '.')
          (l := name.toList.reverse) (by simp [cut])
        simpa [cut] using head
      rw [cut, isDot] at parts
      have rest :
          (behind ++ '.' :: before).drop (behind.length + 1) = before := by
        rw [← List.drop_drop, List.drop_left, List.drop_one, List.tail_cons]
      rw [← parts, rest] at found
      have whole : name.toList = before.reverse ++ '.' :: behind.reverse := by
        rw [← List.reverse_reverse name.toList, ← parts]
        simp
      split at found
      · cases found
      · next ink =>
          cases found
          refine ⟨?_, by simpa using ink, by simpa using noDot⟩
          rw [← String.toList_inj, whole]
          simp [String.toList_append]

/--
Without its extension a path below a root ends in the stem of its last name.
-/
theorem withExtension_ofNames
    {folder : List String}
    {name stem suffix : String}
    (areNames : ∀ part ∈ folder ++ [name], IsName part)
    (parts : splitName name = (stem, some suffix))
    (shown : stem ≠ ".") :
    (ofNames (folder ++ [name])).withExtension "" =
      ofNames (folder ++ [stem]) := by
  have isLast : (ofNames (folder ++ [name])).fileName? = some name := by
    rw [fileName?, components_ofNames areNames]
    simp
  rw [withExtension, isLast, trimmedEnd_ofNames areNames]
  simp [parts, shown, ofNames]

/-- The names of a path can be told from its text. -/
theorem eq_of_intercalate_eq
    {left right : List String}
    (leftNames : ∀ name ∈ left, '/' ∉ name.toList)
    (rightNames : ∀ name ∈ right, '/' ∉ name.toList)
    (leftSome : left ≠ [])
    (rightSome : right ≠ [])
    (same : "/".intercalate left = "/".intercalate right) :
    left = right := by
  have split {names : List String}
      (slashless : ∀ name ∈ names, '/' ∉ name.toList)
      (nonempty : names ≠ []) :
      ("/".intercalate names).toList.splitOn '/' = names.map String.toList := by
    rw [String.toList_intercalate]
    exact List.splitOn_intercalate '/' (by simpa using slashless)
      (by simpa using nonempty)
  have parts := split leftNames leftSome
  rw [same, split rightNames rightSome] at parts
  exact List.map_injective_iff.mpr (fun _ _ => String.toList_inj.mp) parts.symm

end Path

end Eisen
