import Eisen.Proofs.Storage.Path
import Mathlib.Data.List.DropRight

namespace Eisen.Path

/-!
# Components of paths that are put together and taken apart

A path may have fillers between its names, so two paths with the same
components need not be the same. This module says what joining, leaving out the
last name and taking a path relative to another one do to the components behind
the front of a path.
-/

/-! Fillers have no component. -/

/-- Only fillers are no components. -/
theorem ofSegment?_eq_none_iff (segment : String) :
    Component.ofSegment? segment = none ↔ isFiller segment = true := by
  unfold Component.ofSegment?
  split
  · next filler => simp [filler]
  · next noFiller => split <;> simp [noFiller]

/-- A segment is a name by itself, and neither a filler nor the parent. -/
theorem eq_of_ofSegment?_eq_name
    {segment name : String}
    (found : Component.ofSegment? segment = some (.name name)) :
    segment = name ∧ isFiller name = false ∧ name ≠ ".." := by
  unfold Component.ofSegment? at found
  split at found
  · cases found
  · next noFiller =>
      split at found
      · cases found
      · next noParent =>
          cases found
          exact ⟨rfl, eq_false_of_ne_true noFiller, noParent⟩

/-- Fillers at the front add no component. -/
theorem filterMap_dropWhile_isFiller (segments : List String) :
    (segments.dropWhile isFiller).filterMap Component.ofSegment? =
      segments.filterMap Component.ofSegment? := by
  induction segments with
  | nil => rfl
  | cons segment rest inductionHypothesis =>
      by_cases filler : isFiller segment = true
      · rw [List.dropWhile_cons_of_pos filler, inductionHypothesis,
          List.filterMap_cons_none
            ((ofSegment?_eq_none_iff segment).mpr filler)]
      · rw [List.dropWhile_cons_of_neg filler]

/-- Fillers at the end add no component. -/
theorem filterMap_dropFillersAtEnd (segments : List String) :
    (dropFillersAtEnd segments).filterMap Component.ofSegment? =
      segments.filterMap Component.ofSegment? := by
  rw [dropFillersAtEnd, List.filterMap_reverse, filterMap_dropWhile_isFiller,
    List.filterMap_reverse, List.reverse_reverse]

/-- Behind some components stand the others. -/
theorem filterMap_afterComponents
    (count : Nat)
    (segments : List String) :
    (afterComponents count segments).filterMap Component.ofSegment? =
      (segments.filterMap Component.ofSegment?).drop count := by
  induction segments generalizing count with
  | nil => cases count <;> simp [afterComponents]
  | cons segment rest inductionHypothesis =>
      cases count with
      | zero => rfl
      | succ fewer =>
          rw [afterComponents]
          by_cases filler : isFiller segment = true
          · rw [if_pos filler, inductionHypothesis,
              List.filterMap_cons_none
                ((ofSegment?_eq_none_iff segment).mpr filler)]
          · obtain ⟨component, found⟩ : ∃ component,
                Component.ofSegment? segment = some component :=
              Option.ne_none_iff_exists'.mp fun none =>
                filler ((ofSegment?_eq_none_iff segment).mp none)
            rw [if_neg filler, inductionHypothesis,
              List.filterMap_cons_some found, List.drop_succ_cons]

/-- Without the fillers at the end the last segment is the last component. -/
theorem exists_dropFillersAtEnd_eq_concat
    {segments : List String}
    {component : Component}
    (isLast :
      (segments.filterMap Component.ofSegment?).getLast? = some component) :
    ∃ front last, dropFillersAtEnd segments = front ++ [last] ∧
      Component.ofSegment? last = some component := by
  rw [← filterMap_dropFillersAtEnd, dropFillersAtEnd] at isLast
  rw [dropFillersAtEnd]
  cases left : segments.reverse.dropWhile isFiller with
  | nil => simp [left] at isLast
  | cons last more =>
      have noFiller := List.head_dropWhile_not isFiller (l := segments.reverse)
        (by simp [left])
      simp only [left, List.head_cons] at noFiller
      obtain ⟨found, isFound⟩ : ∃ found,
          Component.ofSegment? last = some found :=
        Option.ne_none_iff_exists'.mp fun none => by
          rw [(ofSegment?_eq_none_iff last).mp none] at noFiller
          cases noFiller
      refine ⟨more.reverse, last, List.reverse_cons, ?_⟩
      simp only [left, List.reverse_cons, List.filterMap_append,
        List.filterMap_cons, isFound, List.filterMap_nil, List.getLast?_append,
        List.getLast?_singleton, Option.some_or, Option.some.injEq] at isLast
      rw [isFound, isLast]

/-! Paths without the fillers at their ends. -/

/-- The first segment of a relative path is never trimmed. -/
theorem trimmedEnd_segments_cons
    {path : Path}
    {first : String}
    {rest : List String}
    (relative : path.isAbsolute = false)
    (form : path.segments = first :: rest) :
    path.trimmedEnd.segments = first :: dropFillersAtEnd rest := by
  simp [trimmedEnd, relative, form]

/-- An absolute path is trimmed by all its fillers at the end. -/
theorem trimmedEnd_segments_of_isAbsolute
    {path : Path}
    (absolute : path.isAbsolute = true) :
    path.trimmedEnd.segments = dropFillersAtEnd path.segments := by
  simp [trimmedEnd, absolute]

theorem body_trimmedEnd (path : Path) : path.trimmedEnd.body = path.body := by
  rw [body, body]
  cases absolute : path.isAbsolute with
  | true =>
      rw [trimmedEnd_segments_of_isAbsolute absolute,
        filterMap_dropFillersAtEnd]
  | false =>
      cases form : path.segments with
      | nil => simp [trimmedEnd, absolute, form, dropFillersAtEnd]
      | cons first rest =>
          rw [trimmedEnd_segments_cons absolute form, List.filterMap_cons,
            List.filterMap_cons, filterMap_dropFillersAtEnd]

theorem head?_trimmedEnd
    {path : Path}
    (relative : path.isAbsolute = false) :
    path.trimmedEnd.segments.head? = path.segments.head? := by
  cases form : path.segments with
  | nil => simp [trimmedEnd, relative, form, dropFillersAtEnd]
  | cons first rest =>
      rw [trimmedEnd_segments_cons relative form, List.head?_cons,
        List.head?_cons]

theorem front_trimmedEnd (path : Path) :
    path.trimmedEnd.front = path.front := by
  have same : path.trimmedEnd.isAbsolute = path.isAbsolute := rfl
  cases absolute : path.isAbsolute with
  | true => simp [front, same, absolute]
  | false => simp [front, same, absolute, head?_trimmedEnd absolute]

theorem trimmedEnd_trimmedEnd (path : Path) :
    path.trimmedEnd.trimmedEnd = path.trimmedEnd := by
  have again (segments : List String) :
      dropFillersAtEnd (dropFillersAtEnd segments) =
        dropFillersAtEnd segments :=
    List.rdropWhile_idempotent isFiller segments
  have same : path.trimmedEnd.isAbsolute = path.isAbsolute := rfl
  have segments :
      path.trimmedEnd.trimmedEnd.segments = path.trimmedEnd.segments := by
    cases absolute : path.isAbsolute with
    | true =>
        rw [trimmedEnd_segments_of_isAbsolute (same.trans absolute),
          trimmedEnd_segments_of_isAbsolute absolute, again]
    | false =>
        cases form : path.segments with
        | nil => simp [trimmedEnd, absolute, form, dropFillersAtEnd]
        | cons first rest =>
            have trimmed := trimmedEnd_segments_cons absolute form
            rw [trimmedEnd_segments_cons (same.trans absolute) trimmed,
              trimmed, again]
  exact congrArg (Path.mk path.isAbsolute) segments

/--
A path with a component behind its front loses the fillers at its end
and no other ones.
-/
theorem trimmedEnd_segments
    {path : Path}
    (nonempty : path.body ≠ []) :
    path.trimmedEnd.segments = dropFillersAtEnd path.segments := by
  cases absolute : path.isAbsolute with
  | true => exact trimmedEnd_segments_of_isAbsolute absolute
  | false =>
      cases form : path.segments with
      | nil => simp [body, form] at nonempty
      | cons first rest =>
          rw [trimmedEnd_segments_cons absolute form, dropFillersAtEnd,
            dropFillersAtEnd, List.reverse_cons, List.dropWhile_append]
          cases left : rest.reverse.dropWhile isFiller with
          | cons last more => simp
          | nil =>
              have fillers : rest.filterMap Component.ofSegment? = [] := by
                rw [← filterMap_dropFillersAtEnd, dropFillersAtEnd, left]
                rfl
              have noFiller : isFiller first = false := by
                by_contra filler
                refine nonempty ?_
                rw [body, form, List.filterMap_cons_none, fillers]
                exact (ofSegment?_eq_none_iff first).mpr (by simpa using filler)
              simp [noFiller]

/-- A trimmed path can be written. -/
theorem isWritten_trimmedEnd
    {path : Path}
    (starts : path.isAbsolute = false → path.segments.head? ≠ some "") :
    path.trimmedEnd.IsWritten where
  starts := by
    intro relative
    have isRelative : path.isAbsolute = false := relative
    rw [head?_trimmedEnd isRelative]
    exact starts isRelative
  single := by
    intro single
    cases absolute : path.isAbsolute with
    | false =>
        refine starts absolute ?_
        rw [← head?_trimmedEnd absolute, single, List.head?_singleton]
    | true =>
        rw [trimmedEnd_segments_of_isAbsolute absolute] at single
        have dropped : path.segments.rdropWhile isFiller = [""] := single
        have noFiller :=
          List.rdropWhile_last_not isFiller path.segments (by simp [dropped])
        simp [dropped, isFiller] at noFiller

/-! The last name, and what is in front of it. -/

theorem getLast?_front_ne_name
    (path : Path)
    (name : String) :
    path.front.getLast? ≠ some (.name name) := by
  rw [front]
  split
  · simp
  · split <;> simp

/-- A path is called by the last component of its body if that is a name. -/
theorem fileName?_eq_some_iff
    (path : Path)
    (name : String) :
    path.fileName? = some name ↔ path.body.getLast? = some (.name name) := by
  rw [fileName?, components, List.getLast?_append]
  cases behind : path.body.getLast? with
  | some last => cases last <;> simp
  | none =>
      rw [Option.none_or]
      have noName := getLast?_front_ne_name path
      cases inFront : path.front.getLast? with
      | none => simp
      | some last =>
          cases last with
          | name text => exact absurd inFront (noName text)
          | _ => simp

/-- The path in front of the last name. -/
theorem exists_parent
    {path : Path}
    {name : String}
    (named : path.fileName? = some name) :
    ∃ parent, path.parent? = some parent ∧ parent.isAbsolute = path.isAbsolute ∧
      parent.front = path.front ∧ path.body = parent.body ++ [.name name] ∧
        (path.IsWritten → parent.IsWritten) := by
  have isLast := (fileName?_eq_some_iff path name).mp named
  have nonempty : path.body ≠ [] := fun none => by simp [none] at isLast
  obtain ⟨before, last, form, found⟩ := exists_dropFillersAtEnd_eq_concat isLast
  rw [← trimmedEnd_segments nonempty] at form
  obtain ⟨rfl, noFiller, -⟩ := eq_of_ofSegment?_eq_name found
  refine ⟨trimmedEnd ⟨path.isAbsolute, before⟩, ?_, rfl, ?_, ?_, ?_⟩
  · simp only [parent?, form]
    rw [if_neg (by simp), List.dropLast_concat]
    rfl
  · rw [front_trimmedEnd, ← front_trimmedEnd path]
    cases absolute : path.isAbsolute with
    | true => simp [front, trimmedEnd, absolute]
    | false =>
        have same : path.trimmedEnd.isAbsolute = false := absolute
        cases before with
        | nil =>
            have noDot : last ≠ "." :=
              fun dot => by simp [isFiller, dot] at noFiller
            simp [front, same, form, noDot]
        | cons first rest => simp [front, same, form]
  · rw [body_trimmedEnd, ← body_trimmedEnd path, body, body, form,
      List.filterMap_append, List.filterMap_cons_some found, List.filterMap_nil]
  · intro written
    refine isWritten_trimmedEnd fun relative inFront => ?_
    have isRelative : path.isAbsolute = false := relative
    have sameHead := head?_trimmedEnd isRelative
    have starts : before.head? = some "" := inFront
    rw [form, List.head?_append, starts, Option.some_or] at sameHead
    exact written.starts isRelative sameHead.symm

/-! Joined paths. -/

/-- The body of a path is made of its segments. -/
theorem body_ofSegments
    (isAbsolute : Bool)
    (segments : List String) :
    (ofSegments isAbsolute segments).body =
      segments.filterMap Component.ofSegment? := by
  unfold ofSegments body
  split
  · next single => simp [single, Component.ofSegment?, isFiller]
  · rfl

/-- A relative path is joined segment by segment. -/
theorem join_of_ne_empty
    {path other : Path}
    (relative : other.isAbsolute = false)
    (nonempty : path ≠ empty) :
    path.join other =
      ofSegments path.isAbsolute
        (path.base ++
          if other.segments.isEmpty then [""] else other.segments) := by
  have noFront : ¬ (other.isAbsolute = true ∨ path = empty) := by
    simp [relative, nonempty]
  rw [join, if_neg noFront]
  rfl

theorem empty_join (other : Path) : empty.join other = other := by
  rw [join, if_pos (.inr rfl)]

/-- Behind the front, the components of a joined path are those of its parts. -/
theorem body_join
    (path : Path)
    {other : Path}
    (relative : other.isAbsolute = false) :
    (path.join other).body = path.body ++ other.body := by
  by_cases nonempty : path = empty
  · rw [nonempty, empty_join]
    rfl
  · rw [join_of_ne_empty relative nonempty, body_ofSegments,
      List.filterMap_append, filterMap_base]
    cases form : other.segments with
    | nil => simp [body, form, Component.ofSegment?, isFiller]
    | cons first rest => simp [body, form]

/-- A joined path is absolute exactly where the first one is. -/
theorem isAbsolute_join
    (path : Path)
    {other : Path}
    (relative : other.isAbsolute = false) :
    (path.join other).isAbsolute = path.isAbsolute := by
  by_cases nonempty : path = empty
  · rw [nonempty, empty_join, relative]
    rfl
  · rw [join_of_ne_empty relative nonempty]
    rfl

/--
A path that is not the empty one is still in front of what is put behind it.
-/
theorem front_join
    {path other : Path}
    (written : path.IsWritten)
    (nonempty : path ≠ empty)
    (relative : other.isAbsolute = false) :
    (path.join other).front = path.front := by
  have same := isAbsolute_join path relative
  cases absolute : path.isAbsolute with
  | true => simp [front, same, absolute]
  | false =>
      obtain ⟨first, more, rest, form, isBase, ink⟩ :=
        exists_base_eq_cons written nonempty absolute
      simp [front, join_of_ne_empty relative nonempty, absolute, form, isBase,
        ofSegments, ink]

/-! Relative paths. -/

theorem trimmedEnd_ofNames_dropped (segments : List String) :
    (ofNames (dropFillersAtEnd (segments.dropWhile isFiller))).trimmedEnd =
      ofNames (dropFillersAtEnd (segments.dropWhile isFiller)) := by
  cases left : segments.dropWhile isFiller with
  | nil => rfl
  | cons first rest =>
      have noFiller :=
        List.head_dropWhile_not isFiller (l := segments) (by simp [left])
      simp only [left, List.head_cons] at noFiller
      have nonempty :
          (ofNames (dropFillersAtEnd (first :: rest))).body ≠ [] := by
        rw [body, ofNames, filterMap_dropFillersAtEnd]
        intro none
        have filler := (ofSegment?_eq_none_iff first).mp
          (List.filterMap_eq_nil_iff.mp none first List.mem_cons_self)
        simp [noFiller] at filler
      have same := trimmedEnd_segments nonempty
      rw [ofNames, show dropFillersAtEnd (dropFillersAtEnd (first :: rest)) =
        dropFillersAtEnd (first :: rest)
          from List.rdropWhile_idempotent isFiller _] at same
      exact congrArg (Path.mk false) same

/--
A path starts with the components of another one, and has some more behind them.
-/
structure IsBelow
    (root path : Path)
    (rest : List Component) : Prop where
  sameKind : path.isAbsolute = root.isAbsolute
  sameFront : root ≠ empty → path.front = root.front
  body : path.body = root.body ++ rest

namespace IsBelow

variable {root path other : Path} {rest : List Component}

/-- A joined path lies below the first one. -/
theorem join
    (written : root.IsWritten)
    (relative : other.isAbsolute = false) :
    IsBelow root (root.join other) other.body where
  sameKind := isAbsolute_join root relative
  sameFront nonempty := front_join written nonempty relative
  body := body_join root relative

/-- A path below a root is not empty. -/
theorem ne_empty
    (isBelow : IsBelow root path rest)
    (written : root.IsWritten)
    (nonempty : root ≠ empty) :
    path ≠ empty := by
  rintro rfl
  have noFront : root.front = [] := (isBelow.sameFront nonempty).symm
  have noBody : root.body = [] :=
    (List.append_eq_nil_iff.mp isBelow.body.symm).1
  exact components_ne_nil written nonempty
    (by rw [components, noFront, noBody, List.nil_append])

/-- What is below a path is found again relative to it. -/
theorem exists_relativeTo?
    (isBelow : IsBelow root path rest)
    (written : root.IsWritten) :
    ∃ found, path.relativeTo? root = some found ∧ found.isAbsolute = false ∧
      found.trimmedEnd = found ∧ found.body = rest := by
  by_cases nonempty : root = empty
  · subst nonempty
    refine ⟨path.trimmedEnd, rfl, isBelow.sameKind,
      trimmedEnd_trimmedEnd path, ?_⟩
    rw [body_trimmedEnd, isBelow.body]
    rfl
  · have isPrefix : root.components <+: path.components := by
      rw [components, components, isBelow.sameFront nonempty, isBelow.body,
        ← List.append_assoc]
      exact List.prefix_append _ _
    refine ⟨ofNames (dropFillersAtEnd
      ((afterComponents root.body.length path.segments).dropWhile isFiller)),
      ?_, rfl,
      trimmedEnd_ofNames_dropped _, ?_⟩
    · rw [relativeTo?,
        if_neg (by simpa using components_ne_nil written nonempty),
        if_pos (List.isPrefixOf_iff_prefix.mpr isPrefix)]
    · have tail : path.body.drop root.body.length = rest := by
        rw [isBelow.body, List.drop_left]
      rw [Path.body, ofNames, filterMap_dropFillersAtEnd,
        filterMap_dropWhile_isFiller, filterMap_afterComponents]
      exact tail

end IsBelow

/-! Extensions. -/

/--
A file name with another extension. What is a dot without its old
one takes none.
-/
def renamed (name extension : String) : String :=
  if (splitName name).2.isSome ∧ (splitName name).1 = "." then
    ".."
  else if extension = "" then
    (splitName name).1
  else
    (splitName name).1 ++ "." ++ extension

/-- Another extension replaces the last segment. -/
theorem withExtension_eq
    {path : Path}
    {name : String}
    (named : path.fileName? = some name)
    (trimmed : path.trimmedEnd = path)
    (extension : String) :
    path.withExtension extension =
      ⟨path.isAbsolute,
        path.segments.dropLast ++ [renamed name extension]⟩ := by
  simp only [withExtension, named, trimmed, and_true, renamed]

/-- Another extension does not make a path absolute. -/
theorem isAbsolute_withExtension
    (path : Path)
    (extension : String) :
    (path.withExtension extension).isAbsolute = path.isAbsolute := by
  unfold withExtension
  split <;> rfl

end Eisen.Path
