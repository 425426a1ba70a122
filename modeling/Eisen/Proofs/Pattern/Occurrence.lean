import Eisen.Pattern.Regular

namespace Eisen.Pattern.Regular

/-!
# Occurrences of regular patterns

The search for a pattern follows all ways of matching it at once. This module
states what one way is, and that the search finds a pattern exactly when some
way from some place of the text comes to a stop.
-/

theorem holds_single_iff (expected character : Char) :
    (CharacterSet.single expected).holds character = true ↔
      character = expected := by
  simp only [CharacterSet.holds, CharacterSet.single, Text.inRanges,
    List.any_cons, List.any_nil, Bool.or_false, Bool.and_eq_true,
    decide_eq_true_eq, ← Char.toNat_inj]
  omega

/-- A pattern comes to a stop at the front of a text, in one of its ways. -/
def Completes : Regular → Option Char → List Char → Prop
  | pattern, before, [] =>
      ∃ move ∈ pattern.moves ⟨before, none⟩, move.isStop = true
  | pattern, before, character :: text =>
      (∃ move ∈ pattern.moves ⟨before, Option.some character⟩,
        move.isStop = true) ∨
        ∃ move ∈ pattern.moves ⟨before, Option.some character⟩,
          ∃ rest, move.rest? character = Option.some rest ∧
            Completes rest (Option.some character) text

/-- A pattern comes to a stop from the front of a text or from a later place. -/
def Occurs (pattern : Regular) : Option Char → List Char → Prop
  | before, [] => pattern.Completes before []
  | before, character :: text =>
      pattern.Completes before (character :: text) ∨
        pattern.Occurs (Option.some character) text

/--
A search succeeds if a match that has begun can be completed, or the pattern
occurs later.
-/
theorem occursFrom_eq_true_iff
    (pattern : Regular)
    (begun : List Regular)
    (before : Option Char)
    (text : List Char) :
    pattern.occursFrom begun before text = true ↔
      (∃ rest ∈ begun, rest.Completes before text) ∨
        pattern.Occurs before text := by
  induction text generalizing begun before with
  | nil => simp [occursFrom, Completes, Occurs]
  | cons character text inductionHypothesis =>
      -- the ways that are left after the character are those of the moves
      -- before it
      have left (rest : Regular) :
          rest ∈ (((begun ++ [pattern]).flatMap fun rest =>
            rest.moves ⟨before, Option.some character⟩).filterMap
              (Move.rest? character)).eraseDups ↔
            ∃ earlier ∈ begun ++ [pattern],
              ∃ move ∈ earlier.moves ⟨before, Option.some character⟩,
                move.rest? character = Option.some rest := by
        simp only [List.mem_eraseDups, List.mem_filterMap, List.mem_flatMap]
        constructor
        · rintro ⟨move, ⟨earlier, inBegun, moves⟩, goes⟩
          exact ⟨earlier, inBegun, move, moves, goes⟩
        · rintro ⟨earlier, inBegun, move, moves, goes⟩
          exact ⟨move, ⟨earlier, inBegun, moves⟩, goes⟩
      have completes :
          (∃ earlier ∈ begun ++ [pattern],
            earlier.Completes before (character :: text)) ↔
            (∃ rest ∈ begun, rest.Completes before (character :: text)) ∨
              pattern.Completes before (character :: text) := by
        simp [or_and_right, exists_or]
      rw [occursFrom, Bool.or_eq_true, inductionHypothesis, Occurs, ← or_assoc,
        ← or_assoc, ← completes]
      refine or_congr_left ?_
      simp only [left, List.any_eq_true, List.mem_flatMap, Completes]
      constructor
      · rintro (⟨move, ⟨earlier, inBegun, moves⟩, stops⟩ |
          ⟨rest, ⟨earlier, inBegun, move, moves, goes⟩, completes⟩)
        · exact ⟨earlier, inBegun, .inl ⟨move, moves, stops⟩⟩
        · exact ⟨earlier, inBegun, .inr ⟨move, moves, rest, goes, completes⟩⟩
      · rintro ⟨earlier, inBegun,
          ⟨move, moves, stops⟩ | ⟨move, moves, rest, goes, completes⟩⟩
        · exact .inl ⟨move, ⟨earlier, inBegun, moves⟩, stops⟩
        · exact .inr ⟨rest, ⟨earlier, inBegun, move, moves, goes⟩, completes⟩

/--
A pattern is found in a text exactly when it comes to a stop from
some place of it.
-/
theorem occursIn_eq_true_iff
    (pattern : Regular)
    (text : String) :
    pattern.occursIn text = true ↔ pattern.Occurs none text.toList := by
  rw [occursIn, occursFrom_eq_true_iff]
  simp

theorem Occurs.of_completes
    {pattern : Regular}
    {before : Option Char}
    {text : List Char}
    (completes : pattern.Completes before text) :
    pattern.Occurs before text := by
  cases text with
  | nil => exact completes
  | cons => exact .inl completes

/-- A pattern that stops from some place inside a text occurs in the text. -/
theorem Occurs.of_append
    {pattern : Regular}
    {text : List Char}
    (front : List Char)
    (occurs : ∀ before, pattern.Occurs before text)
    (before : Option Char) :
    pattern.Occurs before (front ++ text) := by
  induction front generalizing before with
  | nil => exact occurs before
  | cons character front inductionHypothesis =>
      exact .inr (inductionHypothesis _)

/--
A pattern that cannot stop comes to a stop where the rest does that one of
its moves leaves.
-/
theorem completes_cons_iff_exists
    {pattern : Regular}
    {before : Option Char}
    {character : Char}
    {marks : List Nat}
    {nexts : List (CharacterSet × Regular)}
    (moves : pattern.moves ⟨before, Option.some character⟩ =
      nexts.map fun next => ⟨marks, Option.some next⟩)
    (text : List Char) :
    pattern.Completes before (character :: text) ↔
      ∃ next ∈ nexts, next.1.holds character = true ∧
        next.2.Completes (Option.some character) text := by
  rw [Completes, moves]
  constructor
  · rintro (⟨move, member, stops⟩ | ⟨move, member, rest, goes, completes⟩)
    · obtain ⟨next, -, rfl⟩ := List.mem_map.mp member
      cases stops
    · obtain ⟨next, inNexts, rfl⟩ := List.mem_map.mp member
      obtain ⟨holds, ⟨⟩⟩ := Option.ite_none_right_eq_some.mp goes
      exact ⟨next, inNexts, holds, completes⟩
  · rintro ⟨next, inNexts, holds, completes⟩
    exact .inr ⟨_, List.mem_map.mpr ⟨next, inNexts, rfl⟩, next.2,
      if_pos holds, completes⟩

/-- A pattern with one move goes on behind a character of its set. -/
theorem completes_cons_iff
    {pattern rest : Regular}
    {before : Option Char}
    {character : Char}
    {marks : List Nat}
    {set : CharacterSet}
    (moves : pattern.moves ⟨before, Option.some character⟩ =
      [⟨marks, Option.some (set, rest)⟩])
    (text : List Char) :
    pattern.Completes before (character :: text) ↔
      set.holds character = true ∧
        rest.Completes (Option.some character) text := by
  have one : pattern.moves ⟨before, Option.some character⟩ =
      [(set, rest)].map fun next => ⟨marks, Option.some next⟩ := moves
  simp only [completes_cons_iff_exists one, List.mem_singleton, exists_eq_left]

/--
A pattern that cannot even stop at the end of a text needs a
character to go on with.
-/
theorem completes_iff_exists_cons
    {pattern : Regular}
    {before : Option Char}
    {marks : List Nat}
    {nexts : List (CharacterSet × Regular)}
    (moves : ∀ after, pattern.moves ⟨before, after⟩ =
      nexts.map fun next => ⟨marks, Option.some next⟩)
    (text : List Char) :
    pattern.Completes before text ↔
      ∃ character behind, text = character :: behind ∧
        ∃ next ∈ nexts, next.1.holds character = true ∧
          next.2.Completes (Option.some character) behind := by
  cases text with
  | nil =>
      rw [Completes, moves]
      constructor
      · rintro ⟨move, member, stops⟩
        obtain ⟨next, -, rfl⟩ := List.mem_map.mp member
        cases stops
      · rintro ⟨_, _, ⟨⟩, _⟩
  | cons character text =>
      rw [completes_cons_iff_exists (moves (Option.some character))]
      constructor
      · exact fun goesOn => ⟨character, text, rfl, goesOn⟩
      · rintro ⟨_, _, ⟨⟩, goesOn⟩
        exact goesOn

/-- Some characters, and then a mark and another pattern. -/
def charactersThen
    (slot : Nat)
    (second : Regular)
    (characters : List Char) : Regular :=
  .sequence (.sequence
    (.inOrder (characters.map fun character => .one (.single character)))
    (.mark slot)) second

/--
A pattern that starts with the characters of a word is completed
behind the word.
-/
theorem completes_charactersThen_iff
    {slot : Nat}
    {second : Regular}
    {Ends : List Char → Prop}
    (ends : ∀ before text,
      (Regular.sequence (.mark slot) second).Completes before text ↔ Ends text)
    {characters : List Char}
    (nonempty : characters ≠ [])
    (before : Option Char)
    (text : List Char) :
    (charactersThen slot second characters).Completes before text ↔
      ∃ behind, text = characters ++ behind ∧ Ends behind := by
  induction characters generalizing before text with
  | nil => exact absurd rfl nonempty
  | cons first more inductionHypothesis =>
      cases more with
      | nil =>
          have moves (place : Neighbours) :
              (charactersThen slot second [first]).moves place =
              [(.single first, .sequence (.mark slot) second)].map fun next =>
                ⟨[], Option.some next⟩ := rfl
          rw [completes_iff_exists_cons fun _ => moves _]
          simp only [List.mem_singleton, exists_eq_left, holds_single_iff, ends]
          constructor
          · rintro ⟨_, behind, rfl, rfl, isEnd⟩
            exact ⟨behind, rfl, isEnd⟩
          · rintro ⟨behind, rfl, isEnd⟩
            exact ⟨first, behind, rfl, rfl, isEnd⟩
      | cons next more =>
          have moves (place : Neighbours) :
              (charactersThen slot second (first :: next :: more)).moves place =
                [(.single first, charactersThen slot second (next :: more))].map
                  fun next =>
                  ⟨[], Option.some next⟩ := by
            cases more <;> rfl
          rw [completes_iff_exists_cons fun _ => moves _]
          simp only [List.mem_singleton, exists_eq_left, holds_single_iff,
            inductionHypothesis (List.cons_ne_nil _ _)]
          constructor
          · rintro ⟨_, _, rfl, rfl, behind, rfl, isEnd⟩
            exact ⟨behind, rfl, isEnd⟩
          · rintro ⟨behind, rfl, isEnd⟩
            exact ⟨first, _, rfl, rfl, behind, rfl, isEnd⟩

/--
A pattern whose ways all start at the front of a text occurs nowhere else.
-/
theorem occurs_iff_completes
    {pattern : Regular}
    (anchored : ∀ before after, pattern.moves ⟨Option.some before, after⟩ = [])
    (text : List Char) :
    pattern.Occurs none text ↔ pattern.Completes none text := by
  have nowhere (before : Char) (text : List Char) :
      ¬ pattern.Occurs (Option.some before) text := by
    induction text generalizing before with
    | nil => simp [Occurs, Completes, anchored]
    | cons character text inductionHypothesis =>
        simp [Occurs, Completes, anchored, inductionHypothesis]
  cases text with
  | nil => rfl
  | cons character text => simp [Occurs, nowhere]

end Eisen.Pattern.Regular
