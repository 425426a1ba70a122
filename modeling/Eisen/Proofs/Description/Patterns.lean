import Eisen.Description.Schema
import Eisen.Proofs.Pattern.Occurrence
import Eisen.Proofs.Script.Spelling

namespace Eisen.Description

open Pattern Script

/-!
# The patterns of the schema of descriptions

What the three patterns of the schema say about texts: which texts are names,
that the shapes of the schema are those that scripts spell, and that a text with
some ink is not blank.
-/

/-! Sets of characters. -/

theorem holds_nameLetters (character : Char) :
    nameLetters.holds character = character.isAlpha := by
  rw [Bool.eq_iff_iff, isAlpha_iff]
  simp [CharacterSet.holds, nameLetters, Text.inRanges]

theorem holds_asciiWord (character : Char) :
    CharacterSet.asciiWord.holds character =
      Text.isNameCharacter character := by
  rw [Bool.eq_iff_iff]
  simp only [CharacterSet.holds, CharacterSet.asciiWord, Text.inRanges,
    Text.isNameCharacter, Char.isAlphanum, List.any_cons, List.any_nil,
    Bool.or_eq_true, Bool.and_eq_true, decide_eq_true_eq, beq_iff_eq,
    isAlpha_iff, Char.isDigit_iff_toNat, ← Char.toNat_inj, Char.reduceToNat,
    Bool.false_eq_true, or_false]
  omega

/-- The characters of suffixes are those of words. -/
theorem holds_suffixCharacters (character : Char) :
    suffixCharacters.holds character = Text.isWordCharacter character := by
  rw [Bool.eq_iff_iff]
  simp only [CharacterSet.holds, suffixCharacters, Text.inRanges,
    Text.isWordCharacter, Char.isAlphanum, List.any_cons, List.any_nil,
    Bool.or_eq_true, Bool.and_eq_true, decide_eq_true_eq, beq_iff_eq,
    isAlpha_iff, Char.isDigit_iff_toNat, ← Char.toNat_inj, Char.reduceToNat,
    Bool.false_eq_true, or_false]
  omega

/-! Names. -/

/-- What the pattern of names looks for behind the first letter. -/
def nameRest : Regular :=
  .sequence (.many (.one .asciiWord)) (.look .textEnd)

/-- The rest of a name is any run of name characters up to the end. -/
theorem completes_nameRest_iff
    (before : Option Char)
    (text : List Char) :
    nameRest.Completes before text ↔
      ∀ character ∈ text, Text.isNameCharacter character = true := by
  induction text generalizing before with
  | nil =>
      have moves : nameRest.moves ⟨before, none⟩ =
        [⟨[], some (.asciiWord, nameRest)⟩, .stop] := rfl
      simp [Regular.Completes, moves, Move.isStop, Move.stop]
  | cons character text inductionHypothesis =>
      have moves : nameRest.moves ⟨before, some character⟩ =
        [⟨[], some (.asciiWord, nameRest)⟩] := rfl
      rw [Regular.completes_cons_iff moves, holds_asciiWord,
        inductionHypothesis, List.forall_mem_cons]

/-- The pattern of names is found exactly in names. -/
theorem search_namePattern_iff (text : String) :
    namePattern.pattern.search text = .ok true ↔ IsName text := by
  have front (after : Option Char) :
      (Regular.inOrder
        [.look .textStart, .one nameLetters, .many (.one .asciiWord),
        .look .textEnd]).moves ⟨none, after⟩ =
          [⟨[], some (nameLetters, nameRest)⟩] := rfl
  simp only [namePattern, Pattern.search, Except.ok.injEq,
    Regular.occursIn_eq_true_iff]
  rw [Regular.occurs_iff_completes fun _ _ => rfl, IsName]
  cases form : text.toList with
  | nil => simp [Regular.Completes, front, Move.isStop]
  | cons first rest =>
      rw [Regular.completes_cons_iff (front (some first)), holds_nameLetters,
        completes_nameRest_iff]
      constructor
      · rintro ⟨letter, word⟩
        exact ⟨first, rest, rfl, letter, word⟩
      · rintro ⟨_, _, ⟨⟩, letter, word⟩
        exact ⟨letter, word⟩

/-! Shapes. -/

/-- The pattern of a suffix. -/
def suffixPattern : Regular :=
  .group 2 (.sequence (.literal "::") (.some (.one suffixCharacters)))

/-- What the pattern of shapes looks for behind the base name. -/
def shapeEnd : Regular :=
  .inOrder [.nullable suffixPattern, .look .textEnd]

/--
What the pattern of shapes looks for inside a suffix of which `rest`
is still required.
-/
def suffixEnd (rest : Regular) : Regular :=
  .sequence
    (.sequence (.sequence rest (.mark 5))
      (.repeated suffixPattern 0 (some 0) true))
    (.look .textEnd)

section

-- the moves of a pattern are found by running it
attribute [local simp] Regular.moves Regular.inOrder Regular.nullable
  Regular.some Regular.group
  Regular.literal Regular.followedBy Move.isStop Move.stop Move.continuedBy
    Move.afterMarks Move.firstStopOnly
  Look.holds

/-- The end of a suffix is any run of word characters up to the end. -/
theorem completes_suffixEnd_iff
    (before : Option Char)
    (text : List Char) :
    (suffixEnd (.many (.one suffixCharacters))).Completes before text ↔
      ∀ character ∈ text, Text.isWordCharacter character = true := by
  induction text generalizing before with
  | nil =>
      have moves :
          (suffixEnd (.many (.one suffixCharacters))).moves ⟨before, none⟩ =
          [⟨[], some (suffixCharacters,
              suffixEnd (.many (.one suffixCharacters)))⟩,
            ⟨[5], none⟩] := by
        simp [suffixEnd, Regular.many]
      simp [Regular.Completes, moves]
  | cons character text inductionHypothesis =>
      have moves : (suffixEnd (.many (.one suffixCharacters))).moves
          ⟨before, some character⟩ =
          [⟨[], some (suffixCharacters,
              suffixEnd (.many (.one suffixCharacters)))⟩] := by
        simp [suffixEnd, Regular.many]
      rw [Regular.completes_cons_iff moves, holds_suffixCharacters,
        inductionHypothesis, List.forall_mem_cons]

/--
Behind the base name comes nothing, or two colons and at least one
word character.
-/
theorem completes_shapeEnd_iff
    (before : Option Char)
    (text : List Char) :
    (Regular.sequence (.mark 3) shapeEnd).Completes before text ↔
      text = [] ∨ ∃ first more, text = ':' :: ':' :: first :: more ∧
        ∀ character ∈ first :: more, Text.isWordCharacter character = true := by
  cases text with
  | nil =>
      have stops : ((Regular.sequence (.mark 3) shapeEnd).moves
          ⟨before, none⟩).any Move.isStop =
          true := by
        simp [shapeEnd, suffixPattern]
      exact iff_of_true (List.any_eq_true.mp stops) (.inl rfl)
  | cons character text =>
      have colon :
          (Regular.sequence (.mark 3) shapeEnd).moves ⟨before, some character⟩ =
          [⟨[3, 4], some (.single ':', suffixEnd (.sequence (.one (.single ':'))
            (.some (.one suffixCharacters))))⟩] := by
        simp [shapeEnd, suffixPattern, suffixEnd]
      have secondColon (place : Neighbours) :
          (suffixEnd (.sequence (.one (.single ':'))
              (.some (.one suffixCharacters)))).moves place =
            [(.single ':', suffixEnd (.some (.one suffixCharacters)))].map
              fun next =>
              ⟨[], some next⟩ := by
        simp [suffixEnd]
      have word (place : Neighbours) :
          (suffixEnd (.some (.one suffixCharacters))).moves place =
            [(suffixCharacters, suffixEnd (.many (.one suffixCharacters)))].map
              fun next =>
              ⟨[], some next⟩ := by
        simp [suffixEnd, Regular.many]
      rw [Regular.completes_cons_iff colon,
        Regular.completes_iff_exists_cons fun _ => secondColon _]
      simp only [Regular.completes_iff_exists_cons fun _ => word _,
        completes_suffixEnd_iff, List.mem_singleton, exists_eq_left,
        Regular.holds_single_iff, holds_suffixCharacters]
      constructor
      · rintro ⟨rfl, _, _, rfl, rfl, first, more, rfl, isWord, areWord⟩
        exact .inr ⟨first, more, rfl,
          List.forall_mem_cons.mpr ⟨isWord, areWord⟩⟩
      · rintro (isEmpty | ⟨first, more, isCons, areWord⟩)
        · cases isEmpty
        · cases isCons
          obtain ⟨isWord, areWord⟩ := List.forall_mem_cons.mp areWord
          exact ⟨rfl, _, _, rfl, rfl, first, more, rfl, isWord, areWord⟩

/-- The pattern of shapes goes on with the first letter of a base name. -/
theorem moves_shapePattern (after : Option Char) :
    (Regular.inOrder
      [.look .textStart, .group 1 basicShape, .nullable suffixPattern,
        .look .textEnd]).moves ⟨none, after⟩ =
      (shapes.map fun base => (.single (base.toList.headD ' '),
        .charactersThen 3 shapeEnd base.toList.tail)).map fun next =>
          ⟨[2], some next⟩ := by
  simp [basicShape, Regular.oneOf, Regular.charactersThen, shapeEnd, shapes]

end

/-- The pattern of shapes is found exactly in shapes. -/
theorem search_shapePattern_iff (text : String) :
    shapePattern.pattern.search text = .ok true ↔ IsShape text := by
  have search : shapePattern.pattern.search text =
      .ok (Regular.occursIn
        (Regular.inOrder [.look .textStart, .group 1 basicShape,
        .nullable suffixPattern, .look .textEnd]) text) := rfl
  have letters : ∀ base ∈ shapes,
      base.toList = base.toList.headD ' ' :: base.toList.tail ∧
        base.toList.tail ≠ [] := by
    decide
  rw [search, Except.ok.injEq, Regular.occursIn_eq_true_iff,
    Regular.occurs_iff_completes fun _ _ => rfl,
    Regular.completes_iff_exists_cons moves_shapePattern]
  constructor
  · rintro ⟨first, behind, form, _, member, isFirst, completes⟩
    obtain ⟨base, isBase, rfl⟩ := List.mem_map.mp member
    obtain ⟨isCons, more⟩ := letters base isBase
    rw [Regular.holds_single_iff] at isFirst
    obtain ⟨suffix, rfl, isSuffix⟩ :=
      (Regular.completes_charactersThen_iff completes_shapeEnd_iff more _ _).mp
        completes
    exact ⟨base, isBase, suffix, by rw [form, isFirst, isCons]; rfl, isSuffix⟩
  · rintro ⟨base, isBase, suffix, form, isSuffix⟩
    obtain ⟨isCons, more⟩ := letters base isBase
    rw [isCons] at form
    refine ⟨_, _, form, _, List.mem_map_of_mem isBase,
      (Regular.holds_single_iff _ _).mpr rfl, ?_⟩
    exact (Regular.completes_charactersThen_iff completes_shapeEnd_iff
      more _ _).mpr
      ⟨suffix, rfl, isSuffix⟩

/-! Ink. -/

/-- One character with ink suffices for the pattern of numerals. -/
theorem search_inkPattern_of_mem
    {text : String}
    {character : Char}
    (member : character ∈ text.toList)
    (ink : nonSpace.holds character = true) :
    inkPattern.pattern.search text = .ok true := by
  obtain ⟨front, behind, form⟩ := List.append_of_mem member
  simp only [inkPattern, Pattern.search, Except.ok.injEq,
    Regular.occursIn_eq_true_iff, form]
  refine Regular.Occurs.of_append front (fun before => .of_completes ?_) none
  refine .inr ⟨⟨[], some (nonSpace, .empty)⟩, List.mem_singleton.mpr rfl,
    .empty, ?_, ?_⟩
  · simp [Move.rest?, ink]
  · cases behind with
    | nil => exact ⟨.stop, List.mem_singleton.mpr rfl, rfl⟩
    | cons => exact .inl ⟨.stop, List.mem_singleton.mpr rfl, rfl⟩

end Eisen.Description
