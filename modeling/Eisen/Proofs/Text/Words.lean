import Eisen.Text.Blank
import Mathlib.Data.List.Basic
import Mathlib.Data.List.DropRight

namespace Eisen.Text

/-!
# Words and ends of a text

The words of a text are what stands between its blanks. Put side by side with
single blanks between them they can be split again, so such a text determines
them. A text that is written with single blanks in the first place is split into
what it was made of. Trimming drops the blanks at the ends, once and for all.
-/

/-- The words hold all characters of a text but its blanks. -/
theorem flatten_wordsFrom (current text : List Char) :
    (wordsFrom current text).flatten =
      current.reverse ++ text.filter fun character => !isBlank character := by
  fun_induction wordsFrom current text with
  | case1 current isEmpty => simp [List.isEmpty_iff.mp isEmpty]
  | case2 current nonempty => simp
  | case3 current character rest blank isEmpty inductionHypothesis =>
      simp [inductionHypothesis, blank, List.isEmpty_iff.mp isEmpty]
  | case4 current character rest blank nonempty inductionHypothesis =>
      simp [inductionHypothesis, blank]
  | case5 current character rest ink inductionHypothesis =>
      simp [inductionHypothesis, ink]

theorem nil_not_mem_wordsFrom (current text : List Char) :
    [] ∉ wordsFrom current text := by
  fun_induction wordsFrom current text with
  | case1 current isEmpty => simp
  | case2 current nonempty => simpa using nonempty
  | case3 current character rest blank isEmpty inductionHypothesis =>
      exact inductionHypothesis
  | case4 current character rest blank nonempty inductionHypothesis =>
      simpa [inductionHypothesis] using nonempty
  | case5 current character rest ink inductionHypothesis =>
      exact inductionHypothesis

/--
A word is not empty, and its characters are characters of the text
other than blanks.
-/
theorem mem_words
    {text word : String}
    (member : word ∈ words text) :
    word.toList ≠ [] ∧ ∀ character ∈ word.toList,
      isBlank character = false ∧ character ∈ text.toList := by
  obtain ⟨characters, isWord, rfl⟩ := List.mem_map.mp member
  rw [String.toList_ofList]
  refine ⟨fun isEmpty => nil_not_mem_wordsFrom _ _ (isEmpty ▸ isWord),
    fun character inWord => ?_⟩
  have inWords := List.mem_flatten_of_mem isWord inWord
  rw [flatten_wordsFrom, List.reverse_nil, List.nil_append,
    List.mem_filter] at inWords
  simpa using inWords.symm

/-- Words with single blanks between them are split again. -/
theorem splitOn_intercalate_words
    {text : String}
    (some : words text ≠ []) :
    (" ".intercalate (words text)).toList.splitOn ' ' =
      (words text).map String.toList := by
  rw [String.toList_intercalate]
  refine List.splitOn_intercalate ' ' ?_ (by simpa using some)
  rw [List.forall_mem_map]
  intro word member blank
  exact absurd ((mem_words member).2 ' ' blank).1 (by decide)

/-- Only texts without words are empty with single blanks. -/
theorem intercalate_words_eq_empty_iff (text : String) :
    " ".intercalate (words text) = "" ↔ words text = [] := by
  constructor
  · intro empty
    by_contra some
    have split := splitOn_intercalate_words some
    rw [empty] at split
    have member : [] ∈ (words text).map String.toList :=
      split ▸ List.mem_singleton.mpr rfl
    obtain ⟨word, inWords, isEmpty⟩ := List.mem_map.mp member
    exact (mem_words inWords).1 isEmpty
  · intro none
    rw [none]
    rfl

/-- Words with single blanks between them are still the same words. -/
theorem words_eq_of_intercalate_eq
    {left right : String}
    (same : " ".intercalate (words left) = " ".intercalate (words right)) :
    words left = words right := by
  by_cases none : words left = []
  · rw [none, (intercalate_words_eq_empty_iff right).mp]
    rw [← same, (intercalate_words_eq_empty_iff left).mpr none]
  · have some : words right ≠ [] := by
      rwa [ne_eq, ← intercalate_words_eq_empty_iff, ← same,
        intercalate_words_eq_empty_iff]
    have split := splitOn_intercalate_words none
    rw [same, splitOn_intercalate_words some] at split
    exact (List.map_injective_iff.mpr fun _ _ =>
      String.toList_inj.mp) split.symm

/-- Between texts stand blanks only. -/
theorem mem_toList_intercalate
    {texts : List String}
    {character : Char}
    (member : character ∈ (" ".intercalate texts).toList) :
    character = ' ' ∨ ∃ text ∈ texts, character ∈ text.toList := by
  induction texts with
  | nil => cases member
  | cons text rest inductionHypothesis =>
      cases rest with
      | nil =>
          exact .inr ⟨text, List.mem_singleton.mpr rfl, by simpa using member⟩
      | cons next others =>
          rw [String.intercalate_cons_cons] at member
          simp only [String.toList_append, List.mem_append] at member
          rcases member with (inFirst | isBlank) | inRest
          · exact .inr ⟨text, List.mem_cons_self, inFirst⟩
          · exact .inl (List.mem_singleton.mp isBlank)
          · refine (inductionHypothesis inRest).imp_right ?_
            rintro ⟨found, inOthers, inFound⟩
            exact ⟨found, List.mem_cons_of_mem _ inOthers, inFound⟩

/-! Texts that are made of words. -/

/-- A text that is a word by itself. -/
structure IsWord (text : String) : Prop where
  some : text.toList ≠ []
  ink : ∀ character ∈ text.toList, isBlank character = false

/-- Characters other than blanks go on with the word that is open. -/
theorem wordsFrom_append_of_ink
    {word : List Char}
    (ink : ∀ character ∈ word, isBlank character = false)
    (current rest : List Char) :
    wordsFrom current (word ++ rest) =
      wordsFrom (word.reverse ++ current) rest := by
  induction word generalizing current with
  | nil => rfl
  | cons character others inductionHypothesis =>
      obtain ⟨first, later⟩ := List.forall_mem_cons.mp ink
      simp [wordsFrom, first, inductionHypothesis later]

theorem words_of_isWord
    {text : String}
    (isWord : IsWord text) :
    words text = [text] := by
  have opened := wordsFrom_append_of_ink isWord.ink [] []
  simp only [List.append_nil] at opened
  simp [words, opened, wordsFrom, isWord.some]

/-- A blank behind a word ends it. -/
theorem words_append_blank
    {text : String}
    (isWord : IsWord text)
    (rest : String) :
    words (text ++ " " ++ rest) = text :: words rest := by
  have blank : isBlank ' ' = true := by decide
  have opened := wordsFrom_append_of_ink isWord.ink [] (' ' :: rest.toList)
  simp [words, opened, wordsFrom, blank, isWord.some]

/-- Words with single blanks between them can be split again. -/
theorem words_intercalate
    {texts : List String}
    (areWords : ∀ text ∈ texts, IsWord text) :
    words (" ".intercalate texts) = texts := by
  induction texts with
  | nil => rfl
  | cons text rest inductionHypothesis =>
      obtain ⟨isWord, others⟩ := List.forall_mem_cons.mp areWords
      cases rest with
      | nil =>
          rw [String.intercalate_singleton]
          exact words_of_isWord isWord
      | cons next later =>
          rw [String.intercalate_cons_cons, words_append_blank isWord,
            inductionHypothesis others]

/-- Groups that are written one behind the other are their members in a row. -/
theorem intercalate_map_intercalate
    {groups : List (List String)}
    (some : ∀ group ∈ groups, group ≠ []) :
    " ".intercalate (groups.map (" ".intercalate ·)) =
      " ".intercalate groups.flatten := by
  induction groups with
  | nil => rfl
  | cons group rest inductionHypothesis =>
      obtain ⟨isSome, others⟩ := List.forall_mem_cons.mp some
      cases rest with
      | nil => simp
      | cons next later =>
          have behind : (next :: later).flatten ≠ [] := by
            simp [(List.forall_mem_cons.mp others).1]
          calc
            _ = " ".intercalate group ++ " " ++
                " ".intercalate ((next :: later).map (" ".intercalate ·)) :=
              String.intercalate_cons_cons
            _ = " ".intercalate group ++ " " ++
              " ".intercalate (next :: later).flatten := by
              rw [inductionHypothesis others]
            _ = " ".intercalate (group ++ (next :: later).flatten) :=
              (String.intercalate_append_of_ne_nil isSome behind).symm

/-! Trimming. -/

/-- Only blanks are trimmed to nothing. -/
theorem trim_isEmpty_iff (text : String) :
    (trim text).isEmpty = true ↔
      ∀ character ∈ text.toList, isBlank character = true := by
  rw [trim, String.isEmpty_iff, String.ofList_eq_empty_iff, trimmed,
    List.reverse_eq_nil_iff, List.dropWhile_eq_nil_iff]
  simp only [List.mem_reverse]
  constructor
  · intro blank
    -- what is left in front starts with no blank, so nothing is left
    cases left : text.toList.dropWhile isBlank with
    | nil => exact List.dropWhile_eq_nil_iff.mp left
    | cons first rest =>
        have inked :=
          List.head_dropWhile_not isBlank (l := text.toList) (by simp [left])
        simp only [left, List.head_cons] at inked
        rw [blank first (by simp [left])] at inked
        cases inked
  · intro blank character member
    exact blank character ((List.dropWhile_suffix isBlank).mem member)

theorem trimmed_eq_rdropWhile (characters : List Char) :
    trimmed characters = (characters.dropWhile isBlank).rdropWhile isBlank :=
  rfl

/-- What is left of a text does not start with a blank. -/
theorem dropWhile_trimmed (characters : List Char) :
    (trimmed characters).dropWhile isBlank = trimmed characters := by
  cases form : trimmed characters with
  | nil => rfl
  | cons first rest =>
      obtain ⟨others, isFront⟩ : first :: rest <+:
          characters.dropWhile isBlank := by
        rw [← form, trimmed_eq_rdropWhile]
        exact List.rdropWhile_prefix isBlank _
      have inked :=
        List.head_dropWhile_not isBlank (l := characters) (by simp [← isFront])
      simp only [← isFront, List.cons_append, List.head_cons] at inked
      rw [List.dropWhile_cons_of_neg (by simp [inked])]

theorem trim_trim (text : String) : trim (trim text) = trim text := by
  rw [trim, trim, String.toList_ofList, trimmed_eq_rdropWhile (trimmed _),
    dropWhile_trimmed, trimmed_eq_rdropWhile, List.rdropWhile_idempotent]

end Eisen.Text
