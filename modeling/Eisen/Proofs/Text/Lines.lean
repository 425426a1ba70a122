import Eisen.Text.Ascii

namespace Eisen.Text

/-!
# Lines of texts

Only a line feed ends a line, so a text has one line more than line feeds. What
is written behind a text without line feeds keeps its own later lines.
-/

/-- The lines of a text. -/
def lines (text : String) : List String :=
  (text.toList.splitOn '\n').map String.ofList

/-- The lines of a text behind its first line. -/
def laterLines (text : String) : List String :=
  (lines text).tail

/-- A text without line feeds. -/
def IsOneLine (text : String) : Prop :=
  '\n' ∉ text.toList

instance (text : String) : Decidable (IsOneLine text) :=
  inferInstanceAs (Decidable (¬ _))

/-! Texts of one line. -/

/-- A text stands in one line exactly where both of its parts do. -/
@[simp]
theorem isOneLine_append (front text : String) :
    IsOneLine (front ++ text) ↔ IsOneLine front ∧ IsOneLine text := by
  simp [IsOneLine]

@[simp]
theorem isOneLine_ofList (characters : List Char) :
    IsOneLine (String.ofList characters) ↔ '\n' ∉ characters := by
  simp [IsOneLine]

/--
A text that is given by its characters, as a literal is, can be
checked as a list.
-/
theorem isOneLine_literal
    {characters : List Char}
    (plain : characters.contains '\n' = false) :
    IsOneLine (String.ofList characters) := by
  simpa using plain

/-- Texts of one line stand in one line together. -/
theorem isOneLine_intercalate
    (separator : String)
    (plain : IsOneLine separator)
    {texts : List String}
    (each : ∀ text ∈ texts, IsOneLine text) :
    IsOneLine (separator.intercalate texts) := by
  induction texts with
  | nil => exact List.not_mem_nil
  | cons text rest inductionHypothesis =>
      rw [List.forall_mem_cons] at each
      cases rest with
      | nil => simpa using each.1
      | cons next others =>
          rw [String.intercalate_cons_cons, isOneLine_append, isOneLine_append]
          exact ⟨⟨each.1, plain⟩, inductionHypothesis each.2⟩

@[simp]
theorem isOneLine_toString (number : Nat) : IsOneLine (toString number) := by
  rw [IsOneLine, Nat.toString_eq_repr, Nat.toList_repr]
  intro feed
  exact absurd
    (Nat.isDigit_of_mem_toDigits (by decide) (by decide) feed) (by decide)

@[simp]
theorem isOneLine_toString_int (number : Int) :
    IsOneLine (toString number) := by
  rw [Int.toString_eq_repr, Int.repr_eq_if]
  split
  · exact isOneLine_toString _
  · exact (isOneLine_append _ _).mpr
      ⟨isOneLine_literal rfl, isOneLine_toString _⟩

/-- A sign in front of a number without line feeds. -/
theorem isOneLine_signed
    {magnitude : List Char}
    (plain : '\n' ∉ magnitude)
    (negative : Bool) :
    IsOneLine
      (String.ofList (if negative then '-' :: magnitude else magnitude)) := by
  rw [isOneLine_ofList]
  split
  · rw [List.mem_cons, not_or]
    exact ⟨by decide, plain⟩
  · exact plain

/-- Lower case makes no line end. -/
theorem eq_feed_of_toLower
    {character : Char}
    (isFeed : character.toLower = '\n') :
    character = '\n' := by
  unfold Char.toLower at isFeed
  split at isFeed
  · next upper =>
      have code : (character.toNat + 32) % 4294967296 = 10 :=
        congrArg (fun found : Char => found.val.toNat) isFeed
      have least : 65 ≤ character.toNat := UInt32.le_iff_toNat_le.mp upper.1
      have greatest : character.toNat ≤ 90 := UInt32.le_iff_toNat_le.mp upper.2
      omega
  · exact isFeed

theorem isOneLine_lower
    {text : String}
    (plain : IsOneLine text) :
    IsOneLine (lower text) := by
  rw [lower, isOneLine_ofList, List.mem_map]
  rintro ⟨character, member, isFeed⟩
  rw [eq_feed_of_toLower isFeed] at member
  exact plain member

/-! Faults that are worded in one line. -/

/-- An answer of which something holds, or a fault whose message is one line. -/
def FailsInOneLine
    {Fault α : Type}
    (message : Fault → String)
    (Holds : α → Prop) :
    Except Fault α → Prop
  | .ok found => Holds found
  | .error fault => IsOneLine (message fault)

namespace FailsInOneLine

variable {Fault α β : Type} {message : Fault → String} {Holds : α → Prop}
  {Later : β → Prop}
  {answer : Except Fault α}

/-- What is given has the property. -/
theorem holds
    (fails : FailsInOneLine message Holds answer)
    {found : α}
    (given : answer = .ok found) :
    Holds found := by
  rwa [given] at fails

/-- What fails is told in one line. -/
theorem isOneLine
    (fails : FailsInOneLine message Holds answer)
    {fault : Fault}
    (failed : answer = .error fault) :
    IsOneLine (message fault) := by
  rwa [failed] at fails

/-- Two parts fail in one line if each of them does. -/
theorem bind
    (fails : FailsInOneLine message Holds answer)
    {next : α → Except Fault β}
    (later : ∀ found, Holds found → FailsInOneLine message Later (next found)) :
    FailsInOneLine message Later (answer >>= next) := by
  cases answer with
  | error fault => exact fails
  | ok found => exact later found fails

/-- A view of what is given fails in one line. -/
theorem map
    (fails : FailsInOneLine message Holds answer)
    {change : α → β}
    (later : ∀ found, Holds found → Later (change found)) :
    FailsInOneLine message Later (answer.map change) := by
  cases answer with
  | error fault => exact fails
  | ok found => exact later found fails

end FailsInOneLine

/-! Lines. -/

/-- A text without line ends is its only line. -/
theorem lines_of_isOneLine
    {text : String}
    (plain : IsOneLine text) :
    lines text = [text] := by
  rw [lines, List.splitOn_eq_singleton plain, List.map_singleton,
    String.ofList_toList]

/-- A line feed separates the lines before it from the lines behind it. -/
theorem lines_append_feed (front text : String) :
    lines (front ++ "\n" ++ text) = lines front ++ lines text := by
  have form :
      (front ++ "\n" ++ text).toList = front.toList ++ '\n' :: text.toList := by
    simp
  rw [lines, form, List.splitOn_append_cons_self, List.map_append]
  rfl

/-- A part without line end belongs to the first line. -/
theorem splitOn_append_of_not_mem
    {front : List Char}
    (plain : '\n' ∉ front)
    {text first : List Char}
    {more : List (List Char)}
    (form : text.splitOn '\n' = first :: more) :
    (front ++ text).splitOn '\n' = (front ++ first) :: more := by
  induction front with
  | nil => exact form
  | cons character rest inductionHypothesis =>
      rw [List.mem_cons, not_or] at plain
      rw [List.cons_append, List.splitOn_cons_eq_if_modifyHead,
        inductionHypothesis plain.2, if_neg (by simpa using Ne.symm plain.1)]
      rfl

/-- A text in front of another one only changes its first line. -/
theorem exists_lines_append
    {front : String}
    (plain : IsOneLine front)
    (text : String) :
    ∃ first, lines (front ++ text) = (front ++ first) :: laterLines text := by
  obtain ⟨first, more, form⟩ :=
    List.exists_cons_of_ne_nil (List.splitOn_ne_nil '\n' text.toList)
  refine ⟨String.ofList first, ?_⟩
  rw [lines, String.toList_append, splitOn_append_of_not_mem plain form,
    laterLines, lines, form]
  simp

/--
Texts that each end with a line feed, and the empty line behind the last one.
-/
theorem lines_join_ended (texts : List String) :
    lines (String.join (texts.map fun text => text ++ "\n")) =
      texts.flatMap lines ++ [""] := by
  induction texts with
  | nil => rfl
  | cons text rest inductionHypothesis =>
      rw [List.map_cons, String.join_cons, lines_append_feed,
        inductionHypothesis, List.flatMap_cons, List.append_assoc]

end Eisen.Text
