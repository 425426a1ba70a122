import Eisen.Text.Order
import Mathlib.Data.String.Basic
import Mathlib.Tactic.SplitIfs

namespace Eisen.Text

/-!
# The order of texts and of their bytes

Texts are ordered by code point. UTF-8 keeps that order: the first characters in
which two texts differ also decide how their bytes compare.
-/

/-- The bytes of a text in UTF-8. -/
def bytes (text : String) : List UInt8 :=
  text.toUTF8.data.toList

/-- The bytes of a text are those of its characters. -/
theorem bytes_eq_flatMap (text : String) :
    bytes text = text.toList.flatMap String.utf8EncodeChar := by
  have encoded :
      text.toUTF8 = (text.toList.flatMap String.utf8EncodeChar).toByteArray :=
    String.utf8Encode_toList.symm
  rw [bytes, encoded]
  simp

theorem ofNat_lt_ofNat
    {left right : Nat}
    (less : left < right)
    (small : right < 256) :
    UInt8.ofNat left < UInt8.ofNat right := by
  rw [UInt8.lt_iff_toNat_lt, UInt8.toNat_ofNat', UInt8.toNat_ofNat',
    Nat.mod_eq_of_lt (Nat.lt_trans less small), Nat.mod_eq_of_lt small]
  exact less

/-- How many bytes follow the first one of a code. -/
def followers (code : Nat) : Nat :=
  if code ≤ 127 then 0 else if code ≤ 2047 then 1 else if code ≤ 65535
    then 2 else 3

/-- What the first byte starts at that a number of bytes follow. -/
def leadMark : Nat → Nat
  | 0 => 0
  | 1 => 192
  | 2 => 224
  | 3 => 240
  | _ => 256

/-- The first byte of a code. -/
def lead (code : Nat) : Nat :=
  code / 64 ^ followers code + leadMark (followers code)

/--
The low six-bit groups of a code, each as a byte that follows the first one.
-/
def continuation : Nat → Nat → List UInt8
  | 0, _ => []
  | count + 1, code =>
      UInt8.ofNat (code / 64 ^ count % 64 + 128) :: continuation count code

theorem toNat_lt_codeLimit (character : Char) : character.toNat < 1114112 := by
  rcases character.valid with low | high
  · exact Nat.lt_trans low (by decide)
  · exact high.2

/-- A character is a leading byte and its followers. -/
theorem utf8EncodeChar_eq (character : Char) :
    String.utf8EncodeChar character =
      UInt8.ofNat (lead character.toNat) ::
        continuation (followers character.toNat) character.toNat := by
  have bound := toNat_lt_codeLimit character
  have value : character.val.toNat = character.toNat := rfl
  simp only [String.utf8EncodeChar, value, lead, followers]
  generalize character.toNat = code at bound
  split_ifs
  · simp [continuation, leadMark]
  · have small : code / 64 % 32 = code / 64 := Nat.mod_eq_of_lt (by omega)
    simp [continuation, leadMark, small]
  · have small : code / 4096 % 16 = code / 4096 := Nat.mod_eq_of_lt (by omega)
    simp [continuation, leadMark, small]
  · have small : code / 262144 % 8 = code / 262144 :=
      Nat.mod_eq_of_lt (by omega)
    simp [continuation, leadMark, small]

/-- Greater codes have no fewer followers. -/
theorem followers_le_followers
    {left right : Nat}
    (less : left ≤ right) :
    followers left ≤ followers right := by
  unfold followers
  split_ifs <;> omega

/-- Greater codes have no smaller mark. -/
theorem leadMark_le_leadMark
    {left right : Nat}
    (less : left ≤ right) :
    leadMark left ≤ leadMark right := by
  refine monotone_nat_of_le_succ (fun count => ?_) less
  rcases count with _ | _ | _ | _ | count <;> simp [leadMark]

/-- A first byte is below the ones that more bytes follow. -/
theorem lead_lt_leadMark
    {code : Nat}
    (bound : code < 1114112) :
    lead code < leadMark (followers code + 1) := by
  simp only [lead, followers]
  split_ifs <;> simp only [leadMark, Nat.reduceAdd, Nat.reducePow, pow_zero,
    pow_one] <;> omega

/-- A leading byte is a byte. -/
theorem lead_lt_256
    {code : Nat}
    (bound : code < 1114112) :
    lead code < 256 := by
  have narrow : followers code + 1 ≤ 4 := by
    unfold followers
    split_ifs <;> omega
  exact (lead_lt_leadMark bound).trans_le (leadMark_le_leadMark narrow)

/--
Codes with the same high groups are ordered as the bytes of their
low groups are.
-/
theorem continuation_append_lt
    {left right : Nat}
    (less : left < right)
    (count : Nat)
    (same : left / 64 ^ count = right / 64 ^ count)
    (leftRest rightRest : List UInt8) :
    continuation count left ++ leftRest <
      continuation count right ++ rightRest := by
  induction count with
  | zero =>
      rw [pow_zero, Nat.div_one, Nat.div_one] at same
      exact absurd same less.ne
  | succ count inductionHypothesis =>
      rw [pow_succ, ← Nat.div_div_eq_div_mul, ← Nat.div_div_eq_div_mul] at same
      rw [continuation, continuation, List.cons_append, List.cons_append,
        List.cons_lt_cons_iff]
      by_cases next : left / 64 ^ count = right / 64 ^ count
      · exact .inr ⟨by rw [next], inductionHypothesis next⟩
      · have notGreater : left / 64 ^ count ≤ right / 64 ^ count :=
          Nat.div_le_div_right less.le
        exact .inl (ofNat_lt_ofNat (by omega) (by omega))

/-- The bytes of a smaller character come first, whatever follows. -/
theorem utf8EncodeChar_append_lt
    {left right : Char}
    (before : left < right)
    (leftRest rightRest : List UInt8) :
    String.utf8EncodeChar left ++ leftRest <
      String.utf8EncodeChar right ++ rightRest := by
  have less : left.toNat < right.toNat := UInt32.lt_iff_toNat_lt.mp before
  have small := lead_lt_256 (toNat_lt_codeLimit right)
  rw [utf8EncodeChar_eq, utf8EncodeChar_eq, List.cons_append, List.cons_append,
    List.cons_lt_cons_iff]
  rcases (followers_le_followers less.le).lt_or_eq with longer | sameLength
  · have first : lead left.toNat < lead right.toNat :=
      calc lead left.toNat
          < leadMark (followers left.toNat + 1) :=
            lead_lt_leadMark (toNat_lt_codeLimit left)
        _ ≤ leadMark (followers right.toNat) := leadMark_le_leadMark longer
        _ ≤ lead right.toNat := Nat.le_add_left _ _
    exact .inl (ofNat_lt_ofNat first small)
  · by_cases same : left.toNat / 64 ^ followers right.toNat =
        right.toNat / 64 ^ followers right.toNat
    · rw [sameLength, lead, lead, sameLength, same]
      exact .inr ⟨rfl, continuation_append_lt less _ same leftRest rightRest⟩
    · have first : lead left.toNat < lead right.toNat := by
        have notGreater :=
          Nat.div_le_div_right (c := 64 ^ followers right.toNat) less.le
        rw [lead, lead, sameLength]
        omega
      exact .inl (ofNat_lt_ofNat first small)

/-- Texts are ordered as their bytes are. -/
theorem bytes_lt_of_lt
    {left right : String}
    (before : left < right) :
    bytes left < bytes right := by
  rw [bytes_eq_flatMap, bytes_eq_flatMap]
  rw [String.lt_iff_toList_lt] at before
  generalize left.toList = leftCharacters at before
  generalize right.toList = rightCharacters at before
  induction leftCharacters generalizing rightCharacters with
  | nil =>
      cases rightCharacters with
      | nil => exact absurd before (List.lt_irrefl [])
      | cons character rest =>
          rw [List.flatMap_cons, utf8EncodeChar_eq]
          exact List.nil_lt_cons _ _
  | cons first rest inductionHypothesis =>
      cases rightCharacters with
      | nil => exact absurd before (List.not_lt_nil _)
      | cons other others =>
          rw [List.flatMap_cons, List.flatMap_cons]
          rcases List.cons_lt_cons_iff.mp before with less | ⟨rfl, later⟩
          · exact utf8EncodeChar_append_lt less _ _
          · exact List.append_left_lt (inductionHypothesis _ later)

/-- Without repetitions names are distinct. -/
theorem nodup_eraseDups (names : List String) : names.eraseDups.Nodup := by
  cases names with
  | nil => exact List.nodup_nil
  | cons name rest =>
      rw [List.eraseDups_cons, List.nodup_cons]
      refine ⟨?_, nodup_eraseDups _⟩
      simp [List.mem_eraseDups]
termination_by names.length
decreasing_by
  exact Nat.lt_succ_of_le (List.length_filter_le _ rest)

theorem sortBy_perm
    {α : Type}
    (key : α → String)
    (items : List α) :
    (sortBy key items).Perm items :=
  List.mergeSort_perm _ _

/-- Items with different keys are sorted strictly. -/
theorem pairwise_sortBy
    {α : Type}
    {key : α → String}
    {items : List α}
    (distinct : (items.map key).Nodup) :
    (sortBy key items).Pairwise fun left right => key left < key right := by
  have sorted : (sortBy key items).Pairwise fun left right =>
      notAfter (key left) (key right) = true := by
    apply List.pairwise_mergeSort
    · intro first second third one two
      simp only [notAfter, decide_eq_true_eq] at one two ⊢
      exact le_trans one two
    · intro left right
      simp only [notAfter, Bool.or_eq_true, decide_eq_true_eq]
      exact le_total _ _
  have differ : (sortBy key items).Pairwise fun left right =>
      key left ≠ key right := by
    rw [← List.pairwise_map]
    exact ((sortBy_perm key items).map key).nodup_iff.mpr distinct
  refine (sorted.and differ).imp fun both => ?_
  exact lt_of_le_of_ne (of_decide_eq_true both.1) both.2

end Eisen.Text
