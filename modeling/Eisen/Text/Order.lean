namespace Eisen.Text

/-!
# Order of texts

Names, object keys and file names are ordered by code point, which is also the
order of their UTF-8 bytes.
-/

/-- The order in which texts are listed, equal texts included. -/
def notAfter (left right : String) : Bool :=
  decide (left ≤ right)

/-- Sort by a text key; items with equal keys keep their order. -/
def sortBy
    {α : Type}
    (key : α → String)
    (items : List α) : List α :=
  items.mergeSort fun left right => notAfter (key left) (key right)

end Eisen.Text
