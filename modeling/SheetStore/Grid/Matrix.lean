import SheetStore.Cell

/-! The grid's data, rows of cells of any lengths, and edits applied to it: an edit
outside the bounds is skipped, any other pads the data as needed and sets its cell.
-/

set_option autoImplicit false

namespace SheetStore

/-- Rows of cells. -/
structure Matrix where
  rows : List (List Cell)
  deriving DecidableEq, Inhabited

namespace Matrix

def rowCount (m : Matrix) : Nat := m.rows.length

def rowLength (m : Matrix) (row : Nat) : Option Nat := (m.rows[row]?).map List.length

def get (m : Matrix) (row column : Nat) : Option Cell := m.rows[row]? >>= fun r => r[column]?

def contains (m : Matrix) (row column : Nat) : Bool := (m.get row column).isSome

def maxRowLength (m : Matrix) : Nat := m.rows.foldl (fun acc r => max acc r.length) 0

def toJson (m : Matrix) : Json := .arr (m.rows.map fun r => .arr (r.map Cell.toJson))

def decode (v : Json) : Decode Matrix := do
  let rows ← Decode.list (Decode.list Cell.decode) v
  pure ⟨rows⟩

def padRow (row : List Cell) (n : Nat) : List Cell :=
  if n ≤ row.length then row else row ++ List.replicate (n - row.length) .empty

def padRows (rows : List (List Cell)) (n : Nat) : List (List Cell) :=
  if n ≤ rows.length then rows else rows ++ List.replicate (n - rows.length) []

def setCell (rows : List (List Cell)) (e : CellEdit) : List (List Cell) :=
  (padRows rows (e.row + 1)).modify e.row fun r => (padRow r (e.column + 1)).set e.column e.new

def inBounds (bounds : Nat × Nat) (e : CellEdit) : Bool :=
  decide (e.row < bounds.1) && decide (e.column < bounds.2)

def applyEdits (bounds : Nat × Nat) (rows : List (List Cell)) : List CellEdit → List (List Cell)
  | [] => rows
  | e :: es => applyEdits bounds (if inBounds bounds e then setCell rows e else rows) es

def withEdits (m : Matrix) (edits : List CellEdit) (bounds : Nat × Nat) : Matrix :=
  ⟨applyEdits bounds m.rows edits⟩

end Matrix

end SheetStore
