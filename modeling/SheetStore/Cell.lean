import SheetStore.Json.Decode
import SheetStore.Json.Writer

/-! Cells of the grid, the edits made to them, and the labels of columns in bijective base
twenty-six.
-/

set_option autoImplicit false

namespace SheetStore

/-- The value of one grid cell. -/
inductive Cell where
  | empty
  | bool (b : Bool)
  | number (x : Binary64)
  | text (s : String)
  deriving DecidableEq, Inhabited

namespace Cell

def isEmpty : Cell → Bool
  | .empty => true
  | _ => false

/-- The text a person sees: nothing for an empty cell, `true`/`false`, the number written out in
full without an exponent, or the text itself. -/
def display : Cell → String
  | .empty => ""
  | .bool b => toString b
  | .number x => x.plainText
  | .text s => s

def toJson : Cell → Json
  | .empty => .null
  | .bool b => .bool b
  | .number x => .ofFloat x
  | .text s => .str s

def decode : Json → Decode Cell
  | .null => pure .empty
  | .bool b => pure (.bool b)
  | .number (.nat n) => pure (.number (Binary64.ofNat n))
  | .number (.neg n) => pure (.number (Binary64.ofInt n))
  | .number (.float x) => pure (.number x)
  | .str s => pure (.text s)
  | _ => throw (.noVariantMatches "CellValue")

/-- Equality of cell values, numbers compared as doubles (so `0` equals `-0`). -/
def sameValue : Cell → Cell → Bool
  | .empty, .empty => true
  | .bool a, .bool b => a == b
  | .number a, .number b => a.sameValue b
  | .text a, .text b => a == b
  | _, _ => false

def ofFloat (x : Binary64) : Cell := .number x

def ofInt (n : Int) : Cell := .number (Binary64.ofInt n)

def ofString (s : String) : Cell := .text s

def ofBool (b : Bool) : Cell := .bool b

def ofOption {α : Type} (make : α → Cell) : Option α → Cell
  | some a => make a
  | none => .empty

end Cell

def columnLetter (d : Nat) : Char := Char.ofNat (65 + d % 26)

def columnLetters (n : Nat) : List Char :=
  if n < 26 then [columnLetter n]
  else columnLetters (n / 26 - 1) ++ [columnLetter n]
termination_by n
decreasing_by omega

/-- The label of a zero-based column: `0` is `A`, `25` is `Z`, `26` is `AA`, `702` is `AAA`. -/
def columnLabel (column : Nat) : String := String.ofList (columnLetters column)

def cellName (row column : Nat) : String := columnLabel column ++ toString (row + 1)

/-- One edit reported by the grid: the position and the values before and after. -/
structure CellEdit where
  row : Nat
  column : Nat
  old : Cell
  new : Cell
  deriving DecidableEq, Inhabited

namespace CellEdit

def name (e : CellEdit) : String := cellName e.row e.column

def display (e : CellEdit) : String :=
  e.name ++ ": \x27" ++ e.old.display ++ "\x27 -> \x27" ++ e.new.display ++ "\x27"

def toJson (e : CellEdit) : Json :=
  .arr [.ofNat e.row, .ofNat e.column, e.old.toJson, e.new.toJson]

def expecting : String := "a tuple of size 4"

def part {α : Type} (items : List Json) (i : Nat) (decode : Json → Decode α) : Decode α :=
  match items[i]? with
  | some v => decode v
  | none => throw (.invalidLength i expecting)

def decode (layer : Layer) : Json → Decode CellEdit
  | .arr items => do
    let row ← part items 0 Decode.usize
    let column ← part items 1 Decode.usize
    let old ← part items 2 Cell.decode
    let new ← part items 3 Cell.decode
    Record.noSurplus layer items 4
    pure { row, column, old, new }
  | v => Decode.wrongType expecting v

end CellEdit

end SheetStore
