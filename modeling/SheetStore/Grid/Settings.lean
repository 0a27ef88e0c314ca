import SheetStore.Grid.Matrix

/-! What the grid widget is told to render, and the workbook slice of the state. An edit is
accepted inside the data plus the spare rows and columns, counted with 64-bit sizes.
-/

set_option autoImplicit false

namespace SheetStore

def sizeLimit : Nat := Nat.pow 2 64 - 1

def defaultColumnWidth : Nat := 100

def defaultSpareRows : Nat := 160

def defaultSpareColumns : Nat := 26

/-- The settings of the grid widget. -/
structure GridSettings where
  data : Matrix
  columnHeaders : Bool
  rowHeaders : Bool
  readOnly : Bool
  columnWidth : Nat
  spareRows : Nat
  spareColumns : Nat
  deriving DecidableEq, Inhabited

namespace GridSettings

def withData (data : Matrix) : GridSettings :=
  { data, columnHeaders := true, rowHeaders := true, readOnly := false,
    columnWidth := defaultColumnWidth, spareRows := defaultSpareRows,
    spareColumns := defaultSpareColumns }

/-- The rows and columns the widget lets a person edit: the data plus the spares. -/
def declaredBounds (s : GridSettings) : Nat × Nat :=
  (min sizeLimit (s.data.rowCount + s.spareRows), min sizeLimit (s.data.maxRowLength + s.spareColumns))

/-- Whether an edit at a position lands inside the declared bounds. -/
def accepts (s : GridSettings) (row column : Nat) : Bool :=
  decide (row < s.declaredBounds.1) && decide (column < s.declaredBounds.2)

def toJson (s : GridSettings) : Json :=
  .obj [("data", s.data.toJson), ("colHeaders", .bool s.columnHeaders),
    ("rowHeaders", .bool s.rowHeaders), ("readOnly", .bool s.readOnly),
    ("colWidths", .ofNat s.columnWidth), ("minSpareRows", .ofNat s.spareRows),
    ("minSpareCols", .ofNat s.spareColumns)]

def fieldNames : List String :=
  ["data", "colHeaders", "rowHeaders", "readOnly", "colWidths", "minSpareRows", "minSpareCols"]

def assemble (pick : {α : Type} → Nat → String → (Json → Decode α) → Ranked α) :
    Ranked GridSettings :=
  let fields := (pick 0 "data" Matrix.decode).pair <| (pick 1 "colHeaders" Decode.bool).pair <|
    (pick 2 "rowHeaders" Decode.bool).pair <| (pick 3 "readOnly" Decode.bool).pair <|
    (pick 4 "colWidths" Decode.u32).pair <| (pick 5 "minSpareRows" Decode.u32).pair <|
    pick 6 "minSpareCols" Decode.u32
  fields.map fun (data, columnHeaders, rowHeaders, readOnly, columnWidth, spareRows, spareColumns) =>
    { data, columnHeaders, rowHeaders, readOnly, columnWidth, spareRows, spareColumns }

def decode (layer : Layer) : Json → Decode GridSettings :=
  Record.decode layer "struct GridSettings" 7
    (fun members => assemble fun rank name dec => Record.field members rank name dec none)
    (fun items => assemble fun rank _ dec =>
      Record.element items rank 7 "struct GridSettings" dec none)

end GridSettings

/-- The workbook slice of the state. -/
structure Workbook where
  settings : GridSettings
  deriving DecidableEq, Inhabited

namespace Workbook

def toJson (w : Workbook) : Json := .obj [("settings", w.settings.toJson)]

def decode (layer : Layer) : Json → Decode Workbook :=
  Record.decode layer "struct WorkbookState" 1
    (fun members => (Record.field members 0 "settings" (GridSettings.decode layer) none).map (⟨·⟩))
    (fun items => (Record.element items 0 1 "struct WorkbookState" (GridSettings.decode layer)
      none).map (⟨·⟩))

end Workbook

end SheetStore
