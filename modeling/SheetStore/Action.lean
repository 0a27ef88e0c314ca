import SheetStore.Cell
import SheetStore.Nav.Location

/-! The messages the store understands, and how they are read from the wire: an object tagged
by its `type` member or a list headed by the tag; an unknown tag gives the unknown action.
-/

set_option autoImplicit false

namespace SheetStore

/-- A request to navigate. -/
inductive HistoryCommand where
  | push (path : String)
  | replace (path : String)
  | go (delta : Int)
  | goBack
  | goForward
  deriving DecidableEq, Inhabited

/-- A message to the store. -/
inductive Action where
  /-- A batch of cell edits from the grid. -/
  | editCells (edits : List CellEdit)
  /-- Switch the grid to read-only or back. -/
  | setReadOnly (readOnly : Bool)
  /-- The history moved. -/
  | locationChange (payload : RouterState)
  /-- A request to navigate, consumed by the router stage. -/
  | callHistory (command : HistoryCommand)
  /-- Any other tag. -/
  | unknown
  deriving DecidableEq, Inhabited

namespace HistoryCommand

def names : List String := ["push", "replace", "go", "goBack", "goForward"]

def toJson : HistoryCommand → Json
  | .push path => .obj [("method", .str "push"), ("args", .str path)]
  | .replace path => .obj [("method", .str "replace"), ("args", .str path)]
  | .go delta => .obj [("method", .str "go"), ("args", .ofInt delta)]
  | .goBack => .obj [("method", .str "goBack")]
  | .goForward => .obj [("method", .str "goForward")]

def method : Json → Decode String
  | .str name => if names.contains name then pure name else throw (.unknownVariant name names)
  | v => Decode.wrongType "variant identifier" v

def unitArgs (name : String) (command : HistoryCommand) : Json → Decode HistoryCommand
  | .null => pure command
  | v => Decode.wrongType ("unit variant HistoryMethod::" ++ name) v

def withArgs (name : String) (args : Json) : Decode HistoryCommand :=
  if name = "push" then return .push (← Decode.string args)
  else if name = "replace" then return .replace (← Decode.string args)
  else if name = "go" then return .go (← Decode.isize args)
  else if name = "goBack" then unitArgs "GoBack" .goBack args
  else unitArgs "GoForward" .goForward args

def withoutArgs (name : String) : Decode HistoryCommand :=
  if name = "goBack" then pure .goBack
  else if name = "goForward" then pure .goForward
  else throw (.missingField "args")

def noRepeat (rest : List (String × Json)) (command : HistoryCommand) : Decode HistoryCommand :=
  match rest with
  | [] => pure command
  | (k, _) :: _ => throw (.duplicateField k)

def expecting : String := "adjacently tagged enum HistoryMethod"

/-- A command from `{method, args}` with members in the given order, or `[method, args]`. Other
members are skipped. -/
def decode (layer : Layer) : Json → Decode HistoryCommand
  | .obj members =>
    match members.filter fun m => m.1 = "method" ∨ m.1 = "args" with
    | [] => throw (.missingField "method")
    | (k, v) :: rest =>
      if k = "method" then do
        let name ← method v
        match rest with
        | [] => withoutArgs name
        | (k2, args) :: rest2 =>
          if k2 = "method" then throw (.duplicateField "method")
          else noRepeat rest2 (← withArgs name args)
      else
        match rest with
        | [] => throw (.missingField "method")
        | (k2, t) :: rest2 =>
          if k2 = "args" then throw (.duplicateField "args")
          else do
            let name ← method t
            noRepeat rest2 (← withArgs name v)
  | .arr items =>
    match items with
    | [] => throw (.invalidLength 0 expecting)
    | [t] => do
      let _ ← method t
      throw (.invalidLength 1 expecting)
    | t :: args :: _ => do
      let command ← withArgs (← method t) args
      Record.noSurplus layer items 2
      pure command
  | v => Decode.wrongType expecting v

end HistoryCommand

namespace Action

def editCellsTag : String := "UPDATE_SHEET_DATA"

def setReadOnlyTag : String := "UPDATE_SHEET_READ_ONLY"

def locationChangeTag : String := "@@router/LOCATION_CHANGE"

def callHistoryTag : String := "@@router/CALL_HISTORY_METHOD"

def unknownKind : String := "@@unknown"

def kind : Action → String
  | .editCells _ => editCellsTag
  | .setReadOnly _ => setReadOnlyTag
  | .locationChange _ => locationChangeTag
  | .callHistory _ => callHistoryTag
  | .unknown => unknownKind

def toJson : Action → Json
  | .editCells edits => .obj [("type", .str editCellsTag),
      ("dataChanges", .arr (edits.map CellEdit.toJson))]
  | .setReadOnly b => .obj [("type", .str setReadOnlyTag), ("readOnly", .bool b)]
  | .locationChange payload => .obj [("type", .str locationChangeTag),
      ("payload", payload.toJson)]
  | .callHistory command => .obj [("type", .str callHistoryTag), ("payload", command.toJson)]
  | .unknown => .obj [("type", .str "Unknown")]

/-- The variant a tag names. -/
inductive Tag where
  | editCells
  | setReadOnly
  | locationChange
  | callHistory
  | other
  deriving DecidableEq, Inhabited

def Tag.decode : Json → Decode Tag
  | .str s =>
    pure (if s = editCellsTag then .editCells
      else if s = setReadOnlyTag then .setReadOnly
      else if s = locationChangeTag then .locationChange
      else if s = callHistoryTag then .callHistory
      else .other)
  | v => Decode.wrongType "variant identifier" v

def oneField {α : Type} (variant field : String) (decode : Json → Decode α) : Json → Decode α :=
  let expecting := "struct variant Action::" ++ variant
  Record.decode .buffered expecting 1
    (fun members => Record.field members 0 field decode none)
    (fun items => Record.element items 0 1 expecting decode none)

/-- The action of a tag, from what was kept aside besides the tag: an object of the other
members, or a list of the other elements. -/
def decodeVariant (tag : Tag) (rest : Json) : Decode Action :=
  match tag with
  | .editCells =>
    .editCells <$> oneField "ApplyDataChanges" "dataChanges"
      (Decode.list (CellEdit.decode .buffered)) rest
  | .setReadOnly => .setReadOnly <$> oneField "SetReadOnly" "readOnly" Decode.bool rest
  | .locationChange =>
    .locationChange <$> oneField "LocationChange" "payload" (RouterState.decode .buffered) rest
  | .callHistory =>
    .callHistory <$> oneField "CallHistoryMethod" "payload" (HistoryCommand.decode .buffered) rest
  | .other =>
    match rest with
    | .arr items =>
      if items.isEmpty then pure .unknown else throw (Layer.buffered.surplus items.length 0)
    | _ => pure .unknown

/-- Split the tag from the other members, in order: the first `type` member is the tag, a second
one is refused. -/
def splitTag : List (String × Json) → Option Tag → List (String × Json) →
    Decode (Tag × List (String × Json))
  | [], none, _ => throw (.missingField "type")
  | [], some tag, acc => pure (tag, acc.reverse)
  | (k, v) :: rest, tag, acc =>
    if k = "type" then
      match tag with
      | some _ => throw (.duplicateField "type")
      | none => do
        let t ← Tag.decode v
        splitTag rest (some t) acc
    else splitTag rest tag ((k, v) :: acc)

def decode : Json → Decode Action
  | .obj members => do
    let (tag, rest) ← splitTag members none []
    decodeVariant tag (.obj rest)
  | .arr [] => throw (.missingField "type")
  | .arr (t :: rest) => do
    let tag ← Tag.decode t
    decodeVariant tag (.arr rest)
  | v => Decode.wrongType "internally tagged enum Action" v

def updateSheetData (edits : List CellEdit) : Action := .editCells edits

def updateSheetReadOnly (readOnly : Bool) : Action := .setReadOnly readOnly

def locationChanged (location : Location) (navigation : Navigation) : Action :=
  .locationChange { location, action := navigation }

def push (path : String) : Action := .callHistory (.push path)

def replace (path : String) : Action := .callHistory (.replace path)

def go (delta : Int) : Action := .callHistory (.go delta)

def goBack : Action := .callHistory .goBack

def goForward : Action := .callHistory .goForward

end Action

end SheetStore
