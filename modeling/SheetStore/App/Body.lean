import SheetStore.Json.Reader
import SheetStore.Action

/-! Reading the action carried by the body of a dispatch request, and where a failure is met:
the tag is found while the text is streamed, and the variant is built from what was kept.
-/

set_option autoImplicit false

namespace SheetStore

/-- A value of the wrong kind met while reading: the error, the path to where it was met, and the
position of the reader then. -/
structure Misfit where
  error : DecodeError
  path : List PathStep
  line : Nat
  column : Nat

abbrev BodyM := ExceptT Misfit ReadM

/-- Why a request body does not give an action. -/
inductive BodyFault where
  /-- The text is not JSON. -/
  | malformed (e : ReadError)
  /-- The JSON is not an action: the error, the path to where it was met, and the text position
  if the value was still being read. -/
  | data (error : DecodeError) (path : List PathStep) (position : Option (Nat × Nat))

namespace Body

def expecting : String := "internally tagged enum Action"

def misfit {α : Type} (error : DecodeError) (path : List PathStep) : BodyM α := do
  let bytes ← read
  let (line, column) := positionOf bytes (← get)
  throwThe Misfit { error, path, line, column }

/-- A scalar that was looked at and is not wanted: it is read to its end, and refused there.
Brackets are refused where they stand. -/
def refuse {α : Type} (b : UInt8) (expected : String) (path : List PathStep) : BodyM α := do
  if b = 34 then
    Reader.bump
    let s ← Reader.stringBody path
    misfit (.invalidType (.str s) expected) path
  else if b = 110 then
    Reader.bump
    Reader.expectWord [117, 108, 108] path
    misfit (.invalidType .null expected) path
  else if b = 116 then
    Reader.bump
    Reader.expectWord [114, 117, 101] path
    misfit (.invalidType (.bool true) expected) path
  else if b = 102 then
    Reader.bump
    Reader.expectWord [97, 108, 115, 101] path
    misfit (.invalidType (.bool false) expected) path
  else if b = 45 then
    Reader.bump
    let n ← Reader.number false path
    misfit (.invalidType (Unexpected.ofJson (.number n)) expected) path
  else if Reader.isDigit b then
    let n ← Reader.number true path
    misfit (.invalidType (Unexpected.ofJson (.number n)) expected) path
  else if b = 91 then misfit (.invalidType .seq expected) path
  else if b = 123 then misfit (.invalidType .map expected) path
  else Reader.failPeek .expectedSomeValue path

def tag (path : List PathStep) : BodyM Action.Tag := do
  match ← Reader.skipBlanks with
  | none => Reader.failPeek .eofWhileParsingValue path
  | some b =>
    if b = 34 then
      Reader.bump
      let name ← Reader.stringBody path
      match Action.Tag.decode (.str name) with
      | .ok t => pure t
      | .error e => misfit e path
    else refuse b "variant identifier" path

/-- The members of an object up to its closing brace, in the order of the text, with the tag
taken out where it stands. -/
def members (first : Bool) (found : Option Action.Tag) (acc : Array (String × Json)) :
    Nat → BodyM (Option Action.Tag × List (String × Json))
  | 0 => Reader.fail .eofWhileParsingObject []
  | fuel + 1 => do
    let start ← Reader.skipBlanks
    let keyStart ← match start with
      | some 125 => pure none
      | some 44 =>
        if first then Reader.failPeek .keyMustBeAString []
        else do
          Reader.bump
          pure (some (← Reader.skipBlanks))
      | some b =>
        if first then pure (some (some b)) else Reader.failPeek .expectedObjectCommaOrEnd []
      | none => Reader.failPeek .eofWhileParsingObject []
    match keyStart with
    | none => return (found, acc.toList)
    | some (some 34) =>
      Reader.bump
      let name ← Reader.stringBody [.unknown]
      if name = "type" then
        match found with
        | some _ =>
          let _ ← Reader.skipBlanks
          misfit (.duplicateField "type") []
        | none =>
          Reader.colon [.member name]
          let t ← tag [.member name]
          members false (some t) acc fuel
      else
        Reader.colon [.member name]
        let v ← Reader.value 127 [.member name] fuel
        members false found (acc.push (name, v)) fuel
    | some (some 125) => Reader.failPeek .trailingComma []
    | some (some _) => Reader.failPeek .keyMustBeAString []
    | some none => Reader.failPeek .eofWhileParsingValue []

def tagged : BodyM (Action.Tag × Json) := do
  let fuel := (← read).size + 2
  match ← Reader.skipBlanks with
  | none => Reader.failPeek .eofWhileParsingValue []
  | some 123 =>
    Reader.bump
    let (found, rest) ← members true none #[] fuel
    Reader.closeObject []
    match found with
    | some t => return (t, .obj rest)
    | none => misfit (.missingField "type") []
  | some 91 =>
    Reader.bump
    match ← Reader.skipBlanks with
    | none => Reader.failPeek .eofWhileParsingList []
    | some 93 =>
      Reader.closeList []
      misfit (.missingField "type") []
    | some _ =>
      let t ← tag [.index 0]
      let rest ← Reader.elements 127 [] false 1 #[] fuel
      Reader.closeList []
      return (t, .arr rest)
  | some b => refuse b expecting []

end Body

def readActionBody (text : String) : Except BodyFault Action :=
  match (Body.tagged.run.run text.toUTF8).run 0 with
  | .error e => .error (.malformed e)
  | .ok (.error m, _) => .error (.data m.error m.path (some (m.line, m.column)))
  | .ok (.ok (tag, rest), _) =>
    match Action.decodeVariant tag rest with
    | .ok a => .ok a
    | .error e => .error (.data e [] none)

end SheetStore
