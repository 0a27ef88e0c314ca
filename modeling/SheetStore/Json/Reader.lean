import SheetStore.Json.Basic

/-! Reading JSON text byte by byte. A failure names its cause, the path to the value
being read and a line and column; numbers keep their kind, and containers nest 127 deep.
-/

set_option autoImplicit false

namespace SheetStore

/-- One step on the way from the root of a document to a value inside it. -/
inductive PathStep where
  /-- The value of the member of this name. -/
  | member (name : String)
  /-- The element at this index. -/
  | index (i : Nat)
  /-- The name of a member, not yet known. -/
  | unknown
  deriving DecidableEq, Inhabited

namespace PathStep

def text : PathStep → String
  | .member name => name
  | .index i => "[" ++ toString i ++ "]"
  | .unknown => "?"

/-- Paths are written with steps joined by dots, except that an index follows its parent
directly: `a.b[0][1].c`. The empty path is `.`. -/
def render : List PathStep → String
  | [] => "."
  | first :: rest =>
    rest.foldl (fun acc step =>
      match step with
      | .index _ => acc ++ step.text
      | _ => acc ++ "." ++ step.text) first.text

def heading (steps : List PathStep) : String :=
  if steps.all (· == .unknown) then "" else render steps ++ ": "

end PathStep

/-- Why a text is not well-formed JSON, or not one the reader accepts. -/
inductive SyntaxFault where
  | eofWhileParsingList
  | eofWhileParsingObject
  | eofWhileParsingString
  | eofWhileParsingValue
  | expectedColon
  | expectedListCommaOrEnd
  | expectedObjectCommaOrEnd
  | expectedSomeIdent
  | expectedSomeValue
  | invalidEscape
  | invalidNumber
  | numberOutOfRange
  | controlCharacterWhileParsingString
  | keyMustBeAString
  | loneLeadingSurrogateInHexEscape
  | trailingComma
  | trailingCharacters
  | unexpectedEndOfHexEscape
  | recursionLimitExceeded
  deriving DecidableEq, Inhabited

namespace SyntaxFault

def message : SyntaxFault → String
  | .eofWhileParsingList => "EOF while parsing a list"
  | .eofWhileParsingObject => "EOF while parsing an object"
  | .eofWhileParsingString => "EOF while parsing a string"
  | .eofWhileParsingValue => "EOF while parsing a value"
  | .expectedColon => "expected `:`"
  | .expectedListCommaOrEnd => "expected `,` or `]`"
  | .expectedObjectCommaOrEnd => "expected `,` or `\x7d`"
  | .expectedSomeIdent => "expected ident"
  | .expectedSomeValue => "expected value"
  | .invalidEscape => "invalid escape"
  | .invalidNumber => "invalid number"
  | .numberOutOfRange => "number out of range"
  | .controlCharacterWhileParsingString =>
    "control character (\\u0000-\\u001F) found while parsing a string"
  | .keyMustBeAString => "key must be a string"
  | .loneLeadingSurrogateInHexEscape => "lone leading surrogate in hex escape"
  | .trailingComma => "trailing comma"
  | .trailingCharacters => "trailing characters"
  | .unexpectedEndOfHexEscape => "unexpected end of hex escape"
  | .recursionLimitExceeded => "recursion limit exceeded"

def isEof : SyntaxFault → Bool
  | .eofWhileParsingList | .eofWhileParsingObject | .eofWhileParsingString
  | .eofWhileParsingValue => true
  | _ => false

end SyntaxFault

/-- A failure of the reader, with where it happened. -/
structure ReadError where
  fault : SyntaxFault
  line : Nat
  column : Nat
  path : List PathStep
  deriving Inhabited

def ReadError.message (e : ReadError) : String :=
  e.fault.message ++ " at line " ++ toString e.line ++ " column " ++ toString e.column

/-- Line and column of the byte index `i`: the line counts the line feeds before `i`, the column
is the number of bytes between the last of them and `i`. -/
def positionOf (bytes : ByteArray) (i : Nat) : Nat × Nat :=
  let before := (bytes.data.toList.take i)
  let lineStart := match before.zipIdx.reverse.find? (fun (b, _) => b = 10) with
    | some (_, j) => j + 1
    | none => 0
  (1 + before.count 10, i - lineStart)

/-- The reader's monad: the text, the index of the next byte, and failure. -/
abbrev ReadM := ReaderT ByteArray (StateT Nat (Except ReadError))

namespace Reader

def peek : ReadM (Option UInt8) := do
  let bytes ← read
  let i ← get
  return bytes.data[i]?

def bump : ReadM Unit := modify (· + 1)

def next : ReadM (Option UInt8) := do
  let b ← peek
  if b.isSome then bump
  return b

def failAt {α : Type} (fault : SyntaxFault) (path : List PathStep) (i : Nat) : ReadM α := do
  let bytes ← read
  let (line, column) := positionOf bytes i
  throw { fault, line, column, path }

def fail {α : Type} (fault : SyntaxFault) (path : List PathStep) : ReadM α := do
  failAt fault path (← get)

def failPeek {α : Type} (fault : SyntaxFault) (path : List PathStep) : ReadM α := do
  let bytes ← read
  failAt fault path (min bytes.size ((← get) + 1))

def isBlank (b : UInt8) : Bool := b = 32 || b = 10 || b = 9 || b = 13

def isDigit (b : UInt8) : Bool := 48 ≤ b && b ≤ 57

def skipBlanksFor : Nat → ReadM (Option UInt8)
  | 0 => peek
  | fuel + 1 => do
    match ← peek with
    | some b => if isBlank b then do bump; skipBlanksFor fuel else return some b
    | none => return none

def skipBlanks : ReadM (Option UInt8) := do
  skipBlanksFor ((← read).size + 1)

def expectWord (word : List UInt8) (path : List PathStep) : ReadM Unit :=
  word.forM fun w => do
    match ← next with
    | none => fail .eofWhileParsingValue path
    | some b => if b = w then pure () else fail .expectedSomeIdent path

def utf8 (c : Nat) : List UInt8 :=
  if c < 0x80 then [c.toUInt8]
  else if c < 0x800 then [(0xC0 + c / 64).toUInt8, (0x80 + c % 64).toUInt8]
  else if c < 0x10000 then
    [(0xE0 + c / 4096).toUInt8, (0x80 + c / 64 % 64).toUInt8, (0x80 + c % 64).toUInt8]
  else
    [(0xF0 + c / 262144).toUInt8, (0x80 + c / 4096 % 64).toUInt8, (0x80 + c / 64 % 64).toUInt8,
      (0x80 + c % 64).toUInt8]

def hexValue (b : UInt8) : Option Nat :=
  if 48 ≤ b && b ≤ 57 then some (b.toNat - 48)
  else if 97 ≤ b && b ≤ 102 then some (b.toNat - 87)
  else if 65 ≤ b && b ≤ 70 then some (b.toNat - 55)
  else none

def hexQuad (path : List PathStep) : ReadM Nat := do
  let bytes ← read
  let i ← get
  if bytes.size < i + 4 then
    set bytes.size
    fail .eofWhileParsingString path
  else
    set (i + 4)
    let digits := (List.range 4).map fun j => bytes.data[i + j]?.bind hexValue
    match digits with
    | [some a, some b, some c, some d] => return ((a * 16 + b) * 16 + c) * 16 + d
    | _ => fail .invalidEscape path

/-- A `\u` escape after its `u`: a code point outside the surrogates, or a leading surrogate
followed by a `\u` escape of a trailing one. -/
def unicodeEscape (path : List PathStep) : ReadM (List UInt8) := do
  let n ← hexQuad path
  if 0xDC00 ≤ n ∧ n ≤ 0xDFFF then fail .loneLeadingSurrogateInHexEscape path
  else if n < 0xD800 ∨ 0xDBFF < n then return utf8 n
  else
    match ← peek with
    | none => fail .eofWhileParsingString path
    | some b =>
      bump
      if b ≠ 92 then fail .unexpectedEndOfHexEscape path
      else
        match ← peek with
        | none => fail .eofWhileParsingString path
        | some u =>
          bump
          if u ≠ 117 then fail .unexpectedEndOfHexEscape path
          else
            let n2 ← hexQuad path
            if n2 < 0xDC00 ∨ 0xDFFF < n2 then fail .loneLeadingSurrogateInHexEscape path
            else return utf8 (((n - 0xD800) * 1024 + (n2 - 0xDC00)) + 0x10000)

def escape (path : List PathStep) : ReadM (List UInt8) := do
  match ← next with
  | none => fail .eofWhileParsingString path
  | some b =>
    if b = 34 then return [34]
    else if b = 92 then return [92]
    else if b = 47 then return [47]
    else if b = 98 then return [8]
    else if b = 102 then return [12]
    else if b = 110 then return [10]
    else if b = 114 then return [13]
    else if b = 116 then return [9]
    else if b = 117 then unicodeEscape path
    else fail .invalidEscape path

def stringBodyFor (path : List PathStep) : Nat → Array UInt8 → ReadM String
  | 0, _ => fail .eofWhileParsingString path
  | fuel + 1, acc => do
    match ← next with
    | none => fail .eofWhileParsingString path
    | some b =>
      if b = 34 then
        return (String.fromUTF8? ⟨acc⟩).getD ""
      else if b = 92 then
        let bs ← escape path
        stringBodyFor path fuel (acc ++ bs.toArray)
      else if b < 32 then fail .controlCharacterWhileParsingString path
      else stringBodyFor path fuel (acc.push b)

def stringBody (path : List PathStep) : ReadM String := do
  stringBodyFor path ((← read).size + 1) #[]

/-- Digits taken while `significand · 10 + d` would pass `2 ^ 64 - 1`. -/
def overflows (significand d : Nat) : Bool := decide (Nat.pow 2 64 - 1 < significand * 10 + d)

/-- The double `significand · 10 ^ exponent` with sign, as described in the module header;
`none` when it is out of range. -/
def fromParts (positive : Bool) (significand : Nat) (exponent : Int) : Option Binary64 :=
  let rec go : Nat → Binary64 → Int → Option Binary64
    | 0, f, _ => some f
    | fuel + 1, f, e =>
      if e.natAbs ≤ 308 then
        let pow := Binary64.powTen e.natAbs
        if 0 ≤ e then
          let g := f.mul pow
          if g.isFinite then some g else none
        else some (f.div pow)
      else if f.isZero then some f
      else if 0 ≤ e then none
      else go fuel (f.div (Binary64.powTen 308)) (e + 308)
  (go 8 (Binary64.ofNat significand) exponent).map fun f => if positive then f else f.neg

def saturate (e : Int) : Int := max (-2147483648) (min 2147483647 e)

def skipDigits : Nat → ReadM Unit
  | 0 => pure ()
  | fuel + 1 => do
    match ← peek with
    | some b => if isDigit b then do bump; skipDigits fuel else pure ()
    | none => pure ()

/-- After an exponent too long for `i32`: zero, unless the number is nonzero and the exponent
positive, which is out of range. -/
def exponentOverflow (positive zeroSignificand positiveExp : Bool) (path : List PathStep) :
    ReadM Binary64 := do
  if !zeroSignificand && positiveExp then fail .numberOutOfRange path
  else
    skipDigits ((← read).size + 1)
    return Binary64.zero (!positive)

def finishFloat (positive : Bool) (significand : Nat) (exponent : Int) (path : List PathStep) :
    ReadM Binary64 :=
  match fromParts positive significand exponent with
  | some f => pure f
  | none => fail .numberOutOfRange path

def exponentDigits (path : List PathStep) (positive : Bool) (significand : Nat)
    (positiveExp : Bool) : Nat → Nat → ReadM (Sum Nat Binary64)
  | 0, exp => pure (.inl exp)
  | fuel + 1, exp => do
    match ← peek with
    | some b =>
      if isDigit b then
        bump
        let d := b.toNat - 48
        if 2147483647 < exp * 10 + d then
          return .inr (← exponentOverflow positive (significand = 0) positiveExp path)
        else exponentDigits path positive significand positiveExp fuel (exp * 10 + d)
      else pure (.inl exp)
    | none => pure (.inl exp)

def exponentSign : ReadM Bool := do
  match ← peek with
  | some 43 => bump; pure true
  | some 45 => bump; pure false
  | _ => pure true

def exponentPart (positive : Bool) (significand : Nat) (start : Int) (path : List PathStep) :
    ReadM Binary64 := do
  bump
  let positiveExp ← exponentSign
  match ← next with
  | none => fail .eofWhileParsingValue path
  | some b =>
    if !isDigit b then fail .invalidNumber path
    else
      match ← exponentDigits path positive significand positiveExp ((← read).size + 1)
          (b.toNat - 48) with
      | .inr f => pure f
      | .inl exp =>
        let final := saturate (if positiveExp then start + exp else start - exp)
        finishFloat positive significand final path

def fractionOverflow (positive : Bool) (significand : Nat) (exponent : Int)
    (path : List PathStep) : ReadM Binary64 := do
  skipDigits ((← read).size + 1)
  match ← peek with
  | some 101 | some 69 => exponentPart positive significand exponent path
  | _ => finishFloat positive significand exponent path

/-- Fraction digits, `fuel` bounding them; the result is the significand and the count of digits
taken, or a finished double when the significand overflowed. -/
def fractionDigits (path : List PathStep) (positive : Bool) (before : Int) :
    Nat → Nat → Nat → ReadM (Sum (Nat × Nat) Binary64)
  | 0, s, n => pure (.inl (s, n))
  | fuel + 1, s, n => do
    match ← peek with
    | some b =>
      if isDigit b then
        let d := b.toNat - 48
        if overflows s d then
          return .inr (← fractionOverflow positive s (before - n) path)
        else
          bump
          fractionDigits path positive before fuel (s * 10 + d) (n + 1)
      else pure (.inl (s, n))
    | none => pure (.inl (s, n))

def fractionPart (positive : Bool) (significand : Nat) (before : Int) (path : List PathStep) :
    ReadM Binary64 := do
  bump
  match ← fractionDigits path positive before ((← read).size + 1) significand 0 with
  | .inr f => pure f
  | .inl (s, n) =>
    if n = 0 then
      match ← peek with
      | some _ => failPeek .invalidNumber path
      | none => failPeek .eofWhileParsingValue path
    else
      let exponent := before - n
      match ← peek with
      | some 101 | some 69 => exponentPart positive s exponent path
      | _ => finishFloat positive s exponent path

def longInteger (positive : Bool) (significand : Nat) (path : List PathStep) :
    ReadM Binary64 := do
  let rec count : Nat → Nat → ReadM Nat
    | 0, e => pure e
    | fuel + 1, e => do
      match ← peek with
      | some b => if isDigit b then do bump; count fuel (e + 1) else pure e
      | none => pure e
  let exponent ← count ((← read).size + 1) 0
  match ← peek with
  | some 46 => fractionPart positive significand exponent path
  | some 101 | some 69 => exponentPart positive significand exponent path
  | _ => finishFloat positive significand exponent path

def afterInteger (positive : Bool) (significand : Nat) (path : List PathStep) :
    ReadM JsonNumber := do
  match ← peek with
  | some 46 => return .float (← fractionPart positive significand 0 path)
  | some 101 | some 69 => return .float (← exponentPart positive significand 0 path)
  | _ =>
    if positive then return .nat significand
    else if significand = 0 then return .float (Binary64.zero true)
    else if significand ≤ Nat.pow 2 63 then return .neg (-(significand : Int))
    else return .float (Binary64.ofNat significand).neg

def integerDigits (positive : Bool) (path : List PathStep) : Nat → Nat → ReadM JsonNumber
  | 0, s => afterInteger positive s path
  | fuel + 1, s => do
    match ← peek with
    | some b =>
      if isDigit b then
        let d := b.toNat - 48
        if overflows s d then return .float (← longInteger positive s path)
        else do bump; integerDigits positive path fuel (s * 10 + d)
      else afterInteger positive s path
    | none => afterInteger positive s path

def number (positive : Bool) (path : List PathStep) : ReadM JsonNumber := do
  match ← next with
  | none => fail .eofWhileParsingValue path
  | some b =>
    if b = 48 then
      match ← peek with
      | some c => if isDigit c then failPeek .invalidNumber path else afterInteger positive 0 path
      | none => afterInteger positive 0 path
    else if isDigit b then integerDigits positive path ((← read).size + 1) (b.toNat - 48)
    else fail .invalidNumber path

/-- Where the key of a member should begin, after blanks and, past the first member, a comma:
`none` at the closing brace, otherwise the byte there, or `none` inside at the end of the text. -/
def keyStart (path : List PathStep) (first : Bool) : ReadM (Option (Option UInt8)) := do
  match ← skipBlanks with
  | some 125 => pure none
  | some 44 =>
    if first then failPeek .keyMustBeAString path
    else do bump; pure (some (← skipBlanks))
  | some b =>
    if first then pure (some (some b)) else failPeek .expectedObjectCommaOrEnd path
  | none => failPeek .eofWhileParsingObject path

mutual

/-- A value at the next byte after blanks. `depth` is how many more containers may open and
`fuel` bounds the steps taken. -/
def value (depth : Nat) (path : List PathStep) : Nat → ReadM Json
  | 0 => fail .eofWhileParsingValue path
  | fuel + 1 => do
    match ← skipBlanks with
    | none => failPeek .eofWhileParsingValue path
    | some b =>
      if b = 110 then do bump; expectWord [117, 108, 108] path; return .null
      else if b = 116 then do bump; expectWord [114, 117, 101] path; return .bool true
      else if b = 102 then do bump; expectWord [97, 108, 115, 101] path; return .bool false
      else if b = 45 then do bump; return .number (← number false path)
      else if isDigit b then return .number (← number true path)
      else if b = 34 then do bump; return .str (← stringBody path)
      else if b = 91 then do
        if depth ≤ 1 then failPeek .recursionLimitExceeded path
        else
          bump
          let items ← elements (depth - 1) path true 0 #[] fuel
          closeList path
          return .arr items
      else if b = 123 then do
        if depth ≤ 1 then failPeek .recursionLimitExceeded path
        else
          bump
          let members ← members (depth - 1) path true #[] fuel
          closeObject path
          return .obj members
      else failPeek .expectedSomeValue path

def elements (depth : Nat) (path : List PathStep) (first : Bool) (i : Nat) (acc : Array Json) :
    Nat → ReadM (List Json)
  | 0 => fail .eofWhileParsingList path
  | fuel + 1 => do
    match ← skipBlanks with
    | none => failPeek .eofWhileParsingList path
    | some b =>
      if b = 93 then return acc.toList
      else if first then
        let v ← value depth (path ++ [.index i]) fuel
        elements depth path false (i + 1) (acc.push v) fuel
      else if b = 44 then do
        bump
        match ← skipBlanks with
        | some 93 => failPeek .trailingComma path
        | none => failPeek .eofWhileParsingValue path
        | some _ =>
          let v ← value depth (path ++ [.index i]) fuel
          elements depth path false (i + 1) (acc.push v) fuel
      else failPeek .expectedListCommaOrEnd path

def members (depth : Nat) (path : List PathStep) (first : Bool) (acc : Array (String × Json)) :
    Nat → ReadM (List (String × Json))
  | 0 => fail .eofWhileParsingObject path
  | fuel + 1 => do
    match ← keyStart path first with
    | none => return acc.toList
    | some (some 34) =>
      bump
      let name ← stringBody (path ++ [.unknown])
      colon (path ++ [.member name])
      let v ← value depth (path ++ [.member name]) fuel
      members depth path false (acc.push (name, v)) fuel
    | some (some 125) => failPeek .trailingComma path
    | some (some _) => failPeek .keyMustBeAString path
    | some none => failPeek .eofWhileParsingValue path

def colon (path : List PathStep) : ReadM Unit := do
  match ← skipBlanks with
  | some 58 => bump
  | some _ => failPeek .expectedColon path
  | none => failPeek .eofWhileParsingObject path

def closeList (path : List PathStep) : ReadM Unit := do
  match ← skipBlanks with
  | some 93 => bump
  | some 44 =>
    bump
    match ← skipBlanks with
    | some 93 => failPeek .trailingComma path
    | _ => failPeek .trailingCharacters path
  | some _ => failPeek .trailingCharacters path
  | none => failPeek .eofWhileParsingList path

def closeObject (path : List PathStep) : ReadM Unit := do
  match ← skipBlanks with
  | some 125 => bump
  | some 44 => failPeek .trailingComma path
  | some _ => failPeek .trailingCharacters path
  | none => failPeek .eofWhileParsingObject path

end

def document : ReadM Json := do
  let v ← value 128 [] ((← read).size + 2)
  match ← skipBlanks with
  | none => return v
  | some _ => failPeek .trailingCharacters []

end Reader

namespace Json

def readInOrder (text : String) : Except ReadError Json :=
  (Reader.document.run text.toUTF8 |>.run 0).map (·.1)

/-- Read a whole text as JSON, with every object's members sorted by name, the last of a repeated
name kept. -/
def read (text : String) : Except ReadError Json :=
  (readInOrder text).map sortDeep

end Json

end SheetStore
