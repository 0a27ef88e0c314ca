import SheetStore.Json.Basic
import SheetStore.Number.Text
import SheetStore.Text.Escape

/-! Turning JSON values into typed data, with the reasons a value is refused, for a value
read on its own and for one first kept aside inside a tagged union.
-/

set_option autoImplicit false

namespace SheetStore

/-- What a decoder found instead of what it wanted. -/
inductive Unexpected where
  | null
  | bool (b : Bool)
  | unsigned (n : Nat)
  | signed (n : Int)
  | float (x : Binary64)
  | str (s : String)
  | seq
  | map
  deriving Inhabited

namespace Unexpected

def describe : Unexpected → String
  | .null => "null"
  | .bool b => "boolean `" ++ toString b ++ "`"
  | .unsigned n => "integer `" ++ toString n ++ "`"
  | .signed n => "integer `" ++ toString n ++ "`"
  | .float x => "floating point `" ++ x.interchangeText ++ "`"
  | .str s => "string " ++ Text.debugQuote s
  | .seq => "sequence"
  | .map => "map"

def ofJson : Json → Unexpected
  | .null => .null
  | .bool b => .bool b
  | .number (.nat n) => .unsigned n
  | .number (.neg n) => .signed n
  | .number (.float x) => .float x
  | .str s => .str s
  | .arr _ => .seq
  | .obj _ => .map

end Unexpected

/-- Why a value could not be decoded. -/
structure DecodeError where
  message : String
  deriving Inhabited, DecidableEq

namespace DecodeError

def invalidType (found : Unexpected) (expected : String) : DecodeError :=
  ⟨"invalid type: " ++ found.describe ++ ", expected " ++ expected⟩

def invalidValue (found : Unexpected) (expected : String) : DecodeError :=
  ⟨"invalid value: " ++ found.describe ++ ", expected " ++ expected⟩

def invalidLength (length : Nat) (expected : String) : DecodeError :=
  ⟨"invalid length " ++ toString length ++ ", expected " ++ expected⟩

def missingField (name : String) : DecodeError := ⟨"missing field `" ++ name ++ "`"⟩

def duplicateField (name : String) : DecodeError := ⟨"duplicate field `" ++ name ++ "`"⟩

def oneOf (names : List String) : String :=
  let ticked := names.map fun n => "`" ++ n ++ "`"
  match ticked with
  | [] => "there are no variants"
  | [a] => "expected " ++ a
  | [a, b] => "expected " ++ a ++ " or " ++ b
  | _ => "expected one of " ++ ", ".intercalate ticked

def unknownVariant (name : String) (names : List String) : DecodeError :=
  ⟨"unknown variant `" ++ name ++ "`, " ++ oneOf names⟩

def noVariantMatches (union : String) : DecodeError :=
  ⟨"data did not match any variant of untagged enum " ++ union⟩

def elements (n : Nat) : String :=
  toString n ++ (if n = 1 then " element" else " elements")

end DecodeError

abbrev Decode := Except DecodeError

/-- Which deserializer reads a value; see the module header. -/
inductive Layer where
  | document
  | buffered
  deriving DecidableEq, Inhabited

namespace Layer

/-- The reason given when a list has `total` elements and only the first `taken` were wanted. -/
def surplus : Layer → (total taken : Nat) → DecodeError
  | .document, total, _ => .invalidLength total "fewer elements in array"
  | .buffered, total, taken => .invalidLength total (DecodeError.elements taken ++ " in sequence")

/-- Whether a value stands for nothing where nothing is wanted. -/
def isUnit : Layer → Json → Bool
  | _, .null => true
  | .buffered, .obj [] => true
  | _, _ => false

end Layer

namespace Decode

def wrongType {α : Type} (expected : String) (v : Json) : Decode α :=
  throw (.invalidType (Unexpected.ofJson v) expected)

def unsignedOf (bits : Nat) (expected : String) : Json → Decode Nat
  | .number (.nat n) =>
    if n < Nat.pow 2 bits then pure n else throw (.invalidValue (.unsigned n) expected)
  | .number (.neg n) => throw (.invalidValue (.signed n) expected)
  | v => wrongType expected v

def usize : Json → Decode Nat := unsignedOf 64 "usize"

def u32 : Json → Decode Nat := unsignedOf 32 "u32"

def isize : Json → Decode Int
  | .number (.nat n) =>
    if n < Nat.pow 2 63 then pure n else throw (.invalidValue (.unsigned n) "isize")
  | .number (.neg n) => pure n
  | v => wrongType "isize" v

def f64 : Json → Decode Binary64
  | .number (.nat n) => pure (Binary64.ofNat n)
  | .number (.neg n) => pure (Binary64.ofInt n)
  | .number (.float x) => pure x
  | v => wrongType "f64" v

def bool : Json → Decode Bool
  | .bool b => pure b
  | v => wrongType "a boolean" v

def string : Json → Decode String
  | .str s => pure s
  | v => wrongType "a string" v

def list {α : Type} (item : Json → Decode α) : Json → Decode (List α)
  | .arr items => items.mapM item
  | v => wrongType "a sequence" v

end Decode

/-- A field's value, or the first reason it has none, ranked by how far into the record that
reason was found. -/
abbrev Ranked (α : Type) := Except (Nat × DecodeError) α

namespace Ranked

def pair {α β : Type} : Ranked α → Ranked β → Ranked (α × β)
  | .ok a, .ok b => .ok (a, b)
  | .error e, .ok _ => .error e
  | .ok _, .error e => .error e
  | .error e, .error f => .error (if f.1 < e.1 then f else e)

def finish {α : Type} (r : Ranked α) : Decode α :=
  match r with
  | .ok a => .ok a
  | .error (_, e) => .error e

end Ranked

namespace Record

/-- Field `name`, declared `rank`-th, of a record given as members in order: decoded from its
first member, refused if a second member has the name, and taken from `fallback` or refused
when no member has it. -/
def field {α : Type} (members : List (String × Json)) (rank : Nat) (name : String)
    (decode : Json → Decode α) (fallback : Option α) : Ranked α :=
  match (members.zipIdx.filter fun m => m.1.1 = name) with
  | [] =>
    match fallback with
    | some a => .ok a
    | none => .error (members.length + rank, .missingField name)
  | ((_, v), i) :: rest =>
    match decode v with
    | .error e => .error (i, e)
    | .ok a =>
      match rest with
      | [] => .ok a
      | (_, j) :: _ => .error (j, .duplicateField name)

/-- Field `rank` of a record given as a list of its `count` fields: decoded from that element,
or taken from `fallback`, or refused as a list too short for `expecting`. -/
def element {α : Type} (items : List Json) (rank count : Nat) (expecting : String)
    (decode : Json → Decode α) (fallback : Option α) : Ranked α :=
  match items[rank]? with
  | some v =>
    match decode v with
    | .ok a => .ok a
    | .error e => .error (rank, e)
  | none =>
    match fallback with
    | some a => .ok a
    | none => .error (rank, .invalidLength rank (expecting ++ " with " ++ DecodeError.elements count))

def noSurplus (layer : Layer) (items : List Json) (count : Nat) : Decode Unit :=
  if count < items.length then throw (layer.surplus items.length count) else pure ()

def decode {α : Type} (layer : Layer) (expecting : String) (count : Nat)
    (fromMembers : List (String × Json) → Ranked α) (fromItems : List Json → Ranked α) :
    Json → Decode α
  | .obj members => (fromMembers members).finish
  | .arr items => do
    let a ← (fromItems items).finish
    noSurplus layer items count
    pure a
  | v => Decode.wrongType expecting v

end Record

namespace Decode

/-- A union of named variants that carry nothing, given as the name, or as an object with the
name as its single member and nothing as its value. -/
def unitEnum {α : Type} (layer : Layer) (variants : List (String × α)) : Json → Decode α
  | .str name =>
    match variants.lookup name with
    | some a => pure a
    | none => throw (.unknownVariant name (variants.map (·.1)))
  | .obj [(name, v)] =>
    match variants.lookup name with
    | some a => if layer.isUnit v then pure a else wrongType "unit" v
    | none => throw (.unknownVariant name (variants.map (·.1)))
  | .obj _ => throw (.invalidValue .map "map with a single key")
  | v => wrongType "string or map" v

end Decode

end SheetStore
