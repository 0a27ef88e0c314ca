import SheetStore.Number.Shortest

/-! Writing doubles as text, in the two layouts that start from the shortest decimal
that reads back.
-/

set_option autoImplicit false

namespace SheetStore

/-- The decisions of one way of writing doubles. -/
structure NumberLayout where
  /-- Positional notation is used while `lowestPoint < kk`. -/
  lowestPoint : Int
  /-- Positional notation is used while `kk ≤ highestPoint`. -/
  highestPoint : Int
  /-- Text written after a whole number in positional notation. -/
  wholeSuffix : String
  /-- Text of zero, before the sign. -/
  zeroText : String

namespace NumberLayout

/-- Data interchange text: positional for `-5 < kk ≤ 16`, otherwise one digit, the rest after a
point, `e` and the exponent without a plus sign (`1e21`, `1.5e-7`); whole numbers keep `.0`. -/
def interchange : NumberLayout := ⟨-5, 16, ".0", "0.0"⟩

def plain : NumberLayout := ⟨-400, 400, "", "0"⟩

def zeros (n : Nat) : String := String.ofList (List.replicate n '0')

def body (layout : NumberLayout) (d : Decimal) : String :=
  let ds := toString d.digits
  let len := ds.length
  let kk : Int := len + d.exponent
  if 0 ≤ d.exponent ∧ kk ≤ layout.highestPoint then
    ds ++ zeros d.exponent.toNat ++ layout.wholeSuffix
  else if 0 < kk ∧ kk ≤ layout.highestPoint then
    String.ofList (ds.toList.take kk.toNat) ++ "." ++ String.ofList (ds.toList.drop kk.toNat)
  else if layout.lowestPoint < kk ∧ kk ≤ 0 then
    "0." ++ zeros (-kk).toNat ++ ds
  else
    let mantissa :=
      if len = 1 then ds
      else String.ofList (ds.toList.take 1) ++ "." ++ String.ofList (ds.toList.drop 1)
    mantissa ++ "e" ++ toString (kk - 1)

def render (layout : NumberLayout) (x : Binary64) : String :=
  let sign := if x.isNegative then "-" else ""
  if x.isZero then sign ++ layout.zeroText
  else sign ++ layout.body x.shortest

end NumberLayout

namespace Binary64

def interchangeText (x : Binary64) : String := NumberLayout.interchange.render x

def plainText (x : Binary64) : String := NumberLayout.plain.render x

end Binary64

end SheetStore
