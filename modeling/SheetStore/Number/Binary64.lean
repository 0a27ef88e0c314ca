/-! Binary64 numbers kept as their 64-bit pattern, built from exact ratios by rounding to
the nearest double, a tie going to the even significand.
-/

set_option autoImplicit false

namespace SheetStore

/-- An IEEE-754 double, identified by its bit pattern. -/
structure Binary64 where
  bits : UInt64
  deriving DecidableEq, Inhabited

namespace Binary64

def isNegative (x : Binary64) : Bool := decide (Nat.pow 2 63 ≤ x.bits.toNat)

def biasedExponent (x : Binary64) : Nat := x.bits.toNat / Nat.pow 2 52 % Nat.pow 2 11

def fraction (x : Binary64) : Nat := x.bits.toNat % Nat.pow 2 52

def isFinite (x : Binary64) : Bool := x.biasedExponent != 2047

def isZero (x : Binary64) : Bool := x.biasedExponent == 0 && x.fraction == 0

def significand (x : Binary64) : Nat :=
  if x.biasedExponent = 0 then x.fraction else x.fraction + Nat.pow 2 52

def exponent (x : Binary64) : Int :=
  if x.biasedExponent = 0 then -1074 else (x.biasedExponent : Int) - 1075

def ofFields (negative : Bool) (e f : Nat) : Binary64 :=
  ⟨UInt64.ofNat ((if negative then Nat.pow 2 63 else 0) + e * Nat.pow 2 52 + f)⟩

def zero (negative : Bool) : Binary64 := ofFields negative 0 0

def infinity (negative : Bool) : Binary64 := ofFields negative 2047 0

def neg (x : Binary64) : Binary64 := ⟨x.bits ^^^ 0x8000000000000000⟩

/-- Equality of doubles as numbers, under which the two zeros are equal. -/
def sameValue (x y : Binary64) : Bool := x.bits == y.bits || (x.isZero && y.isZero)

def atLeastPow2 (num den : Nat) (e : Int) : Bool :=
  if 0 ≤ e then decide (den * Nat.pow 2 e.toNat ≤ num)
  else decide (den ≤ num * Nat.pow 2 (-e).toNat)

def floorLog2Ratio (num den : Nat) : Int :=
  let e : Int := (Nat.log2 num : Int) - Nat.log2 den
  if atLeastPow2 num den e then e else e - 1

/-- `n / d` rounded to the nearest whole number, a tie going to the even one. -/
def divRoundEven (n d : Nat) : Nat :=
  let q := n / d
  let r := n % d
  if d < 2 * r ∨ (2 * r = d ∧ q % 2 = 1) then q + 1 else q

/-- The pattern of the finite value `m · 2 ^ q` for a significand `m ≤ 2 ^ 53` whose exponent is
already the one rounding chose: a carry to `2 ^ 53` moves to the next binade, a significand
below `2 ^ 52` is subnormal, and an exponent past the largest finite one gives infinity. -/
def pack (negative : Bool) (m : Nat) (q : Int) : Binary64 :=
  let (m, q) := if m = Nat.pow 2 53 then (Nat.pow 2 52, q + 1) else (m, q)
  if m < Nat.pow 2 52 then ofFields negative 0 m
  else
    let e := q + 1075
    if 2047 ≤ e then infinity negative else ofFields negative e.toNat (m - Nat.pow 2 52)

/-- The double nearest to `num / den`, with sign `negative`; a tie goes to the even
significand, and a ratio beyond the largest finite double gives infinity. -/
def ofRatio (negative : Bool) (num den : Nat) : Binary64 :=
  if num = 0 ∨ den = 0 then zero negative
  else
    let q : Int := max (floorLog2Ratio num den - 52) (-1074)
    let m :=
      if 0 ≤ q then divRoundEven num (den * Nat.pow 2 q.toNat)
      else divRoundEven (num * Nat.pow 2 (-q).toNat) den
    pack negative m q

def ofNat (n : Nat) : Binary64 := ofRatio false n 1

def ofInt (n : Int) : Binary64 := ofRatio (decide (n < 0)) n.natAbs 1

def scaled (x : Nat) (e : Int) : Nat × Nat :=
  if 0 ≤ e then (x * Nat.pow 2 e.toNat, 1) else (x, Nat.pow 2 (-e).toNat)

def mul (x y : Binary64) : Binary64 :=
  let (num, den) := scaled (x.significand * y.significand) (x.exponent + y.exponent)
  ofRatio (x.isNegative != y.isNegative) num den

def div (x y : Binary64) : Binary64 :=
  let (num, den) := scaled x.significand (x.exponent - y.exponent)
  ofRatio (x.isNegative != y.isNegative) num (den * y.significand)

def addNonneg (x y : Binary64) : Binary64 :=
  let e := min x.exponent y.exponent
  let (num, den) := scaled (x.significand * Nat.pow 2 (x.exponent - e).toNat +
    y.significand * Nat.pow 2 (y.exponent - e).toNat) e
  ofRatio false num den

def ltNonneg (x y : Binary64) : Bool :=
  let e := min x.exponent y.exponent
  decide (x.significand * Nat.pow 2 (x.exponent - e).toNat <
    y.significand * Nat.pow 2 (y.exponent - e).toNat)

def powTen (k : Nat) : Binary64 := ofNat (Nat.pow 10 k)

end Binary64

end SheetStore
