import SheetStore.Number.Binary64

/-! Shortest decimals of doubles: the first grid of significant digits with a point in
the rounding interval, found with exact whole-number comparisons.
-/

set_option autoImplicit false

namespace SheetStore

/-- The decimal number `digits · 10 ^ exponent`. -/
structure Decimal where
  digits : Nat
  exponent : Int
  deriving DecidableEq, Inhabited

namespace Decimal

def digitCount (n : Nat) : Nat :=
  if n < 10 then 1 else digitCount (n / 10) + 1
termination_by n
decreasing_by omega

def trim (d : Decimal) : Decimal :=
  if d.digits = 0 then d
  else if d.digits % 10 = 0 then trim ⟨d.digits / 10, d.exponent + 1⟩
  else d
termination_by d.digits
decreasing_by
  have : d.digits / 10 < d.digits := Nat.div_lt_self (by omega) (by decide)
  simpa using this

/-- The decimal exponent of the leading digit: `10 ^ (leading d) ≤ d < 10 ^ (leading d + 1)`
for a nonzero `d`. -/
def leading (d : Decimal) : Int := (digitCount d.digits : Int) - 1 + d.exponent

end Decimal

def scaledRatio (a : Nat) (i j : Int) : Nat × Nat :=
  (a * Nat.pow 10 i.toNat * Nat.pow 2 j.toNat,
    Nat.pow 10 (-i).toNat * Nat.pow 2 (-j).toNat)

def compareRatio (p q : Nat × Nat) : Ordering := compare (p.1 * q.2) (q.1 * p.2)

namespace Binary64

/-- `⌊log₁₀ (m · 2 ^ q)⌋` for a positive significand; the value is first multiplied by
`10 ^ 330`, which makes every positive double at least one. -/
def floorLog10 (m : Nat) (q : Int) : Int :=
  let (num, den) := scaledRatio m 330 q
  (Decimal.digitCount (num / den) : Int) - 1 - 330

/-- Whether the grid point `c · 10 ^ k` lies in the interval of reals that round to
`m · 2 ^ q`; `lowSteps` quarter-units lie below the value, two above, all in units of
`2 ^ (q - 2)`. -/
def inRoundingInterval (m : Nat) (q : Int) (lowSteps : Nat) (c : Nat) (k : Int) : Bool :=
  let point := scaledRatio c k 0
  let low := scaledRatio (4 * m - lowSteps) 0 (q - 2)
  let high := scaledRatio (4 * m + 2) 0 (q - 2)
  let inclusive := m % 2 = 0
  let aboveLow := match compareRatio low point with
    | .lt => true
    | .eq => inclusive
    | .gt => false
  let belowHigh := match compareRatio point high with
    | .lt => true
    | .eq => inclusive
    | .gt => false
  aboveLow && belowHigh

/-- The point of the grid `10 ^ k` in the rounding interval nearest to `m · 2 ^ q`, if the
grid has one there. -/
def gridPoint (m : Nat) (q : Int) (lowSteps : Nat) (k : Int) : Option Nat :=
  let (num, den) := scaledRatio m (-k) q
  let below := num / den
  let above := below + 1
  let lowHit := decide (0 < below) && inRoundingInterval m q lowSteps below k
  let highHit := inRoundingInterval m q lowSteps above k
  if lowHit && highHit then
    -- compare `2 · value` with `(below + above) · 10 ^ k`
    match compare (2 * num) ((below + above) * den) with
    | .lt => some below
    | .gt => some above
    | .eq => some (if below % 2 = 0 then below else above)
  else if lowHit then some below
  else if highHit then some above
  else none

def searchGrids (m : Nat) (q : Int) (lowSteps : Nat) (top : Int) : Nat → Nat → Option Decimal
  | 0, _ => none
  | fuel + 1, count =>
    let k := top - count + 1
    match gridPoint m q lowSteps k with
    | some c => some (Decimal.trim ⟨c, k⟩)
    | none => searchGrids m q lowSteps top fuel (count + 1)

/-- The shortest decimal that reads back as the magnitude of a finite nonzero double, the
nearest of those when several have that length. -/
def shortest (x : Binary64) : Decimal :=
  let m := x.significand
  let q := x.exponent
  -- at the bottom of a binade the neighbour below is half as far away
  let lowSteps := if m = Nat.pow 2 52 ∧ q ≠ -1074 then 1 else 2
  match searchGrids m q lowSteps (floorLog10 m q) 17 1 with
  | some d => d
  | none => Decimal.trim ⟨m, 0⟩

end Binary64

end SheetStore
