import SheetStore.Number.Binary64

/-! The Jaro similarity of two texts, computed in doubles.
-/

set_option autoImplicit false

namespace SheetStore

namespace Jaro

/-- Match `c` at position `i` of the first text against the free characters of the second within
`range`: the flags of the second text after the match, and whether it matched. -/
def matchOne (c : Char) (i range : Nat) (b : List Char) (flags : List Bool) : List Bool × Bool :=
  let lo := i - range
  let hi := i + range + 1
  let candidate := ((b.zip flags).zipIdx).find? fun ((d, used), j) =>
    lo ≤ j && j < hi && d == c && !used
  match candidate with
  | some (_, j) => (flags.set j true, true)
  | none => (flags, false)

def matchFlags (a b : List Char) (range : Nat) : List Bool × List Bool :=
  let (aFlags, bFlags) := a.zipIdx.foldl (fun (acc : List Bool × List Bool) (c, i) =>
    let (bFlags, hit) := matchOne c i range b acc.2
    (acc.1 ++ [hit], bFlags)) ([], List.replicate b.length false)
  (aFlags, bFlags)

def matched (s : List Char) (flags : List Bool) : List Char :=
  (s.zip flags).filterMap fun (c, f) => if f then some c else none

end Jaro

def jaro (a b : List Char) : Binary64 :=
  if a.isEmpty && b.isEmpty then Binary64.ofNat 1
  else if a.isEmpty || b.isEmpty then Binary64.zero false
  else
    let range := max a.length b.length / 2 - 1
    let (aFlags, bFlags) := Jaro.matchFlags a b range
    let m := (aFlags.filter id).length
    if m = 0 then Binary64.zero false
    else
      let outOfOrder := ((Jaro.matched a aFlags).zip (Jaro.matched b bFlags)).filter
        (fun (x, y) => x != y) |>.length
      let t := outOfOrder / 2
      let f := Binary64.ofNat
      let sum := ((f m).div (f a.length)).addNonneg ((f m).div (f b.length)) |>.addNonneg
        ((f (m - t)).div (f m))
      sum.div (f 3)

end SheetStore
