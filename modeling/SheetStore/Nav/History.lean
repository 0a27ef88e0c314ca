import SheetStore.Nav.Location
import SheetStore.Log

/-! A navigation history as a browser session keeps it: a stack of visited locations and a
cursor into it, each move handed back to the caller to announce.
-/

set_option autoImplicit false

namespace SheetStore

def hex8 (n : Nat) : String :=
  let digits := Text.hexDigits n
  String.ofList (List.replicate (8 - digits.length) '0') ++ digits

/-- The key of the `n`-th location a history makes. Multiplying by an odd number permutes the
numbers below `2 ^ 32`, so distinct counts give distinct keys. -/
def locationKey (n : Nat) : String := hex8 ((n + 1) * 2654435761 % Nat.pow 2 32)

/-- A navigation history with its listeners. -/
structure History where
  stack : List Location
  index : Nat
  listeners : List Nat
  nextListener : Nat
  keysMade : Nat
  /-- How the current entry was reached: the kind of the last move, a pop before any move. -/
  lastMove : Navigation
  deriving DecidableEq, Inhabited

abbrev Transition := Location × Navigation

namespace History

def create (initialPath : String) : History :=
  { stack := [Location.parse initialPath (locationKey 0)], index := 0, listeners := [],
    nextListener := 1, keysMade := 1, lastMove := .pop }

def location (h : History) : Location := h.stack.getD h.index default

def length (h : History) : Nat := h.stack.length

def target (h : History) (delta : Int) : Option Nat :=
  let t : Int := h.index + delta
  if delta ≠ 0 ∧ 0 ≤ t ∧ t < h.length then some t.toNat else none

def canGo (h : History) (delta : Int) : Bool := (h.target delta).isSome

def fresh (h : History) (path : String) : Location × History :=
  (Location.parse path (locationKey h.keysMade), { h with keysMade := h.keysMade + 1 })

def log (message : String) : LogRecord := ⟨.debug, LogTarget.history, message⟩

def push (h : History) (path : String) : History × List LogRecord × Option Transition :=
  let (l, h) := h.fresh path
  let stack := h.stack.take (h.index + 1) ++ [l]
  ({ h with stack, index := stack.length - 1, lastMove := .push },
    [log ("history push " ++ l.path)],
    some (l, .push))

def replace (h : History) (path : String) : History × List LogRecord × Option Transition :=
  let (l, h) := h.fresh path
  ({ h with stack := h.stack.set h.index l, lastMove := .replace },
    [log ("history replace " ++ l.path)],
    some (l, .replace))

def go (h : History) (delta : Int) : History × List LogRecord × Option Transition :=
  match h.target delta with
  | some i =>
    let h := { h with index := i, lastMove := .pop }
    (h, [], some (h.location, .pop))
  | none =>
    (h, [log ("history go(" ++ toString delta ++ ") ignored at index " ++ toString h.index)], none)

/-- Register a listener; its id counts up from one. -/
def listen (h : History) : Nat × History :=
  let id := h.nextListener
  (id, { h with listeners := h.listeners ++ [id], nextListener := id + 1 })

def unlisten (h : History) (id : Nat) : Bool × History :=
  (h.listeners.contains id, { h with listeners := h.listeners.filter (· ≠ id) })

def debug (h : History) : String :=
  "History \x7b index: " ++ toString h.index ++ ", stack: [" ++
    ", ".intercalate (h.stack.map Location.debug) ++ "] \x7d"

end History

end SheetStore
