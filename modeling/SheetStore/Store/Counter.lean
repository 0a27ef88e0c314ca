import SheetStore.Store.Engine
import SheetStore.Store.Responder

/-! A counter on the store engine: a 64-bit signed state to which every action adds,
with middleware and subscribers that keep a notebook of what they saw.
-/

set_option autoImplicit false

namespace SheetStore

/-- What 64 signed bits make of an integer: its residue modulo `2 ^ 64`, read in the signed
range. -/
def wrap64 (x : Int) : Int := (BitVec.ofInt 64 x).toInt

/-- The counter's state. `version` counts the distinct states before this one, so two states of
one store are the same value exactly when their versions agree. -/
structure Counter where
  value : Int
  version : Nat
  deriving DecidableEq, Inhabited

namespace Counter

def create (value : Int) : Counter := { value, version := 0 }

/-- The state after an action: zero keeps the very same state, any other number is added. -/
def reduce (c : Counter) (a : Int) : Counter :=
  if a = 0 then c else { value := wrap64 (c.value + a), version := c.version + 1 }

@[simp] theorem reduce_zero (c : Counter) : c.reduce 0 = c := by simp [reduce]

theorem version_reduce {c : Counter} {a : Int} (h : a ≠ 0) : (c.reduce a).version = c.version + 1 := by
  simp [reduce, h]

theorem value_reduce {c : Counter} {a : Int} (h : a ≠ 0) :
    (c.reduce a).value = wrap64 (c.value + a) := by
  simp [reduce, h]

end Counter

/-- One middleware of a counter store. -/
inductive CounterStage where
  /-- Note the action and the value it meets, then pass it on. -/
  | record (name : String)
  /-- Swallow the action `value`, pass the others on. -/
  | drop (value : Int)
  /-- Pass the action on, and dispatch `followUp` afterwards if the action was `trigger`. -/
  | follow (trigger followUp : Int)
  /-- Panic on the action `value`, pass the others on. -/
  | failOn (value : Int)

/-- A line of a counter store's notebook: who wrote it, what it is about (an action or a
subscriber id), and the counter value seen then. -/
structure CounterNote where
  author : String
  subject : Int
  seen : Int
  deriving DecidableEq, Inhabited

/-- What a counter store's middleware and subscribers act on. -/
structure CounterWorld where
  notes : List CounterNote
  responders : Responders Int
  deriving Inhabited

abbrev CounterMachine := Machine Counter Int CounterWorld

abbrev CounterRun := Run Counter Int CounterWorld

namespace CounterWorld

def note (author : String) (subject seen : Int) (w : CounterWorld) : CounterWorld :=
  { w with notes := w.notes ++ [⟨author, subject, seen⟩] }

end CounterWorld

namespace CounterStage

def script : CounterStage → Int → Script Counter Int CounterWorld
  | .record name, a => .read fun c => .update (CounterWorld.note name a c.value) (.forward a .done)
  | .drop value, a => if a = value then .done else .forward a .done
  | .follow trigger followUp, a =>
    .forward a (if a = trigger then .dispatch followUp .done else .done)
  | .failOn value, a =>
    if a = value then .panic ("middleware failed on " ++ toString value) else .forward a .done

end CounterStage

/-- A subscriber of a counter store: it notes the value it is called with, then does what its
responder says. -/
def counterNotify (id : Nat) (c : Counter) : Script Counter Int CounterWorld :=
  .update (CounterWorld.note "listener" id c.value) <| .observe fun w =>
    let (out, responders) := w.responders.respond id
    .update (fun w => { w with responders }) <| Script.dispatchAll out.dispatches <|
      if out.panics then .panic "listener failed" else .done

def counterPipeline (stages : List CounterStage) : Pipeline Counter Int CounterWorld :=
  { stages := stages.map CounterStage.script
    reduce := fun c a => .ok (c.reduce a)
    notify := counterNotify }

namespace CounterMachine

def create (initial : Int) : CounterMachine :=
  { store := Store.create (Counter.create initial)
    world := { notes := [], responders := [] }
    logs := [] }

def subscribe (actions : List Int) (times : Nat) : CounterRun Nat := do
  let id ← Run.subscribe
  Run.modifyWorld fun w =>
    { w with responders := w.responders ++ [(id, Responder.create actions times 0)] }
  return id

end CounterMachine

def storeDebugText (middleware : Nat) : String :=
  "Store \x7b middleware: " ++ toString middleware ++ " \x7d"

end SheetStore
