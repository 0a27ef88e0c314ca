/-! Subscribers described by data: on each of its first `times` calls a responder
dispatches its actions, and on each of its first `panics` calls it then panics.
-/

set_option autoImplicit false

namespace SheetStore

/-- A scripted subscriber. -/
structure Responder (A : Type) where
  actions : List A
  times : Nat
  panics : Nat
  calls : Nat
  deriving Inhabited

/-- What a responder does on one call. -/
structure Reaction (A : Type) where
  dispatches : List A
  panics : Bool

namespace Responder

variable {A : Type}

def create (actions : List A) (times panics : Nat) : Responder A :=
  { actions, times, panics, calls := 0 }

def respond (r : Responder A) : Reaction A × Responder A :=
  ({ dispatches := if r.calls < r.times then r.actions else [], panics := decide (r.calls < r.panics) },
    { r with calls := r.calls + 1 })

@[simp] theorem calls_respond (r : Responder A) : r.respond.2.calls = r.calls + 1 := rfl

theorem dispatches_respond (r : Responder A) :
    r.respond.1.dispatches = if r.calls < r.times then r.actions else [] := rfl

end Responder

abbrev Responders (A : Type) := List (Nat × Responder A)

namespace Responders

variable {A : Type}

def respond (rs : Responders A) (id : Nat) : Reaction A × Responders A :=
  match rs.lookup id with
  | none => ({ dispatches := [], panics := false }, rs)
  | some r =>
    let (out, r) := r.respond
    (out, rs.map fun (k, old) => if k = id then (k, r) else (k, old))

end Responders

end SheetStore
