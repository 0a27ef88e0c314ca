import SheetStore.Action
import SheetStore.Nav.History

/-! Calls on a history whose listeners react while they are told of a move, each taking its
steps before the next is told, written once over any base (`HistoryOps`).
-/

set_option autoImplicit false

namespace SheetStore

def HistoryCommand.applyTo (h : History) : HistoryCommand →
    History × List LogRecord × Option Transition
  | .push path => h.push path
  | .replace path => h.replace path
  | .go delta => h.go delta
  | .goBack => h.go (-1)
  | .goForward => h.go 1

/-- How deep history listeners may nest navigations, each made while the listener is told of
another, before the application gives up. -/
def navigationDepth : Nat := 1000

/-- What a history listener does when it is told of a move. -/
inductive ListenerStep where
  | navigate (command : HistoryCommand)
  | unlisten (id : Nat)
  deriving DecidableEq, Inhabited

/-- A history listener: the steps it takes when told that the history moved to a location by a
kind of navigation. -/
abbrev HistoryListener := Location → Navigation → List ListenerStep

/-- A call made on a history by its owner. -/
inductive HistoryCall where
  | navigate (command : HistoryCommand)
  | canGo (delta : Int)
  | listen (listener : HistoryListener)
  | unlisten (id : Nat)

/-- What a call answers: nothing, a yes or no, or a listener id. -/
inductive CallAnswer where
  | done
  | flag (b : Bool)
  | id (n : Nat)
  deriving DecidableEq, Inhabited

abbrev Told := List (Nat × Location × Navigation)

/-- The operations of a history that calls go through. -/
structure HistoryOps (β : Type) where
  navigate : β → HistoryCommand → β × List LogRecord × Option Transition
  canGo : β → Int → Bool
  listen : β → Nat × β
  unlisten : β → Nat → Bool × β
  listeners : β → List Nat

def History.ops : HistoryOps History where
  navigate h command := command.applyTo h
  canGo := History.canGo
  listen := History.listen
  unlisten := History.unlisten
  listeners := History.listeners

/-- A base with the listeners' reactions, by listener id. -/
structure Listened (β : Type) where
  base : β
  reactions : List (Nat × HistoryListener)

/-- The reaction of listener `id`; one that registered none takes no steps. -/
def Listened.listenerOf {β : Type} (s : Listened β) (id : Nat) : HistoryListener :=
  (s.reactions.lookup id).getD fun _ _ => []

namespace HistoryOps

variable {β : Type} (ops : HistoryOps β)

def takeSteps (navigate : β → HistoryCommand → Option (β × List LogRecord × Told)) :
    List ListenerStep → β → Option (β × List LogRecord × Told)
  | [], b => some (b, [], [])
  | .navigate command :: steps, b => do
    let (b, logs, told) ← navigate b command
    let (b, logs', told') ← takeSteps navigate steps b
    pure (b, logs ++ logs', told ++ told')
  | .unlisten id :: steps, b => takeSteps navigate steps (ops.unlisten b id).2

/-- Tell the listeners `ids` in order that the history moved to `location` by `navigation`, each
taking its steps before the next is told. -/
def tellAll (listenerOf : Nat → HistoryListener)
    (navigate : β → HistoryCommand → Option (β × List LogRecord × Told))
    (location : Location) (navigation : Navigation) :
    List Nat → β → Option (β × List LogRecord × Told)
  | [], b => some (b, [], [])
  | id :: ids, b => do
    let (b, logs, told) ← ops.takeSteps navigate (listenerOf id location navigation) b
    let (b, logs', told') ← tellAll listenerOf navigate location navigation ids b
    pure (b, logs ++ logs', (id, location, navigation) :: (told ++ told'))

/-- Navigate, and tell a move to the listeners registered when it is made; navigations made by
listeners while they are told nest at most `depth` deep. -/
def navigateWithin (listenerOf : Nat → HistoryListener) :
    Nat → β → HistoryCommand → Option (β × List LogRecord × Told)
  | 0, _, _ => none
  | depth + 1, b, command =>
    let (b', logs, moved) := ops.navigate b command
    match moved with
    | none => some (b', logs, [])
    | some (location, navigation) =>
      (ops.tellAll listenerOf (navigateWithin listenerOf depth) location navigation
          (ops.listeners b') b').map
        fun (b'', logs', told) => (b'', logs ++ logs', told)

def call (s : Listened β) :
    HistoryCall → Option (Listened β × CallAnswer × List LogRecord × Told)
  | .navigate command =>
    (ops.navigateWithin s.listenerOf navigationDepth s.base command).map
      fun (b, logs, told) => ({ s with base := b }, .done, logs, told)
  | .canGo delta => some (s, .flag (ops.canGo s.base delta), [], [])
  | .listen listener =>
    let (id, b) := ops.listen s.base
    some (⟨b, s.reactions ++ [(id, listener)]⟩, .id id, [], [])
  | .unlisten id =>
    let (found, b) := ops.unlisten s.base id
    some ({ s with base := b }, .flag found, [], [])

def callAll (s : Listened β) :
    List HistoryCall → Option (Listened β × List (CallAnswer × Told))
  | [] => some (s, [])
  | c :: calls => do
    let (s₁, answer, _, told) ← ops.call s c
    let (s', rest) ← callAll s₁ calls
    pure (s', (answer, told) :: rest)

end HistoryOps

end SheetStore
