import SheetStore.Log

/-! A store: one state, a queue of actions, and a chain of middleware in front of a
reducer. A dispatch made while the queue is drained only queues, and a panic ends the drain
with what happened before it kept.
-/

set_option autoImplicit false

namespace SheetStore

/-- The state, the pending actions and the subscribers of a store. -/
structure Store (S A : Type) where
  state : S
  queue : List A
  /-- Whether a dispatch is handling the queue right now. -/
  draining : Bool
  subscribers : List Nat
  nextSubscriber : Nat

namespace Store

variable {S A : Type}

def create (state : S) : Store S A :=
  { state
    queue := []
    draining := false
    subscribers := []
    nextSubscriber := 1 }

def subscribe (s : Store S A) : Nat × Store S A :=
  let id := s.nextSubscriber
  (id, { s with subscribers := s.subscribers ++ [id], nextSubscriber := id + 1 })

@[simp] theorem subscribe_fst (s : Store S A) : s.subscribe.1 = s.nextSubscriber := rfl

@[simp] theorem subscribers_subscribe (s : Store S A) :
    s.subscribe.2.subscribers = s.subscribers ++ [s.nextSubscriber] := rfl

@[simp] theorem nextSubscriber_subscribe (s : Store S A) :
    s.subscribe.2.nextSubscriber = s.nextSubscriber + 1 := rfl

def unsubscribe (s : Store S A) (id : Nat) : Bool × Store S A :=
  (s.subscribers.contains id, { s with subscribers := s.subscribers.filter (· ≠ id) })

@[simp] theorem subscribers_unsubscribe (s : Store S A) (id : Nat) :
    (s.unsubscribe id).2.subscribers = s.subscribers.filter (· ≠ id) := rfl

@[simp] theorem state_unsubscribe (s : Store S A) (id : Nat) :
    (s.unsubscribe id).2.state = s.state ∧ (s.unsubscribe id).2.queue = s.queue := ⟨rfl, rfl⟩

end Store

/-- A store with the world around it, which its middleware and subscribers act on, and the log
records written so far, oldest first. -/
structure Machine (S A W : Type) where
  store : Store S A
  world : W
  logs : List LogRecord

/-- A computation over a machine that may panic with a message. A panic keeps the machine as it
was when the panic was raised. -/
abbrev Run (S A W : Type) := EStateM String (Machine S A W)

namespace Run

variable {S A W : Type}

def state : Run S A W S := do return (← get).store.state

def world : Run S A W W := do return (← get).world

def modifyWorld (f : W → W) : Run S A W Unit :=
  modify fun m => { m with world := f m.world }

def modifyStore (f : Store S A → Store S A) : Run S A W Unit :=
  modify fun m => { m with store := f m.store }

def log (level : Level) (target message : String) : Run S A W Unit :=
  modify fun m => { m with logs := m.logs ++ [⟨level, target, message⟩] }

def logAll (records : List LogRecord) : Run S A W Unit :=
  modify fun m => { m with logs := m.logs ++ records }

def enqueue (a : A) : Run S A W Unit :=
  modifyStore fun s => { s with queue := s.queue ++ [a] }

theorem run_enqueue (a : A) (m : Machine S A W) :
    (enqueue a).run m = .ok () { m with store := { m.store with queue := m.store.queue ++ [a] } } :=
  rfl

def abort {α : Type} (message : String) : Run S A W α := throw message

def subscribe : Run S A W Nat := do
  let m ← get
  let (id, store) := m.store.subscribe
  set { m with store }
  return id

def unsubscribe (id : Nat) : Run S A W Bool := do
  let m ← get
  let (found, store) := m.store.unsubscribe id
  set { m with store }
  return found

end Run

/-- What a middleware or a subscriber does when it is called, written as a program over what it
can reach: each step is one call on the store, on the rest of the chain or on the world around
the store, and what comes after may depend on what the call answered. -/
inductive Script (S A W : Type) where
  | done
  /-- Hand an action to the rest of the chain. -/
  | forward (a : A) (rest : Script S A W)
  | dispatch (a : A) (rest : Script S A W)
  | read (rest : S → Script S A W)
  | observe (rest : W → Script S A W)
  | update (f : W → W) (rest : Script S A W)
  | log (record : LogRecord) (rest : Script S A W)
  | subscribe (rest : Nat → Script S A W)
  | unsubscribe (id : Nat) (rest : Bool → Script S A W)
  | panic (message : String)

namespace Script

variable {S A W : Type}

def logAll (records : List LogRecord) (rest : Script S A W) : Script S A W :=
  records.foldr log rest

def dispatchAll (actions : List A) (rest : Script S A W) : Script S A W :=
  actions.foldr dispatch rest

/-- Carry a script out, with `dispatch` for the store's dispatch and `next` for the rest of the
chain. The result lists the actions that reached the reducer through `next`, in order. -/
def run (dispatch : A → Run S A W Unit) (next : A → Run S A W (List A)) :
    Script S A W → Run S A W (List A)
  | .done => pure []
  | .forward a rest => do
    let reached ← next a
    let later ← rest.run dispatch next
    return reached ++ later
  | .dispatch a rest => do
    dispatch a
    rest.run dispatch next
  | .read rest => do (rest (← Run.state)).run dispatch next
  | .observe rest => do (rest (← Run.world)).run dispatch next
  | .update f rest => do
    Run.modifyWorld f
    rest.run dispatch next
  | .log record rest => do
    Run.logAll [record]
    rest.run dispatch next
  | .subscribe rest => do (rest (← Run.subscribe)).run dispatch next
  | .unsubscribe id rest => do (rest (← Run.unsubscribe id)).run dispatch next
  | .panic message => Run.abort message

end Script

/-- What a store does with an action: its middleware in chain order, its reducer, and what the
subscriber with a given id does with a new state. The reducer may panic, with a message. -/
structure Pipeline (S A W : Type) where
  stages : List (A → Script S A W)
  reduce : S → A → Except String S
  notify : Nat → S → Script S A W

/-- How many actions one dispatch handles at most before it gives up on the queue. -/
def drainBudget : Nat := 1000000

namespace Pipeline

variable {S A W : Type}

/-- Call the subscribers `ids` in order with `state`; `dispatch` is the store's dispatch, and a
subscriber has no chain to hand actions to. -/
def notifyAll (p : Pipeline S A W) (dispatch : A → Run S A W Unit) (state : S) :
    List Nat → Run S A W Unit
  | [] => pure ()
  | id :: ids => do
    let _ ← (p.notify id state).run dispatch fun _ => pure []
    p.notifyAll dispatch state ids

/-- The end of the chain: reduce, keep the new state, and call the subscribers registered now.
Subscribers that come or go while they are called do not change who is called. A reducer that
panics stores nothing; the state stays readable as it was. -/
def reduceAndNotify (p : Pipeline S A W) (dispatch : A → Run S A W Unit) (a : A) :
    Run S A W (List A) := do
  let m ← get
  match p.reduce m.store.state a with
  | .error message => Run.abort message
  | .ok next =>
    set { m with store := { m.store with state := next } }
    p.notifyAll dispatch next m.store.subscribers
    return [a]

theorem run_reduceAndNotify_ok (p : Pipeline S A W) (dispatch : A → Run S A W Unit) (a : A)
    (m : Machine S A W) {next : S} (reduced : p.reduce m.store.state a = .ok next) :
    (p.reduceAndNotify dispatch a).run m =
      (do p.notifyAll dispatch next m.store.subscribers; return [a]).run
        { m with store := { m.store with state := next } } := by
  simp only [reduceAndNotify, EStateM.run_bind, EStateM.run_get, reduced, EStateM.run_set]

theorem run_reduceAndNotify_error (p : Pipeline S A W) (dispatch : A → Run S A W Unit) (a : A)
    (m : Machine S A W) {message : String} (failed : p.reduce m.store.state a = .error message) :
    (p.reduceAndNotify dispatch a).run m = .error message m := by
  simp only [reduceAndNotify, EStateM.run_bind, EStateM.run_get, failed]
  rfl

/-- The chain from the given middleware on. It gives back the actions that reached the reducer. -/
def chain (p : Pipeline S A W) (dispatch : A → Run S A W Unit) :
    List (A → Script S A W) → A → Run S A W (List A)
  | [], a => p.reduceAndNotify dispatch a
  | stage :: rest, a => (stage a).run dispatch (p.chain dispatch rest)

@[simp] theorem chain_nil (p : Pipeline S A W) (dispatch : A → Run S A W Unit) (a : A) :
    p.chain dispatch [] a = p.reduceAndNotify dispatch a := rfl

@[simp] theorem chain_cons (p : Pipeline S A W) (dispatch : A → Run S A W Unit)
    (stage : A → Script S A W) (rest : List (A → Script S A W)) (a : A) :
    p.chain dispatch (stage :: rest) a = (stage a).run dispatch (p.chain dispatch rest) := rfl

/-- After a panic in the chain: the queue is no longer being drained, and a warning counts the
actions left in it. -/
def recover : Run S A W Unit := do
  Run.modifyStore fun s => { s with draining := false }
  let left := (← get).store.queue.length
  if left ≠ 0 then
    Run.log .warn LogTarget.store
      ("dispatch panicked with " ++ toString left ++ " action(s) still queued")

/-- Queue an action and, unless the queue is being drained already, drain it with `drain`. A
panic in the drain is passed on after `recover`. -/
def submit (drain : Run S A W Unit) (a : A) : Run S A W Unit := do
  Run.enqueue a
  if (← get).store.draining then return
  Run.modifyStore fun s => { s with draining := true }
  tryCatch drain fun e => do
    recover
    throw e

/-- Handle queued actions, oldest first, until the queue is empty; then the queue is no longer
being drained. At most `fuel` actions are handled: a drain that would need more panics, standing
for a loop that does not end. The middleware and subscribers of each action dispatch through
`submit` with what is left of the loop, as a dispatch made in the middle of the loop calls the
store's own dispatch. -/
def drain (p : Pipeline S A W) : Nat → Run S A W Unit
  | 0 => do
    let m ← get
    match m.store.queue with
    | [] => set { m with store := { m.store with draining := false } }
    | _ :: _ => Run.abort "dispatch did not settle: too many actions queued"
  | fuel + 1 => do
    let m ← get
    match m.store.queue with
    | [] => set { m with store := { m.store with draining := false } }
    | a :: rest =>
      set { m with store := { m.store with queue := rest } }
      let _ ← p.chain (submit (p.drain fuel)) p.stages a
      p.drain fuel

theorem drain_nil (p : Pipeline S A W) (fuel : Nat) (m : Machine S A W)
    (empty : m.store.queue = []) :
    (p.drain fuel).run m = .ok () { m with store := { m.store with draining := false } } := by
  cases fuel <;> simp only [drain, EStateM.run_bind, EStateM.run_get, empty, EStateM.run_set]

theorem drain_zero_cons (p : Pipeline S A W) (m : Machine S A W) (a : A) (rest : List A)
    (front : m.store.queue = a :: rest) :
    (p.drain 0).run m = .error "dispatch did not settle: too many actions queued" m := by
  simp only [drain, EStateM.run_bind, EStateM.run_get, front]
  rfl

theorem drain_succ_cons (p : Pipeline S A W) (fuel : Nat) (m : Machine S A W) (a : A)
    (rest : List A) (front : m.store.queue = a :: rest) :
    (p.drain (fuel + 1)).run m =
      (do let _ ← p.chain (submit (p.drain fuel)) p.stages a; p.drain fuel).run
        { m with store := { m.store with queue := rest } } := by
  simp only [drain, EStateM.run_bind, EStateM.run_get, front, EStateM.run_set]

/-- Dispatch an action: queue it, and unless the queue is being drained already, drain it. -/
def dispatch (p : Pipeline S A W) (a : A) : Run S A W Unit := submit (p.drain drainBudget) a

end Pipeline

end SheetStore
