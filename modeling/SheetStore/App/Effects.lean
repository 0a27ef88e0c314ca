import SheetStore.Action

/-! Effects started by actions, and the single-threaded scheduler that runs them: its own
queue, an injection queue looked in first every `injectionInterval`-th tick.
-/

set_option autoImplicit false

namespace SheetStore

/-- What an effect does when its task runs. -/
structure Effect where
  /-- The actions it dispatches, one after the other. -/
  actions : List Action
  panics : Bool
  /-- If set, it dispatches only while the read-only flag has this value when it runs. -/
  onlyIfReadOnly : Option Bool

/-- A watcher starts its effect for every action of kind `on`. -/
structure Watcher where
  name : String
  on : String
  effect : Effect
  /-- How many of its tasks have run so far. -/
  runs : Nat

/-- How many runs of one watcher may dispatch; later runs do nothing. -/
def runLimit : Nat := 100

/-- A started effect, waiting to run: the position of its watcher. -/
structure Task where
  watcher : Nat
  deriving DecidableEq, Inhabited

/-- Every this many ticks the scheduler looks in the injection queue first. -/
def injectionInterval : Nat := 31

def batchSize : Nat := 61

/-- The queues of a single-threaded scheduler. -/
structure Scheduler where
  /-- Tasks started from outside, oldest first. -/
  injected : List Task
  /-- Tasks started while the scheduler was driving, oldest first. -/
  owned : List Task
  tick : Nat
  /-- Whether a runtime was given to the effect runner when it was built. -/
  bound : Bool
  /-- Whether the scheduler is being driven right now. -/
  driving : Bool
  deriving Inhabited

namespace Scheduler

def create (bound : Bool) : Scheduler :=
  { injected := [], owned := [], tick := 0, bound, driving := false }

/-- Tasks started and not finished: a task leaves its queue only to run to its end. -/
def inFlight (s : Scheduler) : Nat := s.injected.length + s.owned.length

def canStart (s : Scheduler) : Bool := s.bound || s.driving

def start (s : Scheduler) (t : Task) : Scheduler :=
  if s.driving then { s with owned := s.owned ++ [t] } else { s with injected := s.injected ++ [t] }

def takeOwned (s : Scheduler) : Option (Task × Scheduler) :=
  match s.owned with
  | [] => none
  | t :: rest => some (t, { s with owned := rest })

def takeInjected (s : Scheduler) : Option (Task × Scheduler) :=
  match s.injected with
  | [] => none
  | t :: rest => some (t, { s with injected := rest })

/-- One tick: the next task to run, and the scheduler with that task taken from its queue. The
tick counts even when no task is found. -/
def next (s : Scheduler) : Option Task × Scheduler :=
  let s := { s with tick := s.tick + 1 }
  let found :=
    if s.tick % injectionInterval = 0 then s.takeInjected <|> s.takeOwned
    else s.takeOwned <|> s.takeInjected
  match found with
  | some (t, s) => (some t, s)
  | none => (none, s)

theorem inFlight_of_next_none {s : Scheduler} (h : s.next.1 = none) : s.inFlight = 0 := by
  unfold next at h
  unfold inFlight
  by_cases hc : (s.tick + 1) % injectionInterval = 0 <;>
    cases hi : s.injected <;> cases ho : s.owned <;>
    simp_all [takeInjected, takeOwned]

end Scheduler

/-- The effect runner: its watchers in registration order, and the scheduler of their tasks. -/
structure Effects where
  watchers : List Watcher
  scheduler : Scheduler
  deriving Inhabited

namespace Effects

def create (bound : Bool) : Effects := { watchers := [], scheduler := Scheduler.create bound }

def watch (e : Effects) (name on : String) (effect : Effect) : Effects :=
  { e with watchers := e.watchers ++ [{ name, on, effect, runs := 0 }] }

def matching (e : Effects) (kind : String) : List (Nat × String) :=
  ((List.range e.watchers.length).zip e.watchers).filterMap fun (i, w) =>
    if w.on = kind then some (i, w.name) else none

/-- Count one more run of a watcher, and give back what that run does: nothing once the watcher
has run `runLimit` times. -/
def run (e : Effects) (i : Nat) : Option Effect × Effects :=
  match e.watchers[i]? with
  | none => (none, e)
  | some w =>
    let w := { w with runs := w.runs + 1 }
    (if w.runs ≤ runLimit then some w.effect else none, { e with watchers := e.watchers.set i w })

end Effects

end SheetStore
