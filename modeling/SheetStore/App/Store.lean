import SheetStore.Store.Engine
import SheetStore.Reducer
import SheetStore.Nav.Listening
import SheetStore.App.Effects
import SheetStore.App.Channel

/-! The application store: the state held as allocations, four middleware in a fixed order,
and subscribers and history listeners that may dispatch and navigate while they are told.
-/

set_option autoImplicit false

namespace SheetStore

/-- The application state as the store holds it, with the next free address: every allocation
of the state lies below it. -/
structure Tracked where
  shared : SharedState
  next : Nat
  below : shared.Below next

namespace Tracked

def state (t : Tracked) : AppState := t.shared.view

def root (t : Tracked) : Nat := t.shared.root

def create (state : AppState) : Tracked :=
  ⟨((SharedState.place state).run 0).1, ((SharedState.place state).run 0).2,
    (SharedState.place_below state 0).2⟩

instance : Inhabited Tracked := ⟨create default⟩

def reduce (t : Tracked) (a : Action) : Tracked :=
  ⟨((t.shared.reduce a).run t.next).1, ((t.shared.reduce a).run t.next).2, (t.below.reduce a).1⟩

@[simp] theorem state_create (state : AppState) : (create state).state = state :=
  (SharedState.place_below state 0).1

end Tracked

/-- What a scripted subscriber or history listener does on a call: dispatch actions, navigate the
history and look at the state, in any order, then end or panic. -/
inductive ListenerScript where
  | done
  | dispatch (a : Action) (rest : ListenerScript)
  | navigate (command : HistoryCommand) (rest : ListenerScript)
  | read (rest : AppState → ListenerScript)
  | panic (message : String)
  deriving Inhabited

/-- A listener run by scripts: its script for each call, by how many calls came before it, and
how many calls it had. -/
structure Scripted (α : Type) where
  script : Nat → α
  calls : Nat

def Scripted.call {α : Type} (r : Scripted α) : α × Scripted α :=
  (r.script r.calls, { r with calls := r.calls + 1 })

/-- The script of a listener that, on each of its first `times` calls, dispatches `actions`, and
on each of its first `panics` calls then panics with `message`. -/
def ListenerScript.responder (actions : List Action) (times panics : Nat) (message : String)
    (k : Nat) : ListenerScript :=
  (if k < times then actions else []).foldr .dispatch
    (if k < panics then .panic message else .done)

/-- A subscriber of the application store. -/
inductive Listener where
  /-- Sends every new state to the update channel. -/
  | publisher
  /-- Notes each call, then runs its script for the call. -/
  | scripted (r : Scripted ListenerScript)
  deriving Inhabited

abbrev HistoryScripted := Scripted (Location → Navigation → ListenerScript)

/-- Everything the application store's middleware and subscribers act on. -/
structure AppWorld where
  history : History
  /-- The history listener that turns moves into location changes. -/
  binding : Nat
  /-- The other history listeners, scripted, by listener id. -/
  historyListeners : List (Nat × HistoryScripted)
  effects : Effects
  channel : Channel
  listeners : List (Nat × Listener)
  /-- The calls of scripted subscribers so far: who was called, and with which state. -/
  notified : List (Nat × AppState)
  deriving Inhabited

abbrev AppMachine := Machine Tracked Action AppWorld

abbrev AppRun := Run Tracked Action AppWorld

/-- The logger's record for one edit, judged against the settings before the action: an edit
outside the declared bounds is skipped by the reducer, and one whose old value is not what the
cell holds is stale; neither is an error. -/
def editRecord (s : GridSettings) (e : CellEdit) : LogRecord :=
  if s.accepts e.row e.column then
    let current := (s.data.get e.row e.column).getD .empty
    if current.sameValue e.old then ⟨.trace, LogTarget.logger, "edit " ++ e.display⟩
    else
      ⟨.debug, LogTarget.logger,
        "stale edit at " ++ e.display ++ ", cell holds \x27" ++ current.display ++ "\x27"⟩
  else ⟨.warn, LogTarget.logger, "skipping edit outside the grid at " ++ e.display⟩

namespace AppRun

def scheduler : AppRun Scheduler := do return (← Run.world).effects.scheduler

def setScheduler (s : Scheduler) : AppRun Unit :=
  Run.modifyWorld fun w => { w with effects := { w.effects with scheduler := s } }

def setDriving (driving : Bool) : AppRun Unit := do
  setScheduler { (← scheduler) with driving }

end AppRun

abbrev AppScript := Script Tracked Action AppWorld

namespace AppWorld

def setListener (w : AppWorld) (id : Nat) (l : Listener) : AppWorld :=
  { w with listeners := w.listeners.map fun (k, old) => if k = id then (k, l) else (k, old) }

def callHistoryListener (w : AppWorld) (id : Nat) : AppWorld :=
  { w with
    historyListeners :=
      w.historyListeners.map fun (k, r) => if k = id then (k, r.call.2) else (k, r) }

end AppWorld

namespace AppScript

/-- Run a listener's script, then go on; a navigation goes through `navigate`, and a panic ends
everything. -/
def ofListener (navigate : HistoryCommand → AppScript → AppScript) :
    ListenerScript → AppScript → AppScript
  | .done, rest => rest
  | .dispatch a script, rest => .dispatch a (ofListener navigate script rest)
  | .navigate command script, rest => navigate command (ofListener navigate script rest)
  | .read script, rest => .read fun t => ofListener navigate (script t.state) rest
  | .panic message, _ => .panic message

/-- Tell the history listeners `ids`, in order, that the history moved to `location` by
`navigation`, then go on. The router binding dispatches the location change; a scripted listener
runs its script for the call, and the next is told once the script ends. -/
def announce (navigate : HistoryCommand → AppScript → AppScript) (location : Location)
    (navigation : Navigation) : List Nat → AppScript → AppScript
  | [], rest => rest
  | id :: ids, rest =>
    let later := announce navigate location navigation ids rest
    .observe fun w =>
      if id = w.binding then .dispatch (Action.locationChanged location navigation) later
      else
        match w.historyListeners.lookup id with
        | none => later
        | some r =>
          .update (·.callHistoryListener id) <|
            ofListener navigate (r.call.1 location navigation) later

/-- Move the history as a command says, then go on. A move is announced to the listeners
registered at that moment, in the order they registered; a listener that navigates moves the
history again while it is told, at most `depth` deep. -/
def navigateWithin : Nat → HistoryCommand → AppScript → AppScript
  | 0, _, _ => .panic "navigation nested too deep"
  | depth + 1, command, rest =>
    .observe fun w =>
      let (history, logs, moved) := command.applyTo w.history
      .update (fun w => { w with history }) <| Script.logAll logs <|
        match moved with
        | some (location, navigation) =>
          announce (navigateWithin depth) location navigation history.listeners rest
        | none => rest

def navigation (command : HistoryCommand) : AppScript :=
  navigateWithin navigationDepth command .done

def startTask (i : Nat) (name : String) (rest : AppScript) : AppScript :=
  .observe fun w =>
    let s := w.effects.scheduler
    if s.canStart then
      .update (fun w => { w with effects := { w.effects with scheduler := s.start ⟨i⟩ } }) rest
    else
      .log
        ⟨.warn, LogTarget.effects, "no tokio runtime available, effect " ++ name ++ " skipped"⟩
        rest

end AppScript

namespace AppStage

def logger (a : Action) : AppScript :=
  .read fun before =>
    .log ⟨.debug, LogTarget.logger, "action " ++ a.kind⟩ <|
    Script.logAll (match a with
      | .editCells edits => edits.map (editRecord before.state.settings)
      | _ => []) <|
    .forward a <| .read fun after =>
      if after.root = before.root then .log ⟨.trace, LogTarget.logger, "state unchanged"⟩ .done
      else .done

/-- The read-only guard. It reads the flag left by every action handled before this one. -/
def readOnly (a : Action) : AppScript :=
  match a with
  | .editCells _ => .read fun t =>
    if t.state.settings.readOnly then
      .log ⟨.info, LogTarget.app, "dropped " ++ a.kind ++ " while read-only"⟩ .done
    else .forward a .done
  | _ => .forward a .done

/-- The router binding. A history command goes to the history and no further. -/
def router (a : Action) : AppScript :=
  match a with
  | .callHistory command => AppScript.navigation command
  | _ => .forward a .done

/-- The effect runner. The watchers are chosen before the action goes on, and their effects
start after it came back. -/
def effects (a : Action) : AppScript :=
  .observe fun w =>
    .forward a <| (w.effects.matching a.kind).foldr
      (fun (i, name) rest =>
        .log ⟨.debug, LogTarget.effects, "starting effect " ++ name⟩
          (AppScript.startTask i name rest))
      .done

end AppStage

def appNotify (id : Nat) (t : Tracked) : AppScript :=
  .observe fun w =>
    match w.listeners.lookup id with
    | some .publisher => .update (fun w => { w with channel := w.channel.send t.state }) .done
    | some (.scripted r) =>
      .update (fun w => { w.setListener id (.scripted r.call.2) with
          notified := w.notified ++ [(id, t.state)] }) <|
        AppScript.ofListener (AppScript.navigateWithin navigationDepth) r.call.1 .done
    | none => .done

/-- The application pipeline: logger, read-only guard, router binding and effect runner, in
front of the root reducer. -/
def appPipeline : Pipeline Tracked Action AppWorld :=
  { stages := [AppStage.logger, AppStage.readOnly, AppStage.router, AppStage.effects]
    reduce := fun t a => .ok (t.reduce a)
    notify := appNotify }

def settleBudget : Nat := 1000000

namespace AppRun

def dispatch (a : Action) : AppRun Unit := appPipeline.dispatch a

def navigateFromOutside (command : HistoryCommand) : AppRun Unit := do
  let _ ← (AppScript.navigation command).run dispatch fun _ => pure []

def subscribeScripted (script : Nat → ListenerScript) : AppRun Nat := do
  let id ← Run.subscribe
  Run.modifyWorld fun w => { w with listeners := w.listeners ++ [(id, .scripted ⟨script, 0⟩)] }
  return id

def listenScripted (script : Nat → Location → Navigation → ListenerScript) : AppRun Nat := do
  let w ← Run.world
  let (id, history) := w.history.listen
  Run.modifyWorld fun w =>
    { w with history, historyListeners := w.historyListeners ++ [(id, ⟨script, 0⟩)] }
  return id

def subscribePublisher : AppRun Nat := do
  let id ← Run.subscribe
  Run.modifyWorld fun w => { w with listeners := w.listeners ++ [(id, .publisher)] }
  return id

def takeEvery (name on : String) (effect : Effect) : AppRun Unit := do
  Run.modifyWorld fun w => { w with effects := w.effects.watch name on effect }
  Run.log .debug LogTarget.effects ("registered effect watcher " ++ name)

/-- Run one task to its end. The effect dispatches its actions one by one, each dispatch
draining the queue; a panic ends the task and goes no further. -/
def runTask (t : Task) : AppRun Unit :=
  tryCatch
    (do
      let (effect, effects) := (← Run.world).effects.run t.watcher
      Run.modifyWorld fun w => { w with effects }
      match effect with
      | none => pure ()
      | some e =>
        if e.panics then Run.abort "effect failed"
        else
          let readOnly := (← Run.state).state.settings.readOnly
          let allowed := match e.onlyIfReadOnly with
            | none => true
            | some b => readOnly == b
          if allowed then e.actions.forM dispatch)
    fun _ => pure ()

/-- Drive the scheduler: run tasks in the order it picks them, `i` of the current batch done.
It stops when a tick finds no task, or at the end of a batch when every task is done. -/
def drive : Nat → Nat → AppRun Unit
  | 0, _ => pure ()
  | fuel + 1, i => do
    if i = batchSize then
      if (← scheduler).inFlight = 0 then pure () else drive fuel 0
    else
      let (found, s) := (← scheduler).next
      setScheduler s
      match found with
      | none => pure ()
      | some t =>
        runTask t
        drive fuel (i + 1)

def settle : AppRun Unit := do
  if (← scheduler).inFlight = 0 then return
  setDriving true
  drive settleBudget 0
  setDriving false

end AppRun

def initialState (h : History) (settings : GridSettings) : Tracked :=
  Tracked.create
    { router := { location := h.location, action := .pop }, workbook := ⟨settings⟩ }

/-- A store over a new history at `initialPath` and the given settings, with its router binding
connected; `bound` says whether the effect runner is given a runtime. -/
def configureStore (initialPath : String) (settings : GridSettings) (bound : Bool) : AppMachine :=
  let history := History.create initialPath
  let (binding, history) := history.listen
  { store := Store.create (initialState history settings)
    world :=
      { history
        binding
        historyListeners := []
        effects := Effects.create bound
        channel := Channel.create
        listeners := []
        notified := [] }
    logs := [] }

end SheetStore
