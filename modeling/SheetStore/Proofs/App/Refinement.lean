import SheetStore.Proofs.App.Rounds
import SheetStore.Proofs.Nav.Timeline
import SheetStore.App.Shell

/-! The shell against the application its documentation describes (`AppSpec`): each call
shows the documented step (`ShellIdle.step`), hence every sequence of calls does.
-/

set_option autoImplicit false

namespace SheetStore

namespace Timeline

def run (t : Timeline) : HistoryCommand → Option (Timeline × Navigation)
  | .push path => some (t.push path, .push)
  | .replace path => some (t.replace path, .replace)
  | .go delta => (t.go delta).map (·, .pop)
  | .goBack => (t.go (-1)).map (·, .pop)
  | .goForward => (t.go 1).map (·, .pop)

end Timeline

namespace HistoryCommand

variable {h : History}

theorem listeners_applyTo (h : History) (c : HistoryCommand) :
    (c.applyTo h).1.listeners = h.listeners := by
  cases c <;> simp only [applyTo, History.push, History.replace, History.go, History.fresh] <;>
    split <;> rfl

theorem applyTo_timeline (valid : h.Valid) (c : HistoryCommand) :
    (c.applyTo h).1.Valid ∧
      (c.applyTo h).1.timeline = ((h.timeline.run c).map Prod.fst).getD h.timeline ∧
      (c.applyTo h).2.2 = (h.timeline.run c).map fun moved => (moved.1.present, moved.2) := by
  cases c with
  | push path =>
    exact ⟨h.valid_push path, History.timeline_push valid path, h.transition_push path⟩
  | replace path =>
    exact ⟨History.valid_replace valid path, History.timeline_replace valid path,
      h.transition_replace path⟩
  -- the three steps are one step of the timeline, by `delta`, `-1` and `1`
  | go delta =>
    simpa [applyTo, Timeline.run, Option.map_map, Function.comp_def] using
      History.go_timeline valid delta
  | goBack =>
    simpa [applyTo, Timeline.run, Option.map_map, Function.comp_def] using
      History.go_timeline valid (-1)
  | goForward =>
    simpa [applyTo, Timeline.run, Option.map_map, Function.comp_def] using
      History.go_timeline valid 1

end HistoryCommand

/-- The application as its documentation describes it: the state, and the history as a
timeline. -/
structure AppSpec where
  state : AppState
  timeline : Timeline

namespace AppSpec

/-- The application at start: the timeline holds only the initial path, the router slice says it
was reached by a pop, and the workbook holds the given settings. -/
def start (path : String) (settings : GridSettings) : AppSpec :=
  { state := { router := ⟨(Timeline.start path).present, .pop⟩, workbook := ⟨settings⟩ }
    timeline := Timeline.start path }

/-- Carry out a history command: the history moves as the command says, and when it moves the
router slice records where to and how. -/
def navigate (s : AppSpec) (c : HistoryCommand) : AppSpec :=
  match s.timeline.run c with
  | some (t, kind) => { state := { s.state with router := ⟨t.present, kind⟩ }, timeline := t }
  | none => s

/-- Handle an action: an edit applies inside the declared bounds unless the grid is read-only,
the read-only switch sets the flag, a history command navigates, a location change becomes the
router slice, and anything else changes nothing. -/
def handle (s : AppSpec) : Action → AppSpec
  | .editCells edits =>
    if s.state.settings.readOnly then s
    else
      { s with
        state := { s.state with
          workbook := ⟨{ s.state.settings with
            data := s.state.settings.data.withEdits edits s.state.settings.declaredBounds }⟩ } }
  | .setReadOnly readOnly =>
    { s with state := { s.state with workbook := ⟨{ s.state.settings with readOnly }⟩ } }
  | .callHistory c => s.navigate c
  | .locationChange payload => { s with state := { s.state with router := payload } }
  | .unknown => s

end AppSpec

/-- A call made on the shell from outside: a dispatch into the store, or a navigation called on
the history directly. -/
inductive ShellCall where
  | dispatch (a : Action)
  | navigate (c : HistoryCommand)

def ShellCall.run : ShellCall → AppRun Unit
  | .dispatch a => AppRun.dispatch a
  | .navigate c => AppRun.navigateFromOutside c

def AppSpec.call (s : AppSpec) : ShellCall → AppSpec
  | .dispatch a => s.handle a
  | .navigate c => s.navigate c

/-- A shell between calls: nothing is queued or being drained, the router binding is the only
listener of a history whose cursor is valid, every subscriber is the publisher, and no effect
watches. -/
structure ShellIdle (s : Store Tracked Action) (w : AppWorld) : Prop where
  idle : s.draining = false
  empty : s.queue = []
  valid : w.history.Valid
  alone : w.history.listeners = [w.binding]
  publishing : w.Publishing
  unwatched : w.effects.watchers = []

/-- The shell shows what the documented application holds: the same state, and a history that
reads as the same timeline. -/
structure Shows (s : Store Tracked Action) (w : AppWorld) (spec : AppSpec) : Prop where
  state : s.state.state = spec.state
  timeline : w.history.timeline = spec.timeline

namespace AppSpec

variable {spec : AppSpec}

theorem handle_of_reduces {t : Tracked} {a : Action} (other : ∀ c, a ≠ .callHistory c)
    (writable : ∀ edits, a = .editCells edits → t.state.settings.readOnly = false)
    (same : t.state = spec.state) :
    (t.reduce a).state = (spec.handle a).state ∧ (spec.handle a).timeline = spec.timeline := by
  rw [Tracked.state_reduce]
  cases a
  case editCells edits =>
    have writable' : spec.state.workbook.settings.readOnly = false := by
      rw [← same]
      exact writable edits rfl
    simp [reduceRoot, reduceRouter, reduceWorkbook, handle, AppState.settings, writable', same]
  case callHistory c => exact absurd rfl (other c)
  all_goals simp [reduceRoot, reduceRouter, reduceWorkbook, handle, AppState.settings, same]

end AppSpec

namespace ShellIdle

variable {s : Store Tracked Action} {w : AppWorld} {spec : AppSpec}

theorem publish (idle : ShellIdle s w) {s' : Store Tracked Action} (stopped : s'.draining = false)
    (empty : s'.queue = []) (state : AppState) (ids : List Nat) :
    ShellIdle s' (w.publish state ids) where
  idle := stopped
  empty := empty
  valid := by simpa using idle.valid
  alone := by simpa using idle.alone
  publishing := by
    rw [AppWorld.publish_eq]
    exact idle.publishing
  unwatched := by simpa using idle.unwatched

theorem navigated (idle : ShellIdle s w) {s' : Store Tracked Action} (stopped : s'.draining = false)
    (empty : s'.queue = []) {c : HistoryCommand} {history : History} {logs : List LogRecord}
    {moved : Option Transition} (applied : c.applyTo w.history = (history, logs, moved)) :
    ShellIdle s' { w with history } where
  idle := stopped
  empty := empty
  valid := by
    have valid := (HistoryCommand.applyTo_timeline idle.valid c).1
    rwa [applied] at valid
  alone := by
    have same := HistoryCommand.listeners_applyTo w.history c
    rw [applied] at same
    rw [same]
    exact idle.alone
  publishing := idle.publishing
  unwatched := idle.unwatched

theorem step_reduces (idle : ShellIdle s w) (shows : Shows s w spec) {a : Action}
    (other : ∀ c, a ≠ .callHistory c)
    (writable : ∀ edits, a = .editCells edits → s.state.state.settings.readOnly = false) :
    ∃ s' w', Yields (AppRun.dispatch a) s w () s' w' ∧ ShellIdle s' w' ∧
      Shows s' w' (spec.handle a) := by
  obtain ⟨state, timeline⟩ := AppSpec.handle_of_reduces other writable shows.state
  refine ⟨_, _, AppRun.yields_dispatch_once idle.idle idle.empty
    (yields_chain_reduces other writable idle.publishing idle.unwatched) rfl,
    idle.publish rfl rfl _ _, ⟨state, ?_⟩⟩
  simpa [timeline] using shows.timeline

theorem step_dropped (idle : ShellIdle s w) (shows : Shows s w spec) {edits : List CellEdit}
    (locked : s.state.state.settings.readOnly = true) :
    ∃ s' w', Yields (AppRun.dispatch (.editCells edits)) s w () s' w' ∧ ShellIdle s' w' ∧
      Shows s' w' (spec.handle (.editCells edits)) := by
  have unchanged : spec.handle (.editCells edits) = spec := by
    have locked' : spec.state.settings.readOnly = true := shows.state ▸ locked
    simp [AppSpec.handle, locked']
  refine ⟨_, _,
    AppRun.yields_dispatch_once idle.idle idle.empty (yields_chain_dropped locked) rfl,
    ⟨rfl, rfl, idle.valid, idle.alone, idle.publishing, idle.unwatched⟩, ?_⟩
  rw [unchanged]
  exact ⟨shows.state, shows.timeline⟩

theorem applied_timeline (idle : ShellIdle s w) (shows : Shows s w spec) {c : HistoryCommand}
    {history : History} {logs : List LogRecord} {moved : Option Transition}
    (applied : c.applyTo w.history = (history, logs, moved)) :
    history.timeline = ((spec.timeline.run c).map Prod.fst).getD spec.timeline ∧
      moved = (spec.timeline.run c).map fun step => (step.1.present, step.2) := by
  have facts := (HistoryCommand.applyTo_timeline idle.valid c).2
  rw [applied, shows.timeline] at facts
  exact facts

theorem step_history (idle : ShellIdle s w) (shows : Shows s w spec) (c : HistoryCommand) :
    ∃ s' w', Yields (AppRun.dispatch (.callHistory c)) s w () s' w' ∧ ShellIdle s' w' ∧
      Shows s' w' (spec.navigate c) := by
  cases applied : c.applyTo w.history with
  | mk history rest =>
    obtain ⟨logs, moved⟩ := rest
    obtain ⟨landed, announced⟩ := idle.applied_timeline shows applied
    have idle' := idle.navigated idle.idle idle.empty applied
    cases ran : spec.timeline.run c with
    | none =>
      -- the history did not move: one round, and only the history changed
      simp only [ran, Option.map_none, Option.getD_none] at landed announced
      subst announced
      have unchanged : spec.navigate c = spec := by simp [AppSpec.navigate, ran]
      refine ⟨_, _, AppRun.yields_dispatch_once idle.idle idle.empty
        (yields_chain_still applied) rfl,
        idle.navigated rfl rfl applied, ?_⟩
      rw [unchanged]
      exact ⟨shows.state, landed⟩
    | some step =>
      -- the history moved: the location change is queued, then reduced in its own round
      obtain ⟨t', kind⟩ := step
      simp only [ran, Option.map_some, Option.getD_some] at landed announced
      subst announced
      refine ⟨_, _, AppRun.yields_dispatch_twice idle.idle idle.empty
        (yields_chain_announced applied idle'.alone) rfl rfl
        (yields_chain_reduces (fun _ moved => by cases moved) (fun _ edit => by cases edit)
          idle'.publishing idle'.unwatched) rfl,
        idle'.publish rfl rfl _ _, ⟨?_, by simpa [AppSpec.navigate, ran] using landed⟩⟩
      simp [Tracked.state_reduce, reduceRoot, reduceRouter, reduceWorkbook, AppSpec.navigate, ran,
        Action.locationChanged, shows.state]

theorem step_navigate (idle : ShellIdle s w) (shows : Shows s w spec) (c : HistoryCommand) :
    ∃ s' w', Yields (AppRun.navigateFromOutside c) s w () s' w' ∧ ShellIdle s' w' ∧
      Shows s' w' (spec.navigate c) := by
  cases applied : c.applyTo w.history with
  | mk history rest =>
    obtain ⟨logs, moved⟩ := rest
    obtain ⟨landed, announced⟩ := idle.applied_timeline shows applied
    have idle' := idle.navigated idle.idle idle.empty applied
    cases ran : spec.timeline.run c with
    | none =>
      -- the history did not move, so nothing is announced
      simp only [ran, Option.map_none, Option.getD_none] at landed announced
      subst announced
      have unchanged : spec.navigate c = spec := by simp [AppSpec.navigate, ran]
      refine ⟨_, _, Yields.bind (AppScript.yields_navigateWithin_still applied
        Script.yields_done) (Yields.pure ()), idle', ?_⟩
      rw [unchanged]
      exact ⟨shows.state, landed⟩
    | some step =>
      obtain ⟨t', kind⟩ := step
      simp only [ran, Option.map_some, Option.getD_some] at landed announced
      subst announced
      -- the location change is a dispatch of its own into the idle store, which already shows
      -- the moved timeline
      have shown : Shows s { w with history } { spec with timeline := t' } :=
        ⟨shows.state, landed⟩
      have other : ∀ c, Action.locationChanged t'.present kind ≠ .callHistory c :=
        fun _ moved => by cases moved
      have writable : ∀ edits, Action.locationChanged t'.present kind = .editCells edits →
          s.state.state.settings.readOnly = false := fun _ edit => by cases edit
      obtain ⟨s', w', dispatched, idle'', shows''⟩ := idle'.step_reduces shown other writable
      have same : { spec with timeline := t' }.handle (.locationChanged t'.present kind) =
          spec.navigate c := by
        simp [AppSpec.handle, AppSpec.navigate, ran, Action.locationChanged]
      refine ⟨s', w', Yields.bind (?_ : Yields _ s w [] s' w') (Yields.pure ()), idle'', ?_⟩
      · -- the binding, the only listener, dispatches the change
        apply AppScript.yields_navigateWithin_moved applied
        rw [idle'.alone]
        exact AppScript.yields_announce_binding rfl dispatched
          (AppScript.yields_announce_nil Script.yields_done)
      · rw [← same]
        exact shows''

theorem step (idle : ShellIdle s w) (shows : Shows s w spec) (call : ShellCall) :
    ∃ s' w', Yields call.run s w () s' w' ∧ ShellIdle s' w' ∧
      Shows s' w' (spec.call call) := by
  -- an edit is split on the flag; a history command takes its own path; the rest is reduced
  cases call with
  | navigate c => exact idle.step_navigate shows c
  | dispatch a =>
    cases a with
    | editCells edits =>
      cases locked : s.state.state.settings.readOnly
      · exact idle.step_reduces shows (fun _ moved => by cases moved) fun _ _ => locked
      · exact idle.step_dropped shows locked
    | callHistory c => exact idle.step_history shows c
    | setReadOnly readOnly =>
      exact idle.step_reduces shows (fun _ moved => by cases moved) fun _ edit => by cases edit
    | locationChange payload =>
      exact idle.step_reduces shows (fun _ moved => by cases moved) fun _ edit => by cases edit
    | unknown =>
      exact idle.step_reduces shows (fun _ moved => by cases moved) fun _ edit => by cases edit

theorem run : ∀ (calls : List ShellCall) {s : Store Tracked Action} {w : AppWorld}
    {spec : AppSpec}, ShellIdle s w → Shows s w spec →
    ∃ s' w', Yields (calls.forM ShellCall.run) s w () s' w' ∧
      Shows s' w' (calls.foldl AppSpec.call spec)
  | [], s, w, _, _, shows => ⟨s, w, Yields.pure (), shows⟩
  | call :: calls, _, _, _, idle, shows => by
    -- each call leaves the shell idle again, which is all the next one needs
    obtain ⟨s₁, w₁, first, idle₁, shows₁⟩ := idle.step shows call
    obtain ⟨s', w', rest, shows'⟩ := run calls idle₁ shows₁
    exact ⟨s', w', by simpa using Yields.bind first rest, shows'⟩

end ShellIdle

theorem bootstrap_idle (config : Config) (bound : Bool) :
    ShellIdle (bootstrap config bound).store (bootstrap config bound).world ∧
      Shows (bootstrap config bound).store (bootstrap config bound).world
        (AppSpec.start config.initialPath (config.gridSettings Seed.data)) := by
  refine ⟨⟨rfl, rfl, History.valid_create config.initialPath, rfl, ?_, rfl⟩, ⟨rfl, rfl⟩⟩
  intro entry listed
  simp [bootstrap, configureStore] at listed
  rw [listed]

/-- The shell as bootstrapped, for every sequence of dispatches and direct navigations, returns
from each and shows what the documented application holds after them: the same state, and a
history that reads as the same timeline. -/
theorem shell_follows_documented_steps (config : Config) (bound : Bool) (calls : List ShellCall) :
    ∃ m, (calls.forM ShellCall.run).run (bootstrap config bound) = .ok () m ∧
      Shows m.store m.world
        (calls.foldl AppSpec.call
          (AppSpec.start config.initialPath (config.gridSettings Seed.data))) := by
  obtain ⟨idle, shows⟩ := bootstrap_idle config bound
  obtain ⟨s', w', ran, shows'⟩ := idle.run calls shows
  obtain ⟨logs, ran'⟩ := ran (bootstrap config bound).logs
  exact ⟨⟨s', w', logs⟩, ran', shows'⟩

end SheetStore
