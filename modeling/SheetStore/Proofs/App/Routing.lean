import SheetStore.Proofs.App.Refinement

/-! The router slice follows the history: the store is always headed for the slice the
history calls for (`Synced`), and every call of the shell keeps this (`ShellOp.lands_steady`).
-/

set_option autoImplicit false

namespace SheetStore

theorem mem_of_lookup_eq_some {β : Type} :
    ∀ {entries : List (Nat × β)} {id : Nat} {v : β},
      entries.lookup id = some v → (id, v) ∈ entries
  | [], _, _, found => by simp [List.lookup_nil] at found
  | (k, old) :: rest, id, v, found => by
    rw [List.lookup_cons] at found
    split at found
    · rename_i same
      cases found
      simp_all
    · exact List.mem_cons_of_mem _ (mem_of_lookup_eq_some found)

namespace Action

def routerSlice : Action → Option RouterState
  | .locationChange payload => some payload
  | _ => none

@[simp] theorem routerSlice_locationChanged (location : Location) (navigation : Navigation) :
    (locationChanged location navigation).routerSlice = some ⟨location, navigation⟩ := rfl

end Action

/-- A listener script that dispatches no location change, whatever state it reads. -/
def ListenerScript.Quiet : ListenerScript → Prop
  | .done => True
  | .dispatch a rest => a.routerSlice = none ∧ rest.Quiet
  | .navigate _ rest => rest.Quiet
  | .read rest => ∀ state, (rest state).Quiet
  | .panic _ => True

theorem Tracked.router_reduce (t : Tracked) (a : Action) :
    (t.reduce a).state.router = a.routerSlice.getD t.state.router := by
  rw [Tracked.state_reduce]
  cases a <;> rfl

namespace History

/-- The router slice a history calls for: its location, reached by its last move. -/
def routerState (h : History) : RouterState := ⟨h.location, h.lastMove⟩

end History

namespace HistoryCommand

variable {h h' : History} {logs : List LogRecord}

theorem nextListener_applyTo (h : History) (c : HistoryCommand) :
    (c.applyTo h).1.nextListener = h.nextListener := by
  cases c <;> simp only [applyTo, History.push, History.replace, History.go, History.fresh] <;>
    split <;> rfl

theorem lastMove_applyTo (c : HistoryCommand) {location : Location} {navigation : Navigation}
    (applied : c.applyTo h = (h', logs, some (location, navigation))) :
    h'.lastMove = navigation := by
  cases c <;> simp only [applyTo, History.push, History.replace, History.go, Prod.mk.injEq,
    Option.some.injEq] at applied
  case push | replace => rw [← applied.1, ← applied.2.2.2]
  all_goals
    split at applied
    · simp only [Prod.mk.injEq, Option.some.injEq] at applied
      rw [← applied.1, ← applied.2.2.2]
    · simp at applied

theorem routerState_applyTo (valid : h.Valid) (c : HistoryCommand) {location : Location}
    {navigation : Navigation} (applied : c.applyTo h = (h', logs, some (location, navigation))) :
    h'.routerState = ⟨location, navigation⟩ := by
  obtain ⟨-, timeline, announced⟩ := applyTo_timeline valid c
  rw [applied] at timeline announced
  obtain ⟨⟨t, kind⟩, ran, told⟩ := Option.map_eq_some_iff.1 announced.symm
  simp only [Prod.mk.injEq] at told
  -- the location is read off the timeline, the kind of move off the command
  have located : h'.location = t.present := by
    rw [show h'.location = h'.timeline.present from rfl, timeline, ran]
    rfl
  rw [History.routerState, located, told.1, lastMove_applyTo c applied]

theorem eq_of_applyTo_none (c : HistoryCommand) (applied : c.applyTo h = (h', logs, none)) :
    h' = h := by
  cases c <;> simp only [applyTo, History.push, History.replace, History.go] at applied
  all_goals first
    | cases applied
    | (split at applied <;> simp_all)

end HistoryCommand

namespace Store

/-- The router slice a store is headed for: the one the last location change waiting in its
queue carries, or the one it holds if none waits. -/
def pendingRouter (s : Store Tracked Action) : RouterState :=
  ((s.queue.filterMap Action.routerSlice).getLast?).getD s.state.state.router

variable (s : Store Tracked Action)

theorem pendingRouter_enqueue (a : Action) :
    { s with queue := s.queue ++ [a] }.pendingRouter = a.routerSlice.getD s.pendingRouter := by
  cases carried : a.routerSlice <;>
    simp [pendingRouter, List.filterMap_append, carried]

theorem pendingRouter_enqueue_of_none {a : Action} (unrouted : a.routerSlice = none) :
    { s with queue := s.queue ++ [a] }.pendingRouter = s.pendingRouter := by
  rw [pendingRouter_enqueue, unrouted]
  rfl

theorem pendingRouter_cons_of_none {a : Action} (unrouted : a.routerSlice = none) :
    { s with queue := a :: s.queue }.pendingRouter = s.pendingRouter := by
  simp [pendingRouter, unrouted]

theorem pendingRouter_reduce (a : Action) :
    { s with state := s.state.reduce a }.pendingRouter =
      { s with queue := a :: s.queue }.pendingRouter := by
  simp only [pendingRouter, Tracked.router_reduce, List.filterMap_cons]
  cases a.routerSlice <;> simp [List.getLast?_cons]

end Store

/-- The store is headed for the router slice the history calls for. -/
def Synced (s : Store Tracked Action) (w : AppWorld) : Prop :=
  s.pendingRouter = w.history.routerState

namespace Synced

variable {s : Store Tracked Action} {w : AppWorld} {a : Action}

theorem enqueue (synced : Synced s w) (unrouted : a.routerSlice = none) :
    Synced { s with queue := s.queue ++ [a] } w := by
  rw [Synced, Store.pendingRouter_enqueue_of_none s unrouted]
  exact synced

theorem of_inFlight (inFlight : Synced { s with queue := a :: s.queue } w)
    (unrouted : a.routerSlice = none) : Synced s w := by
  rw [Synced, ← Store.pendingRouter_cons_of_none s unrouted]
  exact inFlight

end Synced

/-- The world as the router binding `b` needs it: the history's cursor is on an entry, the
binding is its first listener and listens once, every id the history hands out later is past it,
and no scripted subscriber or history listener dispatches a location change. -/
structure RouterBound (b : Nat) (w : AppWorld) : Prop where
  binding : w.binding = b
  first : ∃ others, w.history.listeners = b :: others ∧ b ∉ others
  below : b < w.history.nextListener
  valid : w.history.Valid
  subscribers : ∀ id r, (id, Listener.scripted r) ∈ w.listeners → ∀ k, (r.script k).Quiet
  historyListeners : ∀ id (r : HistoryScripted), (id, r) ∈ w.historyListeners →
    ∀ k location navigation, (r.script k location navigation).Quiet

namespace RouterBound

variable {b : Nat} {w w' : AppWorld}

theorem frame (bound : RouterBound b w) (binding : w'.binding = w.binding)
    (history : w'.history = w.history) (listeners : w'.listeners = w.listeners)
    (historyListeners : w'.historyListeners = w.historyListeners) : RouterBound b w' where
  binding := binding ▸ bound.binding
  first := history ▸ bound.first
  below := history ▸ bound.below
  valid := history ▸ bound.valid
  subscribers := listeners ▸ bound.subscribers
  historyListeners := historyListeners ▸ bound.historyListeners

theorem applied (bound : RouterBound b w) {c : HistoryCommand} {history : History}
    {logs : List LogRecord} {moved : Option Transition}
    (applied : c.applyTo w.history = (history, logs, moved)) :
    RouterBound b { w with history } := by
  have listeners := HistoryCommand.listeners_applyTo w.history c
  have next := HistoryCommand.nextListener_applyTo w.history c
  have valid := (HistoryCommand.applyTo_timeline bound.valid c).1
  rw [applied] at listeners next valid
  exact { bound with
    first := listeners ▸ bound.first
    below := next ▸ bound.below
    valid }

theorem called (bound : RouterBound b w) (id : Nat) : RouterBound b (w.callHistoryListener id) := by
  refine { bound with historyListeners := ?_ }
  intro k r' entry
  obtain ⟨⟨k', r⟩, mem, same⟩ := List.mem_map.1 entry
  dsimp only at same
  split at same
  · cases same
    exact bound.historyListeners _ r mem
  · cases same
    exact bound.historyListeners _ _ mem

theorem quiet_lookup (bound : RouterBound b w) {id : Nat} {r : HistoryScripted}
    (found : w.historyListeners.lookup id = some r) :
    ∀ k location navigation, (r.script k location navigation).Quiet :=
  bound.historyListeners id r (mem_of_lookup_eq_some found)

theorem notified (bound : RouterBound b w) {id : Nat} {r : Scripted ListenerScript}
    (found : w.listeners.lookup id = some (.scripted r)) (calls : List (Nat × AppState)) :
    RouterBound b { w.setListener id (.scripted r.call.2) with notified := calls } := by
  refine { bound with subscribers := ?_ }
  intro k r' entry
  obtain ⟨⟨k', old⟩, mem, same⟩ := List.mem_map.1 entry
  dsimp only at same
  split at same
  · cases same
    exact bound.subscribers id r (mem_of_lookup_eq_some found)
  · cases same
    exact bound.subscribers _ _ mem

end RouterBound

/-- The store is steady for a context that asks `C` of it between steps: headed where the
history calls for, in a world bound as the binding `b` needs it. -/
structure Steady (b : Nat) (C : Store Tracked Action → Prop) (s : Store Tracked Action)
    (w : AppWorld) : Prop where
  synced : Synced s w
  bound : RouterBound b w
  context : C s

section Contexts

variable (b : Nat) (C : Store Tracked Action → Prop) (d : Action → AppRun Unit)
  (n : Action → AppRun (List Action))

/-- A dispatch that keeps the store steady: from a store that meets `C` in a bound world and,
with the action queued, is headed where the history calls for, it lands steady. -/
def DispatchKeeps : Prop :=
  ∀ a s w, RouterBound b w → C s → Synced { s with queue := s.queue ++ [a] } w →
    Lands (d a) s w (Steady b C)

/-- A navigator that keeps the store steady: in front of a rest that lands in `Q` from every
steady store, it lands in `Q` from every steady store. -/
def Navigates (navigate : HistoryCommand → AppScript → AppScript) : Prop :=
  ∀ c (rest : AppScript) (Q : Store Tracked Action → AppWorld → Prop),
    (∀ s w, Steady b C s w → Lands (rest.run d n) s w Q) →
    ∀ s w, Steady b C s w → Lands ((navigate c rest).run d n) s w Q

variable {b C d n} {rest : AppScript} {Q : Store Tracked Action → AppWorld → Prop}

theorem lands_dispatch_unrouted (keeps : DispatchKeeps b C d) {a : Action}
    (unrouted : a.routerSlice = none)
    (later : ∀ s w, Steady b C s w → Lands (rest.run d n) s w Q)
    (s : Store Tracked Action) (w : AppWorld) (steady : Steady b C s w) :
    Lands ((Script.dispatch a rest).run d n) s w Q := by
  exact Script.stops_dispatch
    (keeps a s w steady.bound steady.context (steady.synced.enqueue unrouted)) later

theorem lands_dispatchAll (keeps : DispatchKeeps b C d) :
    ∀ (actions : List Action), (∀ a ∈ actions, a.routerSlice = none) →
      (∀ s w, Steady b C s w → Lands (rest.run d n) s w Q) →
      ∀ s w, Steady b C s w → Lands ((Script.dispatchAll actions rest).run d n) s w Q
  | [], _, later => later
  | a :: actions, unrouted, later =>
    lands_dispatch_unrouted keeps (unrouted a List.mem_cons_self)
      (lands_dispatchAll keeps actions (fun x mem => unrouted x (List.mem_cons_of_mem _ mem)) later)

theorem lands_ofListener {navigate : HistoryCommand → AppScript → AppScript}
    (navigates : Navigates b C d n navigate) (keeps : DispatchKeeps b C d) :
    ∀ (script : ListenerScript), script.Quiet →
      (∀ s w, Steady b C s w → Lands (rest.run d n) s w Q) →
      ∀ s w, Steady b C s w → Lands ((AppScript.ofListener navigate script rest).run d n) s w Q
  | .done, _, later => later
  | .dispatch _ script, quiet, later =>
    lands_dispatch_unrouted keeps quiet.1 (lands_ofListener navigates keeps script quiet.2 later)
  | .navigate c script, quiet, later =>
    navigates c _ Q (lands_ofListener navigates keeps script quiet later)
  | .read script, quiet, later => fun s w steady =>
    Script.stops_read (lands_ofListener navigates keeps (script s.state.state) (quiet _) later s w
      steady)
  | .panic _, _, _ => fun _ _ _ => Script.stops_panic _ trivial

theorem lands_announce {navigate : HistoryCommand → AppScript → AppScript}
    (navigates : Navigates b C d n navigate) (keeps : DispatchKeeps b C d) (location : Location)
    (navigation : Navigation) :
    ∀ (ids : List Nat), b ∉ ids → (∀ s w, Steady b C s w → Lands (rest.run d n) s w Q) →
      ∀ s w, Steady b C s w →
        Lands ((AppScript.announce navigate location navigation ids rest).run d n) s w Q
  | [], _, later => later
  | id :: ids, apart, later => by
    intro s w steady
    have other : id ≠ w.binding := by
      rw [steady.bound.binding]
      exact fun same => apart (same ▸ List.mem_cons_self)
    apply Script.stops_observe
    rw [if_neg other]
    have later' := lands_announce navigates keeps location navigation ids
      (fun mem => apart (List.mem_cons_of_mem _ mem)) later
    -- a listener without a script lets the next be told; one with a script runs it first
    split
    · exact later' s w steady
    · rename_i r found
      apply Script.stops_update
      exact lands_ofListener navigates keeps _ (steady.bound.quiet_lookup found _ _ _) later' s _
        ⟨steady.synced, steady.bound.called id, steady.context⟩

theorem navigates_within (keeps : DispatchKeeps b C d) :
    ∀ depth, Navigates b C d n (AppScript.navigateWithin depth)
  | 0 => fun _ _ _ _ _ _ _ => Script.stops_panic _ trivial
  | depth + 1 => by
    intro c rest Q later s w steady
    apply Script.stops_observe
    generalize applied : c.applyTo w.history = result
    obtain ⟨history, logs, moved⟩ := result
    have bound := steady.bound.applied applied
    apply Script.stops_update
    apply Script.stops_logAll
    cases moved with
    | none =>
      -- a command that does not move the history leaves it, and so the store, as it was
      have still := HistoryCommand.eq_of_applyTo_none c applied
      subst still
      exact later s _ steady
    | some transition =>
      -- the binding is told first, and its location change heads the store for the new slice;
      -- the others, told after, find the store steady again
      obtain ⟨location, navigation⟩ := transition
      obtain ⟨others, listeners, apart⟩ := bound.first
      have synced : Synced { s with queue := s.queue ++ [.locationChanged location navigation] }
          { w with history } := by
        rw [Synced, Store.pendingRouter_enqueue, Action.routerSlice_locationChanged]
        exact (HistoryCommand.routerState_applyTo steady.bound.valid c applied).symm
      show Lands ((AppScript.announce _ location navigation history.listeners rest).run d n) s
        { w with history } Q
      rw [listeners]
      apply Script.stops_observe
      rw [if_pos bound.binding.symm]
      exact Script.stops_dispatch (keeps _ s _ bound steady.context synced)
        (lands_announce (navigates_within keeps depth) keeps location navigation others apart later)

end Contexts

section Rounds

variable {b : Nat} {C : Store Tracked Action → Prop} {d : Action → AppRun Unit}

theorem lands_appNotify (keeps : DispatchKeeps b C d) (id : Nat) (t : Tracked)
    (s : Store Tracked Action) (w : AppWorld) (steady : Steady b C s w) :
    Lands ((appNotify id t).run d fun _ => pure []) s w (Steady b C) := by
  unfold appNotify
  apply Script.stops_observe
  cases found : w.listeners.lookup id with
  | none => exact Script.stops_done steady
  | some listener =>
    cases listener with
    | publisher =>
      exact Script.stops_update (Script.stops_done
        ⟨steady.synced, steady.bound.frame rfl rfl rfl rfl, steady.context⟩)
    | scripted r =>
      apply Script.stops_update
      exact lands_ofListener (navigates_within keeps navigationDepth) keeps _
        (steady.bound.subscribers id r (mem_of_lookup_eq_some found) _)
        (fun _ _ steady₁ => Script.stops_done steady₁) s _
        ⟨steady.synced, steady.bound.notified found _, steady.context⟩

theorem enqueue_keeps : DispatchKeeps b (fun _ => True) Run.enqueue :=
  fun a _ _ bound _ synced => Stops.enqueue a ⟨synced, bound, trivial⟩

theorem chain_keeps_steady (a : Action) (s : Store Tracked Action) (w : AppWorld)
    (inFlight : Synced { s with queue := a :: s.queue } w) (bound : RouterBound b w) :
    Lands (appPipeline.chain Run.enqueue appPipeline.stages a) s w (Steady b fun _ => True) := by
  apply AppStage.stops_logger
  apply AppStage.stops_readOnly
  · intro _
    apply AppStage.stops_router
    · intro _
      apply AppStage.stops_effects
      · rw [Pipeline.chain_nil]
        refine appPipeline.stops_reduceAndNotify_of_ok a rfl ?_
        refine appPipeline.stops_notifyAll _ (Steady b fun _ => True)
          (fun id => lands_appNotify enqueue_keeps id _) _ _ _ ⟨?_, bound, trivial⟩
        rw [Synced, Store.pendingRouter_reduce]
        exact inFlight
      · exact fun s w _ steady => ⟨steady.synced, steady.bound.frame rfl rfl rfl rfl, trivial⟩
    · intro c issued
      subst issued
      exact navigates_within enqueue_keeps navigationDepth c .done _
        (fun _ _ steady => Script.stops_done steady) s w
        ⟨inFlight.of_inFlight rfl, bound, trivial⟩
  · intro locked
    -- the guard locks only edits, which carry no router slice
    have unrouted : a.routerSlice = none := by
      cases a
      case locationChange => exact absurd locked Bool.false_ne_true
      all_goals rfl
    exact ⟨inFlight.of_inFlight unrouted, bound, trivial⟩

def Idle (s : Store Tracked Action) : Prop := s.draining = false ∧ s.queue = []

theorem dispatch_keeps : DispatchKeeps b Idle AppRun.dispatch := by
  intro a s w bound idle synced
  have round : ∀ (s : Store Tracked Action) (w : AppWorld) a rest, s.queue = a :: rest →
      Steady b (fun _ => True) s w →
      Lands (appPipeline.chain Run.enqueue appPipeline.stages a) { s with queue := rest } w
        (Steady b fun _ => True) := by
    intro s w a rest front steady
    refine chain_keeps_steady a _ w ?_ steady.bound
    rw [← front]
    exact steady.synced
  have drained := appPipeline.lands_dispatch (Steady b fun _ => True) round
    (fun _ _ steady => ⟨steady.synced, steady.bound, trivial⟩) drainBudget a idle.1
    ⟨synced, bound, trivial⟩
  exact drained.mono
    (fun _ _ ⟨steady, down, empty⟩ => ⟨steady.synced, steady.bound, down, empty⟩)
    fun _ _ panicked => panicked

end Rounds

/-- A call on the shell from outside: a dispatch, a direct navigation, or registering a scripted
subscriber or a scripted history listener. -/
inductive ShellOp where
  | dispatch (a : Action)
  | navigate (c : HistoryCommand)
  | subscribe (script : Nat → ListenerScript)
  | listen (script : Nat → Location → Navigation → ListenerScript)

namespace ShellOp

def run : ShellOp → AppRun Unit
  | .dispatch a => AppRun.dispatch a
  | .navigate c => AppRun.navigateFromOutside c
  | .subscribe script => do
    let _ ← AppRun.subscribeScripted script
  | .listen script => do
    let _ ← AppRun.listenScripted script

/-- A call that brings no location change in: it dispatches none, and registers nobody whose
script would. -/
def Quiet : ShellOp → Prop
  | .dispatch a => a.routerSlice = none
  | .navigate _ => True
  | .subscribe script => ∀ k, (script k).Quiet
  | .listen script => ∀ k location navigation, (script k location navigation).Quiet

variable {b : Nat}

theorem lands_steady (op : ShellOp) (quiet : op.Quiet) (s : Store Tracked Action) (w : AppWorld)
    (steady : Steady b Idle s w) : Lands op.run s w (Steady b Idle) := by
  cases op with
  | dispatch a =>
    exact dispatch_keeps a s w steady.bound steady.context (steady.synced.enqueue quiet)
  | navigate c =>
    refine Stops.bind (navigates_within dispatch_keeps navigationDepth c .done _
      (fun _ _ steady => Script.stops_done steady) s w steady) fun _ _ _ landed => ?_
    exact Stops.pure () landed
  | subscribe script =>
    intro logs
    show Steady b Idle _ _
    refine ⟨steady.synced, { steady.bound with subscribers := ?_ }, steady.context⟩
    intro id r entry
    rcases List.mem_append.1 entry with old | added
    · exact steady.bound.subscribers id r old
    · simp only [List.mem_singleton, Prod.mk.injEq, Listener.scripted.injEq] at added
      obtain ⟨-, rfl⟩ := added
      exact quiet
  | listen script =>
    intro logs
    show Steady b Idle _ _
    obtain ⟨others, listeners, apart⟩ := steady.bound.first
    have below := steady.bound.below
    -- the new listener goes last, with an id above every id handed out before
    refine ⟨steady.synced,
      ⟨steady.bound.binding, ⟨others ++ [w.history.nextListener], ?_, ?_⟩,
        Nat.lt_succ_of_lt below, steady.bound.valid, steady.bound.subscribers, ?_⟩,
      steady.context⟩
    · simp [listeners]
    · simp only [List.mem_append, List.mem_singleton, not_or]
      exact ⟨apart, Nat.ne_of_lt below⟩
    · intro id r entry
      rcases List.mem_append.1 entry with old | added
      · exact steady.bound.historyListeners id r old
      · simp only [List.mem_singleton, Prod.mk.injEq] at added
        obtain ⟨-, rfl⟩ := added
        exact quiet

theorem lands_forM_steady :
    ∀ (ops : List ShellOp), (∀ op ∈ ops, op.Quiet) →
      ∀ (s : Store Tracked Action) (w : AppWorld),
        Steady b Idle s w → Lands (ops.forM run) s w (Steady b Idle)
  | [], _, _, _, steady => Stops.pure () steady
  | op :: ops, quiet, s, w, steady =>
    Stops.bind (op.lands_steady (quiet op List.mem_cons_self) s w steady)
      fun _ _ _ landed =>
        lands_forM_steady ops (fun o mem => quiet o (List.mem_cons_of_mem _ mem)) _ _ landed

end ShellOp

theorem steady_bootstrap (config : Config) (bound : Bool) :
    Steady (bootstrap config bound).world.binding Idle (bootstrap config bound).store
      (bootstrap config bound).world where
  synced := rfl
  bound :=
    { binding := rfl
      first := ⟨[], rfl, List.not_mem_nil⟩
      below := Nat.lt_succ_self 1
      valid := History.valid_create config.initialPath
      subscribers := by simp [bootstrap, configureStore]
      historyListeners := by simp [bootstrap, configureStore] }
  context := ⟨rfl, rfl⟩

/-- After any sequence of calls on the bootstrapped shell that brings no location change in,
returning normally, the router slice is the history's location reached by its last move: the
initial location reached by a pop if the history never moved. Later history listeners and
subscribers may navigate and dispatch while they are told, as often as their responders say. -/
theorem router_follows_history (config : Config) (bound : Bool) (ops : List ShellOp)
    (quiet : ∀ op ∈ ops, op.Quiet) (m : AppMachine)
    (ran : (ops.forM ShellOp.run).run (bootstrap config bound) = .ok () m) :
    m.store.state.state.router = ⟨m.world.history.location, m.world.history.lastMove⟩ := by
  have steady := (ShellOp.lands_forM_steady ops quiet _ _ (steady_bootstrap config bound)).returned
    ran
  -- with the queue empty, the store is headed for the slice it holds
  have synced := steady.synced
  rw [Synced, Store.pendingRouter, steady.context.2] at synced
  exact synced

theorem router_follows_nested_push :
    let pushOnce : Nat → Location → Navigation → ListenerScript :=
      fun k _ _ => if k = 0 then .navigate (.push "/b") .done else .done
    ∃ m, ([ShellOp.listen pushOnce, .navigate (.push "/a")].forM ShellOp.run).run
        (bootstrap default false) = .ok () m ∧
      m.store.state.state.router = ⟨m.world.history.location, m.world.history.lastMove⟩ := by
  intro pushOnce
  have returns : (match ([ShellOp.listen pushOnce, .navigate (.push "/a")].forM
      ShellOp.run).run (bootstrap default false) with
    | .ok _ _ => true
    | .error _ _ => false) = true := by decide +kernel
  generalize ran : ([ShellOp.listen pushOnce, .navigate (.push "/a")].forM
      ShellOp.run).run (bootstrap default false) = result at returns
  cases result with
  | ok u m =>
    have quiet : ∀ op ∈ [ShellOp.listen pushOnce, .navigate (.push "/a")], op.Quiet := by
      intro op mem
      rcases List.mem_pair.1 mem with rfl | rfl
      · intro k _ _
        by_cases first : k = 0 <;> simp [pushOnce, first, ListenerScript.Quiet]
      · trivial
    exact ⟨m, rfl, router_follows_history default false _ quiet m ran⟩
  | error e m => cases returns

end SheetStore
