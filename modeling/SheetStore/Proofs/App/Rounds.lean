import SheetStore.Proofs.Store.Yields
import SheetStore.Proofs.Store.Stops
import SheetStore.App.Store
import SheetStore.Proofs.Reducer.Sharing

/-! What one round of the application store does, middleware by middleware, and where
each middleware stops given where the rest of the chain does.
-/

set_option autoImplicit false

namespace SheetStore

def AppWorld.Publishing (w : AppWorld) : Prop := ∀ entry ∈ w.listeners, entry.2 = .publisher

/-- The world after the subscribers `ids` are told of `state`: the state is sent to the channel
once for each of them that is the publisher. -/
def AppWorld.publish (w : AppWorld) (state : AppState) : List Nat → AppWorld
  | [] => w
  | id :: ids =>
    match w.listeners.lookup id with
    | some .publisher => { w with channel := w.channel.send state }.publish state ids
    | _ => w.publish state ids

theorem AppWorld.publish_eq (w : AppWorld) (state : AppState) (ids : List Nat) :
    w.publish state ids = { w with channel := (w.publish state ids).channel } := by
  induction ids generalizing w with
  | nil => rfl
  | cons id ids ih =>
    simp only [publish]
    split
    · rw [ih]
    · rw [ih]

@[simp] theorem AppWorld.history_publish (w : AppWorld) (state : AppState) (ids : List Nat) :
    (w.publish state ids).history = w.history := by
  rw [publish_eq]

@[simp] theorem AppWorld.binding_publish (w : AppWorld) (state : AppState) (ids : List Nat) :
    (w.publish state ids).binding = w.binding := by
  rw [publish_eq]

@[simp] theorem AppWorld.listeners_publish (w : AppWorld) (state : AppState) (ids : List Nat) :
    (w.publish state ids).listeners = w.listeners := by
  rw [publish_eq]

@[simp] theorem AppWorld.effects_publish (w : AppWorld) (state : AppState) (ids : List Nat) :
    (w.publish state ids).effects = w.effects := by
  rw [publish_eq]

theorem lookup_ne_scripted : ∀ (entries : List (Nat × Listener)),
    (∀ entry ∈ entries, entry.2 = .publisher) →
      ∀ id r, entries.lookup id ≠ some (.scripted r)
  | [], _, _, _ => by simp [List.lookup_nil]
  | (k, l) :: rest, publishing, id, r => by
    rw [List.lookup_cons]
    split
    · have own : l = .publisher := publishing (k, l) (by simp)
      simp [own]
    · exact lookup_ne_scripted rest (fun entry mem => publishing entry (by simp [mem])) id r

theorem Effects.matching_eq_nil {e : Effects} (unwatched : e.watchers = []) (kind : String) :
    e.matching kind = [] := by
  simp [Effects.matching, unwatched]

namespace AppStage

variable {d : Action → AppRun Unit} {n : Action → AppRun (List Action)}
  {s s₁ : Store Tracked Action} {w w₁ : AppWorld} {v : List Action}

theorem yields_logger {a : Action} (passed : Yields (n a) s w v s₁ w₁) :
    Yields ((logger a).run d n) s w v s₁ w₁ := by
  unfold logger
  apply Script.yields_read
  apply Script.yields_log
  apply Script.yields_logAll
  rw [← List.append_nil v]
  apply Script.yields_forward passed
  apply Script.yields_read
  -- afterwards the logger only notes whether the state came out unchanged
  split
  · exact Script.yields_log Script.yields_done
  · exact Script.yields_done

theorem yields_readOnly_pass {a : Action}
    (writable : ∀ edits, a = .editCells edits → s.state.state.settings.readOnly = false)
    (passed : Yields (n a) s w v s₁ w₁) :
    Yields ((readOnly a).run d n) s w v s₁ w₁ := by
  rw [← List.append_nil v]
  cases a
  case editCells edits =>
    apply Script.yields_read
    rw [if_neg (by simp [writable edits rfl])]
    exact Script.yields_forward passed Script.yields_done
  all_goals exact Script.yields_forward passed Script.yields_done

theorem yields_readOnly_drop {edits : List CellEdit}
    (locked : s.state.state.settings.readOnly = true) :
    Yields ((readOnly (.editCells edits)).run d n) s w [] s w := by
  apply Script.yields_read
  rw [if_pos locked]
  exact Script.yields_log Script.yields_done

theorem yields_router_pass {a : Action} (other : ∀ c, a ≠ .callHistory c)
    (passed : Yields (n a) s w v s₁ w₁) :
    Yields ((router a).run d n) s w v s₁ w₁ := by
  rw [← List.append_nil v]
  cases a
  case callHistory c => exact absurd rfl (other c)
  all_goals exact Script.yields_forward passed Script.yields_done

theorem yields_effects_unwatched {a : Action} (unwatched : w.effects.watchers = [])
    (passed : Yields (n a) s w v s₁ w₁) :
    Yields ((effects a).run d n) s w v s₁ w₁ := by
  unfold effects
  apply Script.yields_observe
  rw [Effects.matching_eq_nil unwatched, ← List.append_nil v]
  exact Script.yields_forward passed Script.yields_done

end AppStage

namespace AppScript

variable {d : Action → AppRun Unit} {n : Action → AppRun (List Action)}
  {s s₁ s₂ : Store Tracked Action} {w w₁ w₂ : AppWorld} {v : List Action}
  {navigate : HistoryCommand → AppScript → AppScript} {location : Location}
  {navigation : Navigation} {rest : AppScript}

theorem yields_announce_nil (later : Yields (rest.run d n) s w v s₁ w₁) :
    Yields ((announce navigate location navigation [] rest).run d n) s w v s₁ w₁ := later

theorem yields_announce_binding {id : Nat} {ids : List Nat} (binding : id = w.binding)
    (dispatched : Yields (d (.locationChanged location navigation)) s w () s₁ w₁)
    (later :
      Yields ((announce navigate location navigation ids rest).run d n) s₁ w₁ v s₂ w₂) :
    Yields ((announce navigate location navigation (id :: ids) rest).run d n) s w v s₂ w₂ := by
  apply Script.yields_observe
  rw [if_pos binding]
  exact Script.yields_dispatch dispatched later

theorem yields_navigateWithin_moved {depth : Nat} {c : HistoryCommand} {history : History}
    {logs : List LogRecord}
    (applied : c.applyTo w.history = (history, logs, some (location, navigation)))
    (told : Yields ((announce (navigateWithin depth) location navigation history.listeners rest).run
      d n) s { w with history } v s₁ w₁) :
    Yields ((navigateWithin (depth + 1) c rest).run d n) s w v s₁ w₁ := by
  apply Script.yields_observe
  rw [applied]
  apply Script.yields_update
  exact Script.yields_logAll _ told

theorem yields_navigateWithin_still {depth : Nat} {c : HistoryCommand} {history : History}
    {logs : List LogRecord} (applied : c.applyTo w.history = (history, logs, none))
    (later : Yields (rest.run d n) s { w with history } v s₁ w₁) :
    Yields ((navigateWithin (depth + 1) c rest).run d n) s w v s₁ w₁ := by
  apply Script.yields_observe
  rw [applied]
  apply Script.yields_update
  exact Script.yields_logAll _ later

end AppScript

variable {d : Action → AppRun Unit} {s : Store Tracked Action} {w : AppWorld}

theorem yields_notifyAll_publishing (t : Tracked) : ∀ (ids : List Nat) {w : AppWorld},
    w.Publishing → Yields (appPipeline.notifyAll d t ids) s w () s (w.publish t.state ids)
  | [], _, _ => appPipeline.yields_notifyAll_nil t
  | id :: ids, w, publishing => by
    -- a listener gone since the subscription is skipped; a scripted one cannot be there
    cases found : w.listeners.lookup id with
    | none =>
      have called : Yields ((appPipeline.notify id t).run d fun _ => Pure.pure []) s w [] s w := by
        show Yields ((appNotify id t).run d _) s w [] s w
        unfold appNotify
        apply Script.yields_observe
        rw [found]
        exact Script.yields_done
      rw [show w.publish t.state (id :: ids) = w.publish t.state ids by
        simp [AppWorld.publish, found]]
      exact appPipeline.yields_notifyAll_cons called (yields_notifyAll_publishing t ids publishing)
    | some listener =>
      cases listener with
      | publisher =>
        let sent : AppWorld := { w with channel := w.channel.send t.state }
        have called :
            Yields ((appPipeline.notify id t).run d fun _ => Pure.pure []) s w [] s sent := by
          show Yields ((appNotify id t).run d _) s w [] s sent
          unfold appNotify
          apply Script.yields_observe
          rw [found]
          exact Script.yields_update Script.yields_done
        rw [show w.publish t.state (id :: ids) = sent.publish t.state ids by
          simp [AppWorld.publish, found, sent]]
        exact appPipeline.yields_notifyAll_cons called
          (yields_notifyAll_publishing t ids publishing)
      | scripted r => exact absurd found (lookup_ne_scripted _ publishing id r)

theorem yields_chain_dropped {edits : List CellEdit}
    (locked : s.state.state.settings.readOnly = true) :
    Yields (appPipeline.chain Run.enqueue appPipeline.stages (.editCells edits)) s w [] s w := by
  apply AppStage.yields_logger
  exact AppStage.yields_readOnly_drop locked

theorem yields_chain_announced {c : HistoryCommand} {history : History} {logs : List LogRecord}
    {location : Location} {navigation : Navigation}
    (applied : c.applyTo w.history = (history, logs, some (location, navigation)))
    (alone : history.listeners = [w.binding]) :
    Yields (appPipeline.chain Run.enqueue appPipeline.stages (.callHistory c)) s w []
      { s with queue := s.queue ++ [.locationChanged location navigation] } { w with history } := by
  apply AppStage.yields_logger
  apply AppStage.yields_readOnly_pass (fun _ edit => by cases edit)
  apply AppScript.yields_navigateWithin_moved applied
  rw [alone]
  exact AppScript.yields_announce_binding rfl (Yields.enqueue _)
    (AppScript.yields_announce_nil Script.yields_done)

theorem yields_chain_still {c : HistoryCommand} {history : History} {logs : List LogRecord}
    (applied : c.applyTo w.history = (history, logs, none)) :
    Yields (appPipeline.chain Run.enqueue appPipeline.stages (.callHistory c)) s w [] s
      { w with history } := by
  apply AppStage.yields_logger
  apply AppStage.yields_readOnly_pass (fun _ edit => by cases edit)
  exact AppScript.yields_navigateWithin_still applied Script.yields_done

theorem yields_chain_reduces {a : Action} (other : ∀ c, a ≠ .callHistory c)
    (writable : ∀ edits, a = .editCells edits → s.state.state.settings.readOnly = false)
    (publishing : w.Publishing) (unwatched : w.effects.watchers = []) :
    Yields (appPipeline.chain Run.enqueue appPipeline.stages a) s w [a]
      { s with state := s.state.reduce a } (w.publish (s.state.reduce a).state s.subscribers) := by
  apply AppStage.yields_logger
  apply AppStage.yields_readOnly_pass writable
  apply AppStage.yields_router_pass other
  apply AppStage.yields_effects_unwatched unwatched
  apply appPipeline.yields_reduceAndNotify rfl
  exact yields_notifyAll_publishing _ _ publishing

namespace AppRun

variable {s s₁ s₂ : Store Tracked Action} {w w₁ w₂ : AppWorld} {r₁ r₂ : List Action}

theorem yields_dispatch_once {a : Action} (idle : s.draining = false) (empty : s.queue = [])
    (round : Yields (appPipeline.chain Run.enqueue appPipeline.stages a)
      { s with queue := [], draining := true } w r₁ s₁ w₁)
    (settled : s₁.queue = []) :
    Yields (dispatch a) s w () { s₁ with draining := false } w₁ := by
  apply appPipeline.yields_dispatch idle
  rw [empty]
  exact appPipeline.yields_drain_round rfl rfl round (appPipeline.yields_drain_empty _ settled)

theorem yields_dispatch_twice {a b : Action} (idle : s.draining = false) (empty : s.queue = [])
    (first : Yields (appPipeline.chain Run.enqueue appPipeline.stages a)
      { s with queue := [], draining := true } w r₁ s₁ w₁)
    (queued : s₁.queue = [b]) (draining : s₁.draining = true)
    (second : Yields (appPipeline.chain Run.enqueue appPipeline.stages b)
      { s₁ with queue := [] } w₁ r₂ s₂ w₂)
    (settled : s₂.queue = []) :
    Yields (dispatch a) s w () { s₂ with draining := false } w₂ := by
  apply appPipeline.yields_dispatch idle
  rw [empty]
  exact appPipeline.yields_drain_round rfl rfl first
    (appPipeline.yields_drain_round queued draining second
      (appPipeline.yields_drain_empty _ settled))

end AppRun

/-! ## Where a round stops, in any world -/

/-- Whether the read-only guard stops an action met in a state: an edit, while the grid is
read-only. -/
def Tracked.locks (t : Tracked) : Action → Bool
  | .editCells _ => t.state.settings.readOnly
  | _ => false

namespace AppScript

/-- A property of scripts that every step of a navigation keeps: looking at the world or the
state, moving the history or counting its listeners' calls (never the effect runner), logging,
dispatching and panicking. -/
structure NavigationSteps (P : AppScript → Prop) : Prop where
  observe {rest : AppWorld → AppScript} : (∀ w, P (rest w)) → P (.observe rest)
  read {rest : Tracked → AppScript} : (∀ t, P (rest t)) → P (.read rest)
  update {f : AppWorld → AppWorld} {rest : AppScript} :
    (∀ w, (f w).effects = w.effects) → P rest → P (.update f rest)
  log (record : LogRecord) {rest : AppScript} : P rest → P (.log record rest)
  dispatch (a : Action) {rest : AppScript} : P rest → P (.dispatch a rest)
  panic (message : String) : P (.panic message)

variable {P : AppScript → Prop} {navigate : HistoryCommand → AppScript → AppScript}

theorem NavigationSteps.logAll (steps : NavigationSteps P) (records : List LogRecord)
    {rest : AppScript} (h : P rest) : P (Script.logAll records rest) := by
  induction records with
  | nil => exact h
  | cons record records ih => exact steps.log record ih

theorem steps_ofListener (steps : NavigationSteps P)
    (navigates : ∀ c rest, P rest → P (navigate c rest)) :
    ∀ (script : ListenerScript) {rest : AppScript}, P rest → P (ofListener navigate script rest)
  | .done, _, kept => kept
  | .dispatch a script, _, kept => steps.dispatch a (steps_ofListener steps navigates script kept)
  | .navigate c script, _, kept => navigates c _ (steps_ofListener steps navigates script kept)
  | .read script, _, kept =>
    steps.read fun t => steps_ofListener steps navigates (script t.state) kept
  | .panic message, _, _ => steps.panic message

theorem steps_announce (steps : NavigationSteps P)
    (navigates : ∀ c rest, P rest → P (navigate c rest)) (location : Location)
    (navigation : Navigation) :
    ∀ (ids : List Nat) {rest : AppScript}, P rest →
      P (announce navigate location navigation ids rest)
  | [], _, kept => kept
  | id :: ids, _, kept => by
    have later := steps_announce steps navigates location navigation ids kept
    refine steps.observe fun w => ?_
    -- the binding dispatches; any other listener runs its script
    split
    · exact steps.dispatch _ later
    · split
      · exact later
      · exact steps.update (fun _ => rfl) (steps_ofListener steps navigates _ later)

theorem steps_navigateWithin (steps : NavigationSteps P) :
    ∀ (depth : Nat) (c : HistoryCommand) {rest : AppScript}, P rest →
      P (navigateWithin depth c rest)
  | 0, _, _, _ => steps.panic _
  | depth + 1, c, _, kept => by
    -- nested navigations come from reactions, one level deeper each
    refine steps.observe fun w => ?_
    generalize c.applyTo w.history = result
    obtain ⟨history, logs, moved⟩ := result
    refine steps.update (fun _ => rfl) (steps.logAll logs ?_)
    cases moved with
    | none => exact kept
    | some transition =>
      exact steps_announce steps (fun c _ later => steps_navigateWithin steps depth c later) _ _ _
        kept

theorem local_navigateWithin (depth : Nat) (c : HistoryCommand) {rest : AppScript}
    (rest_local : rest.Local) : (navigateWithin depth c rest).Local :=
  steps_navigateWithin ⟨.observe, .read, fun _ kept => .update _ kept, .log, .dispatch, .panic⟩ depth c
    rest_local

end AppScript

namespace AppStage

variable {d : Action → AppRun Unit} {n : Action → AppRun (List Action)}
  {s : Store Tracked Action} {w : AppWorld} {Q E : Store Tracked Action → AppWorld → Prop}
  {a : Action}

theorem stops_logger (passed : Stops (n a) s w Q E) : Stops ((logger a).run d n) s w Q E := by
  unfold logger
  apply Script.stops_read
  apply Script.stops_log
  apply Script.stops_logAll
  refine Script.stops_forward passed fun s₁ w₁ landed => ?_
  apply Script.stops_read
  split
  · exact Script.stops_log (Script.stops_done landed)
  · exact Script.stops_done landed

theorem stops_readOnly (passed : s.state.locks a = false → Stops (n a) s w Q E)
    (dropped : s.state.locks a = true → Q s w) : Stops ((readOnly a).run d n) s w Q E := by
  -- only an edit is looked at against the flag
  cases a
  case editCells edits =>
    apply Script.stops_read
    split
    · exact Script.stops_log (Script.stops_done (dropped ‹_›))
    · refine Script.stops_forward (passed ?_) fun _ _ landed => Script.stops_done landed
      simp_all [Tracked.locks]
  all_goals
    exact Script.stops_forward (passed rfl) fun _ _ landed => Script.stops_done landed

theorem stops_router (passed : (∀ c, a ≠ .callHistory c) → Stops (n a) s w Q E)
    (navigated : ∀ c, a = .callHistory c → Stops ((AppScript.navigation c).run d n) s w Q E) :
    Stops ((router a).run d n) s w Q E := by
  cases a
  case callHistory c => exact navigated c rfl
  all_goals
    exact Script.stops_forward (passed fun _ issued => by cases issued) fun _ _ landed =>
      Script.stops_done landed

theorem stops_effects (passed : Stops (n a) s w Q E)
    (scheduled : ∀ s w (sch : Scheduler), Q s w →
      Q s { w with effects := { w.effects with scheduler := sch } }) :
    Stops ((effects a).run d n) s w Q E := by
  unfold effects
  apply Script.stops_observe
  refine Script.stops_forward passed fun s₁ w₁ landed => ?_
  -- one task per watcher, each started or skipped with a warning
  induction w.effects.matching a.kind generalizing s₁ w₁ with
  | nil => exact Script.stops_done landed
  | cons task tasks ih =>
    obtain ⟨i, name⟩ := task
    apply Script.stops_log
    unfold AppScript.startTask
    apply Script.stops_observe
    dsimp only
    split
    · exact Script.stops_update (ih _ _ (scheduled _ _ _ landed))
    · exact Script.stops_log (ih _ _ landed)

end AppStage

end SheetStore
