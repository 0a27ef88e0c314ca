import SheetStore.Proofs.App.Logger
import SheetStore.Proofs.Store.Recovery

/-! The effect runner starts the effects watching an action once the rest of the chain
has come back, and the count of effects in flight moves only by starts and ticks.
-/

set_option autoImplicit false

namespace SheetStore

namespace Scheduler

def startAll (s : Scheduler) (tasks : List Task) : Scheduler := tasks.foldl start s

@[simp] theorem driving_start (s : Scheduler) (t : Task) : (s.start t).driving = s.driving := by
  unfold start
  split <;> rfl

@[simp] theorem bound_start (s : Scheduler) (t : Task) : (s.start t).bound = s.bound := by
  unfold start
  split <;> rfl

@[simp] theorem canStart_start (s : Scheduler) (t : Task) : (s.start t).canStart = s.canStart := by
  simp [canStart]

@[simp] theorem startAll_nil (s : Scheduler) : s.startAll [] = s := rfl

theorem startAll_append (s : Scheduler) (first later : List Task) :
    s.startAll (first ++ later) = (s.startAll first).startAll later := by
  simp [startAll, List.foldl_append]

/-- `s'` is `s` with tasks started since: none was taken off. -/
def Grown (s s' : Scheduler) : Prop := ∃ tasks, s' = s.startAll tasks

namespace Grown

theorem refl (s : Scheduler) : Grown s s := ⟨[], rfl⟩

theorem startAll {s s' : Scheduler} (h : Grown s s') (tasks : List Task) :
    Grown s (s'.startAll tasks) := by
  obtain ⟨before, rfl⟩ := h
  exact ⟨before ++ tasks, (startAll_append s before tasks).symm⟩

theorem trans {s₁ s₂ s₃ : Scheduler} (first : Grown s₁ s₂) (second : Grown s₂ s₃) :
    Grown s₁ s₃ := by
  obtain ⟨tasks, rfl⟩ := second
  exact first.startAll tasks

end Grown

end Scheduler

/-! ## The watchers of an action -/

namespace Effects

end Effects

/-! ## Starting the effects -/

/-- What the effect runner logs for a watcher it starts: the start, and the warning that the
effect is skipped when no runtime is around. -/
def startRecords (canStart : Bool) (name : String) : List LogRecord :=
  ⟨.debug, LogTarget.effects, "starting effect " ++ name⟩ ::
    if canStart then []
    else [⟨.warn, LogTarget.effects, "no tokio runtime available, effect " ++ name ++ " skipped"⟩]

/-- The machine after the effect runner has started the effects of the watchers `matched`, by
position and name: their tasks queued in order when a runtime is around, none otherwise, and the
records written. -/
def AppMachine.startEffects (m : AppMachine) (matched : List (Nat × String)) : AppMachine :=
  let s := m.world.effects.scheduler
  { m with
    world := { m.world with
      effects := { m.world.effects with
        scheduler := if s.canStart then s.startAll (matched.map fun p => ⟨p.1⟩) else s } }
    logs := m.logs ++ matched.flatMap fun p => startRecords s.canStart p.2 }

namespace AppMachine

@[simp] theorem startEffects_nil (m : AppMachine) : m.startEffects [] = m := by
  simp [startEffects]

@[simp] theorem store_startEffects (m : AppMachine) (matched : List (Nat × String)) :
    (m.startEffects matched).store = m.store := rfl

end AppMachine

section Frame

variable {S A W : Type} {s : Store S A} {w : W} {Q E : Store S A → W → Prop}

theorem Stops.tryCatch {α : Type} {x : Run S A W α} {h : String → Run S A W α} {E' : Store S A → W → Prop}
    (body : Stops x s w Q E) (handler : ∀ e s w, E s w → Stops (h e) s w Q E') :
    Stops (tryCatch x h) s w Q E' := by
  intro logs
  have stopped := body logs
  rw [run_tryCatch]
  revert stopped
  cases x.run ⟨s, w, logs⟩ with
  | ok v m' => exact id
  | error e m' => exact fun caught => handler e m'.store m'.world caught m'.logs

variable {V : Type}

/-- A script every change of which to the world keeps `view` as it is. -/
inductive Script.Keeps (view : W → V) : Script S A W → Prop
  | done : Keeps view .done
  | forward (a : A) {rest : Script S A W} (kept : Keeps view rest) : Keeps view (.forward a rest)
  | dispatch (a : A) {rest : Script S A W} (kept : Keeps view rest) : Keeps view (.dispatch a rest)
  | read {rest : S → Script S A W} (kept : ∀ state, Keeps view (rest state)) :
    Keeps view (.read rest)
  | observe {rest : W → Script S A W} (kept : ∀ world, Keeps view (rest world)) :
    Keeps view (.observe rest)
  | update {f : W → W} {rest : Script S A W} (same : ∀ w, view (f w) = view w)
      (kept : Keeps view rest) : Keeps view (.update f rest)
  | log (record : LogRecord) {rest : Script S A W} (kept : Keeps view rest) :
    Keeps view (.log record rest)
  | subscribe {rest : Nat → Script S A W} (kept : ∀ id, Keeps view (rest id)) :
    Keeps view (.subscribe rest)
  | unsubscribe (id : Nat) {rest : Bool → Script S A W} (kept : ∀ found, Keeps view (rest found)) :
    Keeps view (.unsubscribe id rest)
  | panic (message : String) : Keeps view (.panic message)

namespace Script.Keeps

variable {view : W → V}

theorem logAll (records : List LogRecord) {rest : Script S A W} (h : Keeps view rest) :
    Keeps view (Script.logAll records rest) := by
  induction records with
  | nil => exact h
  | cons record records ih => exact .log record ih

theorem dispatchAll (actions : List A) {rest : Script S A W} (h : Keeps view rest) :
    Keeps view (Script.dispatchAll actions rest) := by
  induction actions with
  | nil => exact h
  | cons a actions ih => exact .dispatch a ih

theorem stops (P : V → Prop) {n : A → Run S A W (List A)}
    (next : ∀ a s w, P (view w) → Stops (n a) s w (fun _ w => P (view w)) fun _ w => P (view w))
    {script : Script S A W} (h : Keeps view script) :
    ∀ s w, P (view w) →
      Stops (script.run Run.enqueue n) s w (fun _ w => P (view w)) fun _ w => P (view w) := by
  -- on the script; every world it passes through has the view it started with
  induction h with
  | done => exact fun _ _ holds => Script.stops_done holds
  | forward a kept ih =>
    exact fun s w holds => Script.stops_forward (next a s w holds) fun s₁ w₁ held => ih s₁ w₁ held
  | dispatch b kept ih =>
    exact fun s w holds => Script.stops_dispatch (Stops.enqueue b holds) fun s₁ w₁ held =>
      ih s₁ w₁ held
  | read kept ih => exact fun s w holds => Script.stops_read (ih s.state s w holds)
  | observe kept ih => exact fun s w holds => Script.stops_observe (ih w s w holds)
  | update same kept ih =>
    exact fun s w holds => Script.stops_update (ih s _ (by rw [same]; exact holds))
  | log record kept ih => exact fun s w holds => Script.stops_log (ih s w holds)
  | subscribe kept ih => exact fun s w holds => Script.stops_subscribe (ih _ _ w holds)
  | unsubscribe id kept ih => exact fun s w holds => Script.stops_unsubscribe (ih _ _ w holds)
  | panic message => exact fun _ _ holds => Script.stops_panic message holds

end Script.Keeps

namespace Pipeline

variable {p : Pipeline S A W} {P : W → Prop}

def RoundsKeep (p : Pipeline S A W) (P : W → Prop) : Prop :=
  ∀ a s w, P w → Stops (p.chain Run.enqueue p.stages a) s w (fun _ w => P w) fun _ w => P w

theorem Halts.keeps (round : p.RoundsKeep P) {fuel : Nat} {m m' : Machine S A W}
    {rounds : List (Round S A)} {last : Option (Round S A)} (h : p.Halts fuel m rounds last m')
    (start : P m.world) : P m'.world := by
  induction h with
  | exhausted m pending => exact start
  | @panics fuel m m₁ a rest reached dispatched e front chain queued reduced =>
    have stopped := round a { m.store with queue := rest } m.world start m.logs
    rw [show (⟨{ m.store with queue := rest }, m.world, m.logs⟩ : Machine S A W) =
      { m with store := { m.store with queue := rest } } from rfl, chain] at stopped
    exact stopped
  | round front chain queued more ih => exact ih ((round _ _ _ start).returned chain)

end Pipeline

end Frame

/-! ## The scheduler along a round, a dispatch and a task -/

def AppWorld.scheduler (w : AppWorld) : Scheduler := w.effects.scheduler

namespace AppStage

variable {d : Action → AppRun Unit} {n : Action → AppRun (List Action)} {a : Action}
  {s : Store Tracked Action} {w : AppWorld} {s₀ : Scheduler}

end AppStage

end SheetStore
