import SheetStore.Store.Engine
import SheetStore.Store.Counter
import Mathlib.Data.List.Basic

/-! Dispatches are handled one at a time, in the order they are made: inside a drain a
dispatch only queues (`Pipeline.chain_submit`), so a drain is a sequence of rounds.
-/

set_option autoImplicit false

namespace SheetStore

variable {S A W : Type}

def landing {α : Type} : EStateM.Result String (Machine S A W) α → Machine S A W
  | .ok _ m => m
  | .error _ m => m

theorem run_tryCatch {α : Type} (x : Run S A W α) (h : String → Run S A W α)
    (m : Machine S A W) :
    (tryCatch x h).run m = match x.run m with
      | .ok v m' => .ok v m'
      | .error e m' => (h e).run m' := by
  show EStateM.tryCatch x h m = _
  unfold EStateM.tryCatch EStateM.run
  cases x m <;> rfl

/-! ## Runs that keep the queue in order -/

/-- From `m` to `m'` the drain flag stayed as it was, the actions queued at `m` stayed in front,
and the state moved on by reducing `reached`, in order, every reduction returning. -/
structure Advance (reduce : S → A → Except String S) (m m' : Machine S A W) (reached : List A) :
    Prop where
  draining : m'.store.draining = m.store.draining
  queue : m.store.queue <+: m'.store.queue
  state : reached.foldlM reduce m.store.state = .ok m'.store.state

def keepState (s : S) (_ : A) : Except String S := .ok s

theorem foldlM_keepState (reached : List A) (s : S) :
    reached.foldlM keepState s = .ok s := by
  rw [show (keepState : S → A → Except String S) = fun s _ => pure s from rfl, List.foldlM_pure,
    List.foldl_fixed]
  rfl

namespace Advance

variable {reduce : S → A → Except String S}

theorem refl (m : Machine S A W) : Advance reduce m m [] := ⟨rfl, List.prefix_rfl, rfl⟩

theorem frame {m m' : Machine S A W} (draining : m'.store.draining = m.store.draining)
    (queue : m'.store.queue = m.store.queue) (state : m'.store.state = m.store.state) :
    Advance reduce m m' [] :=
  ⟨draining, queue ▸ List.prefix_rfl, by rw [state]; rfl⟩

theorem trans {m₁ m₂ m₃ : Machine S A W} {r₁ r₂ : List A}
    (first : Advance reduce m₁ m₂ r₁)
    (second : Advance reduce m₂ m₃ r₂) : Advance reduce m₁ m₃ (r₁ ++ r₂) where
  draining := second.draining.trans first.draining
  queue := first.queue.trans second.queue
  state := by
    rw [List.foldlM_append, first.state]
    exact second.state

theorem still {m m' : Machine S A W} {reached : List A}
    (h : Advance keepState m m' reached) : Advance reduce m m' [] := by
  have kept := h.state
  rw [foldlM_keepState, Except.ok.injEq] at kept
  exact ⟨h.draining, h.queue, by rw [← kept]; rfl⟩

end Advance

/-- How a result advances `m`: on a normal return through the actions it reports, after a panic
through some actions. -/
def Advances (reduce : S → A → Except String S) (m : Machine S A W) :
    EStateM.Result String (Machine S A W) (List A) → Prop
  | .ok reached m' => Advance reduce m m' reached
  | .error _ m' => ∃ reached, Advance reduce m m' reached

def Orderly (reduce : S → A → Except String S) (x : Run S A W (List A)) : Prop :=
  ∀ m, Advances reduce m (x.run m)

namespace Orderly

variable {reduce : S → A → Except String S}

theorem after_step {β : Type} {x : Run S A W β} {f : β → Run S A W (List A)}
    (step : ∀ m, ∃ v m₁, x.run m = .ok v m₁ ∧ Advance reduce m m₁ [])
    (rest : ∀ v, Orderly reduce (f v)) : Orderly reduce (x >>= f) := by
  intro m
  obtain ⟨v, m₁, run, advance⟩ := step m
  have later := rest v m₁
  simp only [EStateM.run_bind, run]
  cases h : (f v).run m₁ with
  | ok reached m' =>
    rw [h] at later
    exact advance.trans later
  | error e m' =>
    rw [h] at later
    obtain ⟨reached, more⟩ := later
    exact ⟨[] ++ reached, advance.trans more⟩

theorem append {x y : Run S A W (List A)} (first : Orderly reduce x) (second : Orderly reduce y) :
    Orderly reduce (do let r ← x; let l ← y; return r ++ l) := by
  intro m
  have h₁ := first m
  simp only [EStateM.run_bind]
  cases run₁ : x.run m with
  | ok r₁ m₁ =>
    rw [run₁] at h₁
    have h₂ := second m₁
    dsimp only
    cases run₂ : y.run m₁ with
    | ok r₂ m₂ =>
      rw [run₂] at h₂
      exact Advance.trans h₁ h₂
    | error e m₂ =>
      rw [run₂] at h₂
      obtain ⟨r₂, more⟩ := h₂
      exact ⟨r₁ ++ r₂, Advance.trans h₁ more⟩
  | error e m₁ =>
    rw [run₁] at h₁
    exact h₁

end Orderly

theorem Script.orderly_run (reduce : S → A → Except String S) (next : A → Run S A W (List A))
    (hnext : ∀ a, Orderly reduce (next a)) (s : Script S A W) :
    Orderly reduce (s.run Run.enqueue next) := by
  induction s with
  | done => exact fun m => Advance.refl m
  | forward a rest ih => exact Orderly.append (hnext a) ih
  | dispatch a rest ih =>
    refine Orderly.after_step (fun m => ⟨(), _, rfl, ?_⟩) fun _ => ih
    exact ⟨rfl, List.prefix_append _ _, rfl⟩
  | read rest ih => exact Orderly.after_step (fun m => ⟨_, _, rfl, .refl m⟩) ih
  | observe rest ih => exact Orderly.after_step (fun m => ⟨_, _, rfl, .refl m⟩) ih
  | update f rest ih =>
    exact Orderly.after_step (fun m => ⟨(), _, rfl, .frame rfl rfl rfl⟩) fun _ => ih
  | log record rest ih =>
    exact Orderly.after_step (fun m => ⟨(), _, rfl, .frame rfl rfl rfl⟩) fun _ => ih
  | subscribe rest ih => exact Orderly.after_step (fun m => ⟨_, _, rfl, .frame rfl rfl rfl⟩) ih
  | unsubscribe id rest ih =>
    exact Orderly.after_step (fun m => ⟨_, _, rfl, .frame rfl rfl rfl⟩) ih
  | panic message => exact fun m => ⟨[], .refl m⟩

namespace Pipeline

variable (p : Pipeline S A W)

theorem notifyAll_still (reduce : S → A → Except String S) (state : S) (ids : List Nat) (m : Machine S A W) :
    Advance reduce m (landing ((p.notifyAll Run.enqueue state ids).run m)) [] := by
  induction ids generalizing m with
  | nil => exact Advance.refl m
  | cons id ids ih =>
    -- a subscriber's script is orderly under the reducer that keeps every state
    have called := Script.orderly_run keepState (fun _ => pure [])
      (fun _ m => Advance.refl m) (p.notify id state) m
    simp only [notifyAll, EStateM.run_bind]
    cases run : ((p.notify id state).run Run.enqueue fun _ => pure []).run m with
    | ok reached m₁ =>
      rw [run] at called
      exact (Advance.still called).trans (ih m₁)
    | error e m₁ =>
      rw [run] at called
      obtain ⟨reached, advance⟩ := called
      exact Advance.still advance

theorem orderly_reduceAndNotify (a : A) :
    Orderly p.reduce (p.reduceAndNotify Run.enqueue a) := by
  intro m
  cases reduction : p.reduce m.store.state a with
  | error message =>
    -- a reducer that panics stores nothing
    rw [run_reduceAndNotify_error p _ a m reduction]
    exact ⟨[], .refl m⟩
  | ok next =>
    let m₀ : Machine S A W := { m with store := { m.store with state := next } }
    have reduced : Advance p.reduce m m₀ [a] := ⟨rfl, List.prefix_rfl, by simpa using reduction⟩
    have called := p.notifyAll_still p.reduce next m.store.subscribers m₀
    rw [run_reduceAndNotify_ok p _ a m reduction, EStateM.run_bind]
    cases run : (p.notifyAll Run.enqueue next m.store.subscribers).run m₀ with
    | ok u m' =>
      rw [run] at called
      exact reduced.trans called
    | error e m' =>
      rw [run] at called
      exact ⟨[a] ++ [], reduced.trans called⟩

theorem orderly_chain : ∀ (stages : List (A → Script S A W)) (a : A),
    Orderly p.reduce (p.chain Run.enqueue stages a)
  | [], a => p.orderly_reduceAndNotify a
  | stage :: rest, a => Script.orderly_run p.reduce _ (orderly_chain rest) (stage a)

end Pipeline

/-! ## A dispatch made while the queue is drained only queues -/

def AgreeDraining {α : Type} (x y : Run S A W α) : Prop :=
  ∀ m, m.store.draining = true → x.run m = y.run m

def KeepsFlag {α : Type} (x : Run S A W α) : Prop :=
  ∀ m v m', x.run m = .ok v m' → m'.store.draining = m.store.draining

theorem AgreeDraining.refl {α : Type} (x : Run S A W α) : AgreeDraining x x := fun _ _ => rfl

theorem Orderly.keepsFlag {reduce : S → A → Except String S} {x : Run S A W (List A)} (h : Orderly reduce x) :
    KeepsFlag x := by
  intro m v m' run
  have advance := h m
  rw [run] at advance
  exact advance.draining

theorem keepsFlag_pure {α : Type} (v : α) : KeepsFlag (pure v : Run S A W α) := by
  intro m w m' run
  cases run
  rfl

theorem keepsFlag_enqueue (a : A) : KeepsFlag (Run.enqueue a : Run S A W Unit) := by
  intro m v m' run
  rw [Run.run_enqueue] at run
  cases run
  rfl

theorem Script.run_agree {d₁ d₂ : A → Run S A W Unit} {n₁ n₂ : A → Run S A W (List A)}
    (dispatches : ∀ b, AgreeDraining (d₁ b) (d₂ b))
    (dispatchKeeps : ∀ b, KeepsFlag (d₂ b))
    (forwards : ∀ a, AgreeDraining (n₁ a) (n₂ a)) (forwardKeeps : ∀ a, KeepsFlag (n₂ a))
    (s : Script S A W) : AgreeDraining (s.run d₁ n₁) (s.run d₂ n₂) := by
  induction s with
  | done => exact fun _ _ => rfl
  | forward a rest ih =>
    -- the flag is still up after the step, so the rest of the script runs under `ih` again
    intro m draining
    simp only [Script.run, EStateM.run_bind, forwards a m draining]
    cases run : (n₂ a).run m with
    | ok r m₁ =>
      have still : m₁.store.draining = true := (forwardKeeps a m r m₁ run).trans draining
      simp only [ih m₁ still]
    | error e m₁ => rfl
  | dispatch b rest ih =>
    intro m draining
    simp only [Script.run, EStateM.run_bind, dispatches b m draining]
    cases run : (d₂ b).run m with
    | ok u m₁ =>
      have still : m₁.store.draining = true := (dispatchKeeps b m u m₁ run).trans draining
      simp only [ih m₁ still]
    | error e m₁ => rfl
  | read rest ih => exact fun m draining => ih _ m draining
  | observe rest ih => exact fun m draining => ih _ m draining
  | update f rest ih => exact fun m draining => ih _ draining
  | log record rest ih => exact fun m draining => ih _ draining
  | subscribe rest ih => exact fun m draining => ih _ _ draining
  | unsubscribe id rest ih => exact fun m draining => ih _ _ draining
  | panic message => exact fun _ _ => rfl

namespace Pipeline

theorem submit_of_draining (drain : Run S A W Unit) (a : A) :
    AgreeDraining (submit drain a) (Run.enqueue a) := by
  intro m draining
  simp [submit, Run.run_enqueue, draining]

theorem submit_of_idle (drain : Run S A W Unit) (a : A) (m : Machine S A W)
    (idle : m.store.draining = false) :
    (submit drain a).run m =
      (tryCatch drain fun e => do recover; throw e).run
        { m with store := { m.store with queue := m.store.queue ++ [a], draining := true } } := by
  simp [submit, Run.run_enqueue, idle, Run.modifyStore]

variable (p : Pipeline S A W)

theorem notifyAll_submit (drain : Run S A W Unit) (state : S) :
    ∀ ids : List Nat,
      AgreeDraining (p.notifyAll (submit drain) state ids) (p.notifyAll Run.enqueue state ids)
  | [] => fun _ _ => rfl
  | id :: ids => by
    intro m draining
    have same := Script.run_agree (submit_of_draining drain) keepsFlag_enqueue
      (fun _ => AgreeDraining.refl (pure [])) (fun _ => keepsFlag_pure []) (p.notify id state)
      m draining
    have called := Script.orderly_run keepState (fun _ => pure [])
      (fun _ m => Advance.refl m) (p.notify id state)
    simp only [notifyAll, EStateM.run_bind, same]
    cases run : ((p.notify id state).run Run.enqueue fun _ => pure []).run m with
    | ok r m₁ =>
      have still : m₁.store.draining = true := (called.keepsFlag m r m₁ run).trans draining
      exact notifyAll_submit drain state ids m₁ still
    | error e m₁ => rfl

theorem reduceAndNotify_submit (drain : Run S A W Unit) (a : A) :
    AgreeDraining (p.reduceAndNotify (submit drain) a) (p.reduceAndNotify Run.enqueue a) := by
  intro m draining
  cases reduction : p.reduce m.store.state a with
  | error message =>
    rw [run_reduceAndNotify_error p _ a m reduction, run_reduceAndNotify_error p _ a m reduction]
  | ok next =>
    have same := p.notifyAll_submit drain next m.store.subscribers
      { m with store := { m.store with state := next } } draining
    rw [run_reduceAndNotify_ok p _ a m reduction, run_reduceAndNotify_ok p _ a m reduction,
      EStateM.run_bind, EStateM.run_bind, same]

theorem chain_submit (drain : Run S A W Unit) :
    ∀ (stages : List (A → Script S A W)) (a : A),
      AgreeDraining (p.chain (submit drain) stages a) (p.chain Run.enqueue stages a)
  | [], a => p.reduceAndNotify_submit drain a
  | stage :: rest, a =>
    Script.run_agree (submit_of_draining drain) keepsFlag_enqueue (chain_submit drain rest)
      (fun a => (p.orderly_chain rest a).keepsFlag) (stage a)

end Pipeline

/-! ## Draining in rounds -/

/-- One round of a drain: the action taken from the queue, the state it was taken in, the
actions that reached the reducer while its chain ran, and the actions dispatched meanwhile, in
the order they were dispatched. -/
structure Round (S A : Type) where
  action : A
  before : S
  reached : List A
  dispatched : List A

namespace Pipeline

variable (p : Pipeline S A W)

/-- `p.Drains fuel m rounds m'`: draining from `m`, with at most `fuel` rounds, goes through
`rounds` in order and ends in `m'` with the queue empty. In every round the chain of one action
runs to its end, with each dispatch only queueing its action. -/
inductive Drains : Nat → Machine S A W → List (Round S A) → Machine S A W → Prop
  | empty {fuel : Nat} (m : Machine S A W) (idle : m.store.queue = []) :
    Drains fuel m [] { m with store := { m.store with draining := false } }
  | round {fuel : Nat} {m m₁ m' : Machine S A W} {a : A} {rest reached dispatched : List A}
      {rounds : List (Round S A)} (front : m.store.queue = a :: rest)
      (chain : (p.chain Run.enqueue p.stages a).run
        { m with store := { m.store with queue := rest } } = .ok reached m₁)
      (queued : m₁.store.queue = rest ++ dispatched) (more : Drains fuel m₁ rounds m') :
    Drains (fuel + 1) m (⟨a, m.store.state, reached, dispatched⟩ :: rounds) m'

theorem drains_of_drain : ∀ (fuel : Nat) (m m' : Machine S A W), m.store.draining = true →
    (p.drain fuel).run m = .ok () m' → ∃ rounds, p.Drains fuel m rounds m'
  | 0, m, m', _, run => by
    cases front : m.store.queue with
    | nil =>
      rw [drain_nil p 0 m front] at run
      cases run
      exact ⟨[], .empty m front⟩
    | cons a rest =>
      rw [drain_zero_cons p m a rest front] at run
      cases run
  | fuel + 1, m, m', draining, run => by
    cases front : m.store.queue with
    | nil =>
      rw [drain_nil p (fuel + 1) m front] at run
      cases run
      exact ⟨[], .empty m front⟩
    | cons a rest =>
      let m₀ : Machine S A W := { m with store := { m.store with queue := rest } }
      -- the round's chain is replaced by its twin whose dispatches only queue, which is orderly
      rw [drain_succ_cons p fuel m a rest front, EStateM.run_bind,
        p.chain_submit (p.drain fuel) p.stages a m₀ draining] at run
      have advance := p.orderly_chain p.stages a m₀
      cases chain : (p.chain Run.enqueue p.stages a).run m₀ with
      | ok reached m₁ =>
        rw [chain] at run advance
        obtain ⟨dispatched, queued⟩ := advance.queue
        have still : m₁.store.draining = true := advance.draining.trans draining
        obtain ⟨rounds, more⟩ := drains_of_drain fuel m₁ m' still run
        exact ⟨_, .round front chain queued.symm more⟩
      | error e m₁ =>
        rw [chain] at run
        cases run

namespace Drains

variable {p} {fuel : Nat} {m m' : Machine S A W} {rounds : List (Round S A)}

theorem handed (h : p.Drains fuel m rounds m') :
    rounds.map Round.action ++ m'.store.queue =
      m.store.queue ++ (rounds.map Round.dispatched).flatten := by
  induction h with
  | empty m idle => simp [idle]
  | round front chain queued more ih =>
    simp only [List.map_cons, List.flatten_cons, List.cons_append, ih, queued, front,
      List.append_assoc]

theorem state (h : p.Drains fuel m rounds m') :
    (rounds.flatMap Round.reached).foldlM p.reduce m.store.state = .ok m'.store.state := by
  induction h with
  | empty m idle => rfl
  | @round fuel m m₁ m' a rest reached dispatched rounds front chain queued more ih =>
    -- what the round reduced is read off the chain being orderly, the rest is the induction
    have advance := p.orderly_chain p.stages a { m with store := { m.store with queue := rest } }
    rw [chain] at advance
    rw [List.flatMap_cons, List.foldlM_append, advance.state]
    exact ih

theorem stops (h : p.Drains fuel m rounds m') : m'.store.draining = false := by
  induction h with
  | empty m idle => rfl
  | round front chain queued more ih => exact ih

theorem finished (h : p.Drains fuel m rounds m') : m'.store.queue = [] := by
  induction h with
  | empty m idle => exact idle
  | round front chain queued more ih => exact ih

end Drains

theorem drains_of_submit (fuel : Nat) (a : A) (m m' : Machine S A W)
    (idle : m.store.draining = false) (run : (submit (p.drain fuel) a).run m = .ok () m') :
    ∃ rounds, p.Drains fuel
      { m with store := { m.store with queue := m.store.queue ++ [a], draining := true } }
      rounds m' := by
  let m₀ : Machine S A W :=
    { m with store := { m.store with queue := m.store.queue ++ [a], draining := true } }
  rw [submit_of_idle _ a m idle, run_tryCatch] at run
  cases drained : (p.drain fuel).run m₀ with
  | ok u m₁ =>
    rw [drained] at run
    cases run
    exact p.drains_of_drain fuel m₀ m' rfl drained
  | error e m₁ =>
    -- `recover` returns, and the panic is raised again: no normal return
    rw [drained] at run
    simp only [recover, Run.modifyStore, Run.log, EStateM.run_bind, EStateM.run_modify,
      EStateM.run_get] at run
    split at run <;> simp at run

/-- A dispatch into a store that is not draining, with any bound on the rounds of its drain,
returning normally, handles the actions in rounds, one whole chain each, every dispatch made
meanwhile only queueing: the actions go to the chain in the order they were queued and
dispatched, the state is the reducer folded over the actions that reached it, every reduction
returning, and the queue is left empty and no longer drained. -/
theorem dispatch_handles_in_order (fuel : Nat) (a : A) (m m' : Machine S A W)
    (idle : m.store.draining = false) (run : (submit (p.drain fuel) a).run m = .ok () m') :
    ∃ rounds : List (Round S A),
      p.Drains fuel
        { m with store := { m.store with queue := m.store.queue ++ [a], draining := true } }
        rounds m' ∧
      rounds.map Round.action ++ m'.store.queue =
        m.store.queue ++ a :: (rounds.map Round.dispatched).flatten ∧
      (rounds.flatMap Round.reached).foldlM p.reduce m.store.state = .ok m'.store.state ∧
      m'.store.draining = false ∧ m'.store.queue = [] := by
  obtain ⟨rounds, drains⟩ := p.drains_of_submit fuel a m m' idle run
  refine ⟨rounds, drains, ?_, drains.state, drains.stops, drains.finished⟩
  rw [drains.handed]
  simp

theorem follow_up_handled_after :
    ∃ rounds : List (Round Counter Int),
      rounds.map Round.action = 1 :: (rounds.map Round.dispatched).flatten ∧
      (rounds.flatMap Round.reached).foldlM (counterPipeline [.follow 1 2]).reduce
        (Counter.create 0) = .ok ⟨3, 2⟩ := by
  have run : ((counterPipeline [.follow 1 2]).dispatch 1).run (CounterMachine.create 0) =
      .ok ()
        { store :=
            { state := ⟨3, 2⟩
              queue := []
              draining := false
              subscribers := []
              nextSubscriber := 1 }
          world := { notes := [], responders := [] }
          logs := [] } := rfl
  obtain ⟨rounds, -, handed, state, -⟩ :=
    dispatch_handles_in_order (counterPipeline [.follow 1 2]) drainBudget 1 _ _ rfl run
  refine ⟨rounds, ?_, state⟩
  simpa [CounterMachine.create, Store.create] using handed

end Pipeline

end SheetStore
