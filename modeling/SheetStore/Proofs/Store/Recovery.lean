import SheetStore.Proofs.Store.Stops

/-! What a panic in the middle of a dispatch leaves behind: whole rounds, then the round
that panicked up to the panic (`Pipeline.Halts`), nothing rolled back.
-/

set_option autoImplicit false

namespace SheetStore

variable {S A W : Type}

/-! ### Where the state stands after a panic -/

namespace Pipeline

variable (p : Pipeline S A W)

theorem reduceAndNotify_panic_state {a : A} {m m' : Machine S A W} {e : String}
    (panicked : (p.reduceAndNotify Run.enqueue a).run m = .error e m') :
    (p.reduce m.store.state a = .error e ∧ m'.store.state = m.store.state) ∨
      ∃ next, p.reduce m.store.state a = .ok next ∧ m'.store.state = next := by
  cases reduction : p.reduce m.store.state a with
  | error message =>
    rw [run_reduceAndNotify_error p _ a m reduction] at panicked
    cases panicked
    exact .inl ⟨rfl, rfl⟩
  | ok next =>
    let m₀ : Machine S A W := { m with store := { m.store with state := next } }
    have called := p.notifyAll_still p.reduce next m.store.subscribers m₀
    rw [run_reduceAndNotify_ok p _ a m reduction, EStateM.run_bind] at panicked
    cases run : (p.notifyAll Run.enqueue next m.store.subscribers).run m₀ with
    | ok u m₁ =>
      rw [run] at panicked
      cases panicked
    | error e₁ m₁ =>
      rw [run] at panicked called
      cases panicked
      have kept : Except.ok next = .ok m'.store.state := called.state
      exact .inr ⟨next, rfl, (Except.ok.inj kept).symm⟩

end Pipeline

theorem Script.Local.panic_state {script : Script S A W} (local_ : script.Local)
    (n : A → Run S A W (List A)) {m m' : Machine S A W} {e : String}
    (panicked : (script.run Run.enqueue n).run m = .error e m') :
    m'.store.state = m.store.state := by
  -- the chain behind is never reached, so take the one that reduces nothing
  rw [local_.run_eq n fun _ => pure []] at panicked
  have advance := Script.orderly_run keepState (fun _ => pure [])
    (fun _ m => Advance.refl m) script m
  rw [panicked] at advance
  obtain ⟨reached, advance⟩ := advance
  have kept := advance.state
  rw [foldlM_keepState] at kept
  exact (Except.ok.inj kept).symm

/-! ### Panicking drains -/

namespace Pipeline

variable (p : Pipeline S A W)

/-- `p.Halts fuel m rounds last m'`: draining from `m` with at most `fuel` rounds goes through
the whole rounds `rounds` and then panics, leaving `m'`. Either the chain of the next action
panicked, and `last` records that round up to the panic (the action, the state it was taken in,
the actions that reached the reducer and the actions dispatched before the panic), or the budget
ran out with actions still queued, and `last` is `none`. -/
inductive Halts : Nat → Machine S A W → List (Round S A) → Option (Round S A) → Machine S A W →
    Prop
  | exhausted (m : Machine S A W) (pending : m.store.queue ≠ []) : Halts 0 m [] none m
  | panics {fuel : Nat} {m m₁ : Machine S A W} {a : A} {rest reached dispatched : List A}
      {e : String} (front : m.store.queue = a :: rest)
      (chain : (p.chain Run.enqueue p.stages a).run
        { m with store := { m.store with queue := rest } } = .error e m₁)
      (queued : m₁.store.queue = rest ++ dispatched)
      (reduced : reached.foldlM p.reduce m.store.state = .ok m₁.store.state) :
    Halts (fuel + 1) m [] (some ⟨a, m.store.state, reached, dispatched⟩) m₁
  | round {fuel : Nat} {m m₁ m' : Machine S A W} {a : A} {rest reached dispatched : List A}
      {rounds : List (Round S A)} {last : Option (Round S A)} (front : m.store.queue = a :: rest)
      (chain : (p.chain Run.enqueue p.stages a).run
        { m with store := { m.store with queue := rest } } = .ok reached m₁)
      (queued : m₁.store.queue = rest ++ dispatched) (more : Halts fuel m₁ rounds last m') :
    Halts (fuel + 1) m (⟨a, m.store.state, reached, dispatched⟩ :: rounds) last m'

theorem halts_of_drain : ∀ (fuel : Nat) (m m' : Machine S A W) (e : String),
    m.store.draining = true → (p.drain fuel).run m = .error e m' →
      ∃ rounds last, p.Halts fuel m rounds last m'
  | 0, m, m', e, _, run => by
    cases front : m.store.queue with
    | nil =>
      rw [drain_nil p 0 m front] at run
      cases run
    | cons a rest =>
      rw [drain_zero_cons p m a rest front] at run
      cases run
      exact ⟨[], none, .exhausted m (by simp [front])⟩
  | fuel + 1, m, m', e, draining, run => by
    cases front : m.store.queue with
    | nil =>
      rw [drain_nil p (fuel + 1) m front] at run
      cases run
    | cons a rest =>
      let m₀ : Machine S A W := { m with store := { m.store with queue := rest } }
      -- the round's chain is replaced by its twin whose dispatches only queue, which is orderly
      rw [drain_succ_cons p fuel m a rest front, EStateM.run_bind,
        p.chain_submit (p.drain fuel) p.stages a m₀ draining] at run
      have advance := p.orderly_chain p.stages a m₀
      cases chain : (p.chain Run.enqueue p.stages a).run m₀ with
      | ok reached m₁ =>
        rw [chain] at run advance
        obtain ⟨dispatched, queued⟩ := advance.queue
        have still : m₁.store.draining = true := advance.draining.trans draining
        obtain ⟨rounds, last, more⟩ := halts_of_drain fuel m₁ m' e still run
        exact ⟨_, last, .round front chain queued.symm more⟩
      | error e₁ m₁ =>
        rw [chain] at run advance
        cases run
        obtain ⟨reached, advance⟩ := advance
        obtain ⟨dispatched, queued⟩ := advance.queue
        exact ⟨[], _, .panics front chain queued.symm advance.state⟩

namespace Halts

variable {p} {fuel : Nat} {m m' : Machine S A W} {rounds : List (Round S A)}
  {last : Option (Round S A)}

theorem handed (h : p.Halts fuel m rounds last m') :
    (rounds ++ last.toList).map Round.action ++ m'.store.queue =
      m.store.queue ++ ((rounds ++ last.toList).map Round.dispatched).flatten := by
  induction h with
  | exhausted m pending => simp
  | panics front chain queued reduced => simp [queued, front]
  | round front chain queued more ih =>
    simp only [List.cons_append, List.map_cons, List.flatten_cons] at ih ⊢
    rw [ih, queued, front]
    simp

theorem state (h : p.Halts fuel m rounds last m') :
    ((rounds ++ last.toList).flatMap Round.reached).foldlM p.reduce m.store.state =
      .ok m'.store.state := by
  induction h with
  | exhausted m pending => rfl
  | panics front chain queued reduced => simpa using reduced
  | @round fuel m m₁ m' a rest reached dispatched rounds last front chain queued more ih =>
    have advance := p.orderly_chain p.stages a { m with store := { m.store with queue := rest } }
    rw [chain] at advance
    rw [List.cons_append, List.flatMap_cons, List.foldlM_append, advance.state]
    exact ih

end Halts

theorem recover_throw (e : String) (m : Machine S A W) :
    ∃ logs, ((do recover; throw e : Run S A W Unit)).run m =
      .error e { m with store := { m.store with draining := false }, logs } := by
  -- a warning is logged only when actions are left queued
  by_cases empty : m.store.queue = []
  · exact ⟨_, by simp [recover, Run.modifyStore, empty]; rfl⟩
  · exact ⟨_, by simp [recover, Run.modifyStore, Run.log, empty]; rfl⟩

theorem halts_of_submit (fuel : Nat) (b : A) (m m' : Machine S A W) (e : String)
    (idle : m.store.draining = false) (panicked : (submit (p.drain fuel) b).run m = .error e m') :
    ∃ rounds last m₁, p.Halts fuel
        { m with store := { m.store with queue := m.store.queue ++ [b], draining := true } }
        rounds last m₁ ∧
      m'.store = { m₁.store with draining := false } ∧ m'.world = m₁.world := by
  let m₀ : Machine S A W :=
    { m with store := { m.store with queue := m.store.queue ++ [b], draining := true } }
  rw [submit_of_idle _ b m idle, run_tryCatch] at panicked
  cases drained : (p.drain fuel).run m₀ with
  | ok u m₁ =>
    rw [drained] at panicked
    cases panicked
  | error e₁ m₁ =>
    -- the drain panicked in `m₁`; `recover` lowers the flag and the panic goes on
    rw [drained] at panicked
    obtain ⟨logs, recovered⟩ := recover_throw e₁ m₁
    dsimp only at panicked
    rw [recovered] at panicked
    cases panicked
    obtain ⟨rounds, last, halts⟩ := p.halts_of_drain fuel m₀ m₁ _ rfl drained
    exact ⟨rounds, last, m₁, halts, rfl, rfl⟩

/-- A panic out of a dispatch keeps what was queued and recovers: the flag is down, the queue holds
in order every action not yet taken, and the state is the reducer folded over the actions that
reached it, nothing rolled back. A panic in the reducer stores nothing, one among the subscribers
keeps the reduction, and a following dispatch hands the leftovers first. -/
theorem dispatch_panic_recovers (fuel : Nat) (b : A) (m m' : Machine S A W) (e : String)
    (idle : m.store.draining = false) (panicked : (submit (p.drain fuel) b).run m = .error e m') :
    m'.store.draining = false ∧
      (∃ rounds last m₁, p.Halts fuel
          { m with store := { m.store with queue := m.store.queue ++ [b], draining := true } }
          rounds last m₁ ∧ m'.store = { m₁.store with draining := false } ∧
        (rounds ++ last.toList).map Round.action ++ m'.store.queue =
          m.store.queue ++ b :: ((rounds ++ last.toList).map Round.dispatched).flatten ∧
        ((rounds ++ last.toList).flatMap Round.reached).foldlM p.reduce m.store.state =
          .ok m'.store.state ∧
        ∀ fuel' c m'', (submit (p.drain fuel') c).run m' = .ok () m'' →
          ∃ later : List (Round S A),
            p.Drains fuel'
              { m' with store := { m'.store with queue := m'.store.queue ++ [c], draining := true } }
              later m'' ∧
            (rounds ++ last.toList ++ later).map Round.action =
              m.store.queue ++ b :: ((rounds ++ last.toList).map Round.dispatched).flatten ++
                c :: (later.map Round.dispatched).flatten ∧
            m''.store.queue = []) ∧
      (∀ (a : A) (m₀ m₁ : Machine S A W) (e₁ : String),
        (p.reduceAndNotify Run.enqueue a).run m₀ = .error e₁ m₁ →
          (p.reduce m₀.store.state a = .error e₁ ∧ m₁.store.state = m₀.store.state) ∨
            ∃ next, p.reduce m₀.store.state a = .ok next ∧ m₁.store.state = next) ∧
      (∀ (script : Script S A W), script.Local → ∀ (n : A → Run S A W (List A))
        (m₀ m₁ : Machine S A W) (e₁ : String),
        (script.run Run.enqueue n).run m₀ = .error e₁ m₁ → m₁.store.state = m₀.store.state) := by
  obtain ⟨rounds, last, m₁, halts, store, -⟩ := p.halts_of_submit fuel b m m' e idle panicked
  have handed := halts.handed
  have queue' : m'.store.queue = m₁.store.queue := by rw [store]
  refine ⟨by rw [store], ⟨rounds, last, m₁, halts, store, ?_, ?_, ?_⟩,
    fun a m₀ m₁ e₁ => p.reduceAndNotify_panic_state,
    fun script local_ n m₀ m₁ e₁ => local_.panic_state n⟩
  · rw [queue', handed]
    simp
  · rw [show m'.store.state = m₁.store.state by rw [store]]
    exact halts.state
  · -- the next dispatch starts from a store that is not draining
    intro fuel' c m'' ran
    have down : m'.store.draining = false := by rw [store]
    obtain ⟨later, drains, handedLater, -, -, finished⟩ :=
      p.dispatch_handles_in_order fuel' c m' m'' down ran
    refine ⟨later, drains, ?_, finished⟩
    rw [finished, List.append_nil, queue'] at handedLater
    rw [List.map_append, handedLater]
    -- the first dispatch handed what was queued and dispatched before the leftovers
    have taken := congrArg (· ++ c :: (later.map Round.dispatched).flatten) handed
    simpa [List.append_assoc] using taken

def failingCounter (value : Int) : Pipeline Counter Int CounterWorld :=
  { counterPipeline [] with
    reduce := fun c a => if a = value then .error ("reducer failed on " ++ toString value)
      else .ok (c.reduce a) }

theorem reducer_panic_keeps_later_dispatch_queued :
    ∃ m', (submit ((failingCounter 7).drain drainBudget) 1).run
        { store := { (Store.create (Counter.create 0)) with subscribers := [1], nextSubscriber := 2 }
          world := { notes := [], responders := [(1, Responder.create [7, 2] 1 0)] }
          logs := [] } = .error "reducer failed on 7" m' ∧
      m'.store.draining = false ∧ m'.store.queue = [2] ∧ m'.store.state = ⟨1, 1⟩ := by
  refine ⟨_, rfl, ?_, rfl, rfl⟩
  exact (dispatch_panic_recovers (failingCounter 7) drainBudget 1
    { store := { (Store.create (Counter.create 0)) with subscribers := [1], nextSubscriber := 2 }
      world := { notes := [], responders := [(1, Responder.create [7, 2] 1 0)] }
      logs := [] } _ _ rfl rfl).1

end Pipeline

end SheetStore
