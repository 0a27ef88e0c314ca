import SheetStore.Proofs.Store.Serial

/-! Where a run stops, whatever the log: a weakest precondition with one postcondition per
way out (`Stops`), and its rules for scripts and the drain loop.
-/

set_option autoImplicit false

namespace SheetStore

variable {S A W : Type}

/-- Every run of `x` from the store `s` and the world `w`, whatever the log, stops in a store and
a world satisfying `Q` if it returns and `E` if it panics. -/
def Stops {α : Type} (x : Run S A W α) (s : Store S A) (w : W)
    (Q E : Store S A → W → Prop) : Prop :=
  ∀ logs, match x.run ⟨s, w, logs⟩ with
    | .ok _ m' => Q m'.store m'.world
    | .error _ m' => E m'.store m'.world

/-- Every normal return of `x` from the store `s` and the world `w`, whatever the log, leaves a
store and a world satisfying `Q`; a panic is no return. -/
abbrev Lands {α : Type} (x : Run S A W α) (s : Store S A) (w : W)
    (Q : Store S A → W → Prop) : Prop :=
  Stops x s w Q fun _ _ => True

namespace Stops

variable {α β : Type} {x : Run S A W α} {s : Store S A} {w : W}
  {Q R E Q' E' : Store S A → W → Prop}

theorem mono (h : Stops x s w Q E) (returned : ∀ s w, Q s w → Q' s w)
    (panicked : ∀ s w, E s w → E' s w) : Stops x s w Q' E' := by
  intro logs
  have stopped := h logs
  revert stopped
  cases x.run ⟨s, w, logs⟩ with
  | ok v m' => exact returned _ _
  | error e m' => exact panicked _ _

theorem returned (h : Stops x s w Q E) {logs : List LogRecord} {v : α} {m' : Machine S A W}
    (ran : x.run ⟨s, w, logs⟩ = .ok v m') : Q m'.store m'.world := by
  have stopped := h logs
  rw [ran] at stopped
  exact stopped

theorem holds_landing {P : Store S A → W → Prop} (h : Stops x s w P P) (logs : List LogRecord) :
    P (landing (x.run ⟨s, w, logs⟩)).store (landing (x.run ⟨s, w, logs⟩)).world := by
  have stopped := h logs
  revert stopped
  cases x.run ⟨s, w, logs⟩ <;> exact id

theorem pure (v : α) (h : Q s w) : Stops (Pure.pure v : Run S A W α) s w Q E :=
  fun _ => h

theorem bind {f : α → Run S A W β} (first : Stops x s w R E)
    (second : ∀ v s₁ w₁, R s₁ w₁ → Stops (f v) s₁ w₁ Q E) :
    Stops (x >>= f) s w Q E := by
  intro logs
  have stopped := first logs
  rw [EStateM.run_bind]
  revert stopped
  cases x.run ⟨s, w, logs⟩ with
  -- the second part starts from whatever log the first left, which `Stops` quantifies over
  | ok v m₁ => exact fun landed => second v m₁.store m₁.world landed m₁.logs
  | error e m₁ => exact id

theorem enqueue (a : A) (h : Q { s with queue := s.queue ++ [a] } w) :
    Stops (Run.enqueue a : Run S A W Unit) s w Q E :=
  fun _ => h

theorem abort (message : String) (h : E s w) : Stops (Run.abort message : Run S A W α) s w Q E :=
  fun _ => h

end Stops

namespace Script

variable {d : A → Run S A W Unit} {n : A → Run S A W (List A)} {s : Store S A} {w : W}
  {Q R E : Store S A → W → Prop}

theorem stops_done (h : Q s w) : Stops ((Script.done : Script S A W).run d n) s w Q E :=
  Stops.pure [] h

theorem stops_read {rest : S → Script S A W} (h : Stops ((rest s.state).run d n) s w Q E) :
    Stops ((Script.read rest).run d n) s w Q E := h

theorem stops_observe {rest : W → Script S A W} (h : Stops ((rest w).run d n) s w Q E) :
    Stops ((Script.observe rest).run d n) s w Q E := h

theorem stops_update {f : W → W} {rest : Script S A W} (h : Stops (rest.run d n) s (f w) Q E) :
    Stops ((Script.update f rest).run d n) s w Q E :=
  fun logs => h logs

theorem stops_log {record : LogRecord} {rest : Script S A W} (h : Stops (rest.run d n) s w Q E) :
    Stops ((Script.log record rest).run d n) s w Q E :=
  fun logs => h (logs ++ [record])

theorem stops_logAll (records : List LogRecord) {rest : Script S A W}
    (h : Stops (rest.run d n) s w Q E) : Stops ((Script.logAll records rest).run d n) s w Q E := by
  induction records with
  | nil => exact h
  | cons record records ih => exact stops_log ih

theorem stops_forward {a : A} {rest : Script S A W} (first : Stops (n a) s w R E)
    (later : ∀ s₁ w₁, R s₁ w₁ → Stops (rest.run d n) s₁ w₁ Q E) :
    Stops ((Script.forward a rest).run d n) s w Q E :=
  Stops.bind first fun _ _ _ landed =>
    Stops.bind (later _ _ landed) fun _ _ _ landed' => Stops.pure _ landed'

theorem stops_dispatch {b : A} {rest : Script S A W} (first : Stops (d b) s w R E)
    (later : ∀ s₁ w₁, R s₁ w₁ → Stops (rest.run d n) s₁ w₁ Q E) :
    Stops ((Script.dispatch b rest).run d n) s w Q E :=
  Stops.bind first fun _ _ _ landed => later _ _ landed

theorem stops_subscribe {rest : Nat → Script S A W}
    (h : Stops ((rest s.subscribe.1).run d n) s.subscribe.2 w Q E) :
    Stops ((Script.subscribe rest).run d n) s w Q E :=
  fun logs => h logs

theorem stops_unsubscribe {id : Nat} {rest : Bool → Script S A W}
    (h : Stops ((rest (s.unsubscribe id).1).run d n) (s.unsubscribe id).2 w Q E) :
    Stops ((Script.unsubscribe id rest).run d n) s w Q E :=
  fun logs => h logs

theorem stops_panic (message : String) (h : E s w) :
    Stops ((Script.panic message : Script S A W).run d n) s w Q E :=
  Stops.abort message h

theorem stops_run (P : Store S A → Prop)
    (queued : ∀ s a, P s → P { s with queue := s.queue ++ [a] })
    (subscribed : ∀ s, P s → P s.subscribe.2)
    (unsubscribed : ∀ s id, P s → P (s.unsubscribe id).2)
    (next : ∀ a s w, P s → Stops (n a) s w (fun s _ => P s) fun s _ => P s) :
    ∀ (script : Script S A W) (s : Store S A) (w : W), P s →
      Stops (script.run Run.enqueue n) s w (fun s _ => P s) fun s _ => P s := by
  intro script
  -- on the script; the store and world move at every step, so the hypothesis stays general
  induction script with
  | done => exact fun _ _ holds => stops_done holds
  | forward a rest ih =>
    exact fun s w holds => stops_forward (next a s w holds) fun s₁ w₁ kept => ih s₁ w₁ kept
  | dispatch b rest ih =>
    exact fun s w holds => stops_dispatch (Stops.enqueue b (queued s b holds))
      fun s₁ w₁ kept => ih s₁ w₁ kept
  | read rest ih => exact fun s w holds => stops_read (ih s.state s w holds)
  | observe rest ih => exact fun s w holds => stops_observe (ih w s w holds)
  | update f rest ih => exact fun s w holds => stops_update (ih s (f w) holds)
  | log record rest ih => exact fun s w holds => stops_log (ih s w holds)
  | subscribe rest ih =>
    exact fun s w holds => stops_subscribe (ih s.subscribe.1 s.subscribe.2 w (subscribed s holds))
  | unsubscribe id rest ih =>
    exact fun s w holds =>
      stops_unsubscribe (ih (s.unsubscribe id).1 (s.unsubscribe id).2 w (unsubscribed s id holds))
  | panic message => exact fun _ _ holds => stops_panic message holds

/-- A script that hands nothing down the chain: it never forwards. -/
inductive Local : Script S A W → Prop
  | done : Local .done
  | dispatch (a : A) {rest : Script S A W} (rest_local : Local rest) : Local (.dispatch a rest)
  | read {rest : S → Script S A W} (rest_local : ∀ state, Local (rest state)) :
    Local (.read rest)
  | observe {rest : W → Script S A W} (rest_local : ∀ world, Local (rest world)) :
    Local (.observe rest)
  | update (f : W → W) {rest : Script S A W} (rest_local : Local rest) : Local (.update f rest)
  | log (record : LogRecord) {rest : Script S A W} (rest_local : Local rest) :
    Local (.log record rest)
  | subscribe {rest : Nat → Script S A W} (rest_local : ∀ id, Local (rest id)) :
    Local (.subscribe rest)
  | unsubscribe (id : Nat) {rest : Bool → Script S A W}
      (rest_local : ∀ found, Local (rest found)) :
    Local (.unsubscribe id rest)
  | panic (message : String) : Local (.panic message)

theorem Local.logAll (records : List LogRecord) {rest : Script S A W} (h : Local rest) :
    Local (Script.logAll records rest) := by
  induction records with
  | nil => exact h
  | cons record records ih => exact .log record ih

theorem Local.run_eq {script : Script S A W} (h : Local script)
    (n₁ n₂ : A → Run S A W (List A)) :
    script.run d n₁ = script.run d n₂ := by
  -- the chain behind is reached only through `forward`, which no constructor of `Local` has
  induction h with
  | done | panic => rfl
  | dispatch a rest_local ih | update f rest_local ih | log record rest_local ih =>
    simp only [Script.run, ih]
  | read rest_local ih | observe rest_local ih | subscribe rest_local ih
  | unsubscribe id rest_local ih =>
    simp only [Script.run, ih]

end Script

namespace Pipeline

variable (p : Pipeline S A W) {d : A → Run S A W Unit} {s : Store S A} {w : W}
  {Q E : Store S A → W → Prop}

theorem stops_notifyAll (state : S) (Inv : Store S A → W → Prop)
    (each : ∀ id s w, Inv s w → Stops ((p.notify id state).run d fun _ => pure []) s w Inv E) :
    ∀ (ids : List Nat) (s : Store S A) (w : W), Inv s w →
      Stops (p.notifyAll d state ids) s w Inv E
  | [], _, _, holds => Stops.pure () holds
  | id :: ids, s, w, holds =>
    Stops.bind (each id s w holds) fun _ _ _ kept => stops_notifyAll state Inv each ids _ _ kept

theorem stops_reduceAndNotify (a : A)
    (failed : ∀ message, p.reduce s.state a = .error message → E s w)
    (reduced : ∀ next, p.reduce s.state a = .ok next →
      Stops (p.notifyAll d next s.subscribers) { s with state := next } w Q E) :
    Stops (p.reduceAndNotify d a) s w Q E := by
  intro logs
  cases reduction : p.reduce s.state a with
  | error message =>
    rw [run_reduceAndNotify_error p d a ⟨s, w, logs⟩ reduction]
    exact failed message reduction
  | ok next =>
    have stopped := reduced next reduction logs
    rw [run_reduceAndNotify_ok p d a ⟨s, w, logs⟩ reduction, EStateM.run_bind]
    revert stopped
    cases (p.notifyAll d next s.subscribers).run ⟨{ s with state := next }, w, logs⟩ with
    | ok u m₁ => exact id
    | error e m₁ => exact id

theorem stops_reduceAndNotify_of_ok (a : A) {next : S} (reduction : p.reduce s.state a = .ok next)
    (h : Stops (p.notifyAll d next s.subscribers) { s with state := next } w Q E) :
    Stops (p.reduceAndNotify d a) s w Q E :=
  p.stops_reduceAndNotify a (fun _ failed => by rw [reduction] at failed; cases failed)
    fun _ same => by
      rw [reduction, Except.ok.injEq] at same
      exact same ▸ h

variable {p} {fuel : Nat} {m m' : Machine S A W} {rounds : List (Round S A)}

theorem Drains.keeps (Inv : Store S A → W → Prop)
    (round : ∀ (s : Store S A) (w : W) a rest, s.queue = a :: rest → Inv s w →
      Lands (p.chain Run.enqueue p.stages a) { s with queue := rest } w Inv)
    (stopped : ∀ s w, Inv s w → Inv { s with draining := false } w)
    (h : p.Drains fuel m rounds m') (start : Inv m.store m.world) : Inv m'.store m'.world := by
  induction h with
  | empty m idle => exact stopped _ _ start
  | @round fuel m m₁ m' a rest reached dispatched rounds front chain queued more ih =>
    have landed := round _ _ _ _ front start m.logs
    -- the round lemma starts from the store with its front taken off, as the drain's round does
    rw [show ({ m.store with queue := rest } : Store S A) =
        { m with store := { m.store with queue := rest } }.store from rfl, chain] at landed
    exact ih landed

variable (p)

theorem lands_dispatch (Inv : Store S A → W → Prop)
    (round : ∀ (s : Store S A) (w : W) a rest, s.queue = a :: rest → Inv s w →
      Lands (p.chain Run.enqueue p.stages a) { s with queue := rest } w Inv)
    (stopped : ∀ s w, Inv s w → Inv { s with draining := false } w) (fuel : Nat) (a : A)
    (idle : s.draining = false)
    (start : Inv { s with queue := s.queue ++ [a], draining := true } w) :
    Lands (submit (p.drain fuel) a) s w fun s' w' => Inv s' w' ∧ s'.draining = false ∧
      s'.queue = [] := by
  intro logs
  cases ran : (submit (p.drain fuel) a).run ⟨s, w, logs⟩ with
  | ok v m' =>
    obtain ⟨rounds, drains⟩ := p.drains_of_submit fuel a ⟨s, w, logs⟩ m' idle ran
    exact ⟨drains.keeps Inv round stopped start, drains.stops, drains.finished⟩
  -- a panic is no return, and `Lands` asks nothing of it
  | error e m' => trivial

end Pipeline

end SheetStore
