import SheetStore.Proofs.Store.Serial

/-! What a run returns and leaves behind, whatever the log (`Yields`), taken apart one
script step, subscriber and round at a time.
-/

set_option autoImplicit false

namespace SheetStore

variable {S A W : Type}

/-- From the store `s` and the world `w`, whatever the log, `x` returns `v` and leaves the store
`s'` and the world `w'`. -/
def Yields {α : Type} (x : Run S A W α) (s : Store S A) (w : W) (v : α) (s' : Store S A)
    (w' : W) : Prop :=
  ∀ logs, ∃ logs', x.run ⟨s, w, logs⟩ = .ok v ⟨s', w', logs'⟩

namespace Yields

variable {α : Type} {s s₁ s₂ : Store S A} {w w₁ w₂ : W}

theorem pure (v : α) : Yields (Pure.pure v : Run S A W α) s w v s w :=
  fun logs => ⟨logs, rfl⟩

theorem enqueue (a : A) :
    Yields (Run.enqueue a : Run S A W Unit) s w () { s with queue := s.queue ++ [a] } w :=
  fun logs => ⟨logs, rfl⟩

theorem bind {β : Type} {x : Run S A W α} {f : α → Run S A W β} {v : α} {u : β}
    (first : Yields x s w v s₁ w₁) (second : Yields (f v) s₁ w₁ u s₂ w₂) :
    Yields (x >>= f) s w u s₂ w₂ := by
  intro logs
  obtain ⟨logs₁, ran⟩ := first logs
  obtain ⟨logs₂, ran₂⟩ := second logs₁
  exact ⟨logs₂, by simp only [EStateM.run_bind, ran, ran₂]⟩

end Yields

namespace Script

variable {d : A → Run S A W Unit} {n : A → Run S A W (List A)}
  {s s₁ s₂ : Store S A} {w w₁ w₂ : W} {v l : List A}

theorem yields_done : Yields ((Script.done : Script S A W).run d n) s w [] s w :=
  Yields.pure []

theorem yields_read {rest : S → Script S A W}
    (h : Yields ((rest s.state).run d n) s w v s₁ w₁) :
    Yields ((Script.read rest).run d n) s w v s₁ w₁ := h

theorem yields_observe {rest : W → Script S A W} (h : Yields ((rest w).run d n) s w v s₁ w₁) :
    Yields ((Script.observe rest).run d n) s w v s₁ w₁ := h

theorem yields_update {f : W → W} {rest : Script S A W}
    (h : Yields (rest.run d n) s (f w) v s₁ w₁) :
    Yields ((Script.update f rest).run d n) s w v s₁ w₁ := by
  intro logs
  exact h logs

theorem yields_log {record : LogRecord} {rest : Script S A W}
    (h : Yields (rest.run d n) s w v s₁ w₁) :
    Yields ((Script.log record rest).run d n) s w v s₁ w₁ := by
  intro logs
  exact h (logs ++ [record])

theorem yields_logAll (records : List LogRecord) {rest : Script S A W}
    (h : Yields (rest.run d n) s w v s₁ w₁) :
    Yields ((Script.logAll records rest).run d n) s w v s₁ w₁ := by
  induction records with
  | nil => exact h
  | cons record records ih => exact yields_log ih

theorem yields_forward {a : A} {rest : Script S A W} (first : Yields (n a) s w v s₁ w₁)
    (later : Yields (rest.run d n) s₁ w₁ l s₂ w₂) :
    Yields ((Script.forward a rest).run d n) s w (v ++ l) s₂ w₂ :=
  Yields.bind first (Yields.bind later (Yields.pure _))

theorem yields_dispatch {b : A} {rest : Script S A W} (first : Yields (d b) s w () s₁ w₁)
    (later : Yields (rest.run d n) s₁ w₁ l s₂ w₂) :
    Yields ((Script.dispatch b rest).run d n) s w l s₂ w₂ :=
  Yields.bind first later

end Script

namespace Pipeline

variable (p : Pipeline S A W) {d : A → Run S A W Unit} {s s₁ s₂ : Store S A} {w w₁ w₂ : W}

theorem yields_notifyAll_nil (state : S) : Yields (p.notifyAll d state []) s w () s w :=
  Yields.pure ()

theorem yields_notifyAll_cons {state : S} {id : Nat} {ids : List Nat} {r : List A}
    (first : Yields ((p.notify id state).run d fun _ => Pure.pure []) s w r s₁ w₁)
    (rest : Yields (p.notifyAll d state ids) s₁ w₁ () s₂ w₂) :
    Yields (p.notifyAll d state (id :: ids)) s w () s₂ w₂ :=
  Yields.bind first rest

theorem yields_reduceAndNotify {a : A} {next : S} (reduction : p.reduce s.state a = .ok next)
    (called : Yields (p.notifyAll d next s.subscribers) { s with state := next } w () s₁ w₁) :
    Yields (p.reduceAndNotify d a) s w [a] s₁ w₁ := by
  intro logs
  obtain ⟨logs₁, ran⟩ := called logs
  exact ⟨logs₁, by rw [run_reduceAndNotify_ok p d a _ reduction, EStateM.run_bind, ran]; rfl⟩

theorem yields_drain_empty (fuel : Nat) (empty : s.queue = []) :
    Yields (p.drain fuel) s w () { s with draining := false } w :=
  fun logs => ⟨logs, drain_nil p fuel ⟨s, w, logs⟩ empty⟩

theorem yields_drain_round {fuel : Nat} {a : A} {rest reached : List A}
    (front : s.queue = a :: rest) (draining : s.draining = true)
    (round : Yields (p.chain Run.enqueue p.stages a) { s with queue := rest } w reached s₁ w₁)
    (more : Yields (p.drain fuel) s₁ w₁ () s₂ w₂) :
    Yields (p.drain (fuel + 1)) s w () s₂ w₂ := by
  intro logs
  obtain ⟨logs₁, ran⟩ := round logs
  obtain ⟨logs₂, ran₂⟩ := more logs₁
  refine ⟨logs₂, ?_⟩
  -- the flag is up during the round, so a dispatch from inside it only queues
  rw [drain_succ_cons p fuel ⟨s, w, logs⟩ a rest front, EStateM.run_bind,
    p.chain_submit (p.drain fuel) p.stages a _ draining]
  simp only [ran, ran₂]

theorem yields_dispatch {a : A} (idle : s.draining = false)
    (drained : Yields (p.drain drainBudget) { s with queue := s.queue ++ [a], draining := true } w
      () s₁ w₁) :
    Yields (p.dispatch a) s w () s₁ w₁ := by
  intro logs
  obtain ⟨logs₁, ran⟩ := drained logs
  refine ⟨logs₁, ?_⟩
  -- a drain that returns never reaches the handler that lowers the flag after a panic
  rw [dispatch, submit_of_idle _ a ⟨s, w, logs⟩ idle, run_tryCatch]
  simp only [ran]

end Pipeline

end SheetStore
