import SheetStore.Proofs.Store.Stops

/-! A store's dealings with its subscribers, recorded beside the world (`Traced`); forgetting
the record gives back the run of the store itself (`Shadows`).
-/

set_option autoImplicit false

namespace SheetStore

variable {S A W : Type}

/-- What a store does with its subscribers, one event at a time. -/
inductive StoreEvent (S A : Type) where
  /-- The action reached the reducer. -/
  | reduced (a : A)
  /-- The subscriber was called with the state. -/
  | called (id : Nat) (state : S)
  /-- A subscription was made and got the id. -/
  | subscribed (id : Nat)
  /-- The removal of an id was asked for, and answered whether it was registered. -/
  | unsubscribed (id : Nat) (found : Bool)

/-- A world with the record of the events so far beside it, oldest first. -/
abbrev Traced (S A W : Type) := W × List (StoreEvent S A)

def note (e : StoreEvent S A) (w : Traced S A W) : Traced S A W := (w.1, w.2 ++ [e])

namespace Script

/-- A script over the world with the record beside it: it sees and changes the world as before,
and notes each subscription and removal it makes with what it answered. -/
def traced : Script S A W → Script S A (Traced S A W)
  | .done => .done
  | .forward a rest => .forward a rest.traced
  | .dispatch a rest => .dispatch a rest.traced
  | .read rest => .read fun s => (rest s).traced
  | .observe rest => .observe fun w => (rest w.1).traced
  | .update f rest => .update (fun w => (f w.1, w.2)) rest.traced
  | .log record rest => .log record rest.traced
  | .subscribe rest => .subscribe fun id => .update (note (.subscribed id)) (rest id).traced
  | .unsubscribe id rest =>
    .unsubscribe id fun found => .update (note (.unsubscribed id found)) (rest found).traced
  | .panic message => .panic message

end Script

namespace Pipeline

def noteReduced (a : A) : Script S A (Traced S A W) := .update (note (.reduced a)) (.forward a .done)

/-- The pipeline with the record beside its world: its middleware as before, then one that notes
each action reaching the reducer; each subscriber notes its call before it runs. -/
def traced (p : Pipeline S A W) : Pipeline S A (Traced S A W) :=
  { stages := p.stages.map (fun stage a => (stage a).traced) ++ [noteReduced]
    reduce := p.reduce
    notify := fun id state => .update (note (.called id state)) (p.notify id state).traced }

@[simp] theorem traced_reduce (p : Pipeline S A W) : p.traced.reduce = p.reduce := rfl

end Pipeline

def Machine.forget (m : Machine S A (Traced S A W)) : Machine S A W := ⟨m.store, m.world.1, m.logs⟩

def forgetResult {α : Type} :
    EStateM.Result String (Machine S A (Traced S A W)) α → EStateM.Result String (Machine S A W) α
  | .ok v m => .ok v m.forget
  | .error e m => .error e m.forget

/-- `x'` is `x` with the record kept beside the world: from every machine, what `x'` does with
the record forgotten is what `x` does without it. -/
def Shadows {α : Type} (x' : Run S A (Traced S A W) α) (x : Run S A W α) : Prop :=
  ∀ m, forgetResult (x'.run m) = x.run m.forget

namespace Shadows

variable {α β : Type}

theorem pure (v : α) : Shadows (Pure.pure v : Run S A (Traced S A W) α) (Pure.pure v) :=
  fun _ => rfl

theorem bind {x' : Run S A (Traced S A W) α} {x : Run S A W α}
    {f' : α → Run S A (Traced S A W) β} {f : α → Run S A W β} (first : Shadows x' x)
    (second : ∀ v, Shadows (f' v) (f v)) : Shadows (x' >>= f') (x >>= f) := by
  intro m
  have same := first m
  rw [EStateM.run_bind, EStateM.run_bind]
  cases ran : x'.run m with
  | ok v m₁ =>
    rw [ran] at same
    rw [← same]
    exact second v m₁
  | error e m₁ =>
    rw [ran] at same
    rw [← same]
    rfl

theorem tryCatch {x' : Run S A (Traced S A W) α} {x : Run S A W α}
    {h' : String → Run S A (Traced S A W) α} {h : String → Run S A W α} (body : Shadows x' x)
    (handler : ∀ e, Shadows (h' e) (h e)) : Shadows (tryCatch x' h') (tryCatch x h) := by
  intro m
  have same := body m
  rw [run_tryCatch, run_tryCatch]
  cases ran : x'.run m with
  | ok v m₁ =>
    rw [ran] at same
    rw [← same]
    rfl
  | error e m₁ =>
    rw [ran] at same
    rw [← same]
    exact handler e m₁

theorem state : Shadows (Run.state : Run S A (Traced S A W) S) Run.state := fun _ => rfl

theorem observe {f' : W → Run S A (Traced S A W) α} {f : W → Run S A W α}
    (rest : ∀ w, Shadows (f' w) (f w)) :
    Shadows (Run.world >>= fun w => f' w.1) (Run.world >>= f) :=
  fun m => rest m.world.1 m

theorem modifyWorld (f : W → W) :
    Shadows (Run.modifyWorld (fun w => (f w.1, w.2)) : Run S A (Traced S A W) Unit)
      (Run.modifyWorld f) :=
  fun _ => rfl

theorem noted {x' : Run S A (Traced S A W) α} {x : Run S A W α} (e : StoreEvent S A)
    (rest : Shadows x' x) : Shadows (Run.modifyWorld (note e) >>= fun _ => x') x :=
  fun _ => rest _

theorem logAll (records : List LogRecord) :
    Shadows (Run.logAll records : Run S A (Traced S A W) Unit) (Run.logAll records) :=
  fun _ => rfl

theorem enqueue (a : A) : Shadows (Run.enqueue a : Run S A (Traced S A W) Unit) (Run.enqueue a) :=
  fun _ => rfl

theorem abort (message : String) :
    Shadows (Run.abort message : Run S A (Traced S A W) α) (Run.abort message) :=
  fun _ => rfl

theorem forward_last {x' : Run S A (Traced S A W) (List A)} {x : Run S A W (List A)}
    (reached : Shadows x' x) :
    Shadows (x' >>= fun r => Pure.pure [] >>= fun l => Pure.pure (r ++ l)) x := by
  intro m
  have same := reached m
  rw [EStateM.run_bind]
  cases ran : x'.run m with
  | ok r m₁ =>
    rw [ran] at same
    rw [← same]
    simp [forgetResult]
  | error e m₁ =>
    rw [ran] at same
    rw [← same]

end Shadows

theorem Script.shadows_traced {d' : A → Run S A (Traced S A W) Unit} {d : A → Run S A W Unit}
    {n' : A → Run S A (Traced S A W) (List A)} {n : A → Run S A W (List A)}
    (dispatches : ∀ a, Shadows (d' a) (d a)) (forwards : ∀ a, Shadows (n' a) (n a)) :
    ∀ script : Script S A W, Shadows (script.traced.run d' n') (script.run d n) := by
  intro script
  induction script with
  | done => exact .pure []
  | forward a rest ih => exact (forwards a).bind fun _ => ih.bind fun _ => .pure _
  | dispatch a rest ih => exact (dispatches a).bind fun _ => ih
  | read rest ih => exact Shadows.state.bind ih
  | observe rest ih => exact Shadows.observe ih
  | update f rest ih => exact (Shadows.modifyWorld f).bind fun _ => ih
  | log record rest ih => exact (Shadows.logAll [record]).bind fun _ => ih
  | subscribe rest ih =>
    -- the id answered is noted, then the rest runs on it
    intro m
    exact Shadows.noted _ (ih _) _
  | unsubscribe id rest ih =>
    intro m
    exact Shadows.noted _ (ih _) _
  | panic message => exact Shadows.abort message

namespace Pipeline

variable (p : Pipeline S A W)

theorem shadows_notifyAll {d' : A → Run S A (Traced S A W) Unit} {d : A → Run S A W Unit}
    (dispatches : ∀ a, Shadows (d' a) (d a)) (state : S) :
    ∀ ids : List Nat, Shadows (p.traced.notifyAll d' state ids) (p.notifyAll d state ids)
  | [] => .pure ()
  | id :: ids =>
    (Shadows.noted (.called id state)
      (Script.shadows_traced dispatches (fun _ => .pure []) (p.notify id state))).bind
      fun _ => shadows_notifyAll dispatches state ids

theorem shadows_reduceAndNotify {d' : A → Run S A (Traced S A W) Unit} {d : A → Run S A W Unit}
    (dispatches : ∀ a, Shadows (d' a) (d a)) (a : A) :
    Shadows (p.traced.reduceAndNotify d' a) (p.reduceAndNotify d a) := by
  intro m
  cases reduction : p.reduce m.store.state a with
  | error message =>
    rw [run_reduceAndNotify_error p.traced d' a m reduction,
      run_reduceAndNotify_error p d a m.forget reduction]
    rfl
  | ok next =>
    -- the state is stored, then the subscribers of the snapshot are called, in both runs
    rw [run_reduceAndNotify_ok p.traced d' a m reduction,
      run_reduceAndNotify_ok p d a m.forget reduction]
    exact ((p.shadows_notifyAll dispatches next m.store.subscribers).bind fun _ => .pure [a])
      { m with store := { m.store with state := next } }

theorem shadows_chain {d' : A → Run S A (Traced S A W) Unit} {d : A → Run S A W Unit}
    (dispatches : ∀ a, Shadows (d' a) (d a)) :
    ∀ (stages : List (A → Script S A W)) (a : A),
      Shadows (p.traced.chain d' (stages.map (fun stage a => (stage a).traced) ++ [noteReduced]) a)
        (p.chain d stages a)
  | [], a => Shadows.noted _ (Shadows.forward_last (p.shadows_reduceAndNotify dispatches a))
  | stage :: rest, a =>
    Script.shadows_traced dispatches (shadows_chain dispatches rest) (stage a)

theorem shadows_recover : Shadows (recover : Run S A (Traced S A W) Unit) recover := by
  intro m
  simp only [recover, Run.modifyStore, Run.log, EStateM.run_bind, EStateM.run_modify,
    EStateM.run_get, Machine.forget]
  -- the warning depends on the queue alone, which both machines share
  by_cases left : m.store.queue.length ≠ 0
  · rw [if_pos left, if_pos left]
    rfl
  · rw [if_neg left, if_neg left]
    rfl

theorem shadows_submit {drain' : Run S A (Traced S A W) Unit} {drain : Run S A W Unit}
    (drains : Shadows drain' drain) (a : A) : Shadows (submit drain' a) (submit drain a) := by
  intro m
  cases draining : m.store.draining with
  | true =>
    rw [submit_of_draining drain' a m draining, submit_of_draining drain a m.forget draining]
    rfl
  | false =>
    rw [submit_of_idle drain' a m draining, submit_of_idle drain a m.forget draining]
    exact (Shadows.tryCatch drains fun e => shadows_recover.bind fun _ => fun _ => rfl) _

theorem shadows_drain : ∀ fuel, Shadows (p.traced.drain fuel) (p.drain fuel)
  | 0 => by
    intro m
    cases front : m.store.queue with
    | nil =>
      rw [drain_nil p.traced 0 m front, drain_nil p 0 m.forget front]
      rfl
    | cons a rest =>
      rw [drain_zero_cons p.traced m a rest front, drain_zero_cons p m.forget a rest front]
      rfl
  | fuel + 1 => by
    intro m
    cases front : m.store.queue with
    | nil =>
      rw [drain_nil p.traced (fuel + 1) m front, drain_nil p (fuel + 1) m.forget front]
      rfl
    | cons a rest =>
      -- one round, whose dispatches are the loop's own, then the rest of the loop
      rw [drain_succ_cons p.traced fuel m a rest front, drain_succ_cons p fuel m.forget a rest front]
      exact (p.shadows_chain (shadows_submit (shadows_drain fuel)) p.stages a).bind
        (fun _ => shadows_drain fuel) _

theorem shadows_dispatch (fuel : Nat) (a : A) :
    Shadows (submit (p.traced.drain fuel) a) (submit (p.drain fuel) a) :=
  shadows_submit (p.shadows_drain fuel) a

end Pipeline

end SheetStore
