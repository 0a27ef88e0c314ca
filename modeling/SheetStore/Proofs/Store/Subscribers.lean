import SheetStore.Proofs.Store.Tracing

/-! What a store promises its subscribers, as a machine over events (`Registry.Step`),
and that every run records events that follow it (`Registry.Keeps`).
-/

set_option autoImplicit false

namespace SheetStore

variable {S A W : Type}

namespace StoreEvent

def call? : StoreEvent S A → Option (Nat × S)
  | .called id state => some (id, state)
  | _ => none

def subscription? : StoreEvent S A → Option Nat
  | .subscribed id => some id
  | _ => none

theorem mem_calls {events : List (StoreEvent S A)} {id : Nat} {state : S} :
    (id, state) ∈ events.filterMap call? ↔ .called id state ∈ events := by
  rw [List.mem_filterMap]
  constructor
  · rintro ⟨e, mem, is_call⟩
    cases e with
    | called id' state' =>
      simp only [call?, Option.some.injEq, Prod.mk.injEq] at is_call
      rw [← is_call.1, ← is_call.2]
      exact mem
    | reduced _ | subscribed _ | unsubscribed _ _ => cases is_call
  · exact fun mem => ⟨_, mem, rfl⟩

end StoreEvent

/-- What a store has promised its subscribers: the ids registered, in the order they came; the id
the next subscription gets; the state; and the subscribers still to be told of it, in order. -/
structure Registry (S : Type) where
  ids : List Nat
  next : Nat
  state : S
  due : List Nat

namespace Registry

def of {A : Type} (s : Store S A) (due : List Nat) : Registry S :=
  ⟨s.subscribers, s.nextSubscriber, s.state, due⟩

section Promise

variable (reduce : S → A → Except String S)

/-- One event as the store promises it, with `reduce` for its reducer. -/
inductive Step : Registry S → StoreEvent S A → Registry S → Prop
  /-- An action reaches the reducer once everyone has been told of the one before; those
  registered now are to be told of the new state. -/
  | reduced (r : Registry S) (a : A) (next : S) (reduction : reduce r.state a = .ok next)
      (settled : r.due = []) :
    Step r (.reduced a) { r with state := next, due := r.ids }
  /-- The first subscriber still to be told is called, with the state. -/
  | called (r : Registry S) (id : Nat) (rest : List Nat) (front : r.due = id :: rest) :
    Step r (.called id r.state) { r with due := rest }
  /-- A subscription takes the next id and joins the end of the registry. -/
  | subscribed (r : Registry S) :
    Step r (.subscribed r.next) { r with ids := r.ids ++ [r.next], next := r.next + 1 }
  /-- A removal answers whether the id is registered and takes it out of the registry; who is
  still to be told stays as it was. -/
  | unsubscribed (r : Registry S) (id : Nat) :
    Step r (.unsubscribed id (decide (id ∈ r.ids))) { r with ids := r.ids.filter (· ≠ id) }

/-- The events, oldest first, take the promise from one registry to the other. -/
inductive Follows : Registry S → List (StoreEvent S A) → Registry S → Prop
  | nil (r : Registry S) : Follows r [] r
  | cons {r r₁ r₂ : Registry S} {e : StoreEvent S A} {events : List (StoreEvent S A)}
      (step : Step reduce r e r₁) (rest : Follows r₁ events r₂) : Follows r (e :: events) r₂

end Promise

/-- Every id registered or still due was handed out before, and the registry is in the order of
the ids, which is the order of subscription. -/
structure Issued (r : Registry S) : Prop where
  ids_lt : ∀ i ∈ r.ids, i < r.next
  due_lt : ∀ i ∈ r.due, i < r.next
  ordered : r.ids.Pairwise (· < ·)

variable {reduce : S → A → Except String S} {r r₁ r₂ : Registry S} {e : StoreEvent S A}
  {events later : List (StoreEvent S A)} {id : Nat}

namespace Step

theorem issued (step : Step reduce r e r₁) (h : r.Issued) : r₁.Issued := by
  cases step with
  | reduced a next reduction settled => exact ⟨h.ids_lt, h.ids_lt, h.ordered⟩
  | called id rest front =>
    refine ⟨h.ids_lt, fun i mem => h.due_lt i ?_, h.ordered⟩
    rw [front]
    exact List.mem_cons_of_mem id mem
  | subscribed =>
    -- the new id is above every id handed out, so the registry stays in order
    refine ⟨fun i mem => ?_, fun i mem => Nat.lt_succ_of_lt (h.due_lt i mem), ?_⟩
    · rcases List.mem_append.1 mem with old | new
      · exact Nat.lt_succ_of_lt (h.ids_lt i old)
      · rw [List.mem_singleton.1 new]
        exact Nat.lt_succ_self _
    · rw [List.pairwise_append]
      refine ⟨h.ordered, List.pairwise_singleton _ _, fun i old j new => ?_⟩
      rw [List.mem_singleton.1 new]
      exact h.ids_lt i old
  | unsubscribed id =>
    exact ⟨fun i mem => h.ids_lt i (List.mem_of_mem_filter mem), h.due_lt,
      h.ordered.filter _⟩

theorem absent (step : Step reduce r e r₁) (out : id ∉ r.ids) (below : id < r.next) :
    id ∉ r₁.ids ∧ id < r₁.next := by
  cases step with
  | reduced a next reduction settled | called id' rest front => exact ⟨out, below⟩
  | subscribed =>
    refine ⟨fun mem => ?_, Nat.lt_succ_of_lt below⟩
    rcases List.mem_append.1 mem with old | new
    · exact out old
    · exact Nat.ne_of_lt below (List.mem_singleton.1 new)
  | unsubscribed id' => exact ⟨fun mem => out (List.mem_of_mem_filter mem), below⟩

theorem present (step : Step reduce r e r₁) (mem : id ∈ r.ids)
    (kept : ∀ found, e ≠ .unsubscribed id found) : id ∈ r₁.ids := by
  cases step with
  | reduced a next reduction settled | called id' rest front => exact mem
  | subscribed => exact List.mem_append_left _ mem
  | unsubscribed id' =>
    have other : id ≠ id' := fun same => kept _ (by rw [same])
    exact List.mem_filter.2 ⟨mem, decide_eq_true other⟩

theorem of_unsubscribed {found : Bool} (step : Step reduce r (.unsubscribed id found) r₁) :
    found = decide (id ∈ r.ids) ∧ r₁ = { r with ids := r.ids.filter (· ≠ id) } := by
  cases step
  exact ⟨rfl, rfl⟩

theorem not_due (step : Step reduce r e r₁) (out : id ∉ r.ids) (told : id ∉ r.due) :
    id ∉ r₁.due ∧ ∀ state, e ≠ .called id state := by
  cases step with
  | reduced a next reduction settled => exact ⟨out, fun _ event => by cases event⟩
  | called id' rest front =>
    rw [front] at told
    refine ⟨fun mem => told (List.mem_cons_of_mem id' mem), fun state event => ?_⟩
    -- the one called is the first due
    cases event
    exact told List.mem_cons_self
  | subscribed | unsubscribed id' => exact ⟨told, fun _ event => by cases event⟩

end Step

namespace Follows

theorem append (first : Follows reduce r events r₁) (second : Follows reduce r₁ later r₂) :
    Follows reduce r (events ++ later) r₂ := by
  induction first with
  | nil => exact second
  | cons step _ ih => exact .cons step (ih second)

theorem snoc (before : Follows reduce r events r₁) (step : Step reduce r₁ e r₂) :
    Follows reduce r (events ++ [e]) r₂ :=
  before.append (.cons step (.nil r₂))

theorem split (h : Follows reduce r (events ++ later) r₂) :
    ∃ r₁, Follows reduce r events r₁ ∧ Follows reduce r₁ later r₂ := by
  induction events generalizing r with
  | nil => exact ⟨r, .nil r, h⟩
  | cons e events ih =>
    cases h with
    | cons step rest =>
      obtain ⟨r₁, first, second⟩ := ih rest
      exact ⟨r₁, .cons step first, second⟩

theorem issued (h : Follows reduce r events r₂) (start : r.Issued) : r₂.Issued := by
  induction h with
  | nil => exact start
  | cons step _ ih => exact ih (step.issued start)

theorem absent (h : Follows reduce r events r₂) (out : id ∉ r.ids) (below : id < r.next) :
    id ∉ r₂.ids ∧ id < r₂.next := by
  induction h with
  | nil => exact ⟨out, below⟩
  | cons step _ ih =>
    obtain ⟨out', below'⟩ := step.absent out below
    exact ih out' below'

theorem present (h : Follows reduce r events r₂) (mem : id ∈ r.ids)
    (kept : ∀ found, .unsubscribed id found ∉ events) : id ∈ r₂.ids := by
  induction h with
  | nil => exact mem
  | cons step _ ih =>
    exact ih (step.present mem fun found same => kept found (by rw [same]; exact List.mem_cons_self))
      fun found later => kept found (List.mem_cons_of_mem _ later)

theorem not_called (h : Follows reduce r events r₂) (out : id ∉ r.ids) (told : id ∉ r.due)
    (below : id < r.next) (state : S) : .called id state ∉ events := by
  induction h with
  | nil => exact List.not_mem_nil
  | cons step _ ih =>
    obtain ⟨told', not_this⟩ := step.not_due out told
    obtain ⟨out', below'⟩ := step.absent out below
    rw [List.mem_cons, not_or]
    exact ⟨fun same => not_this state same.symm, ih out' told' below'⟩

theorem calls_of_quiet (h : Follows reduce r events r₂) (quiet : ∀ a, .reduced a ∉ events) :
    events.filterMap StoreEvent.call? ++ r₂.due.map (·, r.state) = r.due.map (·, r.state) ∧
      r₂.state = r.state := by
  induction h with
  | nil => exact ⟨List.nil_append _, rfl⟩
  | cons step _ ih =>
    obtain ⟨calls, same⟩ := ih fun a mem => quiet a (List.mem_cons_of_mem _ mem)
    cases step with
    | reduced a next reduction settled => exact absurd List.mem_cons_self (quiet a)
    | called id rest front =>
      refine ⟨?_, same⟩
      rw [front, List.map_cons, ← calls]
      rfl
    | subscribed | unsubscribed id => exact ⟨calls, same⟩

theorem calls_eq_nil_of_quiet (h : Follows reduce r events r₂) (told : r.due = [])
    (quiet : ∀ a, .reduced a ∉ events) : events.filterMap StoreEvent.call? = [] := by
  have calls := (h.calls_of_quiet quiet).1
  rw [told, List.map_nil, List.append_eq_nil_iff] at calls
  exact calls.1

theorem calls_of_round {a : A} {round tail : List (StoreEvent S A)}
    (h : Follows reduce r (.reduced a :: (round ++ tail)) r₂) (quiet : ∀ b, .reduced b ∉ round)
    (closed : tail = [] ∧ r₂.due = [] ∨ ∃ b rest, tail = .reduced b :: rest) :
    ∃ next, reduce r.state a = .ok next ∧
      round.filterMap StoreEvent.call? = r.ids.map (·, next) := by
  cases h with
  | cons step rest =>
    cases step with
    | reduced _ next reduction settled =>
      obtain ⟨r₃, during, after⟩ := rest.split
      have calls := (during.calls_of_quiet quiet).1
      -- the round ends with everyone told: at the end of the run, or before the next reduction
      have told : r₃.due = [] := by
        rcases closed with ⟨rfl, told⟩ | ⟨b, more, rfl⟩
        · cases after
          exact told
        · cases after with
          | cons step _ =>
            cases step with
            | reduced _ _ _ settled => exact settled
      rw [told, List.map_nil, List.append_nil] at calls
      exact ⟨next, reduction, calls⟩

theorem subscriptions (h : Follows reduce r events r₂) :
    events.filterMap StoreEvent.subscription? = List.range' r.next (r₂.next - r.next) ∧
      r.next ≤ r₂.next := by
  induction h with
  | nil => simp
  | @cons r r₁ r₂ e events step _ ih =>
    obtain ⟨ids, grows⟩ := ih
    cases step with
    | reduced a next reduction settled | called id rest front | unsubscribed id =>
      exact ⟨ids, grows⟩
    | subscribed =>
      dsimp only at ids grows
      -- the id taken is the one the rest counts on from
      have more : r₂.next - r.next = r₂.next - (r.next + 1) + 1 := by omega
      refine ⟨?_, by omega⟩
      rw [more, List.range'_succ, ← ids]
      rfl

theorem answer {pre rest : List (StoreEvent S A)} {found : Bool}
    (h : Follows reduce r (pre ++ .unsubscribed id found :: rest) r₂) :
    ∃ r₁, Follows reduce r pre r₁ ∧ found = decide (id ∈ r₁.ids) := by
  obtain ⟨r₁, before, after⟩ := h.split
  cases after with
  | cons step _ =>
    cases step with
    | unsubscribed _ => exact ⟨r₁, before, rfl⟩

theorem removed {pre mid post : List (StoreEvent S A)} {a : A} (start : r.Issued)
    (h : Follows reduce r (pre ++ .unsubscribed id true :: (mid ++ .reduced a :: post)) r₂)
    (state : S) : .called id state ∉ post := by
  obtain ⟨r₁, before, after⟩ := h.split
  have issued := before.issued start
  cases after with
  | cons step rest =>
    obtain ⟨found, rfl⟩ := step.of_unsubscribed
    -- it was registered, so its id was handed out, and the removal took it out
    have below := issued.ids_lt id (of_decide_eq_true found.symm)
    have out : id ∉ r₁.ids.filter (· ≠ id) := fun mem => of_decide_eq_true
      (List.mem_filter.1 mem).2 rfl
    obtain ⟨r₃, during, later⟩ := rest.split
    obtain ⟨out', below'⟩ := during.absent out below
    cases later with
    | cons step rest' =>
      cases step with
      | reduced _ _ _ settled => exact rest'.not_called out' out' below' state

theorem joined_late {pre mid post : List (StoreEvent S A)} (start : r.Issued)
    (h : Follows reduce r (pre ++ .subscribed id :: (mid ++ post)) r₂)
    (quiet : ∀ b, .reduced b ∉ mid) (state : S) : .called id state ∉ mid := by
  obtain ⟨r₁, before, after⟩ := h.split
  have issued := before.issued start
  cases after with
  | cons step rest =>
    cases step with
    | subscribed =>
      obtain ⟨r₃, during, _⟩ := rest.split
      have calls := (during.calls_of_quiet quiet).1
      dsimp only at calls
      -- the calls before the next reduction go to those due already, which came before it
      intro mem
      have made := List.mem_append_left (r₃.due.map (·, r₁.state)) (StoreEvent.mem_calls.2 mem)
      rw [calls, List.mem_map] at made
      obtain ⟨i, mem_due, same⟩ := made
      rw [Prod.mk.injEq] at same
      have handed := issued.due_lt i mem_due
      omega

theorem joined_next {pre mid round tail : List (StoreEvent S A)} {a : A}
    (h : Follows reduce r (pre ++ .subscribed id :: (mid ++ .reduced a :: (round ++ tail))) r₂)
    (kept : ∀ found, .unsubscribed id found ∉ mid)
    (quiet_round : ∀ b, .reduced b ∉ round)
    (closed : tail = [] ∧ r₂.due = [] ∨ ∃ b rest, tail = .reduced b :: rest) :
    ∃ state, .called id state ∈ round := by
  obtain ⟨r₁, _, after⟩ := h.split
  cases after with
  | cons step rest =>
    cases step with
    | subscribed =>
      obtain ⟨r₃, during, later⟩ := rest.split
      have registered := during.present (List.mem_append_right _ (List.mem_singleton_self _)) kept
      obtain ⟨next, -, calls⟩ := later.calls_of_round quiet_round closed
      refine ⟨next, StoreEvent.mem_calls.1 ?_⟩
      rw [calls]
      exact List.mem_map_of_mem registered

end Follows

/-- What the record of a run shows of the promise made from `start`, read off the machine. -/
structure Promised (reduce : S → A → Except String S) (start : Registry S)
    (events : List (StoreEvent S A)) : Prop where
  /-- The calls after a reduction, up to the next one or the end, are the registry at the
  reduction, in the order of subscription, each with the new state. -/
  rounds : ∀ pre a round tail, events = pre ++ .reduced a :: (round ++ tail) →
    (∀ b, .reduced b ∉ round) → (tail = [] ∨ ∃ b rest, tail = .reduced b :: rest) →
    ∃ r next, Follows reduce start pre r ∧ r.ids.Pairwise (· < ·) ∧
      reduce r.state a = .ok next ∧ round.filterMap StoreEvent.call? = r.ids.map (·, next)
  /-- No call comes before the first reduction. -/
  unreduced : ∀ pre rest, events = pre ++ rest → (∀ b, .reduced b ∉ pre) →
    pre.filterMap StoreEvent.call? = []
  /-- A removal answers whether the id is registered at that moment. -/
  answers : ∀ pre id found rest, events = pre ++ .unsubscribed id found :: rest →
    ∃ r, Follows reduce start pre r ∧ found = decide (id ∈ r.ids)
  /-- A subscriber that is removed is not called after the next reduction. -/
  removed : ∀ pre id mid a post state,
    events = pre ++ .unsubscribed id true :: (mid ++ .reduced a :: post) → .called id state ∉ post
  /-- A subscriber is not called before the next reduction after it subscribes. -/
  joined_late : ∀ pre id mid post state, events = pre ++ .subscribed id :: (mid ++ post) →
    (∀ b, .reduced b ∉ mid) → .called id state ∉ mid
  /-- A subscriber is called in the round of every reduction after it subscribes that comes
  before it is removed. -/
  joined_next : ∀ pre id mid a round tail,
    events = pre ++ .subscribed id :: (mid ++ .reduced a :: (round ++ tail)) →
    (∀ found, .unsubscribed id found ∉ mid) →
    (∀ b, .reduced b ∉ round) → (tail = [] ∨ ∃ b rest, tail = .reduced b :: rest) →
    ∃ state, .called id state ∈ round

theorem Follows.promised (h : Follows reduce r events r₂) (start : r.Issued) (told : r.due = [])
    (settled : r₂.due = []) : Promised reduce r events := by
  -- a round closed by the end of the run is closed because the run ends with everyone told
  have close : ∀ tail : List (StoreEvent S A), (tail = [] ∨ ∃ b rest, tail = .reduced b :: rest) →
      tail = [] ∧ r₂.due = [] ∨ ∃ b rest, tail = .reduced b :: rest :=
    fun tail closed => closed.imp_left fun ended => ⟨ended, settled⟩
  constructor
  · intro pre a round tail spelled quiet closed
    rw [spelled] at h
    obtain ⟨r₁, before, after⟩ := h.split
    obtain ⟨next, reduction, calls⟩ := after.calls_of_round quiet (close tail closed)
    exact ⟨r₁, next, before, (before.issued start).ordered, reduction, calls⟩
  · intro pre rest spelled quiet
    rw [spelled] at h
    obtain ⟨r₁, before, _⟩ := h.split
    exact before.calls_eq_nil_of_quiet told quiet
  · intro pre id found rest spelled
    rw [spelled] at h
    exact h.answer
  · intro pre id mid a post state spelled
    rw [spelled] at h
    exact h.removed start state
  · intro pre id mid post state spelled quiet
    rw [spelled] at h
    exact h.joined_late start quiet state
  · intro pre id mid a round tail spelled kept quiet closed
    rw [spelled] at h
    exact h.joined_next kept quiet (close tail closed)

/-- The record of `w` takes the promise from `start` to the registry of the store `s`, with the
subscribers `due` still to be told of its state. -/
def Keeps (reduce : S → A → Except String S) (start : Registry S) (due : List Nat) (s : Store S A)
    (w : Traced S A W) : Prop :=
  Follows reduce start w.2 (of s due)

end Registry

open Registry

theorem Script.lands_traced {reduce : S → A → Except String S} (start : Registry S) (due : List Nat)
    (P : Store S A → Prop) (subscribed : ∀ s, P s → P s.subscribe.2)
    (unsubscribed : ∀ s id, P s → P (s.unsubscribe id).2)
    {d : A → Run S A (Traced S A W) Unit} {n : A → Run S A (Traced S A W) (List A)}
    (dispatches : ∀ a s w, Keeps reduce start due s w → P s →
      Lands (d a) s w fun s w => Keeps reduce start due s w ∧ P s)
    (forwards : ∀ a s w, Keeps reduce start due s w → P s →
      Lands (n a) s w fun s w => Keeps reduce start due s w ∧ P s) :
    ∀ (script : Script S A W) (s : Store S A) (w : Traced S A W), Keeps reduce start due s w →
      P s → Lands (script.traced.run d n) s w fun s w => Keeps reduce start due s w ∧ P s := by
  intro script
  -- on the script, as for `Script.stops_run`; a subscription or a removal adds its event
  induction script with
  | done => exact fun _ _ holds kept => stops_done ⟨holds, kept⟩
  | forward a rest ih =>
    exact fun s w holds kept => stops_forward (forwards a s w holds kept)
      fun s₁ w₁ landed => ih s₁ w₁ landed.1 landed.2
  | dispatch b rest ih =>
    exact fun s w holds kept => stops_dispatch (dispatches b s w holds kept)
      fun s₁ w₁ landed => ih s₁ w₁ landed.1 landed.2
  | read rest ih => exact fun s w holds kept => stops_read (ih s.state s w holds kept)
  | observe rest ih => exact fun s w holds kept => stops_observe (ih w.1 s w holds kept)
  | update f rest ih => exact fun s w holds kept => stops_update (ih s (f w.1, w.2) holds kept)
  | log record rest ih => exact fun s w holds kept => stops_log (ih s w holds kept)
  | subscribe rest ih =>
    exact fun s w holds kept => stops_subscribe (stops_update
      (ih s.subscribe.1 s.subscribe.2 _ (holds.snoc (.subscribed _)) (subscribed s kept)))
  | unsubscribe id rest ih =>
    intro s w holds kept
    -- the store answers with `contains`, the promise with membership
    have answer : (s.unsubscribe id).1 = decide (id ∈ s.subscribers) := by
      simp [Store.unsubscribe]
    have step : Step reduce (of s due) (.unsubscribed id (s.unsubscribe id).1)
        (of (s.unsubscribe id).2 due) := by
      rw [answer]
      exact .unsubscribed _ id
    exact stops_unsubscribe (stops_update
      (ih (s.unsubscribe id).1 (s.unsubscribe id).2 _ (holds.snoc step) (unsubscribed s id kept)))
  | panic message => exact fun _ _ _ _ => stops_panic message trivial

namespace Pipeline

variable (p : Pipeline S A W) (start : Registry S)

theorem lands_notifyAll (state : S) :
    ∀ (ids : List Nat) (s : Store S A) (w : Traced S A W), Keeps p.reduce start ids s w →
      s.state = state → Lands (p.traced.notifyAll Run.enqueue state ids) s w
        fun s w => Keeps p.reduce start [] s w ∧ s.state = state
  | [], _, _, holds, same => Stops.pure () ⟨holds, same⟩
  | id :: ids, s, w, holds, same => by
    have called : Keeps p.reduce start ids s (note (.called id state) w) := by
      rw [← same]
      exact holds.snoc (.called _ id ids rfl)
    have listened := Script.lands_traced start ids (·.state = state) (fun _ kept => kept)
      (fun _ _ kept => kept) (fun b _ _ holds kept => Stops.enqueue b ⟨holds, kept⟩)
      (fun _ _ _ holds kept => Stops.pure [] ⟨holds, kept⟩) (p.notify id state) s _ called same
    exact Stops.bind (Script.stops_update listened) fun _ _ _ landed =>
      lands_notifyAll state ids _ _ landed.1 landed.2

theorem lands_reduced (a : A) (s : Store S A) (w : Traced S A W)
    (holds : Keeps p.reduce start [] s w) :
    Lands (p.traced.chain Run.enqueue [noteReduced] a) s w (Keeps p.reduce start []) := by
  refine Script.stops_update (Script.stops_forward
    (p.traced.stops_reduceAndNotify a (fun _ _ => trivial) fun next reduction => ?_)
    fun _ _ landed => Script.stops_done landed)
  have reduced : Keeps p.reduce start s.subscribers { s with state := next }
      (note (.reduced a) w) :=
    holds.snoc (.reduced _ a next reduction rfl)
  exact (p.lands_notifyAll start next s.subscribers _ _ reduced rfl).mono
    (fun _ _ landed => landed.1) fun _ _ _ => trivial

theorem lands_chain :
    ∀ (stages : List (A → Script S A W)) (a : A) (s : Store S A) (w : Traced S A W),
      Keeps p.reduce start [] s w →
      Lands (p.traced.chain Run.enqueue
        (stages.map (fun stage a => (stage a).traced) ++ [noteReduced]) a) s w
        (Keeps p.reduce start [])
  | [], a, s, w, holds => p.lands_reduced start a s w holds
  | stage :: rest, a, s, w, holds =>
    (Script.lands_traced start [] (fun _ => True) (fun _ _ => trivial) (fun _ _ _ => trivial)
      (fun b _ _ holds _ => Stops.enqueue b ⟨holds, trivial⟩)
      (fun b s w holds _ => (lands_chain rest b s w holds).mono (fun _ _ kept => ⟨kept, trivial⟩)
        fun _ _ _ => trivial)
      (stage a) s w holds trivial).mono (fun _ _ landed => landed.1) fun _ _ _ => trivial

theorem lands_traced_dispatch (fuel : Nat) (a : A) (s : Store S A) (w : Traced S A W)
    (holds : Keeps p.reduce start [] s w) (idle : s.draining = false) :
    Lands (submit (p.traced.drain fuel) a) s w
      fun s w => Keeps p.reduce start [] s w ∧ s.draining = false :=
  (p.traced.lands_dispatch (Keeps p.reduce start [])
    (fun _ _ _ _ _ holds => p.lands_chain start p.stages _ _ _ holds) (fun _ _ holds => holds)
    fuel a idle holds).mono (fun _ _ landed => ⟨landed.1, landed.2.1⟩) fun _ _ _ => trivial

theorem lands_program (fuel : Nat) (program : Script S A W) (s : Store S A) (w : Traced S A W)
    (holds : Keeps p.reduce start [] s w) (idle : s.draining = false) :
    Lands (program.traced.run (submit (p.traced.drain fuel)) fun _ => pure []) s w
      fun s w => Keeps p.reduce start [] s w ∧ s.draining = false :=
  Script.lands_traced start [] (·.draining = false) (fun _ idle => idle) (fun _ _ idle => idle)
    (fun a s w holds idle => p.lands_traced_dispatch start fuel a s w holds idle)
    (fun _ _ _ holds idle => Stops.pure [] ⟨holds, idle⟩) program s w holds idle

end Pipeline

/-- A script run at the top against the store's own dispatch, with any bound on its drains, from
a new store, that returns: its twin with the record beside the world returns the same, with the
same store, world and log. The record follows the promise from the empty registry to the registry
of the store the run ends in, with everyone told; it keeps the promise in all the ways of
`Registry.Promised`; and the subscriptions took the ids 1, 2, 3, … in turn. -/
theorem subscribers_follow_the_registry (p : Pipeline S A W) (fuel : Nat) (initial : S)
    (world : W) (program : Script S A W) {result : List A} {m : Machine S A W}
    (returned : (program.run (Pipeline.submit (p.drain fuel)) fun _ => pure []).run
      ⟨Store.create initial, world, []⟩ = .ok result m) :
    ∃ events : List (StoreEvent S A),
      (program.traced.run (Pipeline.submit (p.traced.drain fuel)) fun _ => pure []).run
          ⟨Store.create initial, (world, []), []⟩ =
        .ok result ⟨m.store, (m.world, events), m.logs⟩ ∧
      Follows p.reduce ⟨[], 1, initial, []⟩ events (Registry.of m.store []) ∧
      Promised p.reduce ⟨[], 1, initial, []⟩ events ∧
      events.filterMap StoreEvent.subscription? = List.range' 1 (m.store.nextSubscriber - 1) := by
  have twin := Script.shadows_traced (p.shadows_dispatch fuel) (fun _ => Shadows.pure []) program
    ⟨Store.create initial, (world, []), []⟩
  rw [show Machine.forget ⟨Store.create initial, (world, []), []⟩ =
    (⟨Store.create initial, world, []⟩ : Machine S A W) from rfl, returned] at twin
  -- the twin returns where the run does, with the record beside the world
  cases traced : (program.traced.run (Pipeline.submit (p.traced.drain fuel)) fun _ => pure []).run
      ⟨Store.create initial, (world, []), []⟩ with
  | error e m' =>
    rw [traced] at twin
    cases twin
  | ok v m' =>
    rw [traced] at twin
    cases twin
    have issued : (⟨[], 1, initial, []⟩ : Registry S).Issued :=
      ⟨fun _ => False.elim ∘ List.not_mem_nil, fun _ => False.elim ∘ List.not_mem_nil,
        List.Pairwise.nil⟩
    have follows : Follows p.reduce ⟨[], 1, initial, []⟩ m'.world.2 (Registry.of m'.store []) :=
      ((p.lands_program ⟨[], 1, initial, []⟩ fuel program (Store.create initial) (world, [])
        (.nil _) rfl).returned traced).1
    exact ⟨m'.world.2, rfl, follows, follows.promised issued rfl rfl, follows.subscriptions.1⟩

theorem subscriber_told_of_dispatch :
    ((Script.subscribe fun _ => .dispatch 5 .done : Script Counter Int CounterWorld).run
        (counterPipeline []).dispatch fun _ => pure []).run (CounterMachine.create 0) =
      .ok []
        { store :=
            { state := ⟨5, 1⟩
              queue := []
              draining := false
              subscribers := [1]
              nextSubscriber := 2 }
          world := { notes := [⟨"listener", 1, 5⟩], responders := [] }
          logs := [] } ∧
    ∃ events : List (StoreEvent Counter Int),
      Follows (counterPipeline []).reduce ⟨[], 1, Counter.create 0, []⟩ events
        ⟨[1], 2, ⟨5, 1⟩, []⟩ ∧
      Promised (counterPipeline []).reduce ⟨[], 1, Counter.create 0, []⟩ events ∧
      events.filterMap StoreEvent.subscription? = [1] := by
  have run : ((Script.subscribe fun _ => .dispatch 5 .done : Script Counter Int CounterWorld).run
        (counterPipeline []).dispatch fun _ => pure []).run (CounterMachine.create 0) =
      .ok []
        { store :=
            { state := ⟨5, 1⟩
              queue := []
              draining := false
              subscribers := [1]
              nextSubscriber := 2 }
          world := { notes := [⟨"listener", 1, 5⟩], responders := [] }
          logs := [] } := rfl
  obtain ⟨events, -, follows, promised, subscriptions⟩ :=
    subscribers_follow_the_registry (counterPipeline []) drainBudget (Counter.create 0) _ _ run
  exact ⟨run, events, follows, promised, subscriptions⟩

end SheetStore
