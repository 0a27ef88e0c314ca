import SheetStore.Nav.Listening

/-! What calls on a history with reacting listeners do, over any base: who is told of a
move, and that related bases answer and tell alike (`callAll_rel`).
-/

set_option autoImplicit false

namespace SheetStore

namespace HistoryOps

variable {β γ : Type}

/-! ### Who is told of a move -/

section Told

variable (ops : HistoryOps β) (listenerOf : Nat → HistoryListener)
  (navigate : β → HistoryCommand → Option (β × List LogRecord × Told))

theorem told_tellAll (location : Location) (navigation : Navigation) :
    ∀ (ids : List Nat) {b b' : β} {logs : List LogRecord} {told : Told},
      ops.tellAll listenerOf navigate location navigation ids b = some (b', logs, told) →
      ∃ nested : List Told, nested.length = ids.length ∧
        told = (ids.zip nested).flatMap fun (id, later) => (id, location, navigation) :: later
  | [], b, b', logs, told, ran => by
    simp only [tellAll, Option.some.injEq, Prod.mk.injEq] at ran
    exact ⟨[], rfl, by simp [ran.2.2]⟩
  | id :: ids, b, b', logs, told, ran => by
    simp only [tellAll, Option.bind_eq_bind] at ran
    -- the first listener's steps, then the rest of the listeners
    obtain ⟨⟨b₁, logs₁, told₁⟩, first, ran⟩ := Option.bind_eq_some_iff.1 ran
    obtain ⟨⟨b₂, logs₂, told₂⟩, rest, ran⟩ := Option.bind_eq_some_iff.1 ran
    simp only [Option.pure_def, Option.some.injEq, Prod.mk.injEq] at ran
    obtain ⟨nested, length, shape⟩ := told_tellAll location navigation ids rest
    refine ⟨told₁ :: nested, by simp [length], ?_⟩
    rw [← ran.2.2, shape]
    rfl

theorem told_navigateWithin {depth : Nat} {b b' : β} {command : HistoryCommand}
    {logs : List LogRecord} {told : Told}
    (ran : ops.navigateWithin listenerOf (depth + 1) b command = some (b', logs, told)) :
    ((ops.navigate b command).2.2 = none → told = []) ∧
      ∀ location navigation, (ops.navigate b command).2.2 = some (location, navigation) →
        ∃ nested : List Told,
          nested.length = (ops.listeners (ops.navigate b command).1).length ∧
          told = ((ops.listeners (ops.navigate b command).1).zip nested).flatMap
            fun (id, later) => (id, location, navigation) :: later := by
  simp only [navigateWithin] at ran
  constructor
  · intro still
    simp only [still, Option.some.injEq, Prod.mk.injEq] at ran
    exact ran.2.2.symm
  · intro location navigation moved
    simp only [moved, Option.map_eq_some_iff] at ran
    obtain ⟨⟨b₁, logs₁, told₁⟩, told_all, ran⟩ := ran
    simp only [Prod.mk.injEq] at ran
    rw [← ran.2.2]
    exact ops.told_tellAll listenerOf _ location navigation _ told_all

end Told

/-! ### Simulation -/

/-- `R` relates bases of two kinds whose operations answer alike, and every operation keeps it. -/
structure Simulation (ops : HistoryOps β) (ops' : HistoryOps γ) (R : β → γ → Prop) :
    Prop where
  navigate : ∀ {b b'}, R b b' → ∀ command,
    R (ops.navigate b command).1 (ops'.navigate b' command).1 ∧
      (ops.navigate b command).2.2 = (ops'.navigate b' command).2.2
  canGo : ∀ {b b'}, R b b' → ∀ delta, ops.canGo b delta = ops'.canGo b' delta
  listen : ∀ {b b'}, R b b' →
    R (ops.listen b).2 (ops'.listen b').2 ∧ (ops.listen b).1 = (ops'.listen b').1
  unlisten : ∀ {b b'}, R b b' → ∀ id,
    R (ops.unlisten b id).2 (ops'.unlisten b' id).2 ∧
      (ops.unlisten b id).1 = (ops'.unlisten b' id).1
  listeners : ∀ {b b'}, R b b' → ops.listeners b = ops'.listeners b'

theorem rel_bind {α α' δ δ' : Type} {r : α → α' → Prop} {r' : δ → δ' → Prop}
    {x : Option α} {y : Option α'} (related : Option.Rel r x y) {f : α → Option δ}
    {g : α' → Option δ'} (next : ∀ a b, r a b → Option.Rel r' (f a) (g b)) :
    Option.Rel r' (x.bind f) (y.bind g) := by
  cases related with
  | none => exact .none
  | some related => exact next _ _ related

theorem rel_mono {α α' : Type} {r r' : α → α' → Prop} {x : Option α} {y : Option α'}
    (related : Option.Rel r x y) (weaker : ∀ a b, r a b → r' a b) : Option.Rel r' x y := by
  cases related with
  | none => exact .none
  | some related => exact .some (weaker _ _ related)

theorem rel_map {α α' δ δ' : Type} {r : α → α' → Prop} {r' : δ → δ' → Prop}
    {x : Option α} {y : Option α'} (related : Option.Rel r x y) {f : α → δ} {g : α' → δ'}
    (next : ∀ a b, r a b → r' (f a) (g b)) : Option.Rel r' (x.map f) (y.map g) := by
  cases related with
  | none => exact .none
  | some related => exact .some (next _ _ related)

abbrev Agree (R : β → γ → Prop) :
    Option (β × List LogRecord × Told) → Option (γ × List LogRecord × Told) → Prop :=
  Option.Rel fun x y => R x.1 y.1 ∧ x.2.2 = y.2.2

theorem Agree.bind {R : β → γ → Prop} {x : Option (β × List LogRecord × Told)}
    {y : Option (γ × List LogRecord × Told)} (agree : Agree R x y)
    {f : β → Option (β × List LogRecord × Told)}
    {g : γ → Option (γ × List LogRecord × Told)}
    (next : ∀ b b', R b b' → Agree R (f b) (g b')) (join : Told → Told → Told) :
    Agree R
      (do
        let (b, logs, told) ← x
        let (b, logs', told') ← f b
        pure (b, logs ++ logs', join told told'))
      (do
        let (b, logs, told) ← y
        let (b, logs', told') ← g b
        pure (b, logs ++ logs', join told told')) := by
  simp only [Option.bind_eq_bind]
  refine rel_bind agree fun ⟨b, logs, told⟩ ⟨b', logs', told'⟩ ⟨related, same⟩ => ?_
  refine rel_bind (next b b' related)
    fun ⟨_, _, later⟩ ⟨_, _, later'⟩ ⟨related', same'⟩ => ?_
  simp only at same same'
  exact .some ⟨related', by simp only [same, same']⟩

section Simulate

variable {ops : HistoryOps β} {ops' : HistoryOps γ} {R : β → γ → Prop}
  (sim : Simulation ops ops' R) (listenerOf : Nat → HistoryListener)
include sim

theorem takeSteps_agree {navigate : β → HistoryCommand → Option (β × List LogRecord × Told)}
    {navigate' : γ → HistoryCommand → Option (γ × List LogRecord × Told)}
    (agree : ∀ b b', R b b' → ∀ command,
      Agree R (navigate b command) (navigate' b' command)) :
    ∀ (steps : List ListenerStep) {b b'}, R b b' →
      Agree R (ops.takeSteps navigate steps b) (ops'.takeSteps navigate' steps b')
  | [], _, _, related => .some ⟨related, rfl⟩
  | .navigate command :: steps, b, b', related =>
    Agree.bind (agree b b' related command)
      (fun _ _ related' => takeSteps_agree agree steps related') (· ++ ·)
  | .unlisten id :: steps, _, _, related =>
    takeSteps_agree agree steps (sim.unlisten related id).1

theorem tellAll_agree {navigate : β → HistoryCommand → Option (β × List LogRecord × Told)}
    {navigate' : γ → HistoryCommand → Option (γ × List LogRecord × Told)}
    (agree : ∀ b b', R b b' → ∀ command, Agree R (navigate b command) (navigate' b' command))
    (location : Location) (navigation : Navigation) :
    ∀ (ids : List Nat) {b b'}, R b b' →
      Agree R (ops.tellAll listenerOf navigate location navigation ids b)
        (ops'.tellAll listenerOf navigate' location navigation ids b')
  | [], _, _, related => .some ⟨related, rfl⟩
  | id :: ids, _, _, related =>
    Agree.bind (takeSteps_agree sim agree _ related)
      (fun _ _ related' => tellAll_agree agree location navigation ids related')
      fun told told' => (id, location, navigation) :: (told ++ told')

theorem navigateWithin_agree :
    ∀ (depth : Nat) {b b'}, R b b' → ∀ command,
      Agree R (ops.navigateWithin listenerOf depth b command)
        (ops'.navigateWithin listenerOf depth b' command)
  | 0, _, _, _, _ => .none
  | depth + 1, b, b', related, command => by
    obtain ⟨related', moved⟩ := sim.navigate related command
    -- both move alike, and then tell the same listeners
    rcases first : ops.navigate b command with ⟨b₁, logs, moved₁⟩
    rcases second : ops'.navigate b' command with ⟨b₁', logs', moved₁'⟩
    rw [first, second] at related' moved
    simp only at related' moved
    subst moved
    cases moved₁ with
    | none =>
      simp only [navigateWithin, first, second]
      exact .some ⟨related', rfl⟩
    | some step =>
      obtain ⟨location, navigation⟩ := step
      simp only [navigateWithin, first, second]
      rw [sim.listeners related']
      exact rel_map (tellAll_agree sim listenerOf (fun _ _ related command =>
          navigateWithin_agree depth related command) location navigation
          (ops'.listeners b₁') related') fun _ _ agree => agree

def Related (R : β → γ → Prop) (s : Listened β) (s' : Listened γ) : Prop :=
  R s.base s'.base ∧ s.reactions = s'.reactions

theorem call_rel {s : Listened β} {s' : Listened γ} (related : Related R s s') (c : HistoryCall) :
    Option.Rel (fun x y => Related R x.1 y.1 ∧ x.2.1 = y.2.1 ∧ x.2.2.2 = y.2.2.2)
      (ops.call s c) (ops'.call s' c) := by
  cases c with
  | navigate command =>
    -- the same reactions answer for the listeners on both sides
    have same : s.listenerOf = s'.listenerOf := by
      unfold Listened.listenerOf
      rw [related.2]
    simp only [call, same, related.2]
    exact rel_map (navigateWithin_agree sim _ navigationDepth related.1 command)
      fun _ _ agree => ⟨⟨agree.1, rfl⟩, rfl, agree.2⟩
  | canGo delta => exact .some ⟨related, by simp [sim.canGo related.1], rfl⟩
  | listen listener =>
    obtain ⟨kept, same⟩ := sim.listen related.1
    exact .some ⟨⟨kept, by simp [related.2, same]⟩, by simp [same], rfl⟩
  | unlisten id =>
    obtain ⟨kept, same⟩ := sim.unlisten related.1 id
    exact .some ⟨⟨kept, related.2⟩, by simp [same], rfl⟩

theorem callAll_rel :
    ∀ (calls : List HistoryCall) {s : Listened β} {s' : Listened γ}, Related R s s' →
      Option.Rel (fun x y => Related R x.1 y.1 ∧ x.2 = y.2) (ops.callAll s calls)
        (ops'.callAll s' calls)
  | [], _, _, related => .some ⟨related, rfl⟩
  | c :: calls, _, _, related => by
    simp only [callAll, Option.bind_eq_bind]
    refine rel_bind (call_rel sim related c) fun ⟨_, answer, _, told⟩ ⟨_, answer', _, told'⟩
      ⟨related₁, same, same'⟩ => ?_
    refine rel_bind (callAll_rel calls related₁)
      fun ⟨_, rest⟩ ⟨_, rest'⟩ ⟨related', later⟩ => ?_
    simp only at same same' later
    exact .some ⟨related', by simp only [same, same', later]⟩

end Simulate

end HistoryOps

end SheetStore
