import SheetStore.Nav.History

/-! A history as a timeline: the entries behind, the current one and the entries ahead,
each navigation the matching move of the timeline.
-/

set_option autoImplicit false

namespace SheetStore

/-- A history as a timeline: the entries behind the current one, nearest first, the current
entry, the entries ahead, nearest first, and the count of keys handed out. -/
structure Timeline where
  past : List Location
  present : Location
  future : List Location
  keysMade : Nat
  deriving DecidableEq

namespace Timeline

def start (path : String) : Timeline := ⟨[], Location.parse path (locationKey 0), [], 1⟩

def fresh (t : Timeline) (path : String) : Location := Location.parse path (locationKey t.keysMade)

def push (t : Timeline) (path : String) : Timeline :=
  ⟨t.present :: t.past, t.fresh path, [], t.keysMade + 1⟩

def replace (t : Timeline) (path : String) : Timeline :=
  { t with present := t.fresh path, keysMade := t.keysMade + 1 }

def back : Nat → Timeline → Option Timeline
  | 0, t => some t
  | n + 1, t =>
    match t.past with
    | [] => none
    | p :: past => back n ⟨past, p, t.present :: t.future, t.keysMade⟩

def forward : Nat → Timeline → Option Timeline
  | 0, t => some t
  | n + 1, t =>
    match t.future with
    | [] => none
    | f :: future => forward n ⟨t.present :: t.past, f, future, t.keysMade⟩

def go (t : Timeline) (delta : Int) : Option Timeline :=
  if delta < 0 then t.back delta.natAbs
  else if 0 < delta then t.forward delta.natAbs
  else none

def stack (t : Timeline) : List Location := t.past.reverse ++ t.present :: t.future

def index (t : Timeline) : Nat := t.past.length

theorem index_lt_length (t : Timeline) : t.index < t.stack.length := by
  simp [index, stack]

theorem back_some : ∀ (n : Nat) (t : Timeline), n ≤ t.index →
    ∃ t', t.back n = some t' ∧ t'.stack = t.stack ∧ t'.index = t.index - n ∧
      t'.keysMade = t.keysMade
  | 0, t, _ => ⟨t, rfl, rfl, rfl, rfl⟩
  | n + 1, ⟨[], _, _, _⟩, enough => by simp [index] at enough
  | n + 1, ⟨p :: past, present, future, k⟩, enough => by
    -- one step moves the nearest entry behind into place and the current one ahead
    obtain ⟨t', moved, stacked, indexed, keys⟩ :=
      back_some n ⟨past, p, present :: future, k⟩ (by simp [index] at enough ⊢; omega)
    refine ⟨t', moved, ?_, ?_, keys⟩
    · rw [stacked]
      simp [stack]
    · rw [indexed]
      simp [index]

theorem back_none : ∀ (n : Nat) (t : Timeline), t.index < n → t.back n = none
  | 0, _, short => absurd short (Nat.not_lt_zero _)
  | n + 1, ⟨[], _, _, _⟩, _ => rfl
  | n + 1, ⟨p :: past, present, future, k⟩, short =>
    back_none n ⟨past, p, present :: future, k⟩ (by simp [index] at short ⊢; omega)

theorem forward_some : ∀ (n : Nat) (t : Timeline), t.index + n < t.stack.length →
    ∃ t', t.forward n = some t' ∧ t'.stack = t.stack ∧ t'.index = t.index + n ∧
      t'.keysMade = t.keysMade
  | 0, t, _ => ⟨t, rfl, rfl, rfl, rfl⟩
  | n + 1, ⟨_, _, [], _⟩, enough => by simp [index, stack] at enough
  | n + 1, ⟨past, present, f :: future, k⟩, enough => by
    obtain ⟨t', moved, stacked, indexed, keys⟩ :=
      forward_some n ⟨present :: past, f, future, k⟩
        (by simp [index, stack] at enough ⊢; omega)
    refine ⟨t', moved, ?_, ?_, keys⟩
    · rw [stacked]
      simp [stack]
    · rw [indexed]
      simp [index]
      omega

theorem forward_none : ∀ (n : Nat) (t : Timeline), t.stack.length ≤ t.index + n →
    t.forward n = none
  | 0, t, short => absurd short (Nat.not_le_of_lt (by simpa using t.index_lt_length))
  | n + 1, ⟨_, _, [], _⟩, _ => rfl
  | n + 1, ⟨past, present, f :: future, k⟩, short =>
    forward_none n ⟨present :: past, f, future, k⟩ (by simp [index, stack] at short ⊢; omega)

theorem go_some (t : Timeline) {delta : Int} (nonzero : delta ≠ 0) (above : 0 ≤ t.index + delta)
    (below : t.index + delta < t.stack.length) :
    ∃ t', t.go delta = some t' ∧ t'.stack = t.stack ∧ (t'.index : Int) = t.index + delta ∧
      t'.keysMade = t.keysMade := by
  unfold go
  by_cases negative : delta < 0
  · obtain ⟨t', moved, stacked, indexed, keys⟩ := t.back_some delta.natAbs (by omega)
    exact ⟨t', by simp [negative, moved], stacked, by omega, keys⟩
  · obtain ⟨t', moved, stacked, indexed, keys⟩ := t.forward_some delta.natAbs (by omega)
    exact ⟨t', by simp [negative, show 0 < delta by omega, moved], stacked, by omega, keys⟩

theorem go_none (t : Timeline) (delta : Int)
    (stays : ¬(delta ≠ 0 ∧ 0 ≤ t.index + delta ∧ t.index + delta < t.stack.length)) :
    t.go delta = none := by
  have inside := t.index_lt_length
  unfold go
  by_cases negative : delta < 0
  · simp only [negative, if_true]
    exact t.back_none delta.natAbs (by omega)
  · by_cases positive : 0 < delta
    · simp only [negative, positive, if_true, if_false]
      exact t.forward_none delta.natAbs (by omega)
    · simp [negative, positive]

end Timeline

namespace History

def Valid (h : History) : Prop := h.index < h.stack.length

def timeline (h : History) : Timeline :=
  ⟨(h.stack.take h.index).reverse, h.location, h.stack.drop (h.index + 1), h.keysMade⟩

variable {h : History}

theorem valid_create (path : String) : (create path).Valid := by
  simp [Valid, create]

theorem timeline_create (path : String) : (create path).timeline = Timeline.start path := rfl

theorem location_eq_getElem (inside : h.index < h.stack.length) :
    h.location = h.stack[h.index] := by
  simp [location, List.getD_eq_getElem?_getD, List.getElem?_eq_getElem inside]

theorem stack_timeline (valid : h.Valid) : h.timeline.stack = h.stack := by
  have inside : h.index < h.stack.length := valid
  simp only [timeline, Timeline.stack, List.reverse_reverse, location_eq_getElem inside]
  rw [List.getElem_cons_drop, List.take_append_drop]

theorem index_timeline (valid : h.Valid) : h.timeline.index = h.index := by
  simp only [timeline, Timeline.index, List.length_reverse, List.length_take]
  exact Nat.min_eq_left (Nat.le_of_lt valid)

theorem timeline_eq_iff (valid : h.Valid) {t : Timeline} :
    h.timeline = t ↔ t.stack = h.stack ∧ t.index = h.index ∧ t.keysMade = h.keysMade := by
  constructor
  · rintro rfl
    exact ⟨stack_timeline valid, index_timeline valid, rfl⟩
  · -- the stack split at the cursor gives back the entries behind, the current one and the rest
    obtain ⟨past, present, future, k⟩ := t
    rintro ⟨stacked, indexed, keys⟩
    simp only [Timeline.stack, Timeline.index] at stacked indexed keys
    simp [timeline, location, ← stacked, ← indexed, keys, List.drop_append]

theorem valid_push (h : History) (path : String) : (h.push path).1.Valid := by
  simp [Valid, push, fresh]

theorem timeline_push (valid : h.Valid) (path : String) :
    (h.push path).1.timeline = h.timeline.push path := by
  have inside : h.index < h.stack.length := valid
  refine (timeline_eq_iff (h.valid_push path)).2 ⟨?_, ?_, rfl⟩
  · simp only [Timeline.push, Timeline.stack, timeline, push, fresh, Timeline.fresh,
      List.reverse_cons, List.reverse_reverse, location_eq_getElem inside]
    rw [List.take_add_one, List.getElem?_eq_getElem inside]
    simp
  · simp [Timeline.push, Timeline.index, timeline, push, fresh]
    omega

theorem transition_push (h : History) (path : String) :
    (h.push path).2.2 = some ((h.timeline.push path).present, .push) := rfl

theorem valid_replace (valid : h.Valid) (path : String) : (h.replace path).1.Valid := by
  simpa [Valid, replace, fresh] using valid

theorem timeline_replace (valid : h.Valid) (path : String) :
    (h.replace path).1.timeline = h.timeline.replace path := by
  have inside : h.index < h.stack.length := valid
  refine (timeline_eq_iff (valid_replace valid path)).2 ⟨?_, ?_, rfl⟩
  · simp only [Timeline.replace, Timeline.stack, timeline, replace, fresh, Timeline.fresh,
      List.reverse_reverse]
    rw [List.set_eq_take_append_cons_drop, if_pos inside]
  · simp [Timeline.replace, Timeline.index, timeline, replace, fresh]
    omega

theorem transition_replace (h : History) (path : String) :
    (h.replace path).2.2 = some ((h.timeline.replace path).present, .replace) := rfl

theorem go_timeline (valid : h.Valid) (delta : Int) :
    (h.go delta).1.Valid ∧ (h.go delta).1.timeline = (h.timeline.go delta).getD h.timeline ∧
      (h.go delta).2.2 = (h.timeline.go delta).map fun t => (t.present, .pop) := by
  have stacked := stack_timeline valid
  have indexed := index_timeline valid
  by_cases moves :
      delta ≠ 0 ∧ 0 ≤ (h.index : Int) + delta ∧ (h.index : Int) + delta < h.stack.length
  · -- the step stays inside the stack: both move, and to the same cursor
    obtain ⟨nonzero, above, below⟩ := moves
    obtain ⟨t', stepped, stack', index', keys'⟩ :=
      Timeline.go_some h.timeline nonzero (by omega) (by rw [stacked]; omega)
    have target : h.target delta = some ((h.index : Int) + delta).toNat := by
      simp [target, length, nonzero, above, below]
    let h' : History := { h with index := ((h.index : Int) + delta).toNat, lastMove := .pop }
    have valid' : h'.Valid := by
      show ((h.index : Int) + delta).toNat < h.stack.length
      omega
    have reads : h'.timeline = t' :=
      (timeline_eq_iff valid').2 ⟨by rw [stack', stacked], by simp [h']; omega, keys'⟩
    have went : h.go delta = (h', [], some (h'.location, .pop)) := by
      simp only [go, target]
      rfl
    rw [went, stepped, ← reads]
    exact ⟨valid', rfl, rfl⟩
  · -- a zero step or one past either end: neither moves
    have target : h.target delta = none := by
      simp only [target, length]
      exact if_neg moves
    have stays := Timeline.go_none h.timeline delta (by rw [stacked, indexed]; exact moves)
    simp [go, target, stays, valid]

end History

end SheetStore
