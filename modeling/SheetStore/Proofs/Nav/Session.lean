import SheetStore.Proofs.App.Routing
import SheetStore.Proofs.Nav.Listening

/-! A history against its description as a session, a timeline with listeners, by one
invariant that every operation keeps (`Session.Tracks`).
-/

set_option autoImplicit false

namespace SheetStore

/-- A history as its description has it: a timeline, the registered listeners in the order they
registered, and how many listener ids were handed out. -/
structure Session where
  timeline : Timeline
  listeners : List Nat
  issued : Nat

namespace Session

def start (path : String) : Session := ⟨Timeline.start path, [], 0⟩

/-- The operations of a session. A navigation moves the timeline as the command says; whether a
step would move is whether the timeline can take it; a new listener gets the next id; removing an
id removes its registration and says whether there was one. -/
def ops : HistoryOps Session where
  navigate s command :=
    match s.timeline.run command with
    | some (t, kind) => ({ s with timeline := t }, [], some (t.present, kind))
    | none => (s, [], none)
  canGo s delta := (s.timeline.go delta).isSome
  listen s :=
    (s.issued + 1, { s with listeners := s.listeners ++ [s.issued + 1], issued := s.issued + 1 })
  unlisten s id := (decide (id ∈ s.listeners), { s with listeners := s.listeners.erase id })
  listeners := Session.listeners

/-- The history `h` is read as the session `s`: its cursor points into its stack, it reads as
the session's timeline, it has the session's listeners, each registered once and below the next
id, and that id is the one the session hands out next. -/
structure Tracks (h : History) (s : Session) : Prop where
  valid : h.Valid
  timeline : h.timeline = s.timeline
  listeners : h.listeners = s.listeners
  next : h.nextListener = s.issued + 1
  below : ∀ id ∈ h.listeners, id < h.nextListener
  nodup : h.listeners.Nodup

theorem tracks_start (path : String) : Tracks (History.create path) (start path) where
  valid := History.valid_create path
  timeline := History.timeline_create path
  listeners := rfl
  next := rfl
  below := by simp [History.create]
  nodup := List.nodup_nil

end Session

namespace History

variable {h : History}

theorem canGo_eq (valid : h.Valid) (delta : Int) :
    h.canGo delta = (h.timeline.go delta).isSome := by
  have told := (h.go_timeline valid delta).2.2
  -- the move `go` announces is there exactly when the target is
  have announced : (h.go delta).2.2.isSome = (h.target delta).isSome := by
    unfold go
    split <;> simp_all
  rw [canGo, ← announced, told, Option.isSome_map]

end History

namespace Session

variable {h : History} {s : Session}

theorem Tracks.moved (tracks : Tracks h s) {h' : History} {t : Timeline} (valid : h'.Valid)
    (timeline : h'.timeline = t) (listeners : h'.listeners = h.listeners)
    (next : h'.nextListener = h.nextListener) : Tracks h' { s with timeline := t } where
  valid := valid
  timeline := timeline
  listeners := listeners.trans tracks.listeners
  next := next.trans tracks.next
  below := by rw [listeners, next]; exact tracks.below
  nodup := by rw [listeners]; exact tracks.nodup

theorem Tracks.navigate (tracks : Tracks h s) (command : HistoryCommand) :
    Tracks (History.ops.navigate h command).1 (ops.navigate s command).1 ∧
      (History.ops.navigate h command).2.2 = (ops.navigate s command).2.2 := by
  obtain ⟨valid', timeline', told⟩ := HistoryCommand.applyTo_timeline tracks.valid command
  have listeners' := HistoryCommand.listeners_applyTo h command
  have next' := HistoryCommand.nextListener_applyTo h command
  rw [tracks.timeline] at timeline' told
  simp only [History.ops, ops]
  -- both sides move exactly when the timeline takes the command
  cases moved : s.timeline.run command with
  | none =>
    rw [moved] at timeline' told
    exact ⟨tracks.moved valid' timeline' listeners' next', told⟩
  | some step =>
    obtain ⟨t, kind⟩ := step
    rw [moved] at timeline' told
    exact ⟨tracks.moved valid' timeline' listeners' next', told⟩

theorem Tracks.listen (tracks : Tracks h s) :
    Tracks (History.ops.listen h).2 (ops.listen s).2 ∧
      (History.ops.listen h).1 = (ops.listen s).1 := by
  -- the new id is past every registered one, so it is registered once
  have fresh : h.nextListener ∉ h.listeners := fun mem => Nat.lt_irrefl _ (tracks.below _ mem)
  refine ⟨⟨tracks.valid, tracks.timeline, ?_, ?_, ?_, ?_⟩, ?_⟩
  · simp [History.ops, ops, History.listen, tracks.listeners, tracks.next]
  · simp [History.ops, ops, History.listen, tracks.next]
  · intro id mem
    simp only [History.ops, History.listen, List.mem_append, List.mem_singleton] at mem
    rcases mem with old | rfl
    · exact Nat.lt_succ_of_lt (tracks.below id old)
    · exact Nat.lt_succ_self _
  · refine List.nodup_append.2 ⟨tracks.nodup, by simp, fun id mem new single => ?_⟩
    rw [List.mem_singleton] at single
    subst single
    exact fun same => fresh (same ▸ mem)
  · simp [History.ops, ops, History.listen, tracks.next]

theorem Tracks.unlisten (tracks : Tracks h s) (id : Nat) :
    Tracks (History.ops.unlisten h id).2 (ops.unlisten s id).2 ∧
      (History.ops.unlisten h id).1 = (ops.unlisten s id).1 := by
  -- each id is registered once, so removing its one registration removes every one
  have removed : s.listeners.erase id = h.listeners.filter (· ≠ id) := by
    rw [← tracks.listeners, tracks.nodup.erase_eq_filter]
    congr 1
    funext other
    by_cases same : other = id <;> simp [same]
  refine ⟨⟨tracks.valid, tracks.timeline, ?_, tracks.next, ?_, ?_⟩, ?_⟩
  · simp [History.ops, ops, History.unlisten, removed]
  · intro other mem
    simp only [History.ops, History.unlisten, List.mem_filter] at mem
    exact tracks.below other mem.1
  · exact tracks.nodup.filter _
  · simp [History.ops, ops, History.unlisten, tracks.listeners]

theorem simulation : HistoryOps.Simulation History.ops ops Tracks where
  navigate tracks command := tracks.navigate command
  canGo tracks delta := by
    simp [History.ops, ops, History.canGo_eq tracks.valid, tracks.timeline]
  listen tracks := tracks.listen
  unlisten tracks id := tracks.unlisten id
  listeners tracks := tracks.listeners

end Session

namespace Timeline

theorem go_isSome_iff (t : Timeline) (delta : Int) :
    (t.go delta).isSome ↔
      delta ≠ 0 ∧ 0 ≤ (t.index : Int) + delta ∧
        (t.index : Int) + delta < t.stack.length := by
  constructor
  · intro moves
    by_contra stays
    rw [t.go_none delta stays] at moves
    exact Bool.false_ne_true moves
  · rintro ⟨nonzero, above, below⟩
    obtain ⟨t', moved, -⟩ := t.go_some nonzero above below
    simp [moved]

theorem go_moves {t t' : Timeline} {delta : Int} (moved : t.go delta = some t') :
    t'.stack = t.stack ∧ (t'.index : Int) = t.index + delta ∧ t'.keysMade = t.keysMade := by
  obtain ⟨nonzero, above, below⟩ := (t.go_isSome_iff delta).1 (by simp [moved])
  obtain ⟨t'', moved', kept⟩ := t.go_some nonzero above below
  rw [moved, Option.some.injEq] at moved'
  exact moved' ▸ kept

end Timeline

/-- A history against its description as a session: through any calls, listeners reacting while
they are told included, both answer and tell alike and the history reads as the session's
timeline, its cursor on an entry. A step moves exactly when it is nonzero and lands inside the
stack, counted in the integers, and a move tells each listener registered at it once, in order. -/
theorem history_refines_session (path : String) (calls : List HistoryCall) :
    Option.Rel
        (fun (x : Listened History × List (CallAnswer × Told))
            (y : Listened Session × List (CallAnswer × Told)) =>
          x.1.base.stack[x.1.base.index]? = some x.1.base.location ∧
            x.1.base.timeline = y.1.base.timeline ∧ x.1.base.listeners = y.1.base.listeners ∧
            x.2 = y.2)
        (History.ops.callAll ⟨History.create path, []⟩ calls)
        (Session.ops.callAll ⟨Session.start path, []⟩ calls) ∧
      (∀ (t : Timeline) (delta : Int),
        ((t.go delta).isSome ↔ delta ≠ 0 ∧ 0 ≤ (t.index : Int) + delta ∧
            (t.index : Int) + delta < t.stack.length) ∧
          ∀ t', t.go delta = some t' →
            t'.stack = t.stack ∧ (t'.index : Int) = t.index + delta) ∧
      ∀ (listenerOf : Nat → HistoryListener) (depth : Nat) (s s' : Session)
        (command : HistoryCommand) (logs : List LogRecord) (told : Told),
        Session.ops.navigateWithin listenerOf (depth + 1) s command = some (s', logs, told) →
        (s.timeline.run command = none → told = []) ∧
          ∀ t kind, s.timeline.run command = some (t, kind) →
            ∃ nested : List Told, nested.length = s.listeners.length ∧
              told = (s.listeners.zip nested).flatMap
                fun (id, later) => (id, t.present, kind) :: later := by
  refine ⟨?_, fun t delta => ⟨t.go_isSome_iff delta, fun t' moved => ?_⟩, ?_⟩
  · -- the history tracks the session through every call
    refine HistoryOps.rel_mono (HistoryOps.callAll_rel Session.simulation calls
      ⟨Session.tracks_start path, rfl⟩) ?_
    rintro ⟨h, answers⟩ ⟨s, answers'⟩ ⟨⟨tracks, -⟩, same⟩
    have inside : h.base.index < h.base.stack.length := tracks.valid
    exact ⟨by rw [History.location_eq_getElem inside, List.getElem?_eq_getElem inside],
      tracks.timeline, tracks.listeners, same⟩
  · obtain ⟨stack, index, -⟩ := Timeline.go_moves moved
    exact ⟨stack, index⟩
  · intro listenerOf depth s s' command logs told ran
    obtain ⟨still, moved⟩ := Session.ops.told_navigateWithin listenerOf ran
    refine ⟨fun stays => still (by simp [Session.ops, stays]), fun t kind goes => ?_⟩
    -- a move keeps the session's listeners, and they are the ones told
    have listeners : Session.ops.listeners (Session.ops.navigate s command).1 = s.listeners := by
      simp [Session.ops, goes]
    have shape := moved t.present kind (by simp [Session.ops, goes])
    rw [listeners] at shape
    exact shape

end SheetStore
