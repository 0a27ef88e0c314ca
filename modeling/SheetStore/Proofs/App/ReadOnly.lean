import SheetStore.Proofs.App.Rounds

/-! The read-only guard reads the flag in the state the action was taken off the queue in,
and a read-only state is never reduced by an edit.
-/

set_option autoImplicit false

namespace SheetStore

namespace Tracked

/-- The state a round of `a` leaves, taken off the queue in `t`: `t` reduced by `a`, unless the
guard locks `a`. -/
def guardedReduce (t : Tracked) (a : Action) : Tracked := if t.locks a then t else t.reduce a

theorem reduce_callHistory (t : Tracked) (c : HistoryCommand) : t.reduce (.callHistory c) = t :=
  t.reduce_of_quiet ⟨nofun, nofun, nofun⟩

theorem data_reduce_of_unlocked {t : Tracked} {a : Action}
    (readOnly : t.state.settings.readOnly = true) (unlocked : t.locks a = false) :
    (t.reduce a).shared.workbook.val.data = t.shared.workbook.val.data := by
  have other : ∀ edits, a ≠ .editCells edits := by
    rintro edits rfl
    simp_all [locks]
  exact (SharedState.data_reduce_sameOrNew t.below a).1 ((t.data_addr_reduce_eq_iff a).2 other)

end Tracked

theorem chain_guarded (a : Action) (s : Store Tracked Action) (w : AppWorld) :
    Stops (appPipeline.chain Run.enqueue appPipeline.stages a) s w
      (fun s' _ => s'.state = s.state.guardedReduce a)
      fun s' _ => s'.state = s.state.guardedReduce a := by
  -- subscribers and navigations, which hand nothing down the chain, keep the state
  have still : ∀ (script : AppScript) (target : Tracked) (s' : Store Tracked Action)
      (w' : AppWorld), s'.state = target →
      Stops (script.run Run.enqueue fun _ => pure []) s' w' (fun s' _ => s'.state = target)
        fun s' _ => s'.state = target :=
    fun script target => Script.stops_run (fun s' => s'.state = target) (fun _ _ kept => kept)
      (fun _ kept => kept) (fun _ _ kept => kept) (fun _ _ _ kept => Stops.pure [] kept) script
  apply AppStage.stops_logger
  apply AppStage.stops_readOnly
  · intro unlocked
    rw [show s.state.guardedReduce a = s.state.reduce a by simp [Tracked.guardedReduce, unlocked]]
    apply AppStage.stops_router
    · intro _
      apply AppStage.stops_effects
      · rw [Pipeline.chain_nil]
        refine appPipeline.stops_reduceAndNotify_of_ok a rfl ?_
        exact appPipeline.stops_notifyAll _ _ (fun _ => still _ _) _ _ _ rfl
      · exact fun _ _ _ kept => kept
    · intro c issued
      subst issued
      unfold AppScript.navigation
      rw [(AppScript.local_navigateWithin navigationDepth c .done).run_eq _ fun _ => pure []]
      exact still _ _ s w (s.state.reduce_callHistory c).symm
  · intro locked
    show s.state = s.state.guardedReduce a
    simp [Tracked.guardedReduce, locked]

/-- In every round of a drain, the chain the drain runs on an action it took off the queue, the
guard decides on the state every earlier action left. An edit met while the grid is read-only
comes back having reached nothing: no reducer, no subscriber, nothing but the log changes. Every
other action is reduced in that state, and the round, whether it returns or panics, stops in the
state the reduction gives; a reduction of a read-only state keeps the data allocation. -/
theorem readOnly_checked_at_dequeue (fuel : Nat) (a : Action) (m : AppMachine)
    (draining : m.store.draining = true) :
    (m.store.state.locks a = true →
      ∃ logs, (appPipeline.chain (Pipeline.submit (appPipeline.drain fuel)) appPipeline.stages
        a).run m = .ok [] { m with logs }) ∧
    (landing ((appPipeline.chain (Pipeline.submit (appPipeline.drain fuel)) appPipeline.stages
      a).run m)).store.state = m.store.state.guardedReduce a ∧
    (m.store.state.state.settings.readOnly = true → m.store.state.locks a = false →
      (m.store.state.reduce a).shared.workbook.val.data = m.store.state.shared.workbook.val.data) := by
  -- while the queue is drained, a dispatch in the round only queues
  rw [appPipeline.chain_submit (appPipeline.drain fuel) appPipeline.stages a m draining]
  refine ⟨?_, (chain_guarded a m.store m.world).holds_landing m.logs,
    fun readOnly unlocked => Tracked.data_reduce_of_unlocked readOnly unlocked⟩
  intro locked
  cases a
  case editCells edits => exact yields_chain_dropped locked m.logs
  all_goals exact absurd locked Bool.false_ne_true

theorem read_only_drain_drops_edit :
    ∃ logs, (appPipeline.chain (Pipeline.submit (appPipeline.drain 0)) appPipeline.stages
        (.editCells [⟨0, 0, .empty, .text "x"⟩])).run
        ⟨⟨(Tracked.create default).reduce (.setReadOnly true), [], true, [], 1⟩, default, []⟩ =
      .ok [] ⟨⟨(Tracked.create default).reduce (.setReadOnly true), [], true, [], 1⟩, default, logs⟩ :=
  (readOnly_checked_at_dequeue 0 (.editCells [⟨0, 0, .empty, .text "x"⟩]) _ rfl).1 (by decide)

end SheetStore
