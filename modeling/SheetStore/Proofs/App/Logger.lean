import SheetStore.Proofs.App.ReadOnly

/-! What the logger reports against what the round does: in between it and the second
look, only the reducer changes the state, once (`chain_guarded`).
-/

set_option autoImplicit false

namespace SheetStore

variable {S A W : Type}

/-! ## Runs only add to the log -/

/-- Whether it returns or panics, a run only adds records after those already logged. -/
def KeepsLog {α : Type} (x : Run S A W α) : Prop :=
  ∀ m, ∃ more, (landing (x.run m)).logs = m.logs ++ more

namespace KeepsLog

theorem pure {α : Type} (v : α) : KeepsLog (Pure.pure v : Run S A W α) :=
  fun _ => ⟨[], (List.append_nil _).symm⟩

theorem of_ok {α : Type} {x : Run S A W α}
    (step : ∀ m, ∃ v m', x.run m = .ok v m' ∧ m'.logs = m.logs) : KeepsLog x := by
  intro m
  obtain ⟨v, m', ran, same⟩ := step m
  exact ⟨[], by rw [ran, List.append_nil]; exact same⟩

theorem bind {α β : Type} {x : Run S A W α} {f : α → Run S A W β} (first : KeepsLog x)
    (second : ∀ v, KeepsLog (f v)) : KeepsLog (x >>= f) := by
  intro m
  obtain ⟨more, grown⟩ := first m
  rw [EStateM.run_bind]
  cases ran : x.run m with
  | ok v m₁ =>
    rw [ran] at grown
    obtain ⟨later, grown'⟩ := second v m₁
    exact ⟨more ++ later, by rw [grown', show m₁.logs = m.logs ++ more from grown,
      List.append_assoc]⟩
  | error e m₁ =>
    rw [ran] at grown
    exact ⟨more, grown⟩

theorem state : KeepsLog (Run.state : Run S A W S) := of_ok fun _ => ⟨_, _, rfl, rfl⟩

theorem world : KeepsLog (Run.world : Run S A W W) := of_ok fun _ => ⟨_, _, rfl, rfl⟩

theorem modifyWorld (f : W → W) : KeepsLog (Run.modifyWorld f : Run S A W Unit) :=
  of_ok fun _ => ⟨_, _, rfl, rfl⟩

theorem enqueue (a : A) : KeepsLog (Run.enqueue a : Run S A W Unit) :=
  of_ok fun _ => ⟨_, _, rfl, rfl⟩

theorem subscribe : KeepsLog (Run.subscribe : Run S A W Nat) := of_ok fun _ => ⟨_, _, rfl, rfl⟩

theorem unsubscribe (id : Nat) : KeepsLog (Run.unsubscribe id : Run S A W Bool) :=
  of_ok fun _ => ⟨_, _, rfl, rfl⟩

end KeepsLog

theorem Script.keepsLog_run {d : A → Run S A W Unit} {n : A → Run S A W (List A)}
    (dispatches : ∀ a, KeepsLog (d a)) (forwards : ∀ a, KeepsLog (n a)) (script : Script S A W) :
    KeepsLog (script.run d n) := by
  induction script with
  | done => exact .pure []
  | forward a rest ih => exact (forwards a).bind fun _ => ih.bind fun _ => .pure _
  | dispatch a rest ih => exact (dispatches a).bind fun _ => ih
  | read rest ih => exact KeepsLog.state.bind ih
  | observe rest ih => exact KeepsLog.world.bind ih
  | update f rest ih => exact (KeepsLog.modifyWorld f).bind fun _ => ih
  | log record rest ih => exact KeepsLog.bind (fun m => ⟨[record], rfl⟩) fun _ => ih
  | subscribe rest ih => exact KeepsLog.subscribe.bind ih
  | unsubscribe id rest ih => exact (KeepsLog.unsubscribe id).bind ih
  | panic message => exact fun m => ⟨[], (List.append_nil _).symm⟩

namespace Pipeline

variable (p : Pipeline S A W)

theorem keepsLog_notifyAll (state : S) : ∀ ids : List Nat,
    KeepsLog (p.notifyAll Run.enqueue state ids)
  | [] => .pure ()
  | id :: ids =>
    (Script.keepsLog_run KeepsLog.enqueue (fun _ => .pure []) (p.notify id state)).bind
      fun _ => keepsLog_notifyAll state ids

theorem keepsLog_reduceAndNotify (a : A) : KeepsLog (p.reduceAndNotify Run.enqueue a) := by
  intro m
  cases reduction : p.reduce m.store.state a with
  | error message =>
    rw [run_reduceAndNotify_error p _ a m reduction]
    exact ⟨[], (List.append_nil _).symm⟩
  | ok next =>
    -- the state is stored with the log as it was, then the subscribers are called
    rw [run_reduceAndNotify_ok p _ a m reduction]
    exact (p.keepsLog_notifyAll next m.store.subscribers).bind (fun _ => .pure [a])
      { m with store := { m.store with state := next } }

theorem keepsLog_chain : ∀ (stages : List (A → Script S A W)) (a : A),
    KeepsLog (p.chain Run.enqueue stages a)
  | [], a => p.keepsLog_reduceAndNotify a
  | stage :: rest, a =>
    Script.keepsLog_run KeepsLog.enqueue (keepsLog_chain rest) (stage a)

end Pipeline

theorem Script.run_logAll {d : A → Run S A W Unit} {n : A → Run S A W (List A)}
    (records : List LogRecord) (rest : Script S A W) (m : Machine S A W) :
    ((Script.logAll records rest).run d n).run m =
      (rest.run d n).run { m with logs := m.logs ++ records } := by
  induction records generalizing m with
  | nil => simp [Script.logAll]
  | cons record records ih =>
    show ((Script.logAll records rest).run d n).run { m with logs := m.logs ++ [record] } = _
    rw [ih]
    simp

theorem Script.run_forward {d : A → Run S A W Unit} {n : A → Run S A W (List A)} (a : A)
    (rest : Script S A W) (m : Machine S A W) :
    ((Script.forward a rest).run d n).run m =
      match (n a).run m with
      | .ok reached m₁ =>
        match (rest.run d n).run m₁ with
        | .ok later m₂ => .ok (reached ++ later) m₂
        | .error e m₂ => .error e m₂
      | .error e m₁ => .error e m₁ := by
  simp only [Script.run, EStateM.run_bind]
  cases (n a).run m with
  | ok reached m₁ =>
    dsimp only
    cases (rest.run d n).run m₁ <;> rfl
  | error e m₁ => rfl

/-! ## The logger stage -/

/-- What the logger writes before it hands an action on, judged against the settings `s`: the
action's kind and, for an edit batch, one record per edit. -/
def loggerHeader (a : Action) (s : GridSettings) : List LogRecord :=
  ⟨.debug, LogTarget.logger, "action " ++ a.kind⟩ ::
    match a with
    | .editCells edits => edits.map (editRecord s)
    | _ => []

/-- What the logger writes once the chain has come back from `before` to `after`: the trace
when the root kept its stamp. -/
def loggerTrailer (before after : Tracked) : List LogRecord :=
  if after.root = before.root then [⟨.trace, LogTarget.logger, "state unchanged"⟩] else []

def loggerNote (before : Tracked) : Tracked → AppScript := fun after =>
  if after.root = before.root then .log ⟨.trace, LogTarget.logger, "state unchanged"⟩ .done
  else .done

theorem AppStage.logger_eq (a : Action) :
    AppStage.logger a = .read fun before =>
      Script.logAll (loggerHeader a before.state.settings) (.forward a (.read (loggerNote before))) := by
  cases a <;> rfl

theorem loggerNote_run (before : Tracked) (d : Action → AppRun Unit)
    (n : Action → AppRun (List Action)) (m : AppMachine) :
    ((Script.read (loggerNote before)).run d n).run m =
      .ok [] { m with logs := m.logs ++ loggerTrailer before m.store.state } := by
  show (((loggerNote before) m.store.state).run d n).run m = _
  unfold loggerNote loggerTrailer
  split
  · rfl
  · simp only [List.append_nil]
    rfl

theorem AppStage.logger_run (a : Action) (d : Action → AppRun Unit)
    (n : Action → AppRun (List Action)) (m : AppMachine) :
    ((AppStage.logger a).run d n).run m =
      match (n a).run { m with logs := m.logs ++ loggerHeader a m.store.state.state.settings } with
      | .ok reached m₁ =>
        .ok reached { m₁ with logs := m₁.logs ++ loggerTrailer m.store.state m₁.store.state }
      | .error e m₁ => .error e m₁ := by
  rw [logger_eq]
  show ((Script.logAll _ _).run d n).run m = _
  rw [Script.run_logAll, Script.run_forward]
  cases (n a).run { m with logs := m.logs ++ loggerHeader a m.store.state.state.settings } with
  | ok reached m₁ => simp only [loggerNote_run, List.append_nil]
  | error e m₁ => rfl

/-! ## A round as the logger sees it -/

theorem appPipeline_stages :
    appPipeline.stages = AppStage.logger :: [AppStage.readOnly, AppStage.router, AppStage.effects] :=
  rfl

theorem round_logs (a : Action) (m : AppMachine) :
    (∃ rest, (landing ((appPipeline.chain Run.enqueue appPipeline.stages a).run m)).logs =
      m.logs ++ loggerHeader a m.store.state.state.settings ++ rest) ∧
    ∀ reached m', (appPipeline.chain Run.enqueue appPipeline.stages a).run m = .ok reached m' →
      ∃ inner, m'.logs = m.logs ++ loggerHeader a m.store.state.state.settings ++ inner ++
        loggerTrailer m.store.state m'.store.state := by
  let m₀ : AppMachine := { m with logs := m.logs ++ loggerHeader a m.store.state.state.settings }
  obtain ⟨more, grown⟩ := appPipeline.keepsLog_chain
    [AppStage.readOnly, AppStage.router, AppStage.effects] a m₀
  rw [appPipeline_stages, Pipeline.chain_cons, AppStage.logger_run]
  -- everything behind the logger runs from the log with the header added
  revert grown
  cases (appPipeline.chain Run.enqueue [AppStage.readOnly, AppStage.router, AppStage.effects] a).run
      m₀ with
  | ok reached m₁ =>
    intro grown
    change m₁.logs = m₀.logs ++ more at grown
    refine ⟨⟨more ++ loggerTrailer m.store.state m₁.store.state, ?_⟩, ?_⟩
    · simp [landing, grown, m₀]
    · rintro _ m' ⟨⟩
      exact ⟨more, by simp [grown, m₀]⟩
  | error e m₁ =>
    intro grown
    refine ⟨⟨more, grown⟩, ?_⟩
    rintro _ _ ⟨⟩

/-! ## Edits judged and edits applied -/

theorem GridSettings.accepts_eq_inBounds (s : GridSettings) (e : CellEdit) :
    s.accepts e.row e.column = Matrix.inBounds s.declaredBounds e :=
  rfl

theorem Matrix.applyEdits_eq_foldl (bounds : Nat × Nat) (rows : List (List Cell))
    (edits : List CellEdit) :
    Matrix.applyEdits bounds rows edits =
      (edits.filter (Matrix.inBounds bounds)).foldl Matrix.setCell rows := by
  induction edits generalizing rows with
  | nil => rfl
  | cons e es ih =>
    by_cases inside : Matrix.inBounds bounds e = true
    · simp [Matrix.applyEdits, inside, ih]
    · simp [Matrix.applyEdits, inside, ih]

theorem editRecord_eq_skip_iff (s : GridSettings) (e : CellEdit) :
    editRecord s e = ⟨.warn, LogTarget.logger, "skipping edit outside the grid at " ++ e.display⟩ ↔
      Matrix.inBounds s.declaredBounds e = false := by
  rw [editRecord, GridSettings.accepts_eq_inBounds]
  cases Matrix.inBounds s.declaredBounds e
  · simp
  · -- inside the bounds the record is a trace or a debug one
    rw [if_pos rfl]
    dsimp only
    split <;> simp

theorem editRecord_eq_stale_iff (s : GridSettings) (e : CellEdit)
    (inside : Matrix.inBounds s.declaredBounds e = true) :
    editRecord s e =
        ⟨.debug, LogTarget.logger, "stale edit at " ++ e.display ++ ", cell holds \x27" ++
          ((s.data.get e.row e.column).getD .empty).display ++ "\x27"⟩ ↔
      ((s.data.get e.row e.column).getD .empty).sameValue e.old = false := by
  rw [editRecord, GridSettings.accepts_eq_inBounds, if_pos inside]
  cases same : ((s.data.get e.row e.column).getD .empty).sameValue e.old <;> simp [same]

theorem Tracked.root_guardedReduce_eq_iff (t : Tracked) (a : Action) :
    (t.guardedReduce a).root = t.root ↔
      (t.locks a = true ∨ ∃ c, a = .callHistory c) ∨ (t.reduce a).root = t.root := by
  by_cases locked : t.locks a = true
  · simp [guardedReduce, locked]
  · rw [guardedReduce, if_neg locked]
    constructor
    · exact .inr
    · rintro ((locked' | ⟨c, rfl⟩) | kept)
      · exact absurd locked' locked
      · -- a history command is handed back by the reducer
        rw [t.reduce_callHistory c]
      · exact kept

/-- In every round of a drain the logger reports what the round does: its records, judged in the
state the action was taken off the queue in, warn exactly about the edits the reducer skips and
call stale exactly the accepted edits whose cell held something else; its closing trace is written
exactly when the round swallowed the action or the reducer handed the root back. -/
theorem logger_reports_the_round (fuel : Nat) (a : Action) (m : AppMachine)
    (draining : m.store.draining = true) :
    let s := m.store.state
    let round :=
      (appPipeline.chain (Pipeline.submit (appPipeline.drain fuel)) appPipeline.stages a).run m
    (∃ rest, (landing round).logs = m.logs ++ loggerHeader a s.state.settings ++ rest) ∧
    (∀ edits, a = .editCells edits → s.state.settings.readOnly = false →
      (landing round).store.state.state.settings.data =
        ⟨(edits.filter (Matrix.inBounds s.state.settings.declaredBounds)).foldl Matrix.setCell
          s.state.settings.data.rows⟩ ∧
      ∀ e ∈ edits,
        (editRecord s.state.settings e =
            ⟨.warn, LogTarget.logger, "skipping edit outside the grid at " ++ e.display⟩ ↔
          Matrix.inBounds s.state.settings.declaredBounds e = false) ∧
        (Matrix.inBounds s.state.settings.declaredBounds e = true →
          (editRecord s.state.settings e =
              ⟨.debug, LogTarget.logger, "stale edit at " ++ e.display ++ ", cell holds \x27" ++
                ((s.state.settings.data.get e.row e.column).getD .empty).display ++ "\x27"⟩ ↔
            ((s.state.settings.data.get e.row e.column).getD .empty).sameValue e.old = false))) ∧
    (∀ reached m', round = .ok reached m' →
      (∃ inner, m'.logs = m.logs ++ loggerHeader a s.state.settings ++ inner ++
        loggerTrailer s m'.store.state) ∧
      (m'.store.state.root = s.root ↔
        (s.locks a = true ∨ ∃ c, a = .callHistory c) ∨ (s.reduce a).root = s.root)) := by
  intro s round
  -- while the queue is drained, a dispatch in the round only queues
  have queued : round = (appPipeline.chain Run.enqueue appPipeline.stages a).run m :=
    appPipeline.chain_submit (appPipeline.drain fuel) appPipeline.stages a m draining
  have guarded : (landing round).store.state = s.guardedReduce a := by
    rw [queued]
    exact (chain_guarded a m.store m.world).holds_landing m.logs
  obtain ⟨opened, closed⟩ := round_logs a m
  rw [← queued] at opened closed
  refine ⟨opened, fun edits issued writable => ⟨?_, fun e _ =>
    ⟨editRecord_eq_skip_iff _ e, editRecord_eq_stale_iff _ e⟩⟩, fun reached m' ran =>
    ⟨closed reached m' ran, ?_⟩⟩
  · -- the batch passes the guard and is reduced in the state the logger judged it in
    subst issued
    have unlocked : s.locks (.editCells edits) = false := by simpa [Tracked.locks] using writable
    rw [guarded, Tracked.guardedReduce, if_neg (by simp [unlocked]), Tracked.state_reduce]
    simp [reduceRoot, reduceWorkbook, Matrix.withEdits, Matrix.applyEdits_eq_foldl,
      AppState.settings]
  · -- the round returns in the state the guard lets the reducer make
    rw [ran] at guarded
    rw [show m'.store.state = s.guardedReduce a from guarded]
    exact s.root_guardedReduce_eq_iff a

theorem logger_warns_about_skipped_edit :
    let m : AppMachine :=
      ⟨⟨Tracked.create ⟨default, ⟨GridSettings.withData ⟨[[.empty]]⟩⟩⟩, [], true, [], 1⟩, default, []⟩
    let far : CellEdit := ⟨500, 0, .empty, .text "y"⟩
    (landing ((appPipeline.chain (Pipeline.submit (appPipeline.drain 0)) appPipeline.stages
        (.editCells [⟨0, 0, .empty, .text "x"⟩, far])).run m)).store.state.state.settings.data =
      ⟨[[.text "x"]]⟩ ∧
    editRecord m.store.state.state.settings far =
      ⟨.warn, LogTarget.logger, "skipping edit outside the grid at " ++ far.display⟩ := by
  intro m far
  obtain ⟨-, applied, -⟩ := logger_reports_the_round 0 (.editCells [⟨0, 0, .empty, .text "x"⟩, far]) m rfl
  obtain ⟨data, judged⟩ := applied _ rfl rfl
  exact ⟨data.trans (by decide), (judged far (by simp)).1.2 (by decide)⟩

end SheetStore
