import SheetStore.Proofs.Reducer.Sharing

/-! Runs of the reducers only ever grow the grid, and one step grows it no further than
the bounds declared before it.
-/

set_option autoImplicit false

namespace SheetStore

def Workbook.reduceAll (w : Workbook) (actions : List Action) : Workbook :=
  actions.foldl reduceWorkbook w

def AppState.reduceAll (s : AppState) (actions : List Action) : AppState :=
  actions.foldl reduceRoot s

theorem AppState.reduceAll_append (s : AppState) (xs ys : List Action) :
    s.reduceAll (xs ++ ys) = (s.reduceAll xs).reduceAll ys := by
  simp [reduceAll, List.foldl_append]

theorem AppState.workbook_reduceAll (s : AppState) (actions : List Action) :
    (s.reduceAll actions).workbook = s.workbook.reduceAll actions := by
  induction actions generalizing s with
  | nil => rfl
  | cons a actions ih => exact ih (reduceRoot s a)

namespace GridSettings

/-- `s'` keeps every row of `s`, each no shorter, and the same spare rows and columns. -/
structure Grows (s s' : GridSettings) : Prop where
  data : s.data.Grows s'.data
  spareRows : s'.spareRows = s.spareRows
  spareColumns : s'.spareColumns = s.spareColumns

namespace Grows

theorem refl (s : GridSettings) : Grows s s := ⟨Matrix.Grows.refl _, rfl, rfl⟩

theorem trans {s₁ s₂ s₃ : GridSettings} (first : Grows s₁ s₂) (second : Grows s₂ s₃) :
    Grows s₁ s₃ :=
  ⟨first.data.trans second.data, second.spareRows.trans first.spareRows,
    second.spareColumns.trans first.spareColumns⟩

variable {s s' : GridSettings}

theorem declaredBounds_fst_le (h : Grows s s') : s.declaredBounds.1 ≤ s'.declaredBounds.1 := by
  have more := h.data.rowCount_le
  simp only [declaredBounds, h.spareRows]
  omega

theorem declaredBounds_snd_le (h : Grows s s') : s.declaredBounds.2 ≤ s'.declaredBounds.2 := by
  have longer := h.data.maxRowLength_le
  simp only [declaredBounds, h.spareColumns]
  omega

theorem accepts {row column : Nat} (h : Grows s s') (accepted : s.accepts row column = true) :
    s'.accepts row column = true := by
  have rows := h.declaredBounds_fst_le
  have columns := h.declaredBounds_snd_le
  simp only [GridSettings.accepts, Bool.and_eq_true, decide_eq_true_eq] at accepted ⊢
  omega

end Grows

end GridSettings

/-! ### One step -/

section Step

variable (w : Workbook) (a : Action)

theorem grows_reduceWorkbook : w.settings.Grows (reduceWorkbook w a).settings := by
  cases a with
  | editCells edits => exact ⟨Matrix.grows_withEdits _ edits _, rfl, rfl⟩
  | _ => exact ⟨Matrix.Grows.refl _, rfl, rfl⟩

theorem rowCount_reduceWorkbook_le :
    (reduceWorkbook w a).settings.data.rowCount ≤
      max w.settings.data.rowCount w.settings.declaredBounds.1 := by
  cases a with
  | editCells edits => exact Matrix.rowCount_withEdits_le _ edits _
  | _ => exact Nat.le_max_left _ _

theorem maxRowLength_reduceWorkbook_le :
    (reduceWorkbook w a).settings.data.maxRowLength ≤
      max w.settings.data.maxRowLength w.settings.declaredBounds.2 := by
  cases a with
  | editCells edits => exact Matrix.maxRowLength_withEdits_le _ edits _
  | _ => exact Nat.le_max_left _ _

end Step

theorem grows_reduceAll (w : Workbook) (actions : List Action) :
    w.settings.Grows (w.reduceAll actions).settings := by
  induction actions generalizing w with
  | nil => exact GridSettings.Grows.refl _
  | cons a actions ih => exact (grows_reduceWorkbook w a).trans (ih _)

/-- Along any run of the reducers the grid only grows. Between the state after `xs` and the
state after `xs ++ ys`, every row stays and is no shorter, so the row count does not fall, every
cell stays, both declared bounds do not fall and every accepted edit position stays accepted. One
step from the state after `xs` makes no more rows and no longer rows than the bounds declared
there: the data plus the spares, counted with 64-bit sizes. The workbook of a run of the root
reducer is the run of the workbook reducer, so the same holds of workbook runs. -/
theorem grid_grows_along_runs (s : AppState) (xs ys : List Action) :
    let before := (s.reduceAll xs).settings
    let after := (s.reduceAll (xs ++ ys)).settings
    (s.reduceAll xs).workbook = s.workbook.reduceAll xs ∧
      before.data.rowCount ≤ after.data.rowCount ∧
      (∀ i n, before.data.rowLength i = some n →
        ∃ n', after.data.rowLength i = some n' ∧ n ≤ n') ∧
      (∀ row column, before.data.contains row column = true →
        after.data.contains row column = true) ∧
      before.declaredBounds.1 ≤ after.declaredBounds.1 ∧
      before.declaredBounds.2 ≤ after.declaredBounds.2 ∧
      (∀ row column, before.accepts row column = true → after.accepts row column = true) ∧
      ∀ a, (reduceRoot (s.reduceAll xs) a).settings.data.rowCount ≤
          max before.data.rowCount before.declaredBounds.1 ∧
        (reduceRoot (s.reduceAll xs) a).settings.data.maxRowLength ≤
          max before.data.maxRowLength before.declaredBounds.2 := by
  intro before after
  -- the run from the state after `xs` is a run of the workbook reducer from its workbook
  have grows : before.Grows after := by
    simp only [before, after, AppState.settings, s.reduceAll_append,
      AppState.workbook_reduceAll _ ys]
    exact grows_reduceAll _ ys
  exact ⟨AppState.workbook_reduceAll s xs, grows.data.rowCount_le, grows.data,
    fun _ _ present => grows.data.contains present, grows.declaredBounds_fst_le,
    grows.declaredBounds_snd_le, fun _ _ accepted => grows.accepts accepted,
    fun a => ⟨rowCount_reduceWorkbook_le _ a, maxRowLength_reduceWorkbook_le _ a⟩⟩

end SheetStore
