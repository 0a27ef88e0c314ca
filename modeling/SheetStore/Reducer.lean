import SheetStore.Action
import SheetStore.State
import SheetStore.Grid.Shared

/-! How actions change the state, as values and as the allocations the store holds: which
slices an action renews, and which it hands back.
-/

set_option autoImplicit false

namespace SheetStore

def reduceWorkbook (w : Workbook) : Action → Workbook
  | .editCells edits =>
    ⟨{ w.settings with data := w.settings.data.withEdits edits w.settings.declaredBounds }⟩
  | .setReadOnly readOnly => ⟨{ w.settings with readOnly }⟩
  | _ => w

def reduceRouter (r : RouterState) : Action → RouterState
  | .locationChange payload => payload
  | _ => r

def reduceRoot (s : AppState) (a : Action) : AppState :=
  { router := reduceRouter s.router a, workbook := reduceWorkbook s.workbook a }

/-- The workbook slice as the store holds it: its settings, whose data stands behind the pointers
of `data`. -/
structure SharedWorkbook where
  settings : GridSettings
  data : SharedMatrix
  view_data : data.view = settings.data

/-- The state as the store holds it: the address of the root and each slice behind its pointer. -/
structure SharedState where
  root : Nat
  router : Shared RouterState
  workbook : Shared SharedWorkbook

namespace SharedState

def view (s : SharedState) : AppState :=
  { router := s.router.val, workbook := ⟨s.workbook.val.settings⟩ }

/-- Every allocation of the state lies below `next`. -/
structure Below (s : SharedState) (next : Nat) : Prop where
  root : s.root < next
  router : s.router.addr < next
  workbook : s.workbook.addr < next
  data : s.workbook.val.data.Below next

end SharedState

/-- The workbook reducer on the slice the store holds. An edit batch copies the data as
`SharedMatrix.withEdits` does, within the bounds declared before the batch. -/
def reduceSharedWorkbook (w : Shared SharedWorkbook) : Action → Alloc (Shared SharedWorkbook)
  | .editCells edits => do
    let data ← w.val.data.withEdits edits w.val.settings.declaredBounds
    Shared.alloc ⟨{ w.val.settings with data := data.view }, data, rfl⟩
  | .setReadOnly readOnly =>
    Shared.alloc ⟨{ w.val.settings with readOnly }, w.val.data, w.val.view_data⟩
  | _ => pure w

def reduceSharedRouter (r : Shared RouterState) : Action → Alloc (Shared RouterState)
  | .locationChange payload => Shared.alloc payload
  | _ => pure r

namespace SharedState

/-- The root reducer on the state the store holds: both slices reduced, and the root handed back
when both slices were. -/
def reduce (s : SharedState) (a : Action) : Alloc SharedState := do
  let router ← reduceSharedRouter s.router a
  let workbook ← reduceSharedWorkbook s.workbook a
  if router.addr = s.router.addr ∧ workbook.addr = s.workbook.addr then pure s
  else
    let root ← modifyGet fun next => (next, next + 1)
    pure { root, router, workbook }

def place (s : AppState) : Alloc SharedState := do
  let data ← SharedMatrix.place s.settings.data
  let workbook ← Shared.alloc
    ({ settings := { s.settings with data := data.view }, data, view_data := rfl } : SharedWorkbook)
  let router ← Shared.alloc s.router
  let root ← modifyGet fun next => (next, next + 1)
  pure { root, router, workbook }

/-! ### Allocations stay below the counter -/

theorem Below.mono {s : SharedState} {next next' : Nat} (h : s.Below next) (le : next ≤ next') :
    s.Below next' :=
  ⟨Nat.lt_of_lt_of_le h.root le, Nat.lt_of_lt_of_le h.router le,
    Nat.lt_of_lt_of_le h.workbook le, h.data.mono le⟩

theorem below_reduceSharedRouter {r : Shared RouterState} {next : Nat} (h : r.addr < next)
    (a : Action) :
    ((reduceSharedRouter r a).run next).1.addr < ((reduceSharedRouter r a).run next).2 ∧
      next ≤ ((reduceSharedRouter r a).run next).2 := by
  cases a with
  | locationChange payload => exact ⟨Nat.lt_succ_self next, Nat.le_succ next⟩
  | _ => exact ⟨h, Nat.le_refl next⟩

theorem below_reduceSharedWorkbook {w : Shared SharedWorkbook} {next : Nat}
    (h : w.addr < next ∧ w.val.data.Below next) (a : Action) :
    let step := (reduceSharedWorkbook w a).run next
    (step.1.addr < step.2 ∧ step.1.val.data.Below step.2) ∧ next ≤ step.2 := by
  cases a with
  | editCells edits =>
    obtain ⟨below, le⟩ := SharedMatrix.below_withEdits h.2 edits w.val.settings.declaredBounds
    simp only [reduceSharedWorkbook, SharedMatrix.run_bind, Shared.run_alloc]
    exact ⟨⟨Nat.lt_succ_self _, below.mono (Nat.le_succ _)⟩, Nat.le_succ_of_le le⟩
  | setReadOnly readOnly =>
    exact ⟨⟨Nat.lt_succ_self next, h.2.mono (Nat.le_succ next)⟩, Nat.le_succ next⟩
  | _ => exact ⟨h, Nat.le_refl next⟩

theorem Below.reduce {s : SharedState} {next : Nat} (h : s.Below next) (a : Action) :
    ((s.reduce a).run next).1.Below ((s.reduce a).run next).2 ∧
      next ≤ ((s.reduce a).run next).2 := by
  obtain ⟨router, le⟩ := below_reduceSharedRouter h.router a
  have moved : s.workbook.addr < ((reduceSharedRouter s.router a).run next).2 ∧
      s.workbook.val.data.Below ((reduceSharedRouter s.router a).run next).2 :=
    ⟨Nat.lt_of_lt_of_le h.workbook le, h.data.mono le⟩
  obtain ⟨⟨workbook, data⟩, le'⟩ := below_reduceSharedWorkbook moved a
  simp only [SharedState.reduce, SharedMatrix.run_bind]
  -- the root is handed back when both slices are, and is a new allocation otherwise
  split
  · exact ⟨h.mono (Nat.le_trans le le'), Nat.le_trans le le'⟩
  · exact ⟨⟨Nat.lt_succ_self _, Nat.lt_succ_of_lt (Nat.lt_of_lt_of_le router le'),
      Nat.lt_succ_of_lt workbook, data.mono (Nat.le_succ _)⟩,
      Nat.le_succ_of_le (Nat.le_trans le le')⟩

theorem place_below (s : AppState) (next : Nat) :
    ((place s).run next).1.view = s ∧ ((place s).run next).1.Below ((place s).run next).2 := by
  obtain ⟨values, below, -⟩ := SharedMatrix.place_below s.settings.data next
  simp only [place, SharedMatrix.run_bind, Shared.run_alloc, view, values]
  exact ⟨rfl, ⟨Nat.lt_succ_self _, Nat.lt_succ_of_lt (Nat.lt_succ_self _),
    Nat.lt_succ_of_lt (Nat.lt_succ_of_lt (Nat.lt_succ_self _)),
    below.mono (Nat.le_succ_of_le (Nat.le_succ_of_le (Nat.le_succ _)))⟩⟩

end SharedState

end SheetStore
