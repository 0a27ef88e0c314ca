import SheetStore.App.Store
import SheetStore.Proofs.Reducer.Allocation

/-! What one reduction of the store's state allocates and shares: every part is the one
before or a new allocation (`Shared.SameOrNew`), as the action decides.
-/

set_option autoImplicit false

namespace SheetStore

namespace Tracked

theorem ext {t t' : Tracked} (shared : t.shared = t'.shared) (next : t.next = t'.next) :
    t = t' := by
  cases t
  cases t'
  simp only at shared next
  subst shared next
  rfl

variable (t : Tracked) (a : Action)

theorem reduce_of_quiet {a : Action}
    (quiet : (∀ p, a ≠ .locationChange p) ∧ (∀ edits, a ≠ .editCells edits) ∧
      ∀ b, a ≠ .setReadOnly b) :
    t.reduce a = t := by
  have run := SharedState.run_reduce_of_quiet t.shared t.next quiet
  exact ext (congrArg Prod.fst run) (congrArg Prod.snd run)

theorem state_reduce : (t.reduce a).state = reduceRoot t.state a :=
  SharedState.view_reduce t.below a

theorem root_reduce_eq_iff :
    (t.reduce a).root = t.root ↔
      (∀ p, a ≠ .locationChange p) ∧ (∀ edits, a ≠ .editCells edits) ∧
        ∀ b, a ≠ .setReadOnly b :=
  SharedState.root_reduce_eq_iff t.below a

theorem data_addr_reduce_eq_iff :
    (t.reduce a).shared.workbook.val.data.addr = t.shared.workbook.val.data.addr ↔
      ∀ edits, a ≠ .editCells edits :=
  SharedState.data_addr_reduce_eq_iff t.below a

theorem settings_reduce :
    (t.reduce a).state.settings =
      { t.state.settings with
        data := (t.reduce a).state.settings.data
        readOnly := (t.reduce a).state.settings.readOnly } := by
  rw [state_reduce]
  cases a <;> rfl

theorem readOnly_reduce (other : ∀ b, a ≠ .setReadOnly b) :
    (t.reduce a).state.settings.readOnly = t.state.settings.readOnly := by
  rw [state_reduce]
  cases a with
  | setReadOnly b => exact absurd rfl (other b)
  | _ => rfl

theorem reduce_setReadOnly_editCells (b : Bool) (edits : List CellEdit) :
    ((t.reduce (.setReadOnly b)).reduce (.editCells edits)).state.workbook =
      ((t.reduce (.editCells edits)).reduce (.setReadOnly b)).state.workbook := by
  simp only [state_reduce, reduceRoot, reduceWorkbook, GridSettings.declaredBounds]

/-- What a reduction allocates: the root, the router slice, the workbook and the data are each the
part before, exactly for the actions that leave them, or a new allocation past the counter; an
edit batch copies exactly the rows an accepted edit addresses. Of the settings only the data and
the read-only flag change, and the switch and an edit batch commute. -/
theorem reduce_shares :
    ((t.reduce a).root = t.root ↔
        (∀ p, a ≠ .locationChange p) ∧ (∀ edits, a ≠ .editCells edits) ∧
          ∀ b, a ≠ .setReadOnly b) ∧
      ((t.reduce a).root = t.root → (t.reduce a).shared = t.shared) ∧
      ((t.reduce a).root ≠ t.root → t.next ≤ (t.reduce a).root) ∧
      ((t.reduce a).shared.router.addr = t.shared.router.addr ↔
        ∀ p, a ≠ .locationChange p) ∧
      t.shared.router.SameOrNew t.next (t.reduce a).shared.router ∧
      ((t.reduce a).shared.workbook.addr = t.shared.workbook.addr ↔
        (∀ edits, a ≠ .editCells edits) ∧ ∀ b, a ≠ .setReadOnly b) ∧
      t.shared.workbook.SameOrNew t.next (t.reduce a).shared.workbook ∧
      ((t.reduce a).shared.workbook.val.data.addr = t.shared.workbook.val.data.addr ↔
        ∀ edits, a ≠ .editCells edits) ∧
      t.shared.workbook.val.data.SameOrNew t.next (t.reduce a).shared.workbook.val.data ∧
      (∀ edits, a = .editCells edits → ∀ i (old : SharedRow),
        t.shared.workbook.val.data.val[i]? = some old →
        ∃ row, (t.reduce a).shared.workbook.val.data.val[i]? = some row ∧
          (row.addr = old.addr ↔
            ¬∃ e ∈ edits, t.state.settings.accepts e.row e.column = true ∧ e.row = i) ∧
          old.SameOrNew t.next row) ∧
      (t.reduce a).state.settings =
        { t.state.settings with
          data := (t.reduce a).state.settings.data
          readOnly := (t.reduce a).state.settings.readOnly } ∧
      ((∀ b, a ≠ .setReadOnly b) →
        (t.reduce a).state.settings.readOnly = t.state.settings.readOnly) ∧
      (∀ b edits, ((t.reduce (.setReadOnly b)).reduce (.editCells edits)).state.workbook =
        ((t.reduce (.editCells edits)).reduce (.setReadOnly b)).state.workbook) := by
  refine ⟨root_reduce_eq_iff t a, SharedState.reduce_of_root_eq t.below a,
    SharedState.le_root_reduce t.below a, SharedState.router_addr_reduce_eq_iff t.below a,
    SharedState.router_reduce_sameOrNew t.below a,
    SharedState.workbook_addr_reduce_eq_iff t.below a,
    SharedState.workbook_reduce_sameOrNew t.below a, data_addr_reduce_eq_iff t a,
    SharedState.data_reduce_sameOrNew t.below a, ?_, settings_reduce t a, readOnly_reduce t a,
    reduce_setReadOnly_editCells t⟩
  rintro edits rfl i old found
  -- an edit is accepted exactly when it lies inside the declared bounds
  exact SharedState.row_reduce_editCells t.below edits found

end Tracked

end SheetStore
