import SheetStore.Reducer
import SheetStore.Proofs.Grid.Edits

/-! What a reduction allocates and what it shares with the state before: editing data
copies exactly the rows an accepted edit addresses (`SharedMatrix.Copying`).
-/

set_option autoImplicit false

namespace SheetStore

/-- `after`, from a step that allocated from `next` on, is `before` itself or a new allocation. -/
def Shared.SameOrNew {α : Type} (next : Nat) (before after : Shared α) : Prop :=
  (after.addr = before.addr → after = before) ∧
    (after.addr ≠ before.addr → next ≤ after.addr)

theorem Shared.SameOrNew.mono {α : Type} {next next' : Nat} {before after : Shared α}
    (h : before.SameOrNew next' after) (le : next ≤ next') : before.SameOrNew next after :=
  ⟨h.1, fun moved => Nat.le_trans le (h.2 moved)⟩

theorem Shared.sameOrNew_self {α : Type} (next : Nat) (x : Shared α) : x.SameOrNew next x :=
  ⟨fun _ => rfl, fun moved => absurd rfl moved⟩

namespace SharedMatrix

def cells (rows : List WorkRow) : List (List Cell) := rows.map (·.row.val)

theorem cells_set (rows : List WorkRow) (i : Nat) (r : WorkRow) :
    cells (rows.set i r) = (cells rows).set i r.row.val :=
  List.map_set

theorem run_writeCell {rows : List WorkRow} {e : CellEdit} {r : WorkRow}
    (found : rows[e.row]? = some r) (next : Nat) :
    (writeCell rows e).run next =
      (rows.set e.row
          ⟨⟨if r.owned then r.row.addr else next, Matrix.editedRow e r.row.val⟩, true⟩,
        if r.owned then next else next + 1) := by
  simp only [writeCell, found, run_bind, WorkRow.run_makeMut]
  split <;> rfl

theorem getElem?_growRows_edited (rows : List WorkRow) (e : CellEdit) (next : Nat) :
    ∃ r, ((growRows (e.row + 1 - rows.length) rows).run next).1[e.row]? = some r := by
  rw [run_growRows]
  have inside : e.row < (rows ++ (List.range (e.row + 1 - rows.length)).map
      fun j => (⟨⟨next + j, []⟩, true⟩ : WorkRow)).length := by
    simp only [List.length_append, List.length_map, List.length_range]
    omega
  exact ⟨_, List.getElem?_eq_getElem inside⟩

/-! ### The cells are the value reducers' -/

theorem cells_growRows (count : Nat) (rows : List WorkRow) (next : Nat) :
    cells ((growRows count rows).run next).1 = cells rows ++ List.replicate count [] := by
  simp [run_growRows, cells, Function.comp_def, List.map_const']

theorem cells_setCell (rows : List WorkRow) (e : CellEdit) (next : Nat) :
    cells ((setCell rows e).run next).1 = Matrix.setCell (cells rows) e := by
  obtain ⟨r, found⟩ := getElem?_growRows_edited rows e next
  have grown := cells_growRows (e.row + 1 - rows.length) rows next
  -- growing pads the cells to the edited row, which writing then rewrites
  have padded : Matrix.padRows (cells rows) (e.row + 1) =
      cells rows ++ List.replicate (e.row + 1 - rows.length) [] := by
    unfold Matrix.padRows
    split
    · rename_i enough
      simp only [cells, List.length_map] at enough
      simp [Nat.sub_eq_zero_of_le enough]
    · simp [cells]
  have value : (cells ((growRows (e.row + 1 - rows.length) rows).run next).1)[e.row]? =
      some r.row.val := by
    simp [cells, found]
  rw [grown] at value
  simp only [setCell, run_bind, run_writeCell found]
  rw [cells_set, grown, Matrix.setCell, padded, List.modify_eq_set_getElem?, value]
  rfl

theorem cells_editRows (bounds : Nat × Nat) :
    ∀ (edits : List CellEdit) (rows : List WorkRow) (next : Nat),
      cells ((editRows bounds rows edits).run next).1 = Matrix.applyEdits bounds (cells rows) edits
  | [], rows, next => rfl
  | e :: edits, rows, next => by
    by_cases inside : Matrix.inBounds bounds e = true
    · rw [editRows_cons_of_inBounds inside, run_bind, cells_editRows bounds edits, cells_setCell,
        Matrix.applyEdits, if_pos inside]
    · rw [editRows_cons_of_not_inBounds inside, cells_editRows bounds edits, Matrix.applyEdits,
        if_neg inside]

theorem view_withEdits (m : SharedMatrix) (edits : List CellEdit) (bounds : Nat × Nat)
    (next : Nat) :
    ((m.withEdits edits bounds).run next).1.view = m.view.withEdits edits bounds := by
  have copied : cells (m.val.map fun row => ⟨row, false⟩) = m.val.map (·.val) := by
    simp [cells]
  have edited := cells_editRows bounds edits (m.val.map fun row => ⟨row, false⟩) next
  rw [copied] at edited
  simp only [withEdits, run_bind, Shared.run_alloc, view, Matrix.withEdits, List.map_map]
  congr 1

/-! ### Copy on write -/

def Addressed (bounds : Nat × Nat) (edits : List CellEdit) (i : Nat) : Prop :=
  ∃ e ∈ edits, Matrix.inBounds bounds e = true ∧ e.row = i

theorem addressed_append_of_ne {bounds : Nat × Nat} {done : List CellEdit} {e : CellEdit}
    {i : Nat} (other : e.row ≠ i ∨ Matrix.inBounds bounds e = false) :
    Addressed bounds (done ++ [e]) i ↔ Addressed bounds done i := by
  constructor
  · rintro ⟨e', mem, inside, row⟩
    rcases List.mem_append.1 mem with earlier | last
    · exact ⟨e', earlier, inside, row⟩
    · rw [List.mem_singleton.1 last] at inside row
      rcases other with moved | outside
      · exact absurd row moved
      · rw [outside] at inside
        cases inside
  · rintro ⟨e', mem, inside, row⟩
    exact ⟨e', List.mem_append_left _ mem, inside, row⟩

theorem getElem?_growRows {count : Nat} {rows : List WorkRow} {next i : Nat} {r : WorkRow}
    (found : ((growRows count rows).run next).1[i]? = some r) :
    rows[i]? = some r ∨
      (rows.length ≤ i ∧ r.owned = true ∧ next ≤ r.row.addr ∧
        r.row.addr < next + count) := by
  rw [run_growRows] at found
  by_cases old : i < rows.length
  · rw [List.getElem?_append_left old] at found
    exact .inl found
  · rw [List.getElem?_append_right (Nat.le_of_not_lt old), List.getElem?_map] at found
    obtain ⟨j, ranged, rfl⟩ := Option.map_eq_some_iff.1 found
    -- the new rows are numbered from the end of the old ones
    obtain ⟨within, rfl⟩ := List.getElem?_eq_some_iff.1 ranged
    rw [List.length_range] at within
    refine .inr ⟨Nat.le_of_not_lt old, rfl, Nat.le_add_right _ _, ?_⟩
    simp only [List.getElem_range]
    omega

theorem getElem?_writeCell {rows : List WorkRow} {e : CellEdit} {r : WorkRow}
    (found : rows[e.row]? = some r) (next : Nat) {i : Nat} {r' : WorkRow}
    (found' : ((writeCell rows e).run next).1[i]? = some r') :
    (i = e.row ∧ r'.owned = true ∧ r'.row.addr = if r.owned then r.row.addr else next) ∨
      (i ≠ e.row ∧ rows[i]? = some r') := by
  rw [run_writeCell found] at found'
  by_cases written : i = e.row
  · subst written
    rw [List.getElem?_set_self (List.getElem?_eq_some_iff.1 found).1, Option.some.injEq] at found'
    exact .inl ⟨rfl, by rw [← found'], by rw [← found']⟩
  · rw [List.getElem?_set_ne (Ne.symm written)] at found'
    exact .inr ⟨written, found'⟩

/-- A copy of the rows `old` being edited by `done`, with allocations made from `start` up to
`next`. The copy owns exactly the rows past the old ones and those an edit addressed, each a new
allocation; every other row is the old row itself. -/
structure Copying (old : List SharedRow) (start : Nat) (bounds : Nat × Nat)
    (done : List CellEdit) (rows : List WorkRow) (next : Nat) : Prop where
  length : old.length ≤ rows.length
  shared : ∀ (i : Nat) (r : WorkRow), rows[i]? = some r → r.owned = false →
    old[i]? = some r.row
  fresh : ∀ (i : Nat) (r : WorkRow), rows[i]? = some r → r.owned = true →
    start ≤ r.row.addr ∧ r.row.addr < next
  owned : ∀ (i : Nat) (r : WorkRow), rows[i]? = some r →
    (r.owned = true ↔ old.length ≤ i ∨ Addressed bounds done i)
  started : start ≤ next

namespace Copying

variable {old : List SharedRow} {first : Nat} {bounds : Nat × Nat} {done : List CellEdit}
  {rows : List WorkRow} {next : Nat}

theorem getElem?_unowned {i : Nat} {r : WorkRow}
    (found : (old.map fun row => (⟨row, false⟩ : WorkRow))[i]? = some r) :
    old[i]? = some r.row ∧ r.owned = false := by
  simp only [List.getElem?_map, Option.map_eq_some_iff] at found
  obtain ⟨row, found, rfl⟩ := found
  exact ⟨found, rfl⟩

theorem init (old : List SharedRow) (first : Nat) (bounds : Nat × Nat) :
    Copying old first bounds [] (old.map fun row => ⟨row, false⟩) first where
  length := by simp
  shared _ _ found _ := (getElem?_unowned found).1
  fresh _ _ found owned := by
    rw [(getElem?_unowned found).2] at owned
    cases owned
  owned _ _ found := by
    obtain ⟨present, unowned⟩ := getElem?_unowned found
    simp only [unowned, Addressed, List.not_mem_nil, false_and, exists_false, or_false,
      Bool.false_eq_true, false_iff, Nat.not_le]
    exact (List.getElem?_eq_some_iff.1 present).1
  started := Nat.le_refl first

theorem grow (h : Copying old first bounds done rows next) (count : Nat) :
    Copying old first bounds done ((growRows count rows).run next).1 (next + count) where
  length := by
    rw [run_growRows, List.length_append]
    exact Nat.le_trans h.length (Nat.le_add_right _ _)
  shared := by
    intro i r found kept
    rcases getElem?_growRows found with had | ⟨-, owned, -⟩
    · exact h.shared i r had kept
    · rw [owned] at kept
      cases kept
  fresh := by
    intro i r found owned
    rcases getElem?_growRows found with had | ⟨-, -, above, below⟩
    · have fresh := h.fresh i r had owned
      exact ⟨fresh.1, Nat.lt_of_lt_of_le fresh.2 (Nat.le_add_right _ _)⟩
    · exact ⟨Nat.le_trans h.started above, below⟩
  owned := by
    intro i r found
    rcases getElem?_growRows found with had | ⟨past, owned, -⟩
    · exact h.owned i r had
    · rw [owned]
      exact ⟨fun _ => .inl (Nat.le_trans h.length past), fun _ => rfl⟩
  started := Nat.le_trans h.started (Nat.le_add_right _ _)

theorem write (h : Copying old first bounds done rows next) {e : CellEdit}
    (inside : Matrix.inBounds bounds e = true) {r : WorkRow} (found : rows[e.row]? = some r) :
    Copying old first bounds (done ++ [e]) ((writeCell rows e).run next).1
      ((writeCell rows e).run next).2 := by
  have counter : next ≤ ((writeCell rows e).run next).2 := by
    rw [run_writeCell found]
    split <;> omega
  refine ⟨?_, ?_, ?_, ?_, Nat.le_trans h.started counter⟩
  · rw [run_writeCell found, List.length_set]
    exact h.length
  · intro i r' found' kept
    rcases getElem?_writeCell found next found' with ⟨-, owned, -⟩ | ⟨-, had⟩
    · rw [owned] at kept
      cases kept
    · exact h.shared i r' had kept
  · intro i r' found' owned'
    rcases getElem?_writeCell found next found' with ⟨-, -, addr⟩ | ⟨-, had⟩
    · -- an owned row keeps its allocation, any other gets the next one
      rw [addr]
      rw [run_writeCell found]
      split
      · rename_i mine
        have fresh := h.fresh e.row r found mine
        exact ⟨fresh.1, fresh.2⟩
      · exact ⟨h.started, Nat.lt_succ_self next⟩
    · have fresh := h.fresh i r' had owned'
      exact ⟨fresh.1, Nat.lt_of_lt_of_le fresh.2 counter⟩
  · intro i r' found'
    rcases getElem?_writeCell found next found' with ⟨rfl, owned, -⟩ | ⟨other, had⟩
    · rw [owned]
      exact ⟨fun _ =>
        .inr ⟨e, List.mem_append_right _ (List.mem_singleton_self e), inside, rfl⟩,
        fun _ => rfl⟩
    · rw [h.owned i r' had, addressed_append_of_ne (.inl (Ne.symm other))]

theorem setCell (h : Copying old first bounds done rows next) {e : CellEdit}
    (inside : Matrix.inBounds bounds e = true) :
    Copying old first bounds (done ++ [e]) ((SharedMatrix.setCell rows e).run next).1
      ((SharedMatrix.setCell rows e).run next).2 := by
  obtain ⟨r, found⟩ := getElem?_growRows_edited rows e next
  have grown := h.grow (e.row + 1 - rows.length)
  rw [← (run_growRows _ rows next ▸ rfl :
    ((growRows (e.row + 1 - rows.length) rows).run next).2 =
      next + (e.row + 1 - rows.length))] at grown
  exact grown.write inside found

theorem skip (h : Copying old first bounds done rows next) {e : CellEdit}
    (outside : Matrix.inBounds bounds e = false) :
    Copying old first bounds (done ++ [e]) rows next :=
  { h with
    owned := fun i r found => by rw [h.owned i r found, addressed_append_of_ne (.inr outside)] }

theorem editRows : ∀ (edits : List CellEdit) {done : List CellEdit} {rows : List WorkRow}
    {next : Nat}, Copying old first bounds done rows next →
      Copying old first bounds (done ++ edits)
        ((SharedMatrix.editRows bounds rows edits).run next).1
        ((SharedMatrix.editRows bounds rows edits).run next).2
  | [], done, rows, next, h => by
    rw [List.append_nil]
    exact h
  | e :: edits, done, rows, next, h => by
    rw [show done ++ e :: edits = done ++ [e] ++ edits by simp]
    by_cases inside : Matrix.inBounds bounds e = true
    · rw [editRows_cons_of_inBounds inside, run_bind]
      exact editRows edits (h.setCell inside)
    · rw [editRows_cons_of_not_inBounds inside]
      exact editRows edits (h.skip (Bool.eq_false_iff.2 inside))

end Copying

theorem row_withEdits (m : SharedMatrix) (edits : List CellEdit) (bounds : Nat × Nat) (next : Nat)
    {i : Nat} {old : SharedRow} (found : m.val[i]? = some old) :
    (Addressed bounds edits i →
      ∃ r, ((m.withEdits edits bounds).run next).1.val[i]? = some r ∧ next ≤ r.addr) ∧
    (¬Addressed bounds edits i →
      ((m.withEdits edits bounds).run next).1.val[i]? = some old) := by
  have copying := Copying.editRows edits (Copying.init m.val next bounds)
  rw [List.nil_append] at copying
  have inside :
      i < ((editRows bounds (m.val.map fun row => ⟨row, false⟩) edits).run next).1.length :=
    Nat.lt_of_lt_of_le (List.getElem?_eq_some_iff.1 found).1 copying.length
  obtain ⟨r, present⟩ : ∃ r,
      ((editRows bounds (m.val.map fun row => ⟨row, false⟩) edits).run next).1[i]? = some r :=
    ⟨_, List.getElem?_eq_getElem inside⟩
  have within : ¬m.val.length ≤ i := Nat.not_le.2 (List.getElem?_eq_some_iff.1 found).1
  have owned := copying.owned i r present
  simp only [withEdits, run_bind, Shared.run_alloc, List.getElem?_map, present, Option.map_some]
  refine ⟨fun addressed =>
    ⟨r.row, rfl, (copying.fresh i r present (owned.2 (.inr addressed))).1⟩,
    fun unaddressed => ?_⟩
  -- a row no edit addressed is not owned, so it is the old row
  have kept : r.owned = false := by
    rw [← Bool.not_eq_true, owned]
    exact fun mine => mine.elim within unaddressed
  rw [copying.shared i r present kept] at found
  rw [Option.some.injEq] at found ⊢
  exact found

theorem le_addr_withEdits (m : SharedMatrix) (edits : List CellEdit) (bounds : Nat × Nat)
    (next : Nat) : next ≤ ((m.withEdits edits bounds).run next).1.addr := by
  simp only [withEdits, run_bind, Shared.run_alloc]
  exact (Copying.editRows edits (Copying.init m.val next bounds)).started

theorem row_withEdits_of_below {m : SharedMatrix} {next : Nat} (below : m.Below next)
    (edits : List CellEdit) (bounds : Nat × Nat) {i : Nat} {old : SharedRow}
    (found : m.val[i]? = some old) :
    ∃ row, ((m.withEdits edits bounds).run next).1.val[i]? = some row ∧
      (row.addr = old.addr ↔ ¬Addressed bounds edits i) ∧ old.SameOrNew next row := by
  have older : old.addr < next := below.2 old (List.mem_of_getElem? found)
  obtain ⟨copied, shared⟩ := row_withEdits m edits bounds next found
  by_cases addressed : Addressed bounds edits i
  · obtain ⟨row, present, fresh⟩ := copied addressed
    exact ⟨row, present,
      ⟨fun same => by omega, fun unaddressed => absurd addressed unaddressed⟩,
      fun same => by omega, fun _ => fresh⟩
  · exact ⟨old, shared addressed, ⟨fun _ => addressed, fun _ => rfl⟩,
      Shared.sameOrNew_self next old⟩

end SharedMatrix

/-! ### The slices -/

section Slices

variable {next : Nat} (a : Action)

theorem reduceSharedRouter_spec {r : Shared RouterState} (below : r.addr < next) :
    ((reduceSharedRouter r a).run next).1.val = reduceRouter r.val a ∧
      (((reduceSharedRouter r a).run next).1.addr = r.addr ↔ ∀ p, a ≠ .locationChange p) ∧
      r.SameOrNew next ((reduceSharedRouter r a).run next).1 := by
  have renewed : next ≠ r.addr := (Nat.ne_of_lt below).symm
  cases a with
  | locationChange p =>
    exact ⟨rfl, ⟨fun same => absurd same renewed, fun other => absurd rfl (other p)⟩,
      fun same => absurd same renewed, fun _ => Nat.le_refl next⟩
  | _ =>
    exact ⟨rfl, ⟨fun _ _ same => Action.noConfusion same, fun _ => rfl⟩,
      Shared.sameOrNew_self next r⟩

theorem reduceSharedWorkbook_spec {w : Shared SharedWorkbook}
    (below : w.addr < next ∧ w.val.data.Below next) :
    let step := ((reduceSharedWorkbook w a).run next).1
    step.val.settings = (reduceWorkbook ⟨w.val.settings⟩ a).settings ∧
      (step.addr = w.addr ↔
        (∀ edits, a ≠ .editCells edits) ∧ ∀ b, a ≠ .setReadOnly b) ∧
      w.SameOrNew next step ∧
      (step.val.data.addr = w.val.data.addr ↔ ∀ edits, a ≠ .editCells edits) ∧
      w.val.data.SameOrNew next step.val.data := by
  have renewed : next ≠ w.addr := (Nat.ne_of_lt below.1).symm
  cases a with
  | editCells edits =>
    -- the data is allocated past `next`, and the workbook past the data
    have fresh := SharedMatrix.le_addr_withEdits w.val.data edits w.val.settings.declaredBounds next
    have counter := (SharedMatrix.below_withEdits below.2 edits w.val.settings.declaredBounds).2
    have older := below.2.1
    simp only [reduceSharedWorkbook, SharedMatrix.run_bind, Shared.run_alloc, reduceWorkbook,
      SharedMatrix.view_withEdits, w.val.view_data, Shared.SameOrNew, true_and]
    exact ⟨⟨fun same => absurd same (by omega), fun other => absurd rfl (other.1 edits)⟩,
      ⟨fun same => absurd same (by omega), fun _ => counter⟩,
      ⟨fun same => absurd same (by omega), fun other => absurd rfl (other edits)⟩,
      fun same => absurd same (by omega), fun _ => fresh⟩
  | setReadOnly b =>
    have unedited : ∀ edits, Action.setReadOnly b ≠ .editCells edits :=
      fun _ same => Action.noConfusion same
    exact ⟨rfl, ⟨fun same => absurd same renewed, fun other => absurd rfl (other.2 b)⟩,
      ⟨fun same => absurd same renewed, fun _ => Nat.le_refl next⟩,
      ⟨fun _ => unedited, fun _ => rfl⟩, Shared.sameOrNew_self next w.val.data⟩
  | _ =>
    exact ⟨rfl,
      ⟨fun _ =>
        ⟨fun _ same => Action.noConfusion same, fun _ same => Action.noConfusion same⟩,
        fun _ => rfl⟩,
      Shared.sameOrNew_self next w, ⟨fun _ _ same => Action.noConfusion same, fun _ => rfl⟩,
      Shared.sameOrNew_self next w.val.data⟩

end Slices

/-! ### The root -/

namespace SharedState

variable {s : SharedState} {next : Nat}

theorem run_reduce_of_quiet (s : SharedState) (next : Nat) {a : Action}
    (quiet : (∀ p, a ≠ .locationChange p) ∧ (∀ edits, a ≠ .editCells edits) ∧
      ∀ b, a ≠ .setReadOnly b) :
    (s.reduce a).run next = (s, next) := by
  cases a with
  | locationChange p => exact absurd rfl (quiet.1 p)
  | editCells edits => exact absurd rfl (quiet.2.1 edits)
  | setReadOnly b => exact absurd rfl (quiet.2.2 b)
  | _ =>
    simp [reduce, reduceSharedRouter, reduceSharedWorkbook, -StateT.run_pure, SharedMatrix.run_pure]

section Reduce

variable (h : s.Below next) (a : Action)
include h

abbrev routerCounter (s : SharedState) (a : Action) (next : Nat) : Nat :=
  ((reduceSharedRouter s.router a).run next).2

theorem below_routerCounter :
    s.workbook.addr < routerCounter s a next ∧
      s.workbook.val.data.Below (routerCounter s a next) :=
  have le := (below_reduceSharedRouter h.router a).2
  ⟨Nat.lt_of_lt_of_le h.workbook le, h.data.mono le⟩

theorem router_reduce :
    ((s.reduce a).run next).1.router = ((reduceSharedRouter s.router a).run next).1 := by
  have spec := reduceSharedRouter_spec a h.router
  simp only [reduce, SharedMatrix.run_bind]
  split
  · rename_i same
    exact (spec.2.2.1 same.1).symm
  · rfl

theorem workbook_reduce :
    ((s.reduce a).run next).1.workbook =
      ((reduceSharedWorkbook s.workbook a).run (routerCounter s a next)).1 := by
  have spec := reduceSharedWorkbook_spec a (below_routerCounter h a)
  simp only [reduce, SharedMatrix.run_bind]
  split
  · rename_i same
    exact (spec.2.2.1.1 same.2).symm
  · rfl

theorem root_reduce_eq_iff_slices :
    ((s.reduce a).run next).1.root = s.root ↔
      ((s.reduce a).run next).1.router.addr = s.router.addr ∧
        ((s.reduce a).run next).1.workbook.addr = s.workbook.addr := by
  rw [router_reduce h, workbook_reduce h]
  have counter := (below_reduceSharedWorkbook (below_routerCounter h a) a).2
  dsimp only [routerCounter] at counter
  have older := Nat.lt_of_lt_of_le h.root (below_reduceSharedRouter h.router a).2
  simp only [reduce, SharedMatrix.run_bind]
  split
  · rename_i same
    exact ⟨fun _ => same, fun _ => rfl⟩
  · rename_i renewed
    simp only [SharedMatrix.run_bind, SharedMatrix.run_modifyGet, SharedMatrix.run_pure]
    exact ⟨fun same => by omega, fun same => absurd same renewed⟩

theorem reduce_of_root_eq (same : ((s.reduce a).run next).1.root = s.root) :
    ((s.reduce a).run next).1 = s := by
  have counter := (below_reduceSharedWorkbook (below_routerCounter h a) a).2
  dsimp only [routerCounter] at counter
  have older := Nat.lt_of_lt_of_le h.root (below_reduceSharedRouter h.router a).2
  revert same
  simp only [reduce, SharedMatrix.run_bind]
  split
  · exact fun _ => rfl
  · simp only [SharedMatrix.run_bind, SharedMatrix.run_modifyGet, SharedMatrix.run_pure]
    intro same
    omega

theorem le_root_reduce (renewed : ((s.reduce a).run next).1.root ≠ s.root) :
    next ≤ ((s.reduce a).run next).1.root := by
  have counter := (below_reduceSharedWorkbook (below_routerCounter h a) a).2
  have counter' := (below_reduceSharedRouter h.router a).2
  dsimp only [routerCounter] at counter
  revert renewed
  simp only [reduce, SharedMatrix.run_bind]
  split
  · exact fun renewed => absurd rfl renewed
  · simp only [SharedMatrix.run_bind, SharedMatrix.run_modifyGet, SharedMatrix.run_pure]
    intro _
    omega

theorem router_addr_reduce_eq_iff :
    ((s.reduce a).run next).1.router.addr = s.router.addr ↔ ∀ p, a ≠ .locationChange p := by
  rw [router_reduce h]
  exact (reduceSharedRouter_spec a h.router).2.1

theorem router_reduce_sameOrNew : s.router.SameOrNew next ((s.reduce a).run next).1.router := by
  rw [router_reduce h]
  exact (reduceSharedRouter_spec a h.router).2.2

theorem workbook_addr_reduce_eq_iff :
    ((s.reduce a).run next).1.workbook.addr = s.workbook.addr ↔
      (∀ edits, a ≠ .editCells edits) ∧ ∀ b, a ≠ .setReadOnly b := by
  rw [workbook_reduce h]
  exact (reduceSharedWorkbook_spec a (below_routerCounter h a)).2.1

theorem workbook_reduce_sameOrNew :
    s.workbook.SameOrNew next ((s.reduce a).run next).1.workbook := by
  rw [workbook_reduce h]
  exact (reduceSharedWorkbook_spec a (below_routerCounter h a)).2.2.1.mono
    (below_reduceSharedRouter h.router a).2

theorem data_addr_reduce_eq_iff :
    ((s.reduce a).run next).1.workbook.val.data.addr = s.workbook.val.data.addr ↔
      ∀ edits, a ≠ .editCells edits := by
  rw [workbook_reduce h]
  exact (reduceSharedWorkbook_spec a (below_routerCounter h a)).2.2.2.1

theorem data_reduce_sameOrNew :
    s.workbook.val.data.SameOrNew next ((s.reduce a).run next).1.workbook.val.data := by
  rw [workbook_reduce h]
  exact (reduceSharedWorkbook_spec a (below_routerCounter h a)).2.2.2.2.mono
    (below_reduceSharedRouter h.router a).2

theorem root_reduce_eq_iff :
    ((s.reduce a).run next).1.root = s.root ↔
      (∀ p, a ≠ .locationChange p) ∧ (∀ edits, a ≠ .editCells edits) ∧
        ∀ b, a ≠ .setReadOnly b := by
  rw [root_reduce_eq_iff_slices h, router_addr_reduce_eq_iff h, workbook_addr_reduce_eq_iff h]

theorem row_reduce_editCells (edits : List CellEdit) {i : Nat} {old : SharedRow}
    (found : s.workbook.val.data.val[i]? = some old) :
    ∃ row, ((s.reduce (.editCells edits)).run next).1.workbook.val.data.val[i]? = some row ∧
      (row.addr = old.addr ↔
        ¬SharedMatrix.Addressed s.workbook.val.settings.declaredBounds edits i) ∧
      old.SameOrNew next row := by
  rw [workbook_reduce h]
  simp only [reduceSharedWorkbook, SharedMatrix.run_bind, Shared.run_alloc]
  obtain ⟨row, present, same, kept⟩ := SharedMatrix.row_withEdits_of_below
    (below_routerCounter h _).2 edits s.workbook.val.settings.declaredBounds found
  exact ⟨row, present, same, kept.mono (below_reduceSharedRouter h.router _).2⟩

theorem view_reduce : ((s.reduce a).run next).1.view = reduceRoot s.view a := by
  have router := (reduceSharedRouter_spec a h.router).1
  have workbook := (reduceSharedWorkbook_spec a (below_routerCounter h a)).1
  simp only [view, router_reduce h, workbook_reduce h, router, workbook, reduceRoot]

end Reduce

end SharedState

end SheetStore
