import SheetStore.Grid.Matrix

/-! Values behind shared pointers, and the grid's data edited by copy-on-write. Addresses
come from a counter that only moves up, so a new allocation never meets an older one.
-/

set_option autoImplicit false

namespace SheetStore

/-- A value behind a pointer: the address of its allocation, and the value. -/
structure Shared (α : Type) where
  addr : Nat
  val : α
  deriving DecidableEq, Inhabited

/-- A computation that allocates; its state is the next free address. -/
abbrev Alloc := StateM Nat

namespace Shared

variable {α : Type}

def alloc (v : α) : Alloc (Shared α) := modifyGet fun next => (⟨next, v⟩, next + 1)

@[simp] theorem run_alloc (v : α) (next : Nat) : (alloc v).run next = (⟨next, v⟩, next + 1) :=
  rfl

end Shared

abbrev SharedRow := Shared (List Cell)

/-- A row of a copy of the data being edited, and whether the copy holds its only pointer. -/
structure WorkRow where
  row : SharedRow
  owned : Bool

namespace WorkRow

/-- Make a row writable: a row the copy owns is written in place, any other is first copied to
a new allocation, which the copy then owns. -/
def makeMut (r : WorkRow) : Alloc WorkRow :=
  if r.owned then pure r
  else do
    let row ← Shared.alloc r.row.val
    pure ⟨row, true⟩

theorem run_makeMut (r : WorkRow) (next : Nat) :
    r.makeMut.run next =
      if r.owned then (r, next) else (⟨⟨next, r.row.val⟩, true⟩, next + 1) := by
  unfold makeMut
  split <;> rfl

end WorkRow

abbrev SharedMatrix := Shared (List SharedRow)

namespace SharedMatrix

def view (m : SharedMatrix) : Matrix := ⟨m.val.map (·.val)⟩

def growRows : Nat → List WorkRow → Alloc (List WorkRow)
  | 0, rows => pure rows
  | count + 1, rows => do
    let row ← Shared.alloc []
    growRows count (rows ++ [⟨row, true⟩])

/-- Write the cell of one edit into its row: make the row writable, pad it to the cell and set
the cell. -/
def writeCell (rows : List WorkRow) (e : CellEdit) : Alloc (List WorkRow) :=
  match rows[e.row]? with
  | none => pure rows
  | some r => do
    let r ← r.makeMut
    pure (rows.set e.row
      ⟨⟨r.row.addr, (Matrix.padRow r.row.val (e.column + 1)).set e.column e.new⟩, true⟩)

def setCell (rows : List WorkRow) (e : CellEdit) : Alloc (List WorkRow) := do
  let rows ← growRows (e.row + 1 - rows.length) rows
  writeCell rows e

/-- Apply the edits inside `bounds`, in order, to a copy of the rows that owns none of them. -/
def editRows (bounds : Nat × Nat) (rows : List WorkRow) (edits : List CellEdit) :
    Alloc (List WorkRow) :=
  edits.foldlM (fun rows e => if Matrix.inBounds bounds e then setCell rows e else pure rows) rows

/-- The data after every edit inside `bounds`, in order, as a new allocation. Rows no edit writes
stay shared with `m`. -/
def withEdits (m : SharedMatrix) (edits : List CellEdit) (bounds : Nat × Nat) :
    Alloc SharedMatrix := do
  let rows ← editRows bounds (m.val.map fun row => ⟨row, false⟩) edits
  Shared.alloc (rows.map (·.row))

def place (m : Matrix) : Alloc SharedMatrix := do
  let rows ← m.rows.mapM Shared.alloc
  Shared.alloc rows

/-- The indices below both row counts whose rows are different allocations. -/
def copiedRows (m m' : SharedMatrix) : List Nat :=
  (List.range (min m.val.length m'.val.length)).filter fun i =>
    (m.val[i]?.map (·.addr)) != (m'.val[i]?.map (·.addr))

/-! ### Allocations stay below the counter -/

theorem run_bind {α β : Type} (x : Alloc α) (f : α → Alloc β) (next : Nat) :
    (x >>= f).run next = (f (x.run next).1).run (x.run next).2 := rfl

@[simp] theorem run_pure {α : Type} (x : α) (next : Nat) :
    (pure x : Alloc α).run next = (x, next) :=
  rfl

@[simp] theorem run_modifyGet {α : Type} (f : Nat → α × Nat) (next : Nat) :
    (modifyGet f : Alloc α).run next = f next :=
  rfl

theorem run_growRows : ∀ (count : Nat) (rows : List WorkRow) (next : Nat),
    (growRows count rows).run next =
      (rows ++ (List.range count).map fun j => ⟨⟨next + j, []⟩, true⟩, next + count)
  | 0, rows, next => by simp [growRows]; rfl
  | count + 1, rows, next => by
    rw [growRows, run_bind, Shared.run_alloc, run_growRows count]
    refine Prod.ext ?_ (by simp only; omega)
    simp only [List.range_succ_eq_map, List.map_cons, List.map_map, List.append_assoc,
      List.singleton_append, Nat.add_zero]
    congr 2
    apply List.map_congr_left
    intro j _
    simp only [Function.comp_apply, show next + 1 + j = next + (j + 1) by omega]

theorem editRows_cons_of_inBounds {bounds : Nat × Nat} {e : CellEdit}
    (inside : Matrix.inBounds bounds e = true) (rows : List WorkRow) (edits : List CellEdit) :
    editRows bounds rows (e :: edits) =
      setCell rows e >>= fun rows => editRows bounds rows edits := by
  simp [editRows, List.foldlM_cons, inside]

theorem editRows_cons_of_not_inBounds {bounds : Nat × Nat} {e : CellEdit}
    (outside : ¬Matrix.inBounds bounds e = true) (rows : List WorkRow) (edits : List CellEdit) :
    editRows bounds rows (e :: edits) = editRows bounds rows edits := by
  simp [editRows, List.foldlM_cons, outside]

def RowsBelow (rows : List WorkRow) (next : Nat) : Prop := ∀ r ∈ rows, r.row.addr < next

theorem RowsBelow.mono {rows : List WorkRow} {next next' : Nat} (h : RowsBelow rows next)
    (le : next ≤ next') : RowsBelow rows next' :=
  fun r mem => Nat.lt_of_lt_of_le (h r mem) le

theorem below_growRows (count : Nat) {rows : List WorkRow} {next : Nat} (h : RowsBelow rows next) :
    RowsBelow ((growRows count rows).run next).1 ((growRows count rows).run next).2 ∧
      next ≤ ((growRows count rows).run next).2 := by
  rw [run_growRows]
  refine ⟨fun r mem => ?_, Nat.le_add_right next count⟩
  rcases List.mem_append.1 mem with old | new
  · exact Nat.lt_of_lt_of_le (h r old) (Nat.le_add_right next count)
  · obtain ⟨j, below, rfl⟩ := List.mem_map.1 new
    simp only
    have := List.mem_range.1 below
    omega

theorem below_writeCell (e : CellEdit) {rows : List WorkRow} {next : Nat}
    (h : RowsBelow rows next) :
    RowsBelow ((writeCell rows e).run next).1 ((writeCell rows e).run next).2 ∧
      next ≤ ((writeCell rows e).run next).2 := by
  unfold writeCell
  cases found : rows[e.row]? with
  | none => exact ⟨h, Nat.le_refl next⟩
  | some r =>
    have old : r.row.addr < next := h r (List.mem_of_getElem? found)
    simp only [run_bind, WorkRow.run_makeMut]
    -- the row is written in place when the copy owns it, and into a new allocation otherwise
    by_cases owned : r.owned = true
    · simp only [owned, if_true]
      refine ⟨fun r' mem => ?_, Nat.le_refl next⟩
      rcases List.mem_or_eq_of_mem_set mem with kept | rfl
      · exact h r' kept
      · exact old
    · simp only [owned, Bool.false_eq_true, if_false]
      refine ⟨fun r' mem => ?_, Nat.le_succ next⟩
      rcases List.mem_or_eq_of_mem_set mem with kept | rfl
      · exact Nat.lt_succ_of_lt (h r' kept)
      · exact Nat.lt_succ_self next

theorem below_setCell (e : CellEdit) {rows : List WorkRow} {next : Nat}
    (h : RowsBelow rows next) :
    RowsBelow ((setCell rows e).run next).1 ((setCell rows e).run next).2 ∧
      next ≤ ((setCell rows e).run next).2 := by
  obtain ⟨grown, le⟩ := below_growRows (e.row + 1 - rows.length) h
  obtain ⟨written, le'⟩ := below_writeCell e grown
  exact ⟨written, Nat.le_trans le le'⟩

theorem below_editRows (bounds : Nat × Nat) :
    ∀ (edits : List CellEdit) (rows : List WorkRow) (next : Nat), RowsBelow rows next →
      RowsBelow ((editRows bounds rows edits).run next).1
          ((editRows bounds rows edits).run next).2 ∧
        next ≤ ((editRows bounds rows edits).run next).2
  | [], rows, next, h => ⟨h, Nat.le_refl next⟩
  | e :: edits, rows, next, h => by
    by_cases inside : Matrix.inBounds bounds e = true
    · obtain ⟨set, le⟩ := below_setCell e h
      obtain ⟨rest, le'⟩ := below_editRows bounds edits _ _ set
      rw [editRows_cons_of_inBounds inside, run_bind]
      exact ⟨rest, Nat.le_trans le le'⟩
    · rw [editRows_cons_of_not_inBounds inside]
      exact below_editRows bounds edits rows next h

def Below (m : SharedMatrix) (next : Nat) : Prop := m.addr < next ∧ ∀ r ∈ m.val, r.addr < next

theorem Below.mono {m : SharedMatrix} {next next' : Nat} (h : m.Below next) (le : next ≤ next') :
    m.Below next' :=
  ⟨Nat.lt_of_lt_of_le h.1 le, fun r mem => Nat.lt_of_lt_of_le (h.2 r mem) le⟩

theorem below_withEdits {m : SharedMatrix} {next : Nat} (h : m.Below next) (edits : List CellEdit)
    (bounds : Nat × Nat) :
    ((m.withEdits edits bounds).run next).1.Below ((m.withEdits edits bounds).run next).2 ∧
      next ≤ ((m.withEdits edits bounds).run next).2 := by
  have copied : RowsBelow (m.val.map fun row => ⟨row, false⟩) next := by
    intro r mem
    obtain ⟨row, old, rfl⟩ := List.mem_map.1 mem
    exact h.2 row old
  obtain ⟨rows, le⟩ := below_editRows bounds edits _ next copied
  simp only [withEdits, run_bind, Shared.run_alloc]
  refine ⟨⟨Nat.lt_succ_self _, fun r mem => ?_⟩, Nat.le_succ_of_le le⟩
  obtain ⟨w, edited, rfl⟩ := List.mem_map.1 mem
  exact Nat.lt_succ_of_lt (rows w edited)

theorem run_mapM_alloc : ∀ (rows : List (List Cell)) (next : Nat),
    let placed := (rows.mapM Shared.alloc).run next
    placed.1.map (·.val) = rows ∧ (∀ r ∈ placed.1, r.addr < placed.2) ∧ next ≤ placed.2
  | [], next => ⟨rfl, fun _ => False.elim ∘ List.not_mem_nil, Nat.le_refl next⟩
  | row :: rows, next => by
    obtain ⟨values, below, le⟩ := run_mapM_alloc rows (next + 1)
    have step : ((row :: rows).mapM Shared.alloc).run next =
        (⟨next, row⟩ :: ((rows.mapM Shared.alloc).run (next + 1)).1,
          ((rows.mapM Shared.alloc).run (next + 1)).2) := by
      simp only [List.mapM_cons, run_bind, Shared.run_alloc]
      rfl
    simp only [step, List.map_cons, values, List.mem_cons]
    refine ⟨trivial, fun r mem => ?_, Nat.le_of_succ_le le⟩
    rcases mem with rfl | later
    · exact Nat.lt_of_lt_of_le (Nat.lt_succ_self next) le
    · exact below r later

theorem place_below (m : Matrix) (next : Nat) :
    ((place m).run next).1.view = m ∧ ((place m).run next).1.Below ((place m).run next).2 ∧
      next ≤ ((place m).run next).2 := by
  obtain ⟨values, below, le⟩ := run_mapM_alloc m.rows next
  simp only [place, run_bind, Shared.run_alloc, view, values]
  exact ⟨trivial, ⟨Nat.lt_succ_self _, fun r mem => Nat.lt_succ_of_lt (below r mem)⟩,
    Nat.le_succ_of_le le⟩

end SharedMatrix

end SheetStore
