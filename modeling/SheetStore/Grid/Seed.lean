import SheetStore.Grid.Matrix

/-! The data a grid starts with before a real source is connected.
-/

set_option autoImplicit false

namespace SheetStore

namespace Seed

def years : List String := ["2017", "2018", "2019", "2020", "2021"]

def makers : List String := ["Tesla", "Volvo", "Toyota", "Ford", "Honda", "Kia"]

def yearRow (r : Nat) (year : String) : List Cell :=
  .text year :: (List.range makers.length).map fun c => Cell.ofInt (((r + 1) * 10 + c : Nat) : Int)

def data : Matrix :=
  ⟨(Cell.empty :: makers.map Cell.text) :: years.zipIdx.map fun (y, r) => yearRow r y⟩

end Seed

end SheetStore
