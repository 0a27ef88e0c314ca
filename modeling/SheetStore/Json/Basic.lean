import SheetStore.Number.Binary64

/-! JSON values, whose numbers keep the kind the reader gave them and whose objects list
their members in a fixed order.
-/

set_option autoImplicit false

namespace SheetStore

/-- A JSON number in the kind the reader assigned to it. -/
inductive JsonNumber where
  /-- A whole number below `2 ^ 64`. -/
  | nat (n : Nat)
  /-- A negative whole number not below `-2 ^ 63`. -/
  | neg (n : Int)
  /-- Any other number, as the nearest double. -/
  | float (x : Binary64)
  deriving DecidableEq, Inhabited

/-- A JSON value. -/
inductive Json where
  | null
  | bool (b : Bool)
  | number (n : JsonNumber)
  | str (s : String)
  | arr (items : List Json)
  | obj (members : List (String × Json))
  deriving Inhabited

namespace Json

def ofNat (n : Nat) : Json := .number (.nat n)

def ofInt (n : Int) : Json := if 0 ≤ n then .number (.nat n.toNat) else .number (.neg n)

def ofFloat (x : Binary64) : Json := .number (.float x)

def field? (v : Json) (name : String) : Option Json :=
  match v with
  | .obj members => members.lookup name
  | _ => none

def insertSorted (name : String) (value : Json) :
    List (String × Json) → List (String × Json)
  | [] => [(name, value)]
  | (k, w) :: rest =>
    if name < k then (name, value) :: (k, w) :: rest
    else if name = k then (name, value) :: rest
    else (k, w) :: insertSorted name value rest

/-- Members sorted by name, the later of two equal names kept. -/
def sortMembers (members : List (String × Json)) : List (String × Json) :=
  members.foldl (fun acc (k, w) => insertSorted k w acc) []

mutual

def sortDeep : Json → Json
  | .arr items => .arr (sortItems items)
  | .obj members => .obj (sortMembers (sortValues members))
  | v => v

def sortItems : List Json → List Json
  | [] => []
  | w :: ws => sortDeep w :: sortItems ws

def sortValues : List (String × Json) → List (String × Json)
  | [] => []
  | (k, w) :: rest => (k, sortDeep w) :: sortValues rest

end

end Json

end SheetStore
