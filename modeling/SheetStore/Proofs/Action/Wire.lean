import SheetStore.Action
import SheetStore.Grid.Settings

/-! Actions read back from the JSON they are written as, members in written or sorted
order, as long as the numbers fit the words they are read into (`Action.InRange`).
-/

set_option autoImplicit false

namespace SheetStore

/-! ### Which values the wire can carry -/

def CellEdit.InRange (e : CellEdit) : Prop := e.row ≤ sizeLimit ∧ e.column ≤ sizeLimit

instance (e : CellEdit) : Decidable e.InRange := inferInstanceAs (Decidable (_ ∧ _))

def HistoryCommand.InRange : HistoryCommand → Prop
  | .go delta => -(Nat.pow 2 63 : Int) ≤ delta ∧ delta < (Nat.pow 2 63 : Int)
  | _ => True

instance : (command : HistoryCommand) → Decidable command.InRange
  | .go _ => inferInstanceAs (Decidable (_ ∧ _))
  | .push _ | .replace _ | .goBack | .goForward => isTrue trivial

/-- An action whose numbers fit the machine words they are read into: edit positions unsigned,
history steps signed. -/
def Action.InRange : Action → Prop
  | .editCells edits => ∀ e ∈ edits, e.InRange
  | .callHistory command => command.InRange
  | .setReadOnly _ | .locationChange _ | .unknown => True

instance : (a : Action) → Decidable a.InRange
  | .editCells edits => inferInstanceAs (Decidable (∀ e ∈ edits, e.InRange))
  | .callHistory command => inferInstanceAs (Decidable command.InRange)
  | .setReadOnly _ | .locationChange _ | .unknown => isTrue trivial

/-! ### Decoding steps that succeed -/

namespace Decode

@[simp] theorem pure_eq_ok {α : Type} (a : α) : (pure a : Decode α) = .ok a := rfl

@[simp] theorem ok_bind {α β : Type} (a : α) (f : α → Decode β) :
    (Except.ok a >>= f : Decode β) = f a := rfl

@[simp] theorem bind_ok {α : Type} (x : Decode α) : (x >>= Except.ok : Decode α) = x := by
  cases x <;> rfl

@[simp] theorem map_ok {α β : Type} (f : α → β) (a : α) :
    (f <$> Except.ok a : Decode β) = .ok (f a) := rfl

@[simp] theorem string_str (s : String) : Decode.string (.str s) = .ok s := rfl

theorem usize_ofNat {n : Nat} (word : n ≤ sizeLimit) : Decode.usize (.ofNat n) = .ok n := by
  have below : n < Nat.pow 2 64 :=
    Nat.lt_of_le_of_lt word (Nat.sub_one_lt (Nat.pos_iff_ne_zero.1 (Nat.two_pow_pos 64)))
  simp [Decode.usize, Decode.unsignedOf, Json.ofNat, below]

theorem isize_ofInt {d : Int} (below : d < (Nat.pow 2 63 : Int)) :
    Decode.isize (.ofInt d) = .ok d := by
  unfold Json.ofInt
  split
  · rename_i nonneg
    have fits : d.toNat < Nat.pow 2 63 := by omega
    simp [Decode.isize, fits]
    omega
  · rfl

theorem list_map {α : Type} {item : Json → Decode α} {write : α → Json} :
    ∀ {xs : List α}, (∀ x ∈ xs, item (write x) = .ok x) →
      Decode.list item (.arr (xs.map write)) = .ok xs
  | [], _ => rfl
  | x :: xs, each => by
    have rest := list_map fun y mem => each y (List.mem_cons_of_mem x mem)
    simp only [Decode.list, List.map_cons, List.mapM_cons, each x List.mem_cons_self] at rest ⊢
    simp [rest]

end Decode

/-! ### Sorting members -/

namespace Json

@[simp] theorem sortDeep_ofInt (d : Int) : sortDeep (.ofInt d) = .ofInt d := by
  unfold ofInt
  split <;> rfl

theorem sortItems_of_sorted : ∀ {items : List Json}, (∀ v ∈ items, sortDeep v = v) →
    sortItems items = items
  | [], _ => by simp [sortItems]
  | v :: items, sorted => by
    rw [sortItems, sorted v List.mem_cons_self,
      sortItems_of_sorted fun w mem => sorted w (List.mem_cons_of_mem v mem)]

end Json

/-! ### Cells and edits -/

@[simp] theorem Cell.decode_toJson (c : Cell) : Cell.decode c.toJson = .ok c := by
  cases c <;> rfl

@[simp] theorem Cell.sortDeep_toJson (c : Cell) : Json.sortDeep c.toJson = c.toJson := by
  cases c <;> rfl

theorem CellEdit.decode_toJson (layer : Layer) {e : CellEdit} (inRange : e.InRange) :
    CellEdit.decode layer e.toJson = .ok e := by
  simp [CellEdit.decode, CellEdit.toJson, CellEdit.part, Decode.usize_ofNat inRange.1,
    Decode.usize_ofNat inRange.2, Record.noSurplus]

@[simp] theorem CellEdit.sortDeep_toJson (e : CellEdit) : Json.sortDeep e.toJson = e.toJson := by
  rw [CellEdit.toJson, Json.sortDeep, Json.sortItems_of_sorted]
  simp [Json.ofNat, Json.sortDeep]

/-! ### Records -/

theorem map_fst_filter_zipIdx {β : Type} (p : β → Bool) :
    ∀ (l : List β) (k : Nat), ((l.zipIdx k).filter fun m => p m.1).map Prod.fst = l.filter p
  | [], _ => rfl
  | b :: l, k => by
    by_cases kept : p b <;> simp [List.zipIdx_cons, kept, map_fst_filter_zipIdx p l]

def Record.Gives {α : Type} (members : List (String × Json)) (name : String)
    (decode : Json → Decode α) (a : α) : Prop :=
  ∃ v, members.filter (fun m => m.1 = name) = [(name, v)] ∧ decode v = .ok a

theorem Record.field_of_gives {α : Type} {members : List (String × Json)} {name : String}
    {decode : Json → Decode α} {a : α} (rank : Nat) (fallback : Option α)
    (gives : Record.Gives members name decode a) :
    Record.field members rank name decode fallback = .ok a := by
  obtain ⟨v, single, decoded⟩ := gives
  -- the numbered members of that name are the one member, with its position
  have numbered := map_fst_filter_zipIdx (fun m : String × Json => decide (m.1 = name)) members 0
  rw [single] at numbered
  obtain ⟨⟨member, i⟩, others, split, first, rest⟩ := List.map_eq_cons_iff.1 numbered
  obtain rfl : others = [] := List.map_eq_nil_iff.1 rest
  subst first
  unfold Record.field
  rw [split]
  simp [decoded]

/-! ### Locations and the router slice -/

@[simp] theorem Navigation.decode_toJson (layer : Layer) (n : Navigation) :
    Navigation.decode layer n.toJson = .ok n := by
  cases n <;> rfl

namespace Location

theorem decode_of_gives {layer : Layer} {members : List (String × Json)} {l : Location}
    (pathname : Record.Gives members "pathname" Decode.string l.pathname)
    (search : Record.Gives members "search" Decode.string l.search)
    (hash : Record.Gives members "hash" Decode.string l.hash)
    (key : Record.Gives members "key" Decode.string l.key) :
    Location.decode layer (.obj members) = .ok l := by
  simp [Location.decode, Record.decode, Record.field_of_gives _ _ pathname,
    Record.field_of_gives _ _ search, Record.field_of_gives _ _ hash,
    Record.field_of_gives _ _ key, Ranked.pair, Ranked.finish, Except.map]

theorem decode_toJson (layer : Layer) (l : Location) : Location.decode layer l.toJson = .ok l := by
  apply decode_of_gives <;> simp [Record.Gives]

theorem sortDeep_toJson (l : Location) : Json.sortDeep l.toJson =
    .obj [("hash", .str l.hash), ("key", .str l.key), ("pathname", .str l.pathname),
      ("search", .str l.search)] := by
  simp only [Json.sortDeep, Json.sortValues, toJson, Json.sortMembers, List.foldl,
    Json.insertSorted, String.reduceLT, String.reduceEq, reduceIte]

theorem decode_sortDeep_toJson (layer : Layer) (l : Location) :
    Location.decode layer (Json.sortDeep l.toJson) = .ok l := by
  rw [sortDeep_toJson]
  apply decode_of_gives <;> simp [Record.Gives]

end Location

namespace RouterState

theorem decode_of_gives {layer : Layer} {members : List (String × Json)} {r : RouterState}
    (location : Record.Gives members "location" (Location.decode layer) r.location)
    (action : Record.Gives members "action" (Navigation.decode layer) r.action) :
    RouterState.decode layer (.obj members) = .ok r := by
  simp [RouterState.decode, Record.decode, Record.field_of_gives _ _ location,
    Record.field_of_gives _ _ action, Ranked.pair, Ranked.finish, Except.map]

theorem decode_toJson (layer : Layer) (r : RouterState) :
    RouterState.decode layer r.toJson = .ok r :=
  decode_of_gives ⟨_, by simp, Location.decode_toJson layer r.location⟩
    ⟨_, by simp, Navigation.decode_toJson layer r.action⟩

theorem decode_sortDeep_toJson (layer : Layer) (r : RouterState) :
    RouterState.decode layer (Json.sortDeep r.toJson) = .ok r := by
  have sorted : Json.sortDeep r.toJson = .obj [("action", r.action.toJson),
      ("location", Json.sortDeep r.location.toJson)] := by
    simp only [toJson, Navigation.toJson, Json.sortDeep, Json.sortValues, Json.sortMembers,
      List.foldl, Json.insertSorted, String.reduceLT, String.reduceEq, reduceIte]
  rw [sorted]
  exact decode_of_gives ⟨_, by simp, Location.decode_sortDeep_toJson layer r.location⟩
    ⟨_, by simp, Navigation.decode_toJson layer r.action⟩

end RouterState

/-! ### History commands -/

namespace HistoryCommand

theorem method_str {name : String} (known : name ∈ names) : method (.str name) = .ok name := by
  simp [method, known]

theorem decode_method_args (layer : Layer) {name : String} (known : name ∈ names) (args : Json) :
    decode layer (.obj [("method", .str name), ("args", args)]) = withArgs name args := by
  simp [decode, method_str known, noRepeat]

theorem decode_args_method (layer : Layer) {name : String} (known : name ∈ names) (args : Json) :
    decode layer (.obj [("args", args), ("method", .str name)]) = withArgs name args := by
  simp [decode, method_str known, noRepeat]

theorem decode_method (layer : Layer) {name : String} (known : name ∈ names) :
    decode layer (.obj [("method", .str name)]) = withoutArgs name := by
  simp [decode, method_str known]

theorem decode_toJson (layer : Layer) {c : HistoryCommand} (inRange : c.InRange) :
    decode layer c.toJson = .ok c := by
  cases c with
  | go delta =>
    rw [toJson, decode_method_args layer (by simp [names])]
    simp [withArgs, Decode.isize_ofInt inRange.2]
  | push _ | replace _ =>
    rw [toJson, decode_method_args layer (by simp [names])]
    simp [withArgs]
  | goBack | goForward =>
    rw [toJson, decode_method layer (by simp [names])]
    simp [withoutArgs]

theorem sortDeep_method_args (name : String) (args : Json) (scalar : Json.sortDeep args = args) :
    Json.sortDeep (.obj [("method", .str name), ("args", args)]) =
      .obj [("args", args), ("method", .str name)] := by
  simp only [Json.sortDeep, Json.sortValues, Json.sortMembers, List.foldl, Json.insertSorted,
    String.reduceLT, String.reduceEq, reduceIte, scalar]

theorem decode_sortDeep_toJson (layer : Layer) {c : HistoryCommand} (inRange : c.InRange) :
    decode layer (Json.sortDeep c.toJson) = .ok c := by
  cases c with
  | go delta =>
    rw [toJson, sortDeep_method_args _ _ (Json.sortDeep_ofInt delta),
      decode_args_method layer (by simp [names])]
    simp [withArgs, Decode.isize_ofInt inRange.2]
  | push _ | replace _ =>
    rw [toJson, sortDeep_method_args _ _ rfl, decode_args_method layer (by simp [names])]
    simp [withArgs]
  | goBack | goForward =>
    rw [toJson, Json.sortDeep]
    simp only [Json.sortValues, Json.sortDeep, Json.sortMembers, List.foldl, Json.insertSorted]
    rw [decode_method layer (by simp [names])]
    simp [withoutArgs]

end HistoryCommand

/-! ### The tag -/

namespace Action

theorem splitTag_found (t : Tag) : ∀ {members acc : List (String × Json)},
    (∀ m ∈ members, m.1 ≠ "type") →
      splitTag members (some t) acc = .ok (t, acc.reverse ++ members)
  | [], acc, _ => by simp [splitTag]
  | (k, v) :: rest, acc, untagged => by
    have other : k ≠ "type" := untagged (k, v) List.mem_cons_self
    rw [splitTag, if_neg other,
      splitTag_found t fun m mem => untagged m (List.mem_cons_of_mem _ mem)]
    simp

theorem splitTag_single {v : Json} {t : Tag} (tagged : Tag.decode v = .ok t) :
    ∀ {members acc : List (String × Json)},
      members.filter (fun m => m.1 = "type") = [("type", v)] →
      splitTag members none acc = .ok (t, acc.reverse ++ members.filter fun m => m.1 ≠ "type")
  | [], _, single => by simp at single
  | (k, w) :: rest, acc, single => by
    by_cases isTag : k = "type"
    · -- the tag: no later member names `type`
      subst isTag
      simp only [List.filter_cons, decide_true, ite_true, List.cons.injEq, Prod.mk.injEq,
        true_and] at single
      obtain ⟨rfl, none⟩ := single
      have untagged : ∀ m ∈ rest, m.1 ≠ "type" := by
        intro m mem same
        have named : m ∈ rest.filter (fun m => m.1 = "type") :=
          List.mem_filter.2 ⟨mem, by simp [same]⟩
        simp [none] at named
      rw [splitTag, if_pos rfl]
      simp only [tagged, Decode.ok_bind, splitTag_found t untagged, List.filter_cons, ne_eq,
        decide_true, decide_not, Bool.not_true, Bool.false_eq_true, ite_false]
      rw [List.filter_eq_self.2 fun m mem => by simpa using untagged m mem]
    · -- another member is kept aside
      rw [List.filter_cons, if_neg (by simpa using isTag)] at single
      rw [splitTag, if_neg isTag, splitTag_single tagged single]
      simp [isTag]

theorem decode_obj_single {members : List (String × Json)} {v : Json} {t : Tag}
    (single : members.filter (fun m => m.1 = "type") = [("type", v)])
    (tagged : Tag.decode v = .ok t) :
    decode (.obj members) = decodeVariant t (.obj (members.filter fun m => m.1 ≠ "type")) := by
  simp [decode, splitTag_single tagged single]

theorem oneField_single {α : Type} {variant field : String} {decode : Json → Decode α}
    (v : Json) : oneField variant field decode (.obj [(field, v)]) = decode v := by
  simp only [oneField, Record.decode, Record.field, List.zipIdx_cons, List.zipIdx_nil,
    List.filter_cons, decide_true, ite_true, List.filter_nil]
  cases decode v <;> rfl

theorem Tag.decode_editCellsTag : Tag.decode (.str editCellsTag) = .ok .editCells := by
  simp [Tag.decode]

theorem Tag.decode_setReadOnlyTag : Tag.decode (.str setReadOnlyTag) = .ok .setReadOnly := by
  simp [Tag.decode, editCellsTag, setReadOnlyTag]

theorem Tag.decode_locationChangeTag :
    Tag.decode (.str locationChangeTag) = .ok .locationChange := by
  simp [Tag.decode, editCellsTag, setReadOnlyTag, locationChangeTag]

theorem Tag.decode_callHistoryTag : Tag.decode (.str callHistoryTag) = .ok .callHistory := by
  simp [Tag.decode, editCellsTag, setReadOnlyTag, locationChangeTag, callHistoryTag]

theorem Tag.decode_other {s : String}
    (other : s ∉ [editCellsTag, setReadOnlyTag, locationChangeTag, callHistoryTag]) :
    Tag.decode (.str s) = .ok .other := by
  simp only [List.mem_cons, List.not_mem_nil, or_false, not_or] at other
  simp [Tag.decode, other]

theorem Tag.decode_unknownName : Tag.decode (.str "Unknown") = .ok .other :=
  Tag.decode_other (by simp [editCellsTag, setReadOnlyTag, locationChangeTag, callHistoryTag])

/-! ### Round trips -/

theorem decode_toJson {a : Action} (inRange : a.InRange) : decode a.toJson = .ok a := by
  cases a with
  | editCells edits =>
    have each := fun e mem => CellEdit.decode_toJson .buffered (inRange e mem)
    rw [toJson, decode_obj_single (by simp) Tag.decode_editCellsTag]
    simp [decodeVariant, oneField_single, Decode.list_map each]
  | setReadOnly b =>
    rw [toJson, decode_obj_single (by simp) Tag.decode_setReadOnlyTag]
    simp [decodeVariant, oneField_single, Decode.bool]
  | locationChange payload =>
    rw [toJson, decode_obj_single (by simp) Tag.decode_locationChangeTag]
    simp [decodeVariant, oneField_single, RouterState.decode_toJson]
  | callHistory command =>
    rw [toJson, decode_obj_single (by simp) Tag.decode_callHistoryTag]
    simp [decodeVariant, oneField_single, HistoryCommand.decode_toJson .buffered inRange]
  | unknown =>
    rw [toJson, decode_obj_single (by simp) Tag.decode_unknownName]
    simp [decodeVariant]

theorem sortDeep_tagged (tag field : String) (v : Json) (before : field < "type") :
    Json.sortDeep (.obj [("type", .str tag), (field, v)]) =
      .obj [(field, Json.sortDeep v), ("type", .str tag)] := by
  simp only [Json.sortDeep, Json.sortValues, Json.sortMembers, List.foldl, Json.insertSorted,
    before, reduceIte]

theorem decode_sortDeep_toJson {a : Action} (inRange : a.InRange) :
    decode (Json.sortDeep a.toJson) = .ok a := by
  cases a with
  | editCells edits =>
    have each := fun e mem => CellEdit.decode_toJson .buffered (inRange e mem)
    have sorted : Json.sortDeep (.arr (edits.map CellEdit.toJson)) =
        .arr (edits.map CellEdit.toJson) := by
      rw [Json.sortDeep, Json.sortItems_of_sorted (by simp)]
    rw [toJson, sortDeep_tagged _ _ _ (by decide), sorted,
      decode_obj_single (by simp) Tag.decode_editCellsTag]
    simp [decodeVariant, oneField_single, Decode.list_map each]
  | setReadOnly b =>
    rw [toJson, sortDeep_tagged _ _ _ (by decide),
      decode_obj_single (by simp) Tag.decode_setReadOnlyTag]
    simp [decodeVariant, oneField_single, Json.sortDeep, Decode.bool]
  | locationChange payload =>
    rw [toJson, sortDeep_tagged _ _ _ (by decide),
      decode_obj_single (by simp) Tag.decode_locationChangeTag]
    simp [decodeVariant, oneField_single, RouterState.decode_sortDeep_toJson]
  | callHistory command =>
    rw [toJson, sortDeep_tagged _ _ _ (by decide),
      decode_obj_single (by simp) Tag.decode_callHistoryTag]
    simp [decodeVariant, oneField_single, HistoryCommand.decode_sortDeep_toJson .buffered inRange]
  | unknown =>
    have sorted : Json.sortDeep (.obj [("type", .str "Unknown")]) =
        .obj [("type", .str "Unknown")] := by
      simp [Json.sortDeep, Json.sortValues, Json.sortMembers, Json.insertSorted]
    rw [toJson, sorted, decode_obj_single (by simp) Tag.decode_unknownName]
    simp [decodeVariant]

theorem field_type_toJson {a : Action} (known : a ≠ .unknown) :
    a.toJson.field? "type" = some (.str a.kind) := by
  cases a with
  | unknown => exact absurd rfl known
  | _ => simp [toJson, kind, Json.field?]

theorem decode_other_tag {members : List (String × Json)} {s : String}
    (single : members.filter (fun m => m.1 = "type") = [("type", .str s)])
    (other : s ∉ [editCellsTag, setReadOnlyTag, locationChangeTag, callHistoryTag]) :
    decode (.obj members) = .ok .unknown := by
  rw [decode_obj_single single (Tag.decode_other other)]
  rfl

/-- The wire format of actions: every action whose numbers fit their machine words is read back
from the object it is written as, with its members in the order written or sorted by name; the
unknown action is written `{"type":"Unknown"}` and every other action is tagged by its kind; and
an object tagged by any other string is the unknown action. -/
theorem wire_round_trip :
    (∀ a : Action, a.InRange →
      Action.decode a.toJson = .ok a ∧ Action.decode (Json.sortDeep a.toJson) = .ok a) ∧
    Action.unknown.toJson = .obj [("type", .str "Unknown")] ∧
    (∀ a : Action, a ≠ .unknown → a.toJson.field? "type" = some (.str a.kind)) ∧
    ∀ (members : List (String × Json)) (s : String),
      members.filter (fun m => m.1 = "type") = [("type", .str s)] →
      s ∉ [editCellsTag, setReadOnlyTag, locationChangeTag, callHistoryTag] →
      Action.decode (.obj members) = .ok .unknown :=
  ⟨fun _ inRange => ⟨decode_toJson inRange, decode_sortDeep_toJson inRange⟩, rfl,
    fun _ known => field_type_toJson known, fun _ _ single other => decode_other_tag single other⟩

theorem wire_round_trip_at_edge :
    let a := Action.updateSheetData [⟨sizeLimit, 0, .empty, .text "x"⟩]
    let members := [("type", Json.str "Unknown"), ("payload", Json.null)]
    (a.InRange ∧ Action.decode a.toJson = .ok a ∧
        Action.decode (Json.sortDeep a.toJson) = .ok a) ∧
      (members.filter (fun m => m.1 = "type") = [("type", .str "Unknown")] ∧
        "Unknown" ∉ [editCellsTag, setReadOnlyTag, locationChangeTag, callHistoryTag] ∧
        Action.decode (.obj members) = .ok .unknown) :=
  have fits : (Action.updateSheetData [⟨sizeLimit, 0, .empty, .text "x"⟩]).InRange := by decide
  have single : [("type", Json.str "Unknown"), ("payload", Json.null)].filter
      (fun m => m.1 = "type") = [("type", .str "Unknown")] := by simp
  have other : "Unknown" ∉ [editCellsTag, setReadOnlyTag, locationChangeTag, callHistoryTag] := by
    simp [editCellsTag, setReadOnlyTag, locationChangeTag, callHistoryTag]
  ⟨⟨fits, wire_round_trip.1 _ fits⟩, single, other, wire_round_trip.2.2.2 _ _ single other⟩

end Action

end SheetStore
