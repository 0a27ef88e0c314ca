import SheetStore.Cell
import Mathlib.Data.List.Shortlex
import Mathlib.Tactic.Ring

/-! Column labels count in bijective base twenty-six, so shortlex order on labels is the
order of the columns and a cell name gives back its column and row.
-/

set_option autoImplicit false

namespace SheetStore

def IsCapital (c : Char) : Prop := 'A' ≤ c ∧ c ≤ 'Z'

def letterDigit (c : Char) : Nat := c.toNat - 64

def bijectiveValue (cs : List Char) : Nat := cs.foldl (fun acc c => acc * 26 + letterDigit c) 0

theorem IsCapital.toNat {c : Char} (h : IsCapital c) : 65 ≤ c.toNat ∧ c.toNat ≤ 90 := h

theorem IsCapital.digit_range {c : Char} (h : IsCapital c) :
    1 ≤ letterDigit c ∧ letterDigit c ≤ 26 := by
  have := h.toNat
  unfold letterDigit
  omega

theorem IsCapital.lt_iff {c c' : Char} (h : IsCapital c) (h' : IsCapital c') :
    c < c' ↔ letterDigit c < letterDigit c' := by
  have := h.toNat
  have := h'.toNat
  show c.toNat < c'.toNat ↔ _
  unfold letterDigit
  omega

theorem IsCapital.eq_of_letterDigit {c c' : Char} (h : IsCapital c) (h' : IsCapital c')
    (same : letterDigit c = letterDigit c') : c = c' := by
  have := h.toNat
  have := h'.toNat
  unfold letterDigit at same
  exact Char.toNat_inj.mp (by omega)

theorem IsCapital.isDigit {c : Char} (h : IsCapital c) : c.isDigit = false := by
  have := h.toNat
  simp only [Char.isDigit, Bool.and_eq_false_iff, decide_eq_false_iff_not]
  exact .inr fun below => absurd (show c.toNat ≤ 57 from below) (by omega)

/-! ## The value of a word -/

@[simp] theorem bijectiveValue_nil : bijectiveValue [] = 0 := rfl

theorem bijectiveValue_append_singleton (cs : List Char) (c : Char) :
    bijectiveValue (cs ++ [c]) = bijectiveValue cs * 26 + letterDigit c := by
  simp [bijectiveValue, List.foldl_append]

theorem foldl_bijective_from (cs : List Char) (acc : Nat) :
    cs.foldl (fun acc c => acc * 26 + letterDigit c) acc =
      acc * 26 ^ cs.length + bijectiveValue cs := by
  -- the value read so far is shifted by one place per letter still to come
  induction cs generalizing acc with
  | nil => simp
  | cons c cs ih =>
    have head : bijectiveValue (c :: cs) =
        (0 * 26 + letterDigit c) * 26 ^ cs.length + bijectiveValue cs := ih _
    rw [List.foldl_cons, ih, head, List.length_cons, Nat.pow_succ]
    ring

theorem bijectiveValue_cons (c : Char) (cs : List Char) :
    bijectiveValue (c :: cs) = letterDigit c * 26 ^ cs.length + bijectiveValue cs := by
  rw [bijectiveValue, List.foldl_cons, foldl_bijective_from]
  simp

theorem capitalWord_bounds : ∀ {cs : List Char}, (∀ c ∈ cs, IsCapital c) →
    26 ^ cs.length ≤ 25 * bijectiveValue cs + 1 ∧
      25 * bijectiveValue cs + 26 ≤ 26 ^ (cs.length + 1)
  | [], _ => by simp
  | c :: cs, capital => by
    obtain ⟨low, high⟩ := capitalWord_bounds fun x mem => capital x (List.mem_cons_of_mem c mem)
    obtain ⟨one, most⟩ := (capital c List.mem_cons_self).digit_range
    have above : 26 ^ cs.length ≤ letterDigit c * 26 ^ cs.length := Nat.le_mul_of_pos_left _ one
    have below : letterDigit c * 26 ^ cs.length ≤ 26 * 26 ^ cs.length := Nat.mul_le_mul_right _ most
    rw [bijectiveValue_cons, List.length_cons, Nat.pow_succ, Nat.pow_succ]
    rw [Nat.pow_succ] at high
    omega

theorem bijectiveValue_lt_of_length_lt {u v : List Char} (hu : ∀ c ∈ u, IsCapital c)
    (hv : ∀ c ∈ v, IsCapital c) (shorter : u.length < v.length) :
    bijectiveValue u < bijectiveValue v := by
  have room : 26 ^ (u.length + 1) ≤ 26 ^ v.length := Nat.pow_le_pow_right (by omega) shorter
  have := (capitalWord_bounds hu).2
  have := (capitalWord_bounds hv).1
  omega

theorem bijectiveValue_cons_lt {c c' : Char} {u v : List Char} (hu : ∀ x ∈ u, IsCapital x)
    (hv : ∀ x ∈ v, IsCapital x) (length : u.length = v.length)
    (first : letterDigit c < letterDigit c') :
    bijectiveValue (c :: u) < bijectiveValue (c' :: v) := by
  have rest : bijectiveValue u < 26 ^ v.length + bijectiveValue v := by
    have := (capitalWord_bounds hu).2
    have := (capitalWord_bounds hv).1
    rw [length, Nat.pow_succ] at *
    omega
  have shift : letterDigit c * 26 ^ v.length + 26 ^ v.length ≤ letterDigit c' * 26 ^ v.length := by
    rw [← Nat.succ_mul]
    exact Nat.mul_le_mul_right _ first
  rw [bijectiveValue_cons, bijectiveValue_cons, length]
  omega

theorem lex_iff_bijectiveValue_lt : ∀ {u v : List Char}, (∀ c ∈ u, IsCapital c) →
    (∀ c ∈ v, IsCapital c) → u.length = v.length →
    (List.Lex (· < ·) u v ↔ bijectiveValue u < bijectiveValue v)
  | [], [], _, _, _ => by simp [List.not_lex_nil]
  | [], _ :: _, _, _, length | _ :: _, [], _, _, length => by simp at length
  | c :: u, c' :: v, hu, hv, length => by
    have capital : IsCapital c := hu c List.mem_cons_self
    have capital' : IsCapital c' := hv c' List.mem_cons_self
    have tail : ∀ x ∈ u, IsCapital x := fun x mem => hu x (List.mem_cons_of_mem c mem)
    have tail' : ∀ x ∈ v, IsCapital x := fun x mem => hv x (List.mem_cons_of_mem c' mem)
    have same : u.length = v.length := by simpa using length
    -- the first letters decide, unless they agree
    rcases Nat.lt_trichotomy (letterDigit c) (letterDigit c') with first | first | first
    · have ordered : c < c' := (capital.lt_iff capital').2 first
      exact ⟨fun _ => bijectiveValue_cons_lt tail tail' same first, fun _ => .rel ordered⟩
    · obtain rfl := capital.eq_of_letterDigit capital' first
      rw [List.lex_cons_iff, lex_iff_bijectiveValue_lt tail tail' same, bijectiveValue_cons,
        bijectiveValue_cons, same]
      omega
    · have reversed := bijectiveValue_cons_lt tail' tail same.symm first
      have unordered : ¬ c < c' := fun lt => absurd ((capital.lt_iff capital').1 lt) (by omega)
      refine ⟨fun lex => ?_, fun lt => absurd lt (by omega)⟩
      cases lex with
      | rel lt => exact absurd lt unordered
      | cons lex => exact absurd rfl (Nat.ne_of_gt first)

theorem shortlex_iff_bijectiveValue_lt {u v : List Char} (hu : ∀ c ∈ u, IsCapital c)
    (hv : ∀ c ∈ v, IsCapital c) :
    List.Shortlex (· < ·) u v ↔ bijectiveValue u < bijectiveValue v := by
  rw [List.shortlex_def]
  rcases Nat.lt_trichotomy u.length v.length with shorter | same | longer
  · exact ⟨fun _ => bijectiveValue_lt_of_length_lt hu hv shorter, fun _ => .inl shorter⟩
  · rw [← lex_iff_bijectiveValue_lt hu hv same]
    simp [same]
  · have := bijectiveValue_lt_of_length_lt hv hu longer
    constructor
    · rintro (shorter | ⟨same, _⟩) <;> omega
    · intro; omega

/-! ## Column labels -/

theorem columnLetters_of_lt {n : Nat} (h : n < 26) : columnLetters n = [columnLetter n] := by
  rw [columnLetters, if_pos h]

theorem columnLetters_of_le {n : Nat} (h : 26 ≤ n) :
    columnLetters n = columnLetters (n / 26 - 1) ++ [columnLetter n] := by
  rw [columnLetters, if_neg (by omega)]

theorem columnLetter_toNat (d : Nat) : (columnLetter d).toNat = 65 + d % 26 := by
  unfold columnLetter
  rw [Char.ofNat, dif_pos (.inl (by omega))]
  rfl

theorem isCapital_columnLetter (d : Nat) : IsCapital (columnLetter d) := by
  show (65 : Nat) ≤ (columnLetter d).toNat ∧ (columnLetter d).toNat ≤ 90
  rw [columnLetter_toNat]
  omega

theorem letterDigit_columnLetter (d : Nat) : letterDigit (columnLetter d) = d % 26 + 1 := by
  rw [letterDigit, columnLetter_toNat]
  omega

theorem isCapital_columnLetters (n : Nat) : ∀ c ∈ columnLetters n, IsCapital c := by
  induction n using Nat.strong_induction_on with
  | _ n ih =>
    by_cases small : n < 26
    · simp [columnLetters_of_lt small, isCapital_columnLetter]
    · rw [columnLetters_of_le (by omega)]
      intro c mem
      rcases List.mem_append.1 mem with front | last
      · exact ih _ (by omega) c front
      · rw [List.mem_singleton.1 last]
        exact isCapital_columnLetter n

theorem columnLetters_ne_nil (n : Nat) : columnLetters n ≠ [] := by
  by_cases small : n < 26
  · simp [columnLetters_of_lt small]
  · simp [columnLetters_of_le (by omega : 26 ≤ n)]

theorem bijectiveValue_columnLetters (n : Nat) : bijectiveValue (columnLetters n) = n + 1 := by
  induction n using Nat.strong_induction_on with
  | _ n ih =>
    by_cases small : n < 26
    · rw [columnLetters_of_lt small, ← List.nil_append [columnLetter n],
        bijectiveValue_append_singleton, letterDigit_columnLetter, bijectiveValue_nil]
      omega
    · -- the last letter is the digit `n % 26 + 1`; the rest counts the `n / 26` full rounds
      rw [columnLetters_of_le (by omega), bijectiveValue_append_singleton,
        ih _ (by omega), letterDigit_columnLetter]
      omega

@[simp] theorem toList_columnLabel (n : Nat) : (columnLabel n).toList = columnLetters n :=
  String.toList_ofList

theorem columnLabel_injective : Function.Injective columnLabel := by
  intro a b same
  have values := congrArg (fun label => bijectiveValue (String.toList label)) same
  simp only [toList_columnLabel, bijectiveValue_columnLetters] at values
  omega

/-! ## Cell names -/

theorem letters_append_digits_inj {l l' : List Char} {n n' : Nat}
    (letters : ∀ c ∈ l, c.isDigit = false) (letters' : ∀ c ∈ l', c.isDigit = false)
    (same : l ++ Nat.toDigits 10 n = l' ++ Nat.toDigits 10 n') : l = l' ∧ n = n' := by
  -- the letters are exactly what comes before the first digit
  have front : ∀ {l : List Char} {m : Nat}, (∀ c ∈ l, c.isDigit = false) →
      (l ++ Nat.toDigits 10 m).takeWhile (fun c => !c.isDigit) = l := by
    intro l m letters
    rw [List.takeWhile_append_of_pos (by simpa using letters)]
    obtain ⟨d, ds, digits⟩ := List.exists_cons_of_ne_nil (Nat.toDigits_ne_nil (n := m) (b := 10))
    have digit : d.isDigit = true :=
      Nat.isDigit_of_mem_toDigits (by omega) (by omega) (digits ▸ List.mem_cons_self)
    simp [digits, digit]
  have prefixes : l = l' := by rw [← front letters, same, front letters']
  subst prefixes
  have digits : Nat.toDigits 10 n = Nat.toDigits 10 n' := List.append_cancel_left same
  refine ⟨rfl, ?_⟩
  rw [← Nat.ofDigitChars_ten_toDigits (n := n), digits, Nat.ofDigitChars_ten_toDigits]

theorem cellName_injective {r c r' c' : Nat} (same : cellName r c = cellName r' c') :
    r = r' ∧ c = c' := by
  have letters : ∀ n, ∀ x ∈ columnLetters n, x.isDigit = false :=
    fun n x mem => (isCapital_columnLetters n x mem).isDigit
  have spelled := congrArg String.toList same
  simp only [cellName, String.toList_append, toList_columnLabel, Nat.toString_eq_repr,
    Nat.toList_repr] at spelled
  obtain ⟨labels, rows⟩ := letters_append_digits_inj (letters c) (letters c') spelled
  exact ⟨by omega, columnLabel_injective (String.toList_inj.mp (by simpa using labels))⟩

theorem row_add_one_in_128_bits {r : Nat} (h : r < 2 ^ 64) :
    (BitVec.ofNat 128 r + 1).toNat = r + 1 := by
  rw [BitVec.toNat_add, BitVec.toNat_ofNat, show (1 : BitVec 128).toNat = 1 from rfl]
  omega

/-- Column labels are the bijective base-twenty-six numerals of the columns counted from one:
each is a non-empty word of capital letters whose value is the column plus one, computed by
steps `n ↦ n / 26 - 1` that never subtract from zero. So labels are injective and shortlex order
on them is the order of the columns. A cell name is the label followed by the decimal of the row
plus one, a sum that 128 bits hold for every 64-bit row, and distinct positions have distinct
names. -/
theorem columnLabel_bijective_numeral :
    (∀ n, 26 ≤ n → 1 ≤ n / 26 ∧ columnLetters n = columnLetters (n / 26 - 1) ++ [columnLetter n]) ∧
    (∀ n, (columnLabel n).toList ≠ [] ∧ (∀ c ∈ (columnLabel n).toList, 'A' ≤ c ∧ c ≤ 'Z') ∧
      bijectiveValue (columnLabel n).toList = n + 1) ∧
    Function.Injective columnLabel ∧
    (∀ a b, a < b ↔ List.Shortlex (· < ·) (columnLabel a).toList (columnLabel b).toList) ∧
    (∀ r c, r < 2 ^ 64 →
      cellName r c = columnLabel c ++ toString (BitVec.ofNat 128 r + 1).toNat) ∧
    (∀ r c r' c', cellName r c = cellName r' c' → r = r' ∧ c = c') := by
  refine ⟨fun n h => ⟨by omega, columnLetters_of_le h⟩, fun n => ?_, columnLabel_injective,
    fun a b => ?_, fun r c h => ?_, fun r c r' c' same => cellName_injective same⟩
  · rw [toList_columnLabel]
    exact ⟨columnLetters_ne_nil n, isCapital_columnLetters n, bijectiveValue_columnLetters n⟩
  · rw [toList_columnLabel, toList_columnLabel, shortlex_iff_bijectiveValue_lt
      (isCapital_columnLetters a) (isCapital_columnLetters b), bijectiveValue_columnLetters,
      bijectiveValue_columnLetters]
    omega
  · rw [row_add_one_in_128_bits h]
    rfl

theorem columnLabel_at_index_limit :
    (2 ^ 64 - 1 : Nat) < 2 ^ 64 ∧
    cellName (2 ^ 64 - 1) 0 = columnLabel 0 ++ toString (BitVec.ofNat 128 (2 ^ 64 - 1) + 1).toNat ∧
    bijectiveValue (columnLabel (2 ^ 64 - 1)).toList = 2 ^ 64 := by
  have numeral := columnLabel_bijective_numeral
  exact ⟨by decide, numeral.2.2.2.2.1 _ 0 (by decide), (numeral.2.1 _).2.2⟩

example : columnLabel (2 ^ 64 - 1) = "GKGWBYLWRXTLPP" := by decide +kernel

example : cellName (2 ^ 64 - 1) 0 = "A18446744073709551616" := by decide +kernel

end SheetStore
