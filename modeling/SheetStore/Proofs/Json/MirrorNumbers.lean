import SheetStore.Proofs.Json.Mirror

/-! Numbers are read alike in a text and in the same text with each `<` escaped: no
number byte is a `<`, and the digit loops are given fuel covering the text.
-/

set_option autoImplicit false

namespace SheetStore

namespace Reader

variable {B B' : ByteArray} {i i' : Nat}

theorem skipDigits_mirror : ∀ {n m i i' : Nat}, n ≤ m → B.size < n + i → Tracks B B' i i' →
    Mirror B B' (skipDigits n) (skipDigits m) i i' := by
  intro n
  induction n with
  | zero =>
    intro m i i' _ room h
    cases m with
    | zero => exact Mirror.pure h ()
    | succ m => exact Mirror.peek_end (h.at_end (by omega)) (Mirror.pure h ())
  | succ n ih =>
    intro m i i' le room h
    obtain ⟨m, rfl⟩ : ∃ k, m = k + 1 := ⟨m - 1, by omega⟩
    refine Mirror.peek_cases h (fun _ => Mirror.pure h ()) (fun b at_i other => ?_)
      fun _ => Mirror.pure h ()
    dsimp only
    split
    · exact Mirror.bump_bind (ih (by omega) (by omega) (h.bump at_i other))
    · exact Mirror.pure h ()

theorem exponentOverflow_mirror (positive zeroSignificand positiveExp : Bool)
    (path : List PathStep) (sizes : B.size ≤ B'.size) (h : Tracks B B' i i') :
    Mirror B B' (exponentOverflow positive zeroSignificand positiveExp path)
      (exponentOverflow positive zeroSignificand positiveExp path) i i' := by
  unfold exponentOverflow
  split
  · exact Mirror.fail _ _
  · exact Mirror.read_bind (Mirror.bind_pure (skipDigits_mirror (by omega) (by omega) h))

theorem finishFloat_mirror (positive : Bool) (significand : Nat) (exponent : Int)
    (path : List PathStep) (h : Tracks B B' i i') :
    Mirror B B' (finishFloat positive significand exponent path)
      (finishFloat positive significand exponent path) i i' := by
  unfold finishFloat
  split
  · exact Mirror.pure h _
  · exact Mirror.fail _ _

theorem exponentDigits_mirror (path : List PathStep) (positive : Bool) (significand : Nat)
    (positiveExp : Bool) (sizes : B.size ≤ B'.size) :
    ∀ {n m : Nat} (exp : Nat) {i i' : Nat}, n ≤ m → B.size < n + i → Tracks B B' i i' →
      Mirror B B' (exponentDigits path positive significand positiveExp n exp)
        (exponentDigits path positive significand positiveExp m exp) i i' := by
  intro n
  induction n with
  | zero =>
    intro m exp i i' _ room h
    cases m with
    | zero => exact Mirror.pure h _
    | succ m => exact Mirror.peek_end (h.at_end (by omega)) (Mirror.pure h _)
  | succ n ih =>
    intro m exp i i' le room h
    obtain ⟨m, rfl⟩ : ∃ k, m = k + 1 := ⟨m - 1, by omega⟩
    refine Mirror.peek_cases h (fun _ => Mirror.pure h _) (fun b at_i other => ?_)
      fun _ => Mirror.pure h _
    dsimp only
    split
    · refine Mirror.bump_bind ?_
      have step := h.bump at_i other
      split
      · exact Mirror.bind_pure (exponentOverflow_mirror _ _ _ path sizes step)
      · exact ih _ (by omega) (by omega) step
    · exact Mirror.pure h _

theorem exponentSign_mirror (h : Tracks B B' i i') :
    Mirror B B' exponentSign exponentSign i i' := by
  refine Mirror.peek_cases h (fun _ => Mirror.pure h _) (fun c at_i other => ?_)
    fun _ => Mirror.pure h _
  split
  · exact Mirror.bump_bind (Mirror.pure (h.bump at_i other) _)
  · exact Mirror.bump_bind (Mirror.pure (h.bump at_i other) _)
  · exact Mirror.pure h _

theorem exponentPart_mirror (positive : Bool) (significand : Nat) (start : Int)
    (path : List PathStep) (sizes : B.size ≤ B'.size) (h : Tracks B B' i i') {b : UInt8}
    (at_i : B.data[i]? = some b) (other : b ≠ 60) :
    Mirror B B' (exponentPart positive significand start path)
      (exponentPart positive significand start path) i i' := by
  refine Mirror.bump_bind (Mirror.bind (exponentSign_mirror (h.bump at_i other))
    fun positiveExp j j' _ step => ?_)
  refine Mirror.next_bind step (fun _ => Mirror.fail _ _) fun c at_j => ?_
  by_cases lt : c = 60
  · subst lt
    exact Mirror.of_error rfl
  rw [shown_of_ne lt]
  dsimp only
  split
  · exact Mirror.fail _ _
  · refine Mirror.read_bind (Mirror.bind (exponentDigits_mirror path positive significand
      positiveExp sizes _ (by omega) (by omega) (step.bump at_j lt)) fun _ _ _ _ step => ?_)
    split
    · exact Mirror.pure step _
    · exact finishFloat_mirror _ _ _ path step

theorem fractionOverflow_mirror (positive : Bool) (significand : Nat) (exponent : Int)
    (path : List PathStep) (sizes : B.size ≤ B'.size) (h : Tracks B B' i i') :
    Mirror B B' (fractionOverflow positive significand exponent path)
      (fractionOverflow positive significand exponent path) i i' := by
  unfold fractionOverflow
  refine Mirror.read_bind (Mirror.bind (skipDigits_mirror (by omega) (by omega) h)
    fun _ j j' _ step => ?_)
  refine Mirror.peek_cases step (fun _ => finishFloat_mirror _ _ _ path step)
    (fun c at_j other => ?_) fun _ => finishFloat_mirror _ _ _ path step
  split
  · exact exponentPart_mirror _ _ _ path sizes step at_j other
  · exact exponentPart_mirror _ _ _ path sizes step at_j other
  · exact finishFloat_mirror _ _ _ path step

theorem fractionDigits_mirror (path : List PathStep) (positive : Bool) (before : Int)
    (sizes : B.size ≤ B'.size) :
    ∀ {n m : Nat} (significand count : Nat) {i i' : Nat}, n ≤ m → B.size < n + i →
      Tracks B B' i i' →
      Mirror B B' (fractionDigits path positive before n significand count)
        (fractionDigits path positive before m significand count) i i' := by
  intro n
  induction n with
  | zero =>
    intro m s c i i' _ room h
    cases m with
    | zero => exact Mirror.pure h _
    | succ m => exact Mirror.peek_end (h.at_end (by omega)) (Mirror.pure h _)
  | succ n ih =>
    intro m s c i i' le room h
    obtain ⟨m, rfl⟩ : ∃ k, m = k + 1 := ⟨m - 1, by omega⟩
    refine Mirror.peek_cases h (fun _ => Mirror.pure h _) (fun b at_i other => ?_)
      fun _ => Mirror.pure h _
    dsimp only
    split
    · split
      · exact Mirror.bind_pure (fractionOverflow_mirror _ _ _ path sizes h)
      · exact Mirror.bump_bind (ih _ _ (by omega) (by omega) (h.bump at_i other))
    · exact Mirror.pure h _

theorem fractionPart_mirror (positive : Bool) (significand : Nat) (before : Int)
    (path : List PathStep) (sizes : B.size ≤ B'.size) (h : Tracks B B' i i') {b : UInt8}
    (at_i : B.data[i]? = some b) (other : b ≠ 60) :
    Mirror B B' (fractionPart positive significand before path)
      (fractionPart positive significand before path) i i' := by
  refine Mirror.bump_bind ?_
  refine Mirror.read_bind (Mirror.bind (fractionDigits_mirror path positive before sizes _ _
    (by omega) (by omega) (h.bump at_i other)) fun _ j j' _ step => ?_)
  split
  · exact Mirror.pure step _
  · split
    · -- no digit after the point: the run fails whatever comes next
      exact Mirror.peek_cases step (fun _ => Mirror.failPeek _ _) (fun _ _ _ => Mirror.failPeek _ _)
        fun _ => Mirror.failPeek _ _
    · refine Mirror.peek_cases step (fun _ => finishFloat_mirror _ _ _ path step)
        (fun c at_j other => ?_) fun _ => finishFloat_mirror _ _ _ path step
      split
      · exact exponentPart_mirror _ _ _ path sizes step at_j other
      · exact exponentPart_mirror _ _ _ path sizes step at_j other
      · exact finishFloat_mirror _ _ _ path step

theorem count_mirror : ∀ {n m : Nat} (e : Nat) {i i' : Nat}, n ≤ m → B.size < n + i →
    Tracks B B' i i' → Mirror B B' (longInteger.count n e) (longInteger.count m e) i i' := by
  intro n
  induction n with
  | zero =>
    intro m e i i' _ room h
    cases m with
    | zero => exact Mirror.pure h _
    | succ m => exact Mirror.peek_end (h.at_end (by omega)) (Mirror.pure h _)
  | succ n ih =>
    intro m e i i' le room h
    obtain ⟨m, rfl⟩ : ∃ k, m = k + 1 := ⟨m - 1, by omega⟩
    refine Mirror.peek_cases h (fun _ => Mirror.pure h _) (fun b at_i other => ?_)
      fun _ => Mirror.pure h _
    dsimp only
    split
    · exact Mirror.bump_bind (ih (m := m) _ (by omega) (by omega) (h.bump at_i other))
    · exact Mirror.pure h _

theorem longInteger_mirror (positive : Bool) (significand : Nat) (path : List PathStep)
    (sizes : B.size ≤ B'.size) (h : Tracks B B' i i') :
    Mirror B B' (longInteger positive significand path) (longInteger positive significand path)
      i i' := by
  refine Mirror.read_bind (Mirror.bind (count_mirror _ (by omega) (by omega) h)
    fun _ j j' _ step => ?_)
  refine Mirror.peek_cases step (fun _ => finishFloat_mirror _ _ _ path step)
    (fun c at_j other => ?_) fun _ => finishFloat_mirror _ _ _ path step
  split
  · exact fractionPart_mirror _ _ _ path sizes step at_j other
  · exact exponentPart_mirror _ _ _ path sizes step at_j other
  · exact exponentPart_mirror _ _ _ path sizes step at_j other
  · exact finishFloat_mirror _ _ _ path step

theorem afterInteger_mirror (positive : Bool) (significand : Nat) (path : List PathStep)
    (sizes : B.size ≤ B'.size) (h : Tracks B B' i i') :
    Mirror B B' (afterInteger positive significand path) (afterInteger positive significand path)
      i i' := by
  have whole : ∀ {x : ReadM JsonNumber}, x = (if positive then pure (.nat significand)
      else if significand = 0 then pure (.float (Binary64.zero true))
      else if significand ≤ Nat.pow 2 63 then pure (.neg (-(significand : Int)))
      else pure (.float (Binary64.ofNat significand).neg)) → Mirror B B' x x i i' := by
    rintro _ rfl
    split_ifs <;> exact Mirror.pure h _
  refine Mirror.peek_cases h (fun _ => whole rfl) (fun c at_i other => ?_) fun _ => whole rfl
  split
  · exact Mirror.bind_pure (fractionPart_mirror _ _ _ path sizes h at_i other)
  · exact Mirror.bind_pure (exponentPart_mirror _ _ _ path sizes h at_i other)
  · exact Mirror.bind_pure (exponentPart_mirror _ _ _ path sizes h at_i other)
  · exact whole rfl

theorem integerDigits_mirror (positive : Bool) (path : List PathStep) (sizes : B.size ≤ B'.size) :
    ∀ {n m : Nat} (significand : Nat) {i i' : Nat}, n ≤ m → B.size < n + i →
      Tracks B B' i i' →
      Mirror B B' (integerDigits positive path n significand)
        (integerDigits positive path m significand) i i' := by
  intro n
  induction n with
  | zero =>
    intro m s i i' _ room h
    cases m with
    | zero => exact afterInteger_mirror _ _ path sizes h
    | succ m =>
      exact Mirror.peek_end (h.at_end (by omega)) (afterInteger_mirror _ _ path sizes h)
  | succ n ih =>
    intro m s i i' le room h
    obtain ⟨m, rfl⟩ : ∃ k, m = k + 1 := ⟨m - 1, by omega⟩
    refine Mirror.peek_cases h (fun _ => afterInteger_mirror _ _ path sizes h)
      (fun b at_i other => ?_) fun _ => afterInteger_mirror _ _ path sizes h
    dsimp only
    split
    · split
      · exact Mirror.bind_pure (longInteger_mirror _ _ path sizes h)
      · exact Mirror.bump_bind (ih (m := m) _ (by omega) (by omega) (h.bump at_i other))
    · exact afterInteger_mirror _ _ path sizes h

theorem number_mirror (positive : Bool) (path : List PathStep) (sizes : B.size ≤ B'.size)
    (h : Tracks B B' i i') : Mirror B B' (number positive path) (number positive path) i i' := by
  refine Mirror.next_bind h (fun _ => Mirror.fail _ _) fun b at_i => ?_
  by_cases lt : b = 60
  · subst lt
    exact Mirror.of_error rfl
  rw [shown_of_ne lt]
  have step := h.bump at_i lt
  dsimp only
  split
  · refine Mirror.peek_cases step (fun _ => afterInteger_mirror _ _ path sizes step)
      (fun c _ _ => ?_) fun _ => afterInteger_mirror _ _ path sizes step
    dsimp only
    split
    · exact Mirror.failPeek _ _
    · exact afterInteger_mirror _ _ path sizes step
  · split
    · exact Mirror.read_bind (integerDigits_mirror _ path sizes _ (by omega) (by omega) step)
    · exact Mirror.fail _ _

end Reader

end SheetStore
