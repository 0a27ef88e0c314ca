import SheetStore.Json.Reader
import SheetStore.Proofs.Text.Bytes

/-! Runs of the reader on a text and on the same text with each `<` escaped, compared
through what is left of each (`Reader.Tracks`, `Reader.Mirror`).
-/

set_option autoImplicit false

namespace SheetStore

def escapeLt : List UInt8 → List UInt8 :=
  List.flatMap fun b => if b = 60 then [92, 117, 48, 48, 51, 99] else [b]

@[simp] theorem escapeLt_nil : escapeLt [] = [] := rfl

theorem escapeLt_cons (b : UInt8) (rest : List UInt8) :
    escapeLt (b :: rest) = (if b = 60 then [92, 117, 48, 48, 51, 99] else [b]) ++ escapeLt rest :=
  List.flatMap_cons

theorem length_le_escapeLt (l : List UInt8) : l.length ≤ (escapeLt l).length := by
  induction l with
  | nil => rfl
  | cons b rest ih =>
    rw [escapeLt_cons, List.length_append, List.length_cons]
    split <;> simp <;> omega

namespace Reader

variable {α β : Type}

def exec (x : ReadM α) (bytes : ByteArray) (i : Nat) : Except ReadError (α × Nat) :=
  (x.run bytes).run i

theorem exec_pure (a : α) (bytes : ByteArray) (i : Nat) :
    exec (pure a : ReadM α) bytes i = .ok (a, i) := rfl

theorem exec_bind (x : ReadM α) (f : α → ReadM β) (bytes : ByteArray) (i : Nat) :
    exec (x >>= f) bytes i = match exec x bytes i with
      | .ok (a, j) => exec (f a) bytes j
      | .error e => .error e := by
  simp only [exec, ReaderT.run_bind, StateT.run_bind]
  cases (x.run bytes).run i with
  | ok p => rfl
  | error e => rfl

theorem exec_bind_eq_ok {x : ReadM α} {f : α → ReadM β} {bytes : ByteArray} {i j : Nat} {v : β}
    (h : exec (x >>= f) bytes i = .ok (v, j)) :
    ∃ a k, exec x bytes i = .ok (a, k) ∧ exec (f a) bytes k = .ok (v, j) := by
  rw [exec_bind] at h
  split at h
  · exact ⟨_, _, by assumption, h⟩
  · cases h

theorem exec_peek (bytes : ByteArray) (i : Nat) : exec peek bytes i = .ok (bytes.data[i]?, i) := rfl

theorem exec_bump (bytes : ByteArray) (i : Nat) : exec bump bytes i = .ok ((), i + 1) := rfl

theorem exec_read (bytes : ByteArray) (i : Nat) :
    exec (read : ReadM ByteArray) bytes i = .ok (bytes, i) := rfl

theorem exec_get (bytes : ByteArray) (i : Nat) :
    exec (get : ReadM Nat) bytes i = .ok (i, i) := rfl

theorem exec_set (bytes : ByteArray) (i j : Nat) :
    exec (set j : ReadM PUnit) bytes i = .ok (⟨⟩, j) := rfl

theorem exec_next (bytes : ByteArray) (i : Nat) :
    exec next bytes i = .ok (bytes.data[i]?, if bytes.data[i]?.isSome then i + 1 else i) := by
  rw [next, exec_bind, exec_peek]
  cases bytes.data[i]? <;> rfl

theorem getElem?_eq_head?_drop (bytes : ByteArray) (i : Nat) :
    bytes.data[i]? = (bytes.data.toList.drop i).head? := by
  rw [List.head?_drop, Array.getElem?_toList]

section Step

variable (B B' : ByteArray)

/-- What is left of `B'` from `i'` is what is left of `B` from `i`, with each `<` escaped. -/
def Tracks (i i' : Nat) : Prop := B'.data.toList.drop i' = escapeLt (B.data.toList.drop i)

/-- Every return of `x` on `B` from `i` is matched by a return of `x'` on `B'` from `i'`, with the
same value, at positions in step. -/
def Mirror (x x' : ReadM α) (i i' : Nat) : Prop :=
  ∀ v j, exec x B i = .ok (v, j) → ∃ j', exec x' B' i' = .ok (v, j') ∧ Tracks B B' j j'

end Step

/-- The byte the escaped text shows where the text shows `b`: the backslash that begins the
escape of a `<`. -/
def shown (b : UInt8) : UInt8 := if b = 60 then 92 else b

theorem shown_of_ne {b : UInt8} (h : b ≠ 60) : shown b = b := if_neg h

variable {B B' : ByteArray} {i i' : Nat}

namespace Tracks

theorem peek (h : Tracks B B' i i') : B'.data[i']? = B.data[i]?.map shown := by
  rw [getElem?_eq_head?_drop, getElem?_eq_head?_drop B, h]
  cases B.data.toList.drop i with
  | nil => rfl
  | cons b rest =>
    rw [escapeLt_cons]
    by_cases lt : b = 60 <;> simp [shown, lt]

theorem drop_of_getElem? {bytes : ByteArray} {b : UInt8} (at_i : bytes.data[i]? = some b) :
    bytes.data.toList.drop i = b :: bytes.data.toList.drop (i + 1) := by
  rw [getElem?_eq_head?_drop] at at_i
  rw [← List.tail_drop]
  cases drops : bytes.data.toList.drop i with
  | nil => rw [drops] at at_i; cases at_i
  | cons c rest =>
    rw [drops] at at_i
    cases at_i
    rfl

theorem bump (h : Tracks B B' i i') {b : UInt8} (at_i : B.data[i]? = some b) (other : b ≠ 60) :
    Tracks B B' (i + 1) (i' + 1) := by
  have escaped := h
  rw [Tracks, drop_of_getElem? at_i, escapeLt_cons, if_neg other, List.singleton_append] at escaped
  unfold Tracks
  rw [← List.tail_drop, escaped, List.tail_cons]

theorem lt (h : Tracks B B' i i') (at_i : B.data[i]? = some 60) :
    B'.data.toList.drop i' = [92, 117, 48, 48, 51, 99] ++ B'.data.toList.drop (i' + 6) ∧
      Tracks B B' (i + 1) (i' + 6) := by
  have escaped := h
  rw [Tracks, drop_of_getElem? at_i, escapeLt_cons, if_pos rfl] at escaped
  have after : B'.data.toList.drop (i' + 6) = escapeLt (B.data.toList.drop (i + 1)) := by
    rw [← List.drop_drop, escaped]
    rfl
  exact ⟨by rw [escaped, after], after⟩

theorem size_le (h : Tracks B B' i i') : B.size - i ≤ B'.size - i' := by
  have lengths := congrArg List.length h
  rw [List.length_drop] at lengths
  have := length_le_escapeLt (B.data.toList.drop i)
  rw [List.length_drop] at this
  simp only [ByteArray.size, Array.length_toList] at lengths this ⊢
  omega

end Tracks

namespace Mirror

theorem pure (h : Tracks B B' i i') (a : α) : Mirror B B' (Pure.pure a) (Pure.pure a) i i' := by
  intro v j ran
  rw [exec_pure] at ran
  cases ran
  exact ⟨i', rfl, h⟩

theorem bind {x x' : ReadM α} {f f' : α → ReadM β} (first : Mirror B B' x x' i i')
    (second : ∀ a j j', exec x B i = .ok (a, j) → Tracks B B' j j' →
      Mirror B B' (f a) (f' a) j j') :
    Mirror B B' (x >>= f) (x' >>= f') i i' := by
  intro v k ran
  obtain ⟨a, j, ran_x, ran_f⟩ := exec_bind_eq_ok ran
  obtain ⟨j', ran_x', step⟩ := first a j ran_x
  obtain ⟨k', ran_f', step'⟩ := second a j j' ran_x step v k ran_f
  exact ⟨k', by rw [exec_bind, ran_x']; exact ran_f', step'⟩

theorem bind_pure {β : Type} {x x' : ReadM α} {f : α → β} (first : Mirror B B' x x' i i') :
    Mirror B B' (x >>= fun a => Pure.pure (f a)) (x' >>= fun a => Pure.pure (f a)) i i' :=
  bind first fun a _ _ _ step => Mirror.pure step (f a)

theorem ite {c : Prop} [Decidable c] {x y x' y' : ReadM α} (pos : c → Mirror B B' x x' i i')
    (neg : ¬ c → Mirror B B' y y' i i') :
    Mirror B B' (if c then x else y) (if c then x' else y') i i' := by
  by_cases holds : c
  · rw [if_pos holds, if_pos holds]
    exact pos holds
  · rw [if_neg holds, if_neg holds]
    exact neg holds

theorem of_error {x x' : ReadM α} {e : ReadError} (failed : exec x B i = .error e) :
    Mirror B B' x x' i i' := by
  intro v j ran
  rw [failed] at ran
  cases ran

theorem failAt {x' : ReadM α} (fault : SyntaxFault) (path : List PathStep) (k : Nat) :
    Mirror B B' (Reader.failAt fault path k) x' i i' :=
  of_error rfl

theorem fail {x' : ReadM α} (fault : SyntaxFault) (path : List PathStep) :
    Mirror B B' (Reader.fail fault path) x' i i' :=
  of_error rfl

theorem failPeek {x' : ReadM α} (fault : SyntaxFault) (path : List PathStep) :
    Mirror B B' (Reader.failPeek fault path) x' i i' :=
  of_error rfl

theorem peek_bind {K K' : Option UInt8 → ReadM α} (h : Tracks B B' i i')
    (next : Mirror B B' (K B.data[i]?) (K' (B.data[i]?.map shown)) i i') :
    Mirror B B' (Reader.peek >>= K) (Reader.peek >>= K') i i' := by
  intro v j ran
  rw [exec_bind, exec_peek] at ran
  obtain ⟨j', ran', step⟩ := next v j ran
  exact ⟨j', by rw [exec_bind, exec_peek, h.peek]; exact ran', step⟩

theorem next_bind {K K' : Option UInt8 → ReadM α} (h : Tracks B B' i i')
    (at_end : B.data[i]? = none → Mirror B B' (K none) (K' none) i i')
    (taken : ∀ b, B.data[i]? = some b →
      Mirror B B' (K (some b)) (K' (some (shown b))) (i + 1) (i' + 1)) :
    Mirror B B' (Reader.next >>= K) (Reader.next >>= K') i i' := by
  intro v j ran
  rw [exec_bind, exec_next] at ran
  cases at_i : B.data[i]? with
  | none =>
    rw [at_i] at ran
    obtain ⟨j', ran', step⟩ := at_end at_i v j ran
    refine ⟨j', ?_, step⟩
    rw [exec_bind, exec_next, h.peek, at_i]
    exact ran'
  | some b =>
    rw [at_i] at ran
    obtain ⟨j', ran', step⟩ := taken b at_i v j ran
    refine ⟨j', ?_, step⟩
    rw [exec_bind, exec_next, h.peek, at_i]
    exact ran'

theorem bump_bind {K K' : Unit → ReadM α} (next : Mirror B B' (K ()) (K' ()) (i + 1) (i' + 1)) :
    Mirror B B' (Reader.bump >>= K) (Reader.bump >>= K') i i' := by
  intro v j ran
  rw [exec_bind, exec_bump] at ran
  obtain ⟨j', ran', step⟩ := next v j ran
  exact ⟨j', by rw [exec_bind, exec_bump]; exact ran', step⟩

theorem bump (h : Tracks B B' i i') {b : UInt8} (at_i : B.data[i]? = some b) (other : b ≠ 60) :
    Mirror B B' Reader.bump Reader.bump i i' := by
  intro v j ran
  rw [exec_bump] at ran
  cases ran
  exact ⟨i' + 1, exec_bump B' i', h.bump at_i other⟩

theorem failPeek_bind {β : Type} {K : α → ReadM β} {x' : ReadM β} (fault : SyntaxFault)
    (path : List PathStep) : Mirror B B' (Reader.failPeek fault path >>= K) x' i i' :=
  of_error rfl

theorem read_bind {K K' : ByteArray → ReadM α} (next : Mirror B B' (K B) (K' B') i i') :
    Mirror B B' (read >>= K) (read >>= K') i i' := by
  intro v j ran
  rw [exec_bind, exec_read] at ran
  obtain ⟨j', ran', step⟩ := next v j ran
  exact ⟨j', by rw [exec_bind, exec_read]; exact ran', step⟩

theorem shown_cases {K K' : Option UInt8 → ReadM α} {j j' : Nat}
    (at_end : B.data[j]? = none → Mirror B B' (K none) (K' none) j j')
    (plain : ∀ b, B.data[j]? = some b → b ≠ 60 → Mirror B B' (K (some b)) (K' (some b)) j j')
    (lt : B.data[j]? = some 60 → Mirror B B' (K (some 60)) (K' (some 92)) j j') :
    Mirror B B' (K B.data[j]?) (K' (B.data[j]?.map shown)) j j' := by
  cases at_j : B.data[j]? with
  | none => exact at_end at_j
  | some b =>
    by_cases other : b = 60
    · subst other
      exact lt at_j
    · rw [Option.map_some, shown_of_ne other]
      exact plain b at_j other

theorem peek_cases {K K' : Option UInt8 → ReadM α} (h : Tracks B B' i i')
    (at_end : B.data[i]? = none → Mirror B B' (K none) (K' none) i i')
    (plain : ∀ b, B.data[i]? = some b → b ≠ 60 → Mirror B B' (K (some b)) (K' (some b)) i i')
    (lt : B.data[i]? = some 60 → Mirror B B' (K (some 60)) (K' (some 92)) i i') :
    Mirror B B' (Reader.peek >>= K) (Reader.peek >>= K') i i' :=
  peek_bind h (shown_cases at_end plain lt)

theorem peek_end {x : ReadM α} {K' : Option UInt8 → ReadM α} (at_end : B'.data[i']? = none)
    (next : Mirror B B' x (K' none) i i') : Mirror B B' x (Reader.peek >>= K') i i' := by
  intro v j ran
  obtain ⟨j', ran', step⟩ := next v j ran
  exact ⟨j', by rw [exec_bind, exec_peek, at_end]; exact ran', step⟩

end Mirror

theorem getElem?_eq_none_of_size_le {bytes : ByteArray} (past : bytes.size ≤ i) :
    bytes.data[i]? = none :=
  Array.getElem?_eq_none past

theorem Tracks.at_end (h : Tracks B B' i i') (past : B.size ≤ i) : B'.data[i']? = none := by
  rw [h.peek, getElem?_eq_none_of_size_le past, Option.map_none]

/-! ## Blanks -/

theorem shown_blank {b : UInt8} : isBlank (shown b) = isBlank b := by
  unfold shown
  split
  · next lt => rw [lt]; rfl
  · rfl

theorem ne_of_isBlank {b : UInt8} (blank : isBlank b = true) : b ≠ 60 := by
  rintro rfl
  exact absurd blank (by decide)

theorem skipBlanksFor_mirror : ∀ {n m i i' : Nat}, n ≤ m → B.size < n + i → Tracks B B' i i' →
    ∀ {r : Option UInt8} {j : Nat}, exec (skipBlanksFor n) B i = .ok (r, j) →
      r = B.data[j]? ∧ ∃ j', exec (skipBlanksFor m) B' i' = .ok (r.map shown, j') ∧
        Tracks B B' j j' := by
  intro n
  induction n with
  | zero =>
    intro m i i' _ room h r j ran
    rw [skipBlanksFor, exec_peek] at ran
    cases ran
    -- past the end of `B`, and so past the end of `B'`
    have beyond := getElem?_eq_none_of_size_le (Nat.le_of_lt (by omega : B.size < i))
    have beyond' := h.at_end (by omega)
    refine ⟨rfl, i', ?_, h⟩
    rw [beyond]
    cases m with
    | zero => rw [skipBlanksFor, exec_peek, beyond']; rfl
    | succ m => rw [skipBlanksFor, exec_bind, exec_peek, beyond']; rfl
  | succ n ih =>
    intro m i i' le room h r j ran
    obtain ⟨m, rfl⟩ : ∃ k, m = k + 1 := ⟨m - 1, by omega⟩
    rw [skipBlanksFor, exec_bind, exec_peek] at ran
    rw [skipBlanksFor, exec_bind, exec_peek, h.peek]
    cases at_i : B.data[i]? with
    | none =>
      rw [at_i] at ran
      cases ran
      exact ⟨at_i.symm, i', rfl, h⟩
    | some b =>
      rw [at_i] at ran
      simp only [Option.map_some] at ran ⊢
      rw [shown_blank]
      split
      · next blank =>
        rw [if_pos blank, exec_bind, exec_bump] at ran
        dsimp only at ran
        obtain ⟨same, j', ran', step⟩ :=
          ih (m := m) (by omega) (by omega) (h.bump at_i (ne_of_isBlank blank)) ran
        exact ⟨same, j', by rw [exec_bind, exec_bump]; exact ran', step⟩
      · next other =>
        rw [if_neg other] at ran
        cases ran
        exact ⟨at_i.symm, i', rfl, h⟩

theorem skipBlanks_mirror (sizes : B.size ≤ B'.size) (h : Tracks B B' i i') {r : Option UInt8}
    {j : Nat} (ran : exec skipBlanks B i = .ok (r, j)) :
    r = B.data[j]? ∧ ∃ j', exec skipBlanks B' i' = .ok (r.map shown, j') ∧ Tracks B B' j j' := by
  rw [skipBlanks, exec_bind, exec_read] at ran
  rw [skipBlanks, exec_bind, exec_read]
  exact skipBlanksFor_mirror (by omega) (by omega) h ran

theorem Mirror.skipBlanks_bind {K K' : Option UInt8 → ReadM α} (sizes : B.size ≤ B'.size)
    (h : Tracks B B' i i')
    (next : ∀ j j', Tracks B B' j j' →
      Mirror B B' (K B.data[j]?) (K' (B.data[j]?.map shown)) j j') :
    Mirror B B' (skipBlanks >>= K) (skipBlanks >>= K') i i' := by
  intro v k ran
  obtain ⟨r, j, ran_s, ran_K⟩ := exec_bind_eq_ok ran
  obtain ⟨rfl, j', ran_s', step⟩ := skipBlanks_mirror sizes h ran_s
  obtain ⟨k', ran_K', step'⟩ := next j j' step v k ran_K
  exact ⟨k', by rw [exec_bind, ran_s']; exact ran_K', step'⟩

theorem Mirror.skipBlanks_cases {K K' : Option UInt8 → ReadM α} (sizes : B.size ≤ B'.size)
    (h : Tracks B B' i i')
    (at_end : ∀ j j', Tracks B B' j j' → B.data[j]? = none → Mirror B B' (K none) (K' none) j j')
    (plain : ∀ b j j', Tracks B B' j j' → B.data[j]? = some b → b ≠ 60 →
      Mirror B B' (K (some b)) (K' (some b)) j j')
    (lt : ∀ j j', Tracks B B' j j' → B.data[j]? = some 60 →
      Mirror B B' (K (some 60)) (K' (some 92)) j j') :
    Mirror B B' (skipBlanks >>= K) (skipBlanks >>= K') i i' :=
  skipBlanks_bind sizes h fun j j' step =>
    shown_cases (at_end j j' step) (fun b => plain b j j' step) (lt j j' step)

/-! ## Words and escapes -/

theorem Tracks.getElem?_of_ne (h : Tracks B B' i i') {b : UInt8} (at_i : B.data[i]? = some b)
    (other : b ≠ 60) : B'.data[i']? = some b := by
  rw [h.peek, at_i, Option.map_some, shown_of_ne other]

theorem Tracks.skip (h : Tracks B B' i i') :
    ∀ k, (∀ t < k, ∃ b, B.data[i + t]? = some b ∧ b ≠ 60) →
      (∀ t < k, B'.data[i' + t]? = B.data[i + t]?) ∧ Tracks B B' (i + k) (i' + k) := by
  intro k
  induction k with
  | zero => exact fun _ => ⟨fun t small => absurd small (Nat.not_lt_zero t), h⟩
  | succ k ih =>
    intro plain
    obtain ⟨same, step⟩ := ih fun t small => plain t (by omega)
    obtain ⟨b, at_k, other⟩ := plain k (by omega)
    refine ⟨fun t small => ?_, ?_⟩
    · rcases Nat.lt_succ_iff_lt_or_eq.1 small with earlier | rfl
      · exact same t earlier
      · rw [step.getElem?_of_ne at_k other, at_k]
    · rw [← Nat.add_assoc, ← Nat.add_assoc]
      exact step.bump at_k other

theorem expectWord_mirror (path : List PathStep) :
    ∀ word : List UInt8, (∀ w ∈ word, w ≠ 60) → ∀ {i i' : Nat}, Tracks B B' i i' →
      Mirror B B' (expectWord word path) (expectWord word path) i i' := by
  intro word
  induction word with
  | nil => exact fun _ _ _ h => Mirror.pure h ()
  | cons w rest ih =>
    intro plain i i' h
    have other : w ≠ 60 := plain w List.mem_cons_self
    refine Mirror.bind (Mirror.next_bind h (fun _ => Mirror.fail _ _) fun b at_i => ?_)
      fun _ j j' _ step => ih (fun v mem => plain v (List.mem_cons_of_mem w mem)) step
    dsimp only
    split
    · next same =>
      subst same
      rw [shown_of_ne other, if_pos rfl]
      exact Mirror.pure (h.bump at_i other) ()
    · exact Mirror.fail _ _

theorem ne_of_hexValue {b : UInt8} {d : Nat} (digit : hexValue b = some d) : b ≠ 60 := by
  rintro rfl
  rw [show hexValue 60 = none by decide] at digit
  cases digit

theorem hexQuad_mirror (path : List PathStep) (h : Tracks B B' i i') :
    Mirror B B' (hexQuad path) (hexQuad path) i i' := by
  intro v j ran
  simp only [hexQuad, exec_bind, exec_read, exec_get] at ran
  split at ran
  · simp only [exec_bind, exec_set] at ran
    cases ran
  · simp only [exec_bind, exec_set] at ran
    split at ran
    · next a b c d digits =>
      rw [exec_pure] at ran
      cases ran
      simp only [List.range_succ, List.range_zero, List.nil_append, List.map_cons, List.map_nil,
        List.cons_append, List.cons.injEq, Option.bind_eq_some_iff] at digits
      obtain ⟨⟨b0, at0, d0⟩, ⟨b1, at1, d1⟩, ⟨b2, at2, d2⟩, ⟨b3, at3, d3⟩, -⟩ :=
        digits
      have plain : ∀ t < 4, ∃ x, B.data[i + t]? = some x ∧ x ≠ 60 := by
        intro t small
        rcases t with _ | _ | _ | _ | t
        · exact ⟨b0, at0, ne_of_hexValue d0⟩
        · exact ⟨b1, at1, ne_of_hexValue d1⟩
        · exact ⟨b2, at2, ne_of_hexValue d2⟩
        · exact ⟨b3, at3, ne_of_hexValue d3⟩
        · omega
      obtain ⟨same, step⟩ := h.skip 4 plain
      -- the escaped text has the same four bytes, so it is long enough and reads them alike
      have long : ¬ B'.size < i' + 4 := by
        intro short
        have := same 3 (by omega)
        rw [at3, getElem?_eq_none_of_size_le (by omega)] at this
        cases this
      refine ⟨i' + 4, ?_, step⟩
      simp only [hexQuad, exec_bind, exec_read, exec_get, if_neg long, exec_set, List.range_succ,
        List.range_zero, List.nil_append, List.map_cons, List.map_nil,
        List.cons_append, same 0 (by omega), same 1 (by omega), same 2 (by omega),
        same 3 (by omega), at0, at1, at2, at3, Option.bind_some, d0, d1, d2, d3]
      rfl
    · cases ran

theorem unicodeEscape_mirror (path : List PathStep) (h : Tracks B B' i i') :
    Mirror B B' (unicodeEscape path) (unicodeEscape path) i i' := by
  refine Mirror.bind (hexQuad_mirror path h) fun n j j' _ step => ?_
  split
  · exact Mirror.fail _ _
  split
  · exact Mirror.pure step _
  -- a leading surrogate, to be followed by a backslash and a `u`
  refine Mirror.peek_cases step (fun _ => Mirror.fail _ _) (fun b at_j other => ?_)
    fun _ => Mirror.of_error rfl
  refine Mirror.bump_bind ?_
  split
  · exact Mirror.fail _ _
  have step := step.bump at_j other
  refine Mirror.peek_cases step (fun _ => Mirror.fail _ _) (fun u at_k other => ?_)
    fun _ => Mirror.of_error rfl
  refine Mirror.bump_bind ?_
  split
  · exact Mirror.fail _ _
  refine Mirror.bind (hexQuad_mirror path (step.bump at_k other)) fun _ _ _ _ step => ?_
  split
  · exact Mirror.fail _ _
  · exact Mirror.pure step _

theorem escape_mirror (path : List PathStep) (h : Tracks B B' i i') :
    Mirror B B' (escape path) (escape path) i i' := by
  refine Mirror.next_bind h (fun _ => Mirror.fail _ _) fun b at_i => ?_
  dsimp only
  by_cases lt : b = 60
  · subst lt
    exact Mirror.of_error rfl
  rw [shown_of_ne lt]
  have step := h.bump at_i lt
  -- eight escapes of one byte each, then `\u`
  refine Mirror.ite (fun _ => Mirror.pure step _) fun _ => Mirror.ite (fun _ => Mirror.pure step _)
    fun _ => Mirror.ite (fun _ => Mirror.pure step _) fun _ => Mirror.ite (fun _ => Mirror.pure step _)
    fun _ => Mirror.ite (fun _ => Mirror.pure step _) fun _ => Mirror.ite (fun _ => Mirror.pure step _)
    fun _ => Mirror.ite (fun _ => Mirror.pure step _) fun _ => Mirror.ite (fun _ => Mirror.pure step _)
    fun _ => Mirror.ite (fun _ => unicodeEscape_mirror path step) fun _ => Mirror.fail _ _

theorem Tracks.exec_escape (h : Tracks B B' i i') (at_i : B.data[i]? = some 60)
    (path : List PathStep) : exec (escape path) B' (i' + 1) = .ok ([60], i' + 6) := by
  have bytes : ∀ k < 6, B'.data[i' + k]? = [92, 117, 48, 48, 51, 99][k]? := fun k small => by
    rw [← Array.getElem?_toList, ← List.getElem?_drop, (h.lt at_i).1,
      List.getElem?_append_left (by simpa using small)]
  have b1 : B'.data[i' + 1]? = some 117 := bytes 1 (by omega)
  have b2 : B'.data[i' + 2]? = some 48 := bytes 2 (by omega)
  have b3 : B'.data[i' + 3]? = some 48 := bytes 3 (by omega)
  have b4 : B'.data[i' + 4]? = some 51 := bytes 4 (by omega)
  have b5 : B'.data[i' + 5]? = some 99 := bytes 5 (by omega)
  have long : ¬ B'.size < i' + 6 := by
    intro short
    rw [getElem?_eq_none_of_size_le (by omega)] at b5
    cases b5
  have digits : [(some 48).bind hexValue, (some 48).bind hexValue, (some 51).bind hexValue,
      (some 99).bind hexValue] = [some 0, some 0, some 3, some 12] := rfl
  simp +decide only [escape, unicodeEscape, hexQuad, exec_bind, exec_next, exec_read, exec_get,
    exec_set, exec_pure, Nat.add_assoc, Nat.reduceAdd, Nat.reduceMul, long, List.range_succ,
    List.range_zero, List.nil_append, List.map_cons, List.map_nil, List.cons_append, Nat.add_zero,
    if_true, if_false, b1, b2, b3, b4, b5, digits]
  rfl

/-! ## Strings -/

theorem stringBodyFor_mirror (path : List PathStep) :
    ∀ {n m : Nat} (acc : Array UInt8) {i i' : Nat}, n ≤ m → Tracks B B' i i' →
      Mirror B B' (stringBodyFor path n acc) (stringBodyFor path m acc) i i' := by
  intro n
  induction n with
  | zero => exact fun _ _ _ _ _ => Mirror.fail _ _
  | succ n ih =>
    intro m acc i i' le h
    obtain ⟨m, rfl⟩ : ∃ k, m = k + 1 := ⟨m - 1, by omega⟩
    refine Mirror.next_bind h (fun _ => Mirror.fail _ _) fun b at_i => ?_
    by_cases lt : b = 60
    · subst lt
      simp +decide only [shown, if_true, if_false]
      intro v j ran
      obtain ⟨j', ran', step⟩ := ih (m := m) (acc.push 60) (by omega) (h.lt at_i).2 v j ran
      refine ⟨j', ?_, step⟩
      rw [exec_bind, h.exec_escape at_i, ← ran', Array.push_eq_append]
    · rw [shown_of_ne lt]
      have step := h.bump at_i lt
      dsimp only
      split_ifs
      · exact Mirror.pure step _
      · exact Mirror.bind (escape_mirror path step) fun _ _ _ _ step => ih (m := m) _ (by omega) step
      · exact Mirror.fail _ _
      · exact ih (m := m) _ (by omega) step

theorem stringBody_mirror (path : List PathStep) (sizes : B.size ≤ B'.size)
    (h : Tracks B B' i i') : Mirror B B' (stringBody path) (stringBody path) i i' :=
  Mirror.read_bind (stringBodyFor_mirror path #[] (by omega) h)

end Reader

end SheetStore
