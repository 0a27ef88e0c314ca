import SheetStore.Proofs.Json.MirrorNumbers

/-! Reading a text in which `<` is written `\u003c` gives what the text gives, by
induction on the fuel of the three readers that call one another.
-/

set_option autoImplicit false

namespace SheetStore

namespace Reader

variable {α : Type} {B B' : ByteArray} {i i' : Nat}

/-! ## Separators and closing brackets -/

theorem colon_mirror (path : List PathStep) (sizes : B.size ≤ B'.size) (h : Tracks B B' i i') :
    Mirror B B' (colon path) (colon path) i i' := by
  rw [colon]
  refine Mirror.skipBlanks_cases sizes h (fun _ _ _ _ => Mirror.failPeek _ _)
    (fun b j j' step at_j other => ?_) fun _ _ _ _ => Mirror.failPeek _ _
  split
  · exact Mirror.bump step at_j other
  · exact Mirror.failPeek _ _
  · exact Mirror.failPeek _ _

theorem closeList_mirror (path : List PathStep) (sizes : B.size ≤ B'.size)
    (h : Tracks B B' i i') : Mirror B B' (closeList path) (closeList path) i i' := by
  rw [closeList]
  refine Mirror.skipBlanks_cases sizes h (fun _ _ _ _ => Mirror.failPeek _ _)
    (fun b j j' step at_j other => ?_) fun _ _ _ _ => Mirror.failPeek _ _
  split
  · exact Mirror.bump step at_j other
  · -- a comma before the closing bracket: the run fails whatever follows
    refine Mirror.bump_bind (Mirror.skipBlanks_cases sizes (step.bump at_j other)
      (fun _ _ _ _ => Mirror.failPeek _ _) (fun _ _ _ _ _ _ => ?_) fun _ _ _ _ => Mirror.failPeek _ _)
    split <;> exact Mirror.failPeek _ _
  · exact Mirror.failPeek _ _
  · exact Mirror.failPeek _ _

theorem closeObject_mirror (path : List PathStep) (sizes : B.size ≤ B'.size)
    (h : Tracks B B' i i') : Mirror B B' (closeObject path) (closeObject path) i i' := by
  rw [closeObject]
  refine Mirror.skipBlanks_cases sizes h (fun _ _ _ _ => Mirror.failPeek _ _)
    (fun b j j' step at_j other => ?_) fun _ _ _ _ => Mirror.failPeek _ _
  split
  · exact Mirror.bump step at_j other
  · exact Mirror.failPeek _ _
  · exact Mirror.failPeek _ _
  · exact Mirror.failPeek _ _

theorem keyStart_bind {K K' : Option (Option UInt8) → ReadM α} (path : List PathStep)
    (first : Bool) (sizes : B.size ≤ B'.size) (h : Tracks B B' i i')
    (closed : ∀ j j', Tracks B B' j j' → Mirror B B' (K none) (K' none) j j')
    (key : ∀ j j', Tracks B B' j j' →
      Mirror B B' (K (some B.data[j]?)) (K' (some (B.data[j]?.map shown))) j j') :
    Mirror B B' (keyStart path first >>= K) (keyStart path first >>= K') i i' := by
  simp only [keyStart, bind_assoc]
  refine Mirror.skipBlanks_cases sizes h (fun _ _ _ _ => Mirror.failPeek_bind _ _)
    (fun b j j' step at_j other => ?_) fun j j' step at_j => ?_
  · split
    · rw [pure_bind]
      exact closed j j' step
    · split
      · exact Mirror.failPeek_bind _ _
      · simp only [bind_assoc, pure_bind]
        exact Mirror.bump_bind (Mirror.skipBlanks_bind sizes (step.bump at_j other) key)
    · next _ c _ _ same =>
      obtain rfl := Option.some.inj same
      split
      · have next := key j j' step
        rw [at_j, Option.map_some, shown_of_ne other] at next
        simpa only [pure_bind] using next
      · exact Mirror.failPeek_bind _ _
    · exact Mirror.failPeek_bind _ _
  · -- a `<` where a key should begin is handed on as it is shown
    simp +decide only
    split
    · have next := key j j' step
      rw [at_j, Option.map_some, show shown 60 = 92 from rfl] at next
      simpa only [pure_bind] using next
    · exact Mirror.failPeek_bind _ _

/-! ## Values -/

/-- Values, elements and members are read alike with fuel `n` on `B` and `m` on `B'`. -/
structure ReadsAlike (B B' : ByteArray) (n m : Nat) : Prop where
  onValue : ∀ depth path {i i' : Nat}, Tracks B B' i i' →
    Mirror B B' (value depth path n) (value depth path m) i i'
  onElements : ∀ depth path first k acc {i i' : Nat}, Tracks B B' i i' →
    Mirror B B' (elements depth path first k acc n) (elements depth path first k acc m) i i'
  onMembers : ∀ depth path first acc {i i' : Nat}, Tracks B B' i i' →
    Mirror B B' (members depth path first acc n) (members depth path first acc m) i i'

section Step

variable {n m : Nat} (sizes : B.size ≤ B'.size) (alike : ReadsAlike B B' n m)
include sizes alike

theorem value_succ_mirror (depth : Nat) (path : List PathStep) (h : Tracks B B' i i') :
    Mirror B B' (value depth path (n + 1)) (value depth path (m + 1)) i i' := by
  rw [value.eq_2, value.eq_2]
  refine Mirror.skipBlanks_cases sizes h (fun _ _ _ _ => Mirror.failPeek _ _)
    (fun b j j' step at_j other => ?_) fun _ _ _ _ => Mirror.of_error rfl
  have past := step.bump at_j other
  dsimp only
  -- the byte in front picks the kind of value, the same on both texts
  refine Mirror.ite (fun _ => ?_) fun _ => Mirror.ite (fun _ => ?_) fun _ =>
    Mirror.ite (fun _ => ?_) fun _ => Mirror.ite (fun _ => ?_) fun _ =>
    Mirror.ite (fun _ => ?_) fun _ => Mirror.ite (fun _ => ?_) fun _ =>
    Mirror.ite (fun _ => Mirror.ite (fun _ => Mirror.failPeek _ _) fun _ => ?_) fun _ =>
    Mirror.ite (fun _ => Mirror.ite (fun _ => Mirror.failPeek _ _) fun _ => ?_) fun _ =>
    Mirror.failPeek _ _
  · exact Mirror.bump_bind (Mirror.bind_pure (expectWord_mirror path _ (by simp) past))
  · exact Mirror.bump_bind (Mirror.bind_pure (expectWord_mirror path _ (by simp) past))
  · exact Mirror.bump_bind (Mirror.bind_pure (expectWord_mirror path _ (by simp) past))
  · exact Mirror.bump_bind (Mirror.bind_pure (number_mirror false path sizes past))
  · exact Mirror.bind_pure (number_mirror true path sizes step)
  · exact Mirror.bump_bind (Mirror.bind_pure (stringBody_mirror path sizes past))
  · exact Mirror.bump_bind (Mirror.bind (alike.onElements _ _ _ _ _ past) fun _ _ _ _ step =>
      Mirror.bind_pure (closeList_mirror path sizes step))
  · exact Mirror.bump_bind (Mirror.bind (alike.onMembers _ _ _ _ past) fun _ _ _ _ step =>
      Mirror.bind_pure (closeObject_mirror path sizes step))

theorem elements_succ_mirror (depth : Nat) (path : List PathStep) (first : Bool) (k : Nat)
    (acc : Array Json) (h : Tracks B B' i i') :
    Mirror B B' (elements depth path first k acc (n + 1))
      (elements depth path first k acc (m + 1)) i i' := by
  -- an element and the ones after it
  have next : ∀ {j j' : Nat}, Tracks B B' j j' →
      Mirror B B' (value depth (path ++ [.index k]) n >>= fun v =>
          elements depth path false (k + 1) (acc.push v) n)
        (value depth (path ++ [.index k]) m >>= fun v =>
          elements depth path false (k + 1) (acc.push v) m) j j' :=
    fun step => Mirror.bind (alike.onValue _ _ step) fun _ _ _ _ step =>
      alike.onElements _ _ _ _ _ step
  rw [elements.eq_2, elements.eq_2]
  refine Mirror.skipBlanks_cases sizes h (fun _ _ _ _ => Mirror.failPeek _ _)
    (fun b j j' step at_j other => ?_) fun j j' step _ => ?_
  · dsimp only
    refine Mirror.ite (fun _ => Mirror.pure step _) fun _ => Mirror.ite (fun _ => next step)
      fun _ => Mirror.ite (fun _ => ?_) fun _ => Mirror.failPeek _ _
    -- a comma, then an element
    refine Mirror.bump_bind (Mirror.skipBlanks_cases sizes (step.bump at_j other)
      (fun _ _ _ _ => Mirror.failPeek _ _) (fun _ _ _ step _ _ => ?_) fun _ _ step _ => next step)
    split
    · exact Mirror.failPeek _ _
    · exact Mirror.failPeek _ _
    · exact next step
  · -- a `<` where an element or a comma should be
    dsimp only
    rw [if_neg (show (60 : UInt8) ≠ 93 by decide), if_neg (show (92 : UInt8) ≠ 93 by decide)]
    exact Mirror.ite (fun _ => next step) fun _ => Mirror.failPeek _ _

theorem members_succ_mirror (depth : Nat) (path : List PathStep) (first : Bool)
    (acc : Array (String × Json)) (h : Tracks B B' i i') :
    Mirror B B' (members depth path first acc (n + 1))
      (members depth path first acc (m + 1)) i i' := by
  rw [members.eq_2, members.eq_2]
  refine keyStart_bind path first sizes h (fun _ _ step => Mirror.pure step _)
    fun j j' step => ?_
  cases at_j : B.data[j]? with
  | none => exact Mirror.failPeek _ _
  | some b =>
    by_cases lt : b = 60
    · subst lt
      exact Mirror.failPeek _ _
    rw [Option.map_some, shown_of_ne lt]
    split
    · exact Mirror.pure step _
    · -- a key, its colon, its value, and the members after it
      exact Mirror.bump_bind (Mirror.bind (stringBody_mirror _ sizes (step.bump at_j lt))
        fun _ _ _ _ step => Mirror.bind (colon_mirror _ sizes step)
          fun _ _ _ _ step => Mirror.bind (alike.onValue _ _ step)
            fun _ _ _ _ step => alike.onMembers _ _ _ _ step)
    · exact Mirror.failPeek _ _
    · exact Mirror.failPeek _ _
    · exact Mirror.failPeek _ _

end Step

theorem reader_mirror (sizes : B.size ≤ B'.size) : ∀ n m, n ≤ m → ReadsAlike B B' n m := by
  intro n
  induction n with
  | zero =>
    intro m _
    refine ⟨fun depth path i i' _ => ?_, fun depth path first k acc i i' _ => ?_,
      fun depth path first acc i i' _ => ?_⟩
    · rw [value.eq_1]
      exact Mirror.fail _ _
    · rw [elements.eq_1]
      exact Mirror.fail _ _
    · rw [members.eq_1]
      exact Mirror.fail _ _
  | succ n ih =>
    intro m le
    obtain ⟨m, rfl⟩ : ∃ k, m = k + 1 := ⟨m - 1, by omega⟩
    have alike := ih m (by omega)
    exact ⟨fun depth path _ _ h => value_succ_mirror sizes alike depth path h,
      fun depth path first k acc _ _ h => elements_succ_mirror sizes alike depth path first k acc h,
      fun depth path first acc _ _ h => members_succ_mirror sizes alike depth path first acc h⟩

theorem document_mirror (sizes : B.size ≤ B'.size) (h : Tracks B B' i i') :
    Mirror B B' document document i i' := by
  unfold document
  refine Mirror.read_bind (Mirror.bind ((reader_mirror sizes _ _ (by omega)).onValue 128 [] h)
    fun v j j' _ step => ?_)
  exact Mirror.skipBlanks_cases sizes step (fun _ _ step _ => Mirror.pure step v)
    (fun _ _ _ _ _ _ => Mirror.failPeek _ _) fun _ _ _ _ => Mirror.failPeek _ _

end Reader

/-! ## Texts -/

theorem escapeLt_append (l r : List UInt8) : escapeLt (l ++ r) = escapeLt l ++ escapeLt r :=
  List.flatMap_append

theorem escapeLt_of_not_mem {l : List UInt8} (absent : (60 : UInt8) ∉ l) : escapeLt l = l := by
  induction l with
  | nil => rfl
  | cons b rest ih =>
    rw [List.mem_cons, not_or] at absent
    rw [escapeLt_cons, if_neg (Ne.symm absent.1), ih absent.2, List.singleton_append]

theorem escapeLt_toUTF8 (text : String) :
    (Text.replaceAll text "<" "\\u003c").toUTF8.data.toList = escapeLt text.toUTF8.data.toList := by
  rw [Text.toUTF8_data, Text.toUTF8_data, Text.replaceAll, String.toList_ofList,
    show "<".toList = ['<'] by simp, Text.replaceChars_singleton]
  induction text.toList with
  | nil => rfl
  | cons c rest ih =>
    rw [List.flatMap_cons, List.flatMap_append, List.flatMap_cons, escapeLt_append, ih]
    congr 1
    split_ifs with lt
    · subst lt
      rfl
    · -- a character other than `<` has no byte 60 in its encoding
      rw [List.flatMap_singleton, escapeLt_of_not_mem]
      intro mem
      exact lt (Char.toNat_inj.1 (Text.eq_of_mem_utf8EncodeChar (by decide) mem))

theorem Json.read_escapeLt {text : String} {v : Json} (read : Json.read text = .ok v) :
    Json.read (Text.replaceAll text "<" "\\u003c") = .ok v := by
  have h : Reader.Tracks text.toUTF8 (Text.replaceAll text "<" "\\u003c").toUTF8 0 0 := by
    rw [Reader.Tracks, List.drop_zero, List.drop_zero, escapeLt_toUTF8]
  have sizes := h.size_le
  unfold Json.read Json.readInOrder at read ⊢
  change Except.map _ (Except.map _ (Reader.exec Reader.document _ 0)) = _ at read ⊢
  cases ran : Reader.exec Reader.document text.toUTF8 0 with
  | error e =>
    rw [ran] at read
    cases read
  | ok p =>
    obtain ⟨j', ran', -⟩ := Reader.document_mirror (by omega) h p.1 p.2 ran
    rw [ran] at read
    rw [ran']
    exact read

end SheetStore
