import SheetStore.Proofs.Nav.Pattern

/-! Matching a pathname against a route pattern, said without the matcher: the captures
returned are the greatest that fit, in lexicographic order of their lengths.
-/

set_option autoImplicit false

namespace SheetStore

namespace Route

/-! ### Spelling a pattern -/

/-- `pieces` spell `w` when each literal stands for itself and each parameter for its capture in
`caps`, one or more characters other than `/`. -/
inductive Spells : List RoutePiece → List String → List Char → Prop
  | nil : Spells [] [] []
  | literal {cs : List Char} {rest : List RoutePiece} {caps : List String} {w : List Char} :
      Spells rest caps w → Spells (.literal cs :: rest) caps (cs ++ w)
  | param {name : String} {rest : List RoutePiece} {caps : List String} {w : List Char}
      (s : String) (nonempty : s.toList ≠ []) (noSlash : '/' ∉ s.toList) :
      Spells rest caps w → Spells (.param name :: rest) (s :: caps) (s.toList ++ w)

/-- With `caps` for their parameters the pieces spell a prefix of `input`, and `ending` takes
some of what follows: `n` characters are matched in all. -/
def Reaches (ending : List Char → Option Nat) (pieces : List RoutePiece) (input : List Char)
    (caps : List String) (n : Nat) : Prop :=
  ∃ w rest k, Spells pieces caps w ∧ input = w ++ rest ∧ ending rest = some k ∧ n = w.length + k

def lengths (caps : List String) : List Nat := caps.map String.length

section

variable {ending : List Char → Option Nat}

theorem reaches_nil {input : List Char} {caps : List String} {n : Nat} :
    Reaches ending [] input caps n ↔ caps = [] ∧ ending input = some n := by
  constructor
  · rintro ⟨w, rest, k, spells, rfl, ends, rfl⟩
    cases spells
    simpa using ends
  · rintro ⟨rfl, ends⟩
    exact ⟨[], input, n, .nil, rfl, ends, by simp⟩

theorem reaches_literal {cs : List Char} {rest : List RoutePiece} {input : List Char}
    {caps : List String} {n : Nat} :
    Reaches ending (.literal cs :: rest) input caps n ↔
      cs <+: input ∧ ∃ m, Reaches ending rest (input.drop cs.length) caps m ∧ n = cs.length + m := by
  constructor
  · rintro ⟨_, tail, k, spells, rfl, ends, rfl⟩
    cases spells with
    | literal spells =>
      rename_i w
      refine ⟨⟨w ++ tail, by simp⟩, _, ⟨_, tail, k, spells, by simp, ends, rfl⟩, ?_⟩
      simp only [List.length_append]
      omega
  · rintro ⟨⟨after, rfl⟩, m, ⟨w, tail, k, spells, split, ends, rfl⟩, rfl⟩
    simp only [List.drop_left] at split
    subst split
    exact ⟨cs ++ w, tail, k, .literal spells, by simp, ends, by simp; omega⟩

/-! ### Segments: where a parameter may stop -/

theorem segmentLength_le_length (input : List Char) : segmentLength input ≤ input.length :=
  (List.takeWhile_prefix _).length_le

theorem le_segmentLength_iff : ∀ (input : List Char) {k : Nat}, k ≤ input.length →
    (k ≤ segmentLength input ↔ '/' ∉ input.take k)
  | [], k, short => by simp_all
  | c :: cs, 0, _ => by simp
  | c :: cs, k + 1, short => by
    have rest := le_segmentLength_iff cs (k := k) (by simp at short; omega)
    by_cases slash : c = '/'
    · simp [segmentLength, slash]
    · -- a first character other than a slash is part of the segment
      have longer : segmentLength (c :: cs) = segmentLength cs + 1 := by
        simp [segmentLength, slash]
      rw [longer, List.take_succ_cons, List.mem_cons, not_or, ← rest]
      simp only [Ne.symm slash, not_false_eq_true, true_and]
      omega

theorem reaches_param {name : String} {rest : List RoutePiece} {input : List Char}
    {caps : List String} {n : Nat} :
    Reaches ending (.param name :: rest) input caps n ↔
      ∃ k more m, 0 < k ∧ k ≤ segmentLength input ∧
        caps = String.ofList (input.take k) :: more ∧
        Reaches ending rest (input.drop k) more m ∧ n = k + m := by
  constructor
  · rintro ⟨_, tail, j, spells, rfl, ends, rfl⟩
    cases spells with
    | param s nonempty noSlash spells =>
      rename_i more w
      have within : s.toList.length ≤ (s.toList ++ w ++ tail).length := by simp
      have taken : (s.toList ++ w ++ tail).take s.toList.length = s.toList := by simp
      refine ⟨s.toList.length, more, w.length + j, List.length_pos_iff.2 nonempty, ?_, ?_,
        ⟨w, tail, j, spells, by simp, ends, rfl⟩, by simp; omega⟩
      · exact (le_segmentLength_iff _ within).2 (by rw [taken]; exact noSlash)
      · rw [taken, String.ofList_toList]
  · rintro ⟨k, more, m, positive, segment, rfl, ⟨w, tail, j, spells, split, ends, rfl⟩, rfl⟩
    have within : k ≤ input.length := Nat.le_trans segment (segmentLength_le_length input)
    have spelled : Spells (.param name :: rest) (String.ofList (input.take k) :: more)
        ((input.take k) ++ w) := by
      simpa using Spells.param (String.ofList (input.take k))
        (by rw [String.toList_ofList]; exact List.ne_nil_of_length_pos (by simp; omega))
        (by simpa using (le_segmentLength_iff input within).1 segment) spells
    refine ⟨_, tail, j, spelled, ?_, ends, ?_⟩
    · rw [List.append_assoc, ← split, List.take_append_drop]
    · simp only [List.length_append, List.length_take]
      omega

/-! ### The search -/

theorem mem_candidates {k L : Nat} : k ∈ (List.range L).reverse.map (· + 1) ↔ 0 < k ∧ k ≤ L := by
  simp only [List.mem_map, List.mem_reverse, List.mem_range]
  constructor
  · rintro ⟨i, below, rfl⟩
    omega
  · rintro ⟨positive, within⟩
    exact ⟨k - 1, by omega, by omega⟩

theorem candidates_succ (L : Nat) :
    (List.range (L + 1)).reverse.map (· + 1) = (L + 1) :: (List.range L).reverse.map (· + 1) := by
  simp [List.range_succ]

theorem findSome?_candidates {β : Type} (f : Nat → Option β) :
    ∀ (L k : Nat) (b : β), 0 < k → k ≤ L → f k = some b →
      ∃ j c, k ≤ j ∧ j ≤ L ∧ f j = some c ∧
        ((List.range L).reverse.map (· + 1)).findSome? f = some c
  | 0, _, _, positive, within, _ => by omega
  | L + 1, k, b, positive, within, found => by
    rw [candidates_succ, List.findSome?_cons]
    cases top : f (L + 1) with
    | some c => exact ⟨L + 1, c, within, Nat.le_refl _, top, rfl⟩
    | none =>
      -- the largest candidate has no value, so `k` is among the others
      have below : k ≤ L := by
        rcases Nat.lt_or_eq_of_le within with smaller | rfl
        · omega
        · rw [top] at found
          cases found
      obtain ⟨j, c, atLeast, bounded, foundAt, first⟩ :=
        findSome?_candidates f L k b positive below found
      exact ⟨j, c, atLeast, by omega, foundAt, first⟩

theorem reaches_of_matchPieces : ∀ {pieces : List RoutePiece} {input : List Char}
    {caps : List String} {n : Nat},
    matchPieces ending pieces input = some (caps, n) → Reaches ending pieces input caps n
  | [], input, caps, n, found => by
    simp only [matchPieces, Option.map_eq_some_iff, Prod.mk.injEq] at found
    obtain ⟨k, ends, rfl, rfl⟩ := found
    exact reaches_nil.2 ⟨rfl, ends⟩
  | .literal cs :: rest, input, caps, n, found => by
    simp only [matchPieces] at found
    split at found
    · rename_i isPrefix
      obtain ⟨⟨more, m⟩, inner, same⟩ := Option.map_eq_some_iff.1 found
      simp only [Prod.mk.injEq] at same
      obtain ⟨rfl, rfl⟩ := same
      exact reaches_literal.2
        ⟨List.isPrefixOf_iff_prefix.1 isPrefix, m, reaches_of_matchPieces inner, rfl⟩
    · cases found
  | .param name :: rest, input, caps, n, found => by
    simp only [matchPieces] at found
    obtain ⟨k, tried, foundAt⟩ := List.exists_of_findSome?_eq_some found
    obtain ⟨⟨more, m⟩, inner, same⟩ := Option.map_eq_some_iff.1 foundAt
    simp only [Prod.mk.injEq] at same
    obtain ⟨rfl, rfl⟩ := same
    obtain ⟨positive, segment⟩ := mem_candidates.1 tried
    exact reaches_param.2 ⟨k, more, m, positive, segment, rfl, reaches_of_matchPieces inner, rfl⟩

theorem length_take_of_le_segmentLength {input : List Char} {k : Nat}
    (segment : k ≤ segmentLength input) : (String.ofList (input.take k)).length = k := by
  have := segmentLength_le_length input
  simp only [String.length_ofList, List.length_take]
  omega

theorem matchPieces_greatest : ∀ {pieces : List RoutePiece} {input : List Char}
    {caps : List String} {n : Nat}, Reaches ending pieces input caps n →
      ∃ best m, matchPieces ending pieces input = some (best, m) ∧
        ¬ List.Lex (· < ·) (lengths best) (lengths caps)
  | [], input, caps, n, reaches => by
    obtain ⟨rfl, ends⟩ := reaches_nil.1 reaches
    exact ⟨[], n, by simp [matchPieces, ends], nofun⟩
  | .literal cs :: rest, input, caps, n, reaches => by
    obtain ⟨isPrefix, m, inner, rfl⟩ := reaches_literal.1 reaches
    obtain ⟨best, m', found, longer⟩ := matchPieces_greatest inner
    refine ⟨best, cs.length + m', ?_, longer⟩
    simp [matchPieces, List.isPrefixOf_iff_prefix.2 isPrefix, found]
  | .param name :: rest, input, caps, n, reaches => by
    obtain ⟨k, more, m, positive, segment, rfl, inner, rfl⟩ := reaches_param.1 reaches
    obtain ⟨best, m', found, longer⟩ := matchPieces_greatest inner
    -- longer captures are tried first, so the search stops at a capture of at least `k`
    obtain ⟨j, ⟨top, total⟩, atLeast, bounded, foundAt, first⟩ := findSome?_candidates
      (fun j => (matchPieces ending rest (input.drop j)).map fun later =>
        (String.ofList (input.take j) :: later.1, j + later.2))
      (segmentLength input) k (String.ofList (input.take k) :: best, k + m') positive segment
      (by simp [found])
    obtain ⟨⟨bestAt, mAt⟩, innerAt, same⟩ := Option.map_eq_some_iff.1 foundAt
    simp only [Prod.mk.injEq] at same
    obtain ⟨rfl, rfl⟩ := same
    refine ⟨_, _, first, ?_⟩
    simp only [lengths, List.map_cons, length_take_of_le_segmentLength segment,
      length_take_of_le_segmentLength bounded, List.cons_lex_cons_iff]
    rintro (shorter | ⟨rfl, tail⟩)
    · omega
    · -- the same capture length: the rest is the search's own answer for it
      rw [found] at innerAt
      cases innerAt
      exact longer tail

theorem Reaches.unique : ∀ {pieces : List RoutePiece} {input : List Char}
    {caps caps' : List String} {n n' : Nat},
    Reaches ending pieces input caps n → Reaches ending pieces input caps' n' →
      lengths caps = lengths caps' → caps = caps' ∧ n = n'
  | [], _, _, _, _, _, first, second, _ => by
    obtain ⟨rfl, ends⟩ := reaches_nil.1 first
    obtain ⟨rfl, ends'⟩ := reaches_nil.1 second
    exact ⟨rfl, Option.some.inj (ends.symm.trans ends')⟩
  | .literal cs :: rest, _, _, _, _, _, first, second, same => by
    obtain ⟨_, m, inner, rfl⟩ := reaches_literal.1 first
    obtain ⟨_, m', inner', rfl⟩ := reaches_literal.1 second
    obtain ⟨rfl, rfl⟩ := Reaches.unique inner inner' same
    exact ⟨rfl, rfl⟩
  | .param name :: rest, _, _, _, _, _, first, second, same => by
    obtain ⟨k, more, m, _, segment, rfl, inner, rfl⟩ := reaches_param.1 first
    obtain ⟨k', more', m', _, segment', rfl, inner', rfl⟩ := reaches_param.1 second
    simp only [lengths, List.map_cons, List.cons.injEq, length_take_of_le_segmentLength segment,
      length_take_of_le_segmentLength segment'] at same
    obtain ⟨rfl, sameRest⟩ := same
    obtain ⟨rfl, rfl⟩ := Reaches.unique inner inner' sameRest
    exact ⟨rfl, rfl⟩

theorem matchPieces_eq_some_iff {pieces : List RoutePiece} {input : List Char}
    {caps : List String} {n : Nat} :
    matchPieces ending pieces input = some (caps, n) ↔
      Reaches ending pieces input caps n ∧
        ∀ caps' n', Reaches ending pieces input caps' n' →
          ¬ List.Lex (· < ·) (lengths caps) (lengths caps') := by
  constructor
  · intro found
    refine ⟨reaches_of_matchPieces found, fun caps' n' other => ?_⟩
    obtain ⟨best, m, found', longer⟩ := matchPieces_greatest other
    rw [found] at found'
    cases found'
    exact longer
  · rintro ⟨reaches, greatest⟩
    obtain ⟨best, m, found, longer⟩ := matchPieces_greatest reaches
    have returned := reaches_of_matchPieces found
    have same : lengths best = lengths caps :=
      List.lex_trichotomous (fun x y _ _ => by omega) (greatest _ _ returned) longer
    obtain ⟨rfl, rfl⟩ := Reaches.unique returned reaches same
    exact found

end

/-! ### Where a match stops -/

/-- Where a match may stop after the text the pattern spells: an exact match at the end of the
pathname or before one last slash, a prefix match at the end or before a slash. -/
def Ends (exact : Bool) (rest : List Char) : Prop :=
  if exact then rest = [] ∨ rest = ['/'] else rest = [] ∨ rest.head? = some '/'

/-- With `caps` for its parameters the pattern spells `w`, which starts the pathname and leaves a
rest where the match may stop. -/
def Fits (exact : Bool) (pieces : List RoutePiece) (input : List Char) (caps : List String)
    (w : List Char) : Prop :=
  Spells pieces caps w ∧ ∃ rest, input = w ++ rest ∧ Ends exact rest

def endingOf (exact : Bool) : List Char → Option Nat := if exact then exactEnding else prefixEnding

theorem endingOf_eq_some {exact : Bool} {rest : List Char} {k : Nat}
    (ends : endingOf exact rest = some k) : Ends exact rest ∧ ∀ c ∈ rest.take k, c = '/' := by
  cases exact with
  | true =>
    simp only [endingOf, if_true, Ends] at ends ⊢
    unfold exactEnding at ends
    split at ends
    · cases ends
      simp
    · cases ends
      simp
    · cases ends
  | false =>
    simp only [endingOf, Bool.false_eq_true, if_false, Ends] at ends ⊢
    unfold prefixEnding at ends
    split at ends
    · cases ends
      simp
    · cases ends
      simp
    · cases ends

theorem exists_endingOf_eq_some {exact : Bool} {rest : List Char} (ends : Ends exact rest) :
    ∃ k, endingOf exact rest = some k := by
  cases exact with
  | true =>
    simp only [Ends, if_true] at ends
    rcases ends with rfl | rfl <;> exact ⟨_, rfl⟩
  | false =>
    simp only [Ends, Bool.false_eq_true, if_false] at ends
    cases rest with
    | nil => exact ⟨_, rfl⟩
    | cons c more =>
      simp only [reduceCtorEq, List.head?_cons, Option.some.injEq, false_or] at ends
      subst ends
      exact ⟨_, rfl⟩

theorem Spells.unique {pieces : List RoutePiece} {caps : List String} {w w' : List Char}
    (first : Spells pieces caps w) (second : Spells pieces caps w') : w = w' := by
  induction first generalizing w' with
  | nil => cases second; rfl
  | literal _ ih => cases second with | literal second => rw [ih second]
  | param _ _ _ _ ih => cases second with | param _ _ _ second => rw [ih second]

theorem fits_iff_reaches {exact : Bool} {pieces : List RoutePiece} {input : List Char}
    {caps : List String} : (∃ w, Fits exact pieces input caps w) ↔
      ∃ n, Reaches (endingOf exact) pieces input caps n := by
  constructor
  · rintro ⟨w, spells, rest, rfl, ends⟩
    obtain ⟨k, found⟩ := exists_endingOf_eq_some ends
    exact ⟨_, w, rest, k, spells, rfl, found, rfl⟩
  · rintro ⟨_, w, rest, k, spells, rfl, found, rfl⟩
    exact ⟨w, spells, rest, rfl, (endingOf_eq_some found).1⟩

/-! ### The url of a match -/

theorem toList_trimSlashes (w : List Char) :
    (trimSlashes (String.ofList w)).toList = (w.reverse.dropWhile (· = '/')).reverse := by
  simp [trimSlashes]

theorem normalize_append_slashes {w rest : List Char} (slashes : ∀ c ∈ rest, c = '/') :
    normalize (String.ofList (w ++ rest)) = normalize (String.ofList w) := by
  have trimmed : trimSlashes (String.ofList (w ++ rest)) = trimSlashes (String.ofList w) := by
    apply String.ext
    have dropped : rest.reverse.dropWhile (fun c => decide (c = '/')) = [] :=
      List.dropWhile_eq_nil_iff.2 fun c mem => by simpa using slashes c (List.mem_reverse.1 mem)
    rw [toList_trimSlashes, toList_trimSlashes, List.reverse_append, List.dropWhile_append,
      dropped]
    rfl
  simp only [normalize, trimmed]

theorem trimmed_append_of_not_slash {w rest : List Char} {c : Char} (mem : c ∈ rest)
    (other : c ≠ '/') :
    (trimSlashes (String.ofList (w ++ rest))).toList =
      w ++ (trimSlashes (String.ofList rest)).toList ∧
        (trimSlashes (String.ofList rest)).toList ≠ [] ∧
        (trimSlashes (String.ofList rest)).toList.getLast? ≠ some '/' := by
  have kept : rest.reverse.dropWhile (fun c => decide (c = '/')) ≠ [] := by
    rw [Ne, List.dropWhile_eq_nil_iff]
    intro all
    simpa [other] using all c (List.mem_reverse.2 mem)
  have last := List.head?_dropWhile_not (fun c => decide (c = '/')) rest.reverse
  rw [toList_trimSlashes, toList_trimSlashes, List.reverse_append, List.dropWhile_append]
  simp only [List.isEmpty_iff, kept, if_false, List.reverse_append, List.reverse_reverse, ne_eq,
    List.reverse_eq_nil_iff, not_false_eq_true, List.getLast?_reverse, true_and]
  intro slash
  rw [slash] at last
  simp at last

theorem slashes_of_normalize_append {w rest : List Char}
    (same : normalize (String.ofList (w ++ rest)) = normalize (String.ofList w)) :
    ∀ c ∈ rest, c = '/' := by
  intro c mem
  by_contra other
  obtain ⟨appended, nonempty, noSlash⟩ := trimmed_append_of_not_slash (w := w) mem other
  have long : (trimSlashes (String.ofList (w ++ rest))).toList ≠ [] := by
    rw [appended]
    simp [nonempty]
  simp only [normalize, String.isEmpty_iff, ← String.toList_inj, String.toList_empty, long,
    if_false] at same
  split at same
  · -- the text alone is all slashes, so its url is `/`, which no longer trimmed text can be
    rename_i empty
    rw [appended] at same
    have := congrArg List.getLast? same
    simp only [List.getLast?_append] at this
    cases tail : (trimSlashes (String.ofList rest)).toList.getLast? with
    | none => simp_all
    | some d => simp_all
  · -- otherwise the trimmed text would be longer than the text it was trimmed from
    have shorter : (trimSlashes (String.ofList w)).toList.length ≤ w.length := by
      have suffix : w.reverse.dropWhile (fun c => decide (c = '/')) <:+ w.reverse :=
        List.dropWhile_suffix _
      rw [toList_trimSlashes]
      simpa using suffix.length_le
    have := congrArg List.length same
    rw [appended, List.length_append] at this
    have : 0 < (trimSlashes (String.ofList rest)).toList.length := List.length_pos_iff.2 nonempty
    omega

/-! ### Parameters -/

def lastCapture (names caps : List String) (name : String) : Option String :=
  ((names.zip caps).filter (·.1 = name)).getLast?.map Prod.snd

theorem lookup_cons_eq_ite (key k v : String) (rest : List (String × String)) :
    ((k, v) :: rest).lookup key = if key = k then some v else rest.lookup key := by
  by_cases same : key = k
  · subst same
    simp
  · simp [List.lookup_cons, beq_false_of_ne same, same]

theorem lookup_insertParam (name value key : String) : ∀ params : List (String × String),
    (insertParam name value params).lookup key =
      if key = name then some value else params.lookup key
  | [] => by simp [insertParam]
  | (k, v) :: rest => by
    unfold insertParam
    -- the new pair goes before, in place of, or after the first pair
    by_cases before : name < k
    · simp only [before, if_true, lookup_cons_eq_ite]
    · by_cases same : name = k
      · subst same
        simp only [before, if_true, if_false, lookup_cons_eq_ite]
        by_cases found : key = name <;> simp [found]
      · simp only [before, same, if_false, lookup_cons_eq_ite, lookup_insertParam name value key rest]
        by_cases found : key = name
        · simp [found, same]
        · simp [found]

theorem lookup_foldl_insertParam (key : String) : ∀ (pairs params : List (String × String)),
    (pairs.foldl (fun acc (p : String × String) => insertParam p.1 p.2 acc) params).lookup key =
      match (pairs.filter (·.1 = key)).getLast? with
      | some p => some p.2
      | none => params.lookup key
  | [], params => rfl
  | (k, v) :: rest, params => by
    rw [List.foldl_cons, lookup_foldl_insertParam key rest]
    by_cases named : k = key
    · subst named
      simp only [List.filter_cons, decide_true, if_true, List.getLast?_cons, lookup_insertParam,
        if_true]
      cases (rest.filter (·.1 = k)).getLast? <;> rfl
    · simp only [List.filter_cons, named, decide_false, Bool.false_eq_true, if_false,
        lookup_insertParam, Ne.symm named]

/-- The parameters of a match: each name bound to its capture, the last one for a repeated
name. -/
def bindParams (names caps : List String) : List (String × String) :=
  (names.zip caps).foldl (fun acc (p : String × String) => insertParam p.1 p.2 acc) []

theorem lookup_bindParams (names caps : List String) (name : String) :
    (bindParams names caps).lookup name = lastCapture names caps name := by
  rw [bindParams, lookup_foldl_insertParam, lastCapture]
  cases ((names.zip caps).filter (·.1 = name)).getLast? <;> rfl

/-! ### Matching a pathname -/

theorem matchPath_eq_some_iff {p q : String} {exact : Bool} {m : RouteMatch} :
    matchPath p q exact = some m ↔
      ∃ caps w, Fits exact (compile p) q.toList caps w ∧
        (∀ caps' w', Fits exact (compile p) q.toList caps' w' →
          ¬ List.Lex (· < ·) (lengths caps) (lengths caps')) ∧
        m = { path := p, url := normalize (String.ofList w),
              isExact := normalize (String.ofList w) == normalize q,
              params := bindParams (paramNames (compile p)) caps } := by
  have greatest_iff : ∀ caps, (∀ caps' w', Fits exact (compile p) q.toList caps' w' →
      ¬ List.Lex (· < ·) (lengths caps) (lengths caps')) ↔
      ∀ caps' n', Reaches (endingOf exact) (compile p) q.toList caps' n' →
        ¬ List.Lex (· < ·) (lengths caps) (lengths caps') := fun caps =>
    ⟨fun greatest caps' n' other => by
        obtain ⟨w', fits⟩ := fits_iff_reaches.2 ⟨n', other⟩
        exact greatest caps' w' fits,
      fun greatest caps' w' fits => by
        obtain ⟨n', other⟩ := fits_iff_reaches.1 ⟨w', fits⟩
        exact greatest caps' n' other⟩
  -- the url is read off the matched prefix: the text and at most one slash
  have url : ∀ {caps n w}, Reaches (endingOf exact) (compile p) q.toList caps n →
      Fits exact (compile p) q.toList caps w →
        normalize (String.ofList (q.toList.take n)) = normalize (String.ofList w) := by
    rintro caps n w ⟨w', rest, k, spells', split, found, rfl⟩ ⟨spells, -⟩
    obtain rfl := Spells.unique spells spells'
    rw [split, List.take_append, List.take_of_length_le (by omega), Nat.add_sub_cancel_left]
    exact normalize_append_slashes (endingOf_eq_some found).2
  simp only [matchPath, Option.map_eq_some_iff, Prod.exists]
  constructor
  · rintro ⟨caps, n, found, rfl⟩
    obtain ⟨reaches, greatest⟩ := matchPieces_eq_some_iff.1 found
    obtain ⟨w, fits⟩ := fits_iff_reaches.2 ⟨n, reaches⟩
    refine ⟨caps, w, fits, (greatest_iff caps).2 greatest, ?_⟩
    rw [url reaches fits]
    rfl
  · rintro ⟨caps, w, fits, greatest, rfl⟩
    obtain ⟨n, reaches⟩ := fits_iff_reaches.1 ⟨w, fits⟩
    refine ⟨caps, n, matchPieces_eq_some_iff.2 ⟨reaches, (greatest_iff caps).1 greatest⟩, ?_⟩
    rw [url reaches fits]
    rfl

theorem isSome_matchPath_iff {p q : String} {exact : Bool} :
    (matchPath p q exact).isSome ↔ ∃ caps w, Fits exact (compile p) q.toList caps w := by
  constructor
  · intro found
    obtain ⟨m, found⟩ := Option.isSome_iff_exists.1 found
    obtain ⟨caps, w, fits, -⟩ := matchPath_eq_some_iff.1 found
    exact ⟨caps, w, fits⟩
  · rintro ⟨caps, w, fits⟩
    obtain ⟨n, reaches⟩ := fits_iff_reaches.1 ⟨w, fits⟩
    obtain ⟨best, m, found, -⟩ := matchPieces_greatest reaches
    simp only [matchPath, Option.isSome_map]
    change (matchPieces (endingOf exact) _ _).isSome = true
    rw [found]
    rfl

/-! ### Matching, said without the matcher -/

/-- Matching a pathname against a pattern. The pattern without its trailing slashes is cut at its
leftmost non-overlapping parameters. It matches exactly when, with one or more characters other
than `/` for each parameter and each literal character standing for itself, it spells the
pathname up to one optional last slash (exact) or up to a slash or the end (prefix). A match
takes the captures whose lengths are lexicographically greatest; its path is the pattern, its url
the spelled text without trailing slashes, and each parameter name is bound to its last
capture. -/
theorem matchPath_greedy_spelling (p q : String) (exact : Bool) :
    IsSplit (trimSlashes p).toList (compile p) ∧
    ((matchPath p q exact).isSome ↔ ∃ caps w, Fits exact (compile p) q.toList caps w) ∧
    ∀ m, matchPath p q exact = some m →
      ∃ caps w, Fits exact (compile p) q.toList caps w ∧
        (∀ caps' w', Fits exact (compile p) q.toList caps' w' →
          ¬ List.Lex (· < ·) (lengths caps) (lengths caps')) ∧
        m.path = p ∧ m.url = normalize (String.ofList w) ∧
        ∀ name, m.params.lookup name = lastCapture (paramNames (compile p)) caps name := by
  refine ⟨compile_isSplit p, isSome_matchPath_iff, fun m found => ?_⟩
  obtain ⟨caps, w, fits, greatest, rfl⟩ := matchPath_eq_some_iff.1 found
  exact ⟨caps, w, fits, greatest, by dsimp only, by dsimp only,
    lookup_bindParams (paramNames (compile p)) caps⟩

/-! ### Exact and prefix matches -/

theorem Spells.count_slash {pieces : List RoutePiece} {caps caps' : List String}
    {w w' : List Char} (first : Spells pieces caps w) (second : Spells pieces caps' w') :
    w.count '/' = w'.count '/' := by
  induction first generalizing caps' w' with
  | nil => cases second; rfl
  | literal _ ih =>
    cases second with
    | literal second => simp only [List.count_append, ih second]
  | param _ _ noSlash _ ih =>
    cases second with
    | param _ _ noSlash' second =>
      simp only [List.count_append, List.count_eq_zero_of_not_mem noSlash,
        List.count_eq_zero_of_not_mem noSlash', ih second]

theorem Fits.of_exact {pieces : List RoutePiece} {input : List Char} {caps : List String}
    {w : List Char} (fits : Fits true pieces input caps w) : Fits false pieces input caps w := by
  obtain ⟨spells, rest, split, ends⟩ := fits
  refine ⟨spells, rest, split, ?_⟩
  simp only [Ends, if_true] at ends
  rcases ends with rfl | rfl <;> simp [Ends]

theorem Fits.text_eq {pieces : List RoutePiece} {input : List Char} {caps caps' : List String}
    {w w' : List Char} (exact : Fits true pieces input caps w)
    (prefixed : Fits false pieces input caps' w') : w' = w := by
  obtain ⟨spells, rest, split, ends⟩ := exact
  obtain ⟨spells', rest', split', ends'⟩ := prefixed
  have slashes := spells.count_slash spells'
  simp only [Ends, if_true, Bool.false_eq_true, if_false] at ends ends'
  rw [split'] at split
  rcases List.append_eq_append_iff.1 split with ⟨more, longer, tail⟩ | ⟨more, longer, tail⟩
  · -- the exact spelling runs on past the prefix one, into a rest that starts with a slash
    subst longer
    have none : more.count '/' = 0 := by simpa [List.count_append] using slashes
    cases more with
    | nil => simp
    | cons c more =>
      have slash : c = '/' := by
        rcases ends' with empty | starts
        · rw [empty] at tail
          cases tail
        · rw [tail] at starts
          simpa using starts
      simp [slash] at none
  · -- the prefix spelling runs on into the rest of the exact one, which is at most a slash
    subst longer
    have none : more.count '/' = 0 := by simpa [List.count_append] using slashes.symm
    cases more with
    | nil => simp
    | cons c more =>
      have slash : c = '/' := by
        rcases ends with empty | single
        · rw [empty] at tail
          cases tail
        · rw [single] at tail
          simp only [List.cons_append, List.cons.injEq] at tail
          exact tail.1.symm
      simp [slash] at none

theorem Fits.exact_of_prefix {pieces : List RoutePiece} {input : List Char} {caps : List String}
    {w : List Char} (fits : Fits false pieces input caps w)
    (exactUrl : normalize (String.ofList input) = normalize (String.ofList w))
    (single : ¬ ['/', '/'] <:+ input) : Fits true pieces input caps w := by
  obtain ⟨spells, rest, split, ends⟩ := fits
  subst split
  have slashes := slashes_of_normalize_append exactUrl
  refine ⟨spells, rest, rfl, ?_⟩
  simp only [Ends, if_true]
  cases rest with
  | nil => exact .inl rfl
  | cons c more =>
    -- the rest is all slashes, so a second one would end the pathname in two
    have first := slashes c List.mem_cons_self
    subst first
    cases more with
    | nil => exact .inr rfl
    | cons d more =>
      have all : '/' :: d :: more = List.replicate more.length '/' ++ ['/', '/'] := by
        rw [show ['/', '/'] = List.replicate 2 '/' from rfl, List.replicate_append_replicate]
        exact List.eq_replicate_iff.2 ⟨by simp, slashes⟩
      exact absurd ⟨w ++ List.replicate more.length '/', by rw [all, List.append_assoc]⟩ single

theorem Fits.normalize_eq {pieces : List RoutePiece} {q : String} {caps : List String}
    {w : List Char} (fits : Fits true pieces q.toList caps w) :
    normalize q = normalize (String.ofList w) := by
  obtain ⟨-, rest, split, ends⟩ := fits
  simp only [Ends, if_true] at ends
  have spelled : q = String.ofList (w ++ rest) := by rw [← split, String.ofList_toList]
  rw [spelled]
  exact normalize_append_slashes (by rcases ends with rfl | rfl <;> simp)

theorem matchPath_exact_agrees {p q : String} {m : RouteMatch}
    (found : matchPath p q true = some m) :
    m.isExact = true ∧ m.url = normalize q ∧
      ∃ m', matchPath p q false = some m' ∧ m'.isExact = true ∧ m'.url = m.url ∧
        m'.params = m.params := by
  obtain ⟨caps, w, fits, greatest, rfl⟩ := matchPath_eq_some_iff.1 found
  have url := fits.normalize_eq
  obtain ⟨m', found'⟩ := Option.isSome_iff_exists.1
    (isSome_matchPath_iff.2 ⟨caps, w, fits.of_exact⟩)
  obtain ⟨caps', w', fits', greatest', rfl⟩ := matchPath_eq_some_iff.1 found'
  obtain rfl := fits.text_eq fits'
  -- each search's answer fits the other's ending, so neither is lexicographically shorter
  have exact' : Fits true (compile p) q.toList caps' w' := ⟨fits'.1, fits.2⟩
  obtain ⟨n, reaches⟩ := fits_iff_reaches.1 ⟨w', fits.of_exact⟩
  obtain ⟨n', reaches'⟩ := fits_iff_reaches.1 ⟨w', fits'⟩
  obtain ⟨rfl, -⟩ := Reaches.unique reaches reaches'
    (List.lex_trichotomous (fun x y _ _ => by omega) (greatest' caps w' fits.of_exact)
      (greatest caps' w' exact'))
  refine ⟨?_, ?_, _, found', ?_, ?_, ?_⟩
  · simp only [url, beq_self_eq_true]
  · dsimp only
    exact url.symm
  · simp only [url, beq_self_eq_true]
  · dsimp only
  · dsimp only

/-- Exact matching is prefix matching that is exact: an exact match is also a prefix match with
the same url and parameters, and exact, its url being the pathname without trailing slashes; a
prefix match that is exact is an exact match, unless the pathname ends in two slashes. -/
theorem exact_match_agrees_with_prefix_match (p q : String) :
    (∀ m, matchPath p q true = some m →
      m.isExact = true ∧ m.url = normalize q ∧
        ∃ m', matchPath p q false = some m' ∧ m'.isExact = true ∧ m'.url = m.url ∧
          m'.params = m.params) ∧
    (¬ ['/', '/'] <:+ q.toList →
      ((matchPath p q true).isSome ↔ ∃ m', matchPath p q false = some m' ∧ m'.isExact = true)) := by
  refine ⟨fun m found => matchPath_exact_agrees found, fun single => ⟨fun found => ?_, ?_⟩⟩
  · obtain ⟨m, found⟩ := Option.isSome_iff_exists.1 found
    obtain ⟨-, -, m', found', exact', -⟩ := matchPath_exact_agrees found
    exact ⟨m', found', exact'⟩
  · -- an exact prefix match spells the input up to slashes, which a single slash cannot hide
    rintro ⟨m', found', exact'⟩
    obtain ⟨caps, w, fits, -, rfl⟩ := matchPath_eq_some_iff.1 found'
    simp only [beq_iff_eq] at exact'
    apply isSome_matchPath_iff.2 ⟨caps, w, fits.exact_of_prefix ?_ single⟩
    rw [String.ofList_toList, exact']

theorem workbook_exact_match_agrees :
    ¬ ['/', '/'] <:+ "/workbook/q1/".toList ∧
      ((matchPath "/workbook/:name" "/workbook/q1/" true).isSome ↔
        ∃ m', matchPath "/workbook/:name" "/workbook/q1/" false = some m' ∧ m'.isExact = true) :=
  ⟨by decide, (exact_match_agrees_with_prefix_match _ _).2 (by decide)⟩

theorem doubled_slash_parts_modes :
    matchPath "/a" "/a//" true = none ∧
      (matchPath "/a" "/a//" false).map RouteMatch.isExact = some true := by
  decide +kernel

end Route

end SheetStore
