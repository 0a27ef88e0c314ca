import SheetStore.Text.Escape
import Mathlib.Data.List.Infix

/-! Replacing text, and markup escapes read back: `escapeHtml` leaves no `<` and
`unescapeHtml` undoes it.
-/

set_option autoImplicit false

namespace SheetStore

namespace Text

section Replace

variable {pattern replacement : List Char}

@[simp] theorem replaceChars_nil : replaceChars pattern replacement [] = [] := by
  rw [replaceChars]

theorem replaceChars_pattern_append (nonempty : pattern ≠ []) (rest : List Char) :
    replaceChars pattern replacement (pattern ++ rest) =
      replacement ++ replaceChars pattern replacement rest := by
  obtain ⟨p, ps, rfl⟩ := List.exists_cons_of_ne_nil nonempty
  have found : (p :: ps).isPrefixOf (p :: ps ++ rest) :=
    List.isPrefixOf_iff_prefix.2 (List.prefix_append _ _)
  rw [List.cons_append] at found ⊢
  rw [replaceChars, dif_pos ⟨nonempty, found⟩, ← List.cons_append, List.drop_left]

theorem replaceChars_cons_of_unmatched {c : Char} {rest : List Char}
    (h : ¬ pattern <+: c :: rest) :
    replaceChars pattern replacement (c :: rest) = c :: replaceChars pattern replacement rest := by
  rw [replaceChars, dif_neg]
  exact fun found => h (List.isPrefixOf_iff_prefix.1 found.2)

theorem replaceChars_append_of_not_mem {p : Char} {ps front : List Char} (h : p ∉ front)
    (rest : List Char) :
    replaceChars (p :: ps) replacement (front ++ rest) =
      front ++ replaceChars (p :: ps) replacement rest := by
  induction front with
  | nil => rfl
  | cons c front ih =>
    rw [List.mem_cons, not_or] at h
    -- an occurrence here would begin with `c`
    rw [List.cons_append, replaceChars_cons_of_unmatched
      (fun pre => h.1 (List.cons_prefix_cons.1 pre).1), ih h.2, List.cons_append]

theorem replaceChars_append_of_not_mem_head {y : Char} (h : y ∉ pattern) (front rest : List Char) :
    replaceChars pattern replacement (front ++ y :: rest) =
      replaceChars pattern replacement front ++ replaceChars pattern replacement (y :: rest) := by
  fun_induction replaceChars pattern replacement front with
  | case1 => rfl
  | case2 c cs found ih =>
    have longer : pattern.isPrefixOf (c :: cs ++ y :: rest) :=
      List.isPrefixOf_iff_prefix.2 ((List.isPrefixOf_iff_prefix.1 found.2).trans
        (List.prefix_append _ _))
    have fits : pattern.length ≤ (c :: cs).length :=
      (List.isPrefixOf_iff_prefix.1 found.2).length_le
    rw [List.cons_append, replaceChars, dif_pos ⟨found.1, longer⟩, ← List.cons_append,
      List.drop_append_of_le_length fits, ih, List.append_assoc]
  | case3 c cs missing ih =>
    -- an occurrence at `c` would have to reach `y`
    have not_longer : ¬ (pattern ≠ [] ∧ pattern.isPrefixOf (c :: (cs ++ y :: rest))) := by
      rintro ⟨nonempty, pre⟩
      rw [List.isPrefixOf_iff_prefix, ← List.cons_append] at pre
      rcases List.prefix_or_prefix_of_prefix pre (List.prefix_append (c :: cs) (y :: rest)) with
        short | long
      · exact missing ⟨nonempty, List.isPrefixOf_iff_prefix.2 short⟩
      · obtain ⟨t, rfl⟩ := long
        rw [List.prefix_append_right_inj] at pre
        cases t with
        | nil => exact missing ⟨nonempty, List.isPrefixOf_iff_prefix.2 (by simp)⟩
        | cons d t =>
          have same : d = y := (List.cons_prefix_cons.1 pre).1
          exact h (List.mem_append_right _ (same ▸ List.mem_cons_self))
    rw [List.cons_append, replaceChars, dif_neg not_longer, ih, List.cons_append]

theorem replaceChars_of_not_infix {s : List Char} (h : ¬ pattern <:+: s) :
    replaceChars pattern replacement s = s := by
  induction s with
  | nil => exact replaceChars_nil
  | cons c rest ih =>
    rw [replaceChars_cons_of_unmatched (fun pre => h pre.isInfix),
      ih (fun inner => h (inner.trans (List.suffix_cons c rest).isInfix))]

theorem count_replaceChars {a : Char} (pat : a ∉ pattern) (rep : a ∉ replacement)
    (s : List Char) : (replaceChars pattern replacement s).count a = s.count a := by
  fun_induction replaceChars pattern replacement s with
  | case1 => rfl
  | case2 c rest found ih =>
    -- the text is an occurrence of the pattern and what follows it
    obtain ⟨after, spelled⟩ := List.isPrefixOf_iff_prefix.1 found.2
    rw [List.count_append, ih, List.count_eq_zero.2 rep, ← spelled, List.drop_left,
      List.count_append, List.count_eq_zero.2 pat]
  | case3 c rest _ ih => rw [List.count_cons, List.count_cons, ih]

theorem replaceChars_singleton (c : Char) (s : List Char) :
    replaceChars [c] replacement s = s.flatMap fun d => if d = c then replacement else [d] := by
  induction s with
  | nil => simp
  | cons d rest ih =>
    by_cases same : d = c
    · subst same
      rw [show d :: rest = [d] ++ rest from rfl,
        replaceChars_pattern_append (List.cons_ne_nil _ _), ih]
      simp
    · rw [replaceChars_cons_of_unmatched (fun pre => same (List.cons_prefix_cons.1 pre).1.symm),
        ih]
      simp [same]

end Replace

/-! ## Markup escapes -/

def markup : List Char := ['&', '<', '>', '"', '\'']

theorem htmlChar_of_not_mem {c : Char} (plain : c ∉ markup) : (htmlChar c).toList = [c] := by
  simp only [markup, List.mem_cons, List.not_mem_nil, or_false, not_or] at plain
  simp [htmlChar, plain]

theorem htmlChar_markup :
    (htmlChar '&').toList = ['&', 'a', 'm', 'p', ';'] ∧
    (htmlChar '<').toList = ['&', 'l', 't', ';'] ∧
    (htmlChar '>').toList = ['&', 'g', 't', ';'] ∧
    (htmlChar '"').toList = ['&', 'q', 'u', 'o', 't', ';'] ∧
    (htmlChar '\'').toList = ['&', '#', '3', '9', ';'] := by
  simp [htmlChar]

theorem escapeHtml_toList (s : String) :
    (escapeHtml s).toList = s.toList.flatMap fun c => (htmlChar c).toList := by
  rw [escapeHtml, String.toList_join, List.flatMap_map]

theorem lt_not_mem_escapeHtml (s : String) : '<' ∉ (escapeHtml s).toList := by
  rw [escapeHtml_toList, List.mem_flatMap]
  rintro ⟨c, -, mem⟩
  unfold htmlChar at mem
  split_ifs at mem with amp lt
  all_goals simp at mem
  exact lt mem.symm

theorem prefix_escape_iff {w : List Char} (plain : ∀ d ∈ w, d ∉ markup) :
    ∀ l : List Char, w <+: l.flatMap (fun c => (htmlChar c).toList) ↔ w <+: l := by
  induction w with
  | nil => exact fun l => ⟨fun _ => List.nil_prefix, fun _ => List.nil_prefix⟩
  | cons d w ih =>
    intro l
    have plain_d := plain d List.mem_cons_self
    have plain_w := ih fun e mem => plain e (List.mem_cons_of_mem d mem)
    cases l with
    | nil => simp
    | cons c rest =>
      rw [List.flatMap_cons]
      by_cases escaped : c ∈ markup
      · -- an entity begins with `&`, and neither `&` nor `c` is `d`
        have differs : d ≠ c := fun same => plain_d (same ▸ escaped)
        simp only [markup, List.mem_cons, List.not_mem_nil, or_false] at escaped plain_d
        rcases escaped with rfl | rfl | rfl | rfl | rfl <;>
          simp_all [htmlChar, List.cons_prefix_cons]
      · rw [htmlChar_of_not_mem escaped, List.singleton_append, List.cons_prefix_cons,
          List.cons_prefix_cons, plain_w]

theorem replaceChars_escapeHtml {p : Char} {ps replacement : List Char}
    (plain : ∀ d ∈ p :: ps, d ∉ markup) (outside : ∀ c ∈ markup, p ∉ (htmlChar c).toList)
    (l : List Char) (absent : ¬ (p :: ps) <:+: l) :
    replaceChars (p :: ps) replacement (l.flatMap fun c => (htmlChar c).toList) =
      l.flatMap fun c => (htmlChar c).toList := by
  induction l with
  | nil => simp
  | cons c rest ih =>
    have absent_rest : ¬ (p :: ps) <:+: rest :=
      fun inner => absent (inner.trans (List.suffix_cons c rest).isInfix)
    rw [List.flatMap_cons]
    by_cases escaped : c ∈ markup
    · rw [replaceChars_append_of_not_mem (outside c escaped), ih absent_rest]
    · -- an occurrence at `c` would be one in the text
      have not_here : ¬ (p :: ps) <+: c :: rest.flatMap fun c => (htmlChar c).toList := by
        have same := prefix_escape_iff plain (c :: rest)
        rw [List.flatMap_cons, htmlChar_of_not_mem escaped, List.singleton_append] at same
        rw [same]
        exact fun pre => absent pre.isInfix
      rw [htmlChar_of_not_mem escaped, List.singleton_append,
        replaceChars_cons_of_unmatched not_here, ih absent_rest]

/-- Markup text read back: the five entities `escapeHtml` writes become their characters again,
and everything else is kept. -/
def unescapeHtml : List Char → List Char
  | '&' :: 'a' :: 'm' :: 'p' :: ';' :: rest => '&' :: unescapeHtml rest
  | '&' :: 'l' :: 't' :: ';' :: rest => '<' :: unescapeHtml rest
  | '&' :: 'g' :: 't' :: ';' :: rest => '>' :: unescapeHtml rest
  | '&' :: 'q' :: 'u' :: 'o' :: 't' :: ';' :: rest => '"' :: unescapeHtml rest
  | '&' :: '#' :: '3' :: '9' :: ';' :: rest => '\'' :: unescapeHtml rest
  | c :: rest => c :: unescapeHtml rest
  | [] => []

theorem unescapeHtml_cons {c : Char} (h : c ≠ '&') (rest : List Char) :
    unescapeHtml (c :: rest) = c :: unescapeHtml rest := by
  conv_lhs => unfold unescapeHtml
  split <;> simp_all

theorem unescapeHtml_escapeHtml (l : List Char) :
    unescapeHtml (l.flatMap fun c => (htmlChar c).toList) = l := by
  induction l with
  | nil => rfl
  | cons c rest ih =>
    rw [List.flatMap_cons]
    by_cases escaped : c ∈ markup
    · simp only [markup, List.mem_cons, List.not_mem_nil, or_false] at escaped
      obtain ⟨amp, lt, gt, quot, apos⟩ := htmlChar_markup
      rcases escaped with rfl | rfl | rfl | rfl | rfl <;>
        simp [amp, lt, gt, quot, apos, unescapeHtml, ih]
    · have plain : c ≠ '&' := fun same => escaped (by simp [markup, same])
      rw [htmlChar_of_not_mem escaped, List.singleton_append, unescapeHtml_cons plain, ih]

end Text

end SheetStore
