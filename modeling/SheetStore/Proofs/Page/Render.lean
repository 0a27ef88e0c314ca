import SheetStore.Page
import SheetStore.Proofs.Json.ReadEscaped

/-! The host document filled in for a page keeps the tags of the template and no others,
the state alone in its element and the title text in the title element.
-/

set_option autoImplicit false

namespace SheetStore

open Text

/-! ## The fixed text of the template -/

theorem titleSlot_toList :
    titleSlot.toList = ['\x7b', '\x7b', 't', 'i', 't', 'l', 'e', '\x7d', '\x7d'] := by
  simp [titleSlot]

theorem stateSlot_toList :
    stateSlot.toList = ['\x7b', '\x7b', 'p', 'r', 'e', 'l', 'o', 'a', 'd', 'e', 'd', '_', 's', 't',
      'a', 't', 'e', '\x7d', '\x7d'] := by
  simp [stateSlot]

theorem brace_not_mem_hostHead : '\x7b' ∉ hostHead.toList :=
  not_mem_of_bytes (by decide) (by decide +kernel)

theorem brace_not_mem_hostMiddle : '\x7b' ∉ hostMiddle.toList :=
  not_mem_of_bytes (by decide) (by decide +kernel)

theorem braces_not_infix_hostTail : ¬ ['\x7b', '\x7b'] <:+: hostTail.toList :=
  not_infix_of_bytes (by decide +kernel)

theorem hostHead_eq : ∃ front, hostHead = front ++ "<title>" := by
  unfold hostHead
  rw [show "  <title>" = "  " ++ "<title>" by decide, ← String.append_assoc]
  exact ⟨_, rfl⟩

theorem hostMiddle_eq :
    (∃ back, hostMiddle = "</title>" ++ back) ∧
    ∃ front, hostMiddle = front ++ "<script id=\"preloaded-state\" type=\"application/json\">" := by
  unfold hostMiddle
  constructor
  · repeat rw [String.append_assoc]
    rw [show "</title>\n" = "</title>" ++ "\n" by decide, String.append_assoc]
    exact ⟨_, rfl⟩
  · rw [show "  <script id=\"preloaded-state\" type=\"application/json\">" =
      "  " ++ "<script id=\"preloaded-state\" type=\"application/json\">" by decide,
      ← String.append_assoc]
    exact ⟨_, rfl⟩

theorem hostTail_eq : ∃ back, hostTail = "</script>" ++ back := by
  unfold hostTail
  repeat rw [String.append_assoc]
  rw [show "</script>\n" = "</script>" ++ "\n" by decide, String.append_assoc]
  exact ⟨_, rfl⟩

theorem hostMiddle_toList : ∃ rest, hostMiddle.toList = '<' :: rest := by
  obtain ⟨back, spelled⟩ := hostMiddle_eq.1
  exact ⟨"/title>".toList ++ back.toList, by rw [spelled, String.toList_append]; simp⟩

theorem hostDocument_toList :
    hostDocument.toList = hostHead.toList ++ (titleSlot.toList ++ (hostMiddle.toList ++
      (stateSlot.toList ++ hostTail.toList))) := by
  simp only [hostDocument, String.toList_append, List.append_assoc]

/-! ## Filling the placeholders in -/

theorem replaceChars_title (title : List Char) :
    replaceChars titleSlot.toList title hostDocument.toList =
      hostHead.toList ++ (title ++ (hostMiddle.toList ++ (stateSlot.toList ++ hostTail.toList))) := by
  have tail_clear : ¬ titleSlot.toList <:+: hostTail.toList := fun inner =>
    braces_not_infix_hostTail
      ((show ['\x7b', '\x7b'] <+: titleSlot.toList by simp [titleSlot_toList]).isInfix.trans inner)
  have inner : stateSlot.toList =
      '\x7b' :: '\x7b' :: ['p', 'r', 'e', 'l', 'o', 'a', 'd', 'e', 'd', '_', 's', 't', 'a', 't', 'e',
        '\x7d', '\x7d'] := stateSlot_toList
  rw [hostDocument_toList, inner, List.cons_append, List.cons_append] at *
  rw [titleSlot_toList] at tail_clear ⊢
  rw [replaceChars_append_of_not_mem brace_not_mem_hostHead,
    replaceChars_pattern_append (List.cons_ne_nil _ _),
    replaceChars_append_of_not_mem brace_not_mem_hostMiddle,
    replaceChars_cons_of_unmatched (by simp), replaceChars_cons_of_unmatched (by simp),
    replaceChars_append_of_not_mem (by simp), replaceChars_of_not_infix tail_clear]

theorem replaceChars_state (title state : List Char) :
    replaceChars stateSlot.toList state
        (hostHead.toList ++ (title ++ (hostMiddle.toList ++ (stateSlot.toList ++ hostTail.toList)))) =
      hostHead.toList ++ (replaceChars stateSlot.toList state title ++
        (hostMiddle.toList ++ (state ++ hostTail.toList))) := by
  have tail_clear : ¬ stateSlot.toList <:+: hostTail.toList := fun inner =>
    braces_not_infix_hostTail
      ((show ['\x7b', '\x7b'] <+: stateSlot.toList by simp [stateSlot_toList]).isInfix.trans inner)
  have lt_free : '<' ∉ stateSlot.toList := by simp [stateSlot_toList]
  obtain ⟨rest, middle⟩ := hostMiddle_toList
  rw [stateSlot_toList] at tail_clear lt_free ⊢
  rw [replaceChars_append_of_not_mem brace_not_mem_hostHead, middle, List.cons_append (a := '<'),
    replaceChars_append_of_not_mem_head lt_free, ← List.cons_append (a := '<'), ← middle,
    replaceChars_append_of_not_mem brace_not_mem_hostMiddle,
    replaceChars_pattern_append (List.cons_ne_nil _ _), replaceChars_of_not_infix tail_clear]

theorem renderPage_eq (state : AppState) (page : Option Page) :
    renderPage state page =
      hostHead ++ replaceAll (escapeHtml (Page.title page)) stateSlot (preloadedState state) ++
        hostMiddle ++ preloadedState state ++ hostTail := by
  rw [← String.toList_inj]
  simp only [renderPage, replaceAll, String.toList_ofList, replaceChars_title, replaceChars_state,
    String.toList_append, List.append_assoc]

theorem preloadedState_toList (state : AppState) :
    (preloadedState state).toList = state.toJson.write.toList.flatMap
      fun c => if c = '<' then "\\u003c".toList else [c] := by
  rw [preloadedState, replaceAll, String.toList_ofList, show "<".toList = ['<'] by simp,
    replaceChars_singleton]

theorem lt_not_mem_preloadedState (state : AppState) : '<' ∉ (preloadedState state).toList := by
  rw [preloadedState_toList, List.mem_flatMap]
  rintro ⟨c, -, mem⟩
  split_ifs at mem with lt
  · simp at mem
  · exact lt (List.mem_singleton.1 mem).symm

theorem lt_not_mem_titleText (title : String) (state : AppState) :
    '<' ∉ (replaceAll (escapeHtml title) stateSlot (preloadedState state)).toList := by
  rw [replaceAll, String.toList_ofList, ← List.count_eq_zero,
    count_replaceChars (by simp [stateSlot_toList]) (lt_not_mem_preloadedState state),
    List.count_eq_zero]
  exact lt_not_mem_escapeHtml title

/-! ## What the page keeps of the template -/

/-- The text written where the title placeholder was: the escaped title, with any state
placeholder in it replaced in turn. -/
def titleText (state : AppState) (page : Option Page) : String :=
  replaceAll (escapeHtml (Page.title page)) stateSlot (preloadedState state)

/-- What the page rendered for `state` and `page` keeps of the template. -/
structure KeepsMarkup (state : AppState) (page : Option Page) : Prop where
  /-- The template, with the title text and the preloaded state written in. -/
  layout : renderPage state page =
    hostHead ++ titleText state page ++ hostMiddle ++ preloadedState state ++ hostTail
  /-- No tag opens or closes but those of the template. -/
  tags : (renderPage state page).toList.count '<' = hostDocument.toList.count '<'
  title_plain : '<' ∉ (titleText state page).toList
  state_plain : '<' ∉ (preloadedState state).toList
  /-- The title element holds the title text. -/
  title_element : ∃ before after,
    renderPage state page = before ++ "<title>" ++ titleText state page ++ "</title>" ++ after
  /-- The title text reads back as the title, unless the title holds the state placeholder. -/
  title_reads : ¬ stateSlot.toList <:+: (Page.title page).toList →
    unescapeHtml (titleText state page).toList = (Page.title page).toList
  /-- The state element holds the preloaded state ... -/
  state_element : ∃ before after, renderPage state page =
    before ++ "<script id=\"preloaded-state\" type=\"application/json\">" ++ preloadedState state ++
      "</script>" ++ after
  /-- ... which is the serialized state with each `<` escaped ... -/
  state_escaped : (preloadedState state).toList =
    state.toJson.write.toList.flatMap fun c => if c = '<' then "\\u003c".toList else [c]
  /-- ... and reads as the value the serialized state reads as. -/
  state_reads : ∀ v, Json.read state.toJson.write = .ok v →
    Json.read (preloadedState state) = .ok v

theorem count_lt_template :
    hostDocument.toList.count '<' =
      hostHead.toList.count '<' + hostMiddle.toList.count '<' + hostTail.toList.count '<' := by
  have title_free : titleSlot.toList.count '<' = 0 := by simp [titleSlot_toList]
  have state_free : stateSlot.toList.count '<' = 0 := by simp [stateSlot_toList]
  rw [hostDocument_toList]
  simp only [List.count_append, title_free, state_free]
  omega

theorem rendered_page_keeps_its_markup (state : AppState) (page : Option Page) :
    KeepsMarkup state page := by
  have layout : renderPage state page =
      hostHead ++ titleText state page ++ hostMiddle ++ preloadedState state ++ hostTail :=
    renderPage_eq state page
  have title_plain : '<' ∉ (titleText state page).toList :=
    lt_not_mem_titleText (Page.title page) state
  have state_plain := lt_not_mem_preloadedState state
  obtain ⟨head, head_eq⟩ := hostHead_eq
  obtain ⟨⟨middle_back, middle_back_eq⟩, ⟨middle_front, middle_front_eq⟩⟩ := hostMiddle_eq
  obtain ⟨tail, tail_eq⟩ := hostTail_eq
  refine ⟨layout, ?_, title_plain, state_plain, ?_, ?_, ?_, preloadedState_toList state,
    fun _ read => Json.read_escapeLt read⟩
  · rw [layout, count_lt_template]
    simp only [String.toList_append, List.count_append, List.count_eq_zero.2 title_plain,
      List.count_eq_zero.2 state_plain]
    omega
  · refine ⟨head, middle_back ++ preloadedState state ++ hostTail, ?_⟩
    rw [layout, head_eq, middle_back_eq]
    simp only [String.append_assoc]
  · -- the title is escaped, and the state placeholder is not among its entities
    intro absent
    have plain : ∀ d ∈ stateSlot.toList, d ∉ markup := by simp [stateSlot_toList, markup]
    have outside : ∀ c ∈ markup, '\x7b' ∉ (htmlChar c).toList := by
      obtain ⟨amp, lt, gt, quot, apos⟩ := htmlChar_markup
      simp [markup, amp, lt, gt, quot, apos]
    rw [titleText, replaceAll, String.toList_ofList, escapeHtml_toList]
    rw [stateSlot_toList] at plain absent ⊢
    rw [replaceChars_escapeHtml plain outside _ absent, unescapeHtml_escapeHtml]
  · refine ⟨hostHead ++ titleText state page ++ middle_front, tail, ?_⟩
    rw [layout, middle_front_eq, tail_eq]
    simp only [String.append_assoc]

end SheetStore
