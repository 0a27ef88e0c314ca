import SheetStore.Nav.Location
import SheetStore.Proofs.Nav.Pattern

/-! Locations written out and read back: the parts of a text said without the cutting
(`Location.Parts`), and the canonical locations that parsing gives.
-/

set_option autoImplicit false

namespace SheetStore

/-- `before` and `after` cut `s` at its first `c`: `before` holds no `c`, and `after` is empty or
starts at `c`. -/
def Cut (c : Char) (s before after : String) : Prop :=
  before ++ after = s ∧ c ∉ before.toList ∧ ∀ d ∈ after.toList.head?, d = c

theorem cut_iff_splitAtFirst {c : Char} {s before after : String} :
    Cut c s before after ↔ splitAtFirst c s = (before, after) := by
  constructor
  · rintro ⟨rfl, clear, start⟩
    -- the run of characters other than `c` stops exactly where `after` begins
    have stops : after.toList.takeWhile (fun d => decide (d ≠ c)) = [] := by
      cases tail : after.toList with
      | nil => rfl
      | cons d rest =>
        have : d = c := start d (by simp [tail])
        simp [this]
    have taken :
        (before.toList ++ after.toList).takeWhile (fun d => decide (d ≠ c)) = before.toList := by
      have others : ∀ d ∈ before.toList, decide (d ≠ c) = true := by
        intro d mem
        simp only [ne_eq, decide_eq_true_eq]
        rintro rfl
        exact clear mem
      rw [List.takeWhile_append_of_pos others, stops, List.append_nil]
    simp only [splitAtFirst, String.toList_append, taken, List.drop_left, String.ofList_toList]
  · intro split
    simp only [splitAtFirst, Prod.mk.injEq] at split
    obtain ⟨rfl, rfl⟩ := split
    refine ⟨?_, ?_, ?_⟩
    · rw [← String.toList_inj, String.toList_append, String.toList_ofList, String.toList_ofList,
        Route.takeWhile_append_drop]
    · intro mem
      rw [String.toList_ofList] at mem
      simpa using List.mem_takeWhile_imp mem
    · intro d mem
      rw [String.toList_ofList] at mem
      simpa using Route.head?_drop_takeWhile (fun d => decide (d ≠ c)) s.toList d mem

namespace Location

/-- The parts of a text as parsing reads it: a pathname with neither `?` nor `#` in it, a search
that is empty or starts at a `?` and holds no `#`, and a hash that is empty or starts at a `#`. -/
structure Parts (s pathname search hash : String) : Prop where
  spells : pathname ++ search ++ hash = s
  pathname_plain : '?' ∉ pathname.toList ∧ '#' ∉ pathname.toList
  search_start : ∀ c ∈ search.toList.head?, c = '?'
  search_plain : '#' ∉ search.toList
  hash_start : ∀ c ∈ hash.toList.head?, c = '#'

theorem parts_iff {s p q h : String} : Parts s p q h ↔ Cut '#' s (p ++ q) h ∧ Cut '?' (p ++ q) p q := by
  constructor
  · rintro ⟨spells, ⟨noQuery, noHash⟩, searchStart, searchPlain, hashStart⟩
    refine ⟨⟨spells, ?_, hashStart⟩, ⟨rfl, noQuery, searchStart⟩⟩
    simpa [String.toList_append] using ⟨noHash, searchPlain⟩
  · rintro ⟨⟨spells, plain, hashStart⟩, ⟨-, noQuery, searchStart⟩⟩
    simp only [String.toList_append, List.mem_append, not_or] at plain
    exact ⟨spells, ⟨noQuery, plain.1⟩, searchStart, plain.2, hashStart⟩

theorem parts_exist (s : String) : ∃ p q h, Parts s p q h := by
  rcases first : splitAtFirst '#' s with ⟨rest, hash⟩
  rcases second : splitAtFirst '?' rest with ⟨p, q⟩
  have queryCut := cut_iff_splitAtFirst.2 second
  refine ⟨p, q, hash, parts_iff.2 ⟨?_, ?_⟩⟩
  · rw [queryCut.1]
    exact cut_iff_splitAtFirst.2 first
  · rwa [queryCut.1]

theorem Parts.unique {s p q h p' q' h' : String} (parts : Parts s p q h)
    (parts' : Parts s p' q' h') : p = p' ∧ q = q' ∧ h = h' := by
  obtain ⟨hash, query⟩ := parts_iff.1 parts
  obtain ⟨hash', query'⟩ := parts_iff.1 parts'
  have first := (cut_iff_splitAtFirst.1 hash).symm.trans (cut_iff_splitAtFirst.1 hash')
  simp only [Prod.mk.injEq] at first
  rw [first.1] at query
  have second := (cut_iff_splitAtFirst.1 query).symm.trans (cut_iff_splitAtFirst.1 query')
  simp only [Prod.mk.injEq] at second
  exact ⟨second.1, second.2, first.2⟩

theorem parse_eq_of_parts {s p q h : String} (parts : Parts s p q h) (key : String) :
    parse s key =
      { pathname := if p = "" then "/" else p
        search := if q = "?" then "" else q
        hash := if h = "#" then "" else h
        key } := by
  obtain ⟨hash, query⟩ := parts_iff.1 parts
  simp only [parse, cut_iff_splitAtFirst.1 hash, cut_iff_splitAtFirst.1 query,
    String.isEmpty_iff]

/-- The locations parsing gives, whatever their key: a non-empty pathname with neither `?` nor
`#` in it, a search that is empty or a `?` followed by at least one character and no `#`, and a
hash that is empty or a `#` followed by at least one character. -/
structure Canonical (l : Location) : Prop where
  pathname_ne : l.pathname ≠ ""
  pathname_plain : '?' ∉ l.pathname.toList ∧ '#' ∉ l.pathname.toList
  search_form : l.search = "" ∨ ∃ c rest, l.search.toList = '?' :: c :: rest
  search_plain : '#' ∉ l.search.toList
  hash_form : l.hash = "" ∨ ∃ c rest, l.hash.toList = '#' :: c :: rest

theorem marked_iff {t : String} {m : Char} :
    (t = "" ∨ ∃ c rest, t.toList = m :: c :: rest) ↔
      (∀ c ∈ t.toList.head?, c = m) ∧ t ≠ String.singleton m := by
  rw [← String.toList_eq_nil_iff, ne_eq, ← String.toList_inj, String.toList_singleton]
  rcases t.toList with _ | ⟨d, _ | ⟨c, rest⟩⟩ <;> simp [eq_comm]

theorem canonical_iff (l : Location) :
    l.Canonical ↔
      Parts l.path l.pathname l.search l.hash ∧ l.pathname ≠ "" ∧ l.search ≠ "?" ∧ l.hash ≠ "#" := by
  constructor
  · rintro ⟨nonempty, plain, searchForm, searchPlain, hashForm⟩
    obtain ⟨searchStart, searchNe⟩ := marked_iff.1 searchForm
    obtain ⟨hashStart, hashNe⟩ := marked_iff.1 hashForm
    exact ⟨⟨rfl, plain, searchStart, searchPlain, hashStart⟩, nonempty, searchNe, hashNe⟩
  · rintro ⟨⟨-, plain, searchStart, searchPlain, hashStart⟩, nonempty, searchNe, hashNe⟩
    exact ⟨nonempty, plain, marked_iff.2 ⟨searchStart, searchNe⟩, searchPlain,
      marked_iff.2 ⟨hashStart, hashNe⟩⟩

theorem marked_of_dropLone {t : String} {m : Char} (start : ∀ c ∈ t.toList.head?, c = m) :
    (if t = String.singleton m then "" else t) = "" ∨
      ∃ c rest, (if t = String.singleton m then "" else t).toList = m :: c :: rest := by
  split
  · exact .inl rfl
  · exact marked_iff.2 ⟨start, ‹_›⟩

theorem canonical_parse (s key : String) : (parse s key).Canonical := by
  obtain ⟨p, q, h, parts⟩ := parts_exist s
  rw [parse_eq_of_parts parts]
  obtain ⟨-, ⟨noQuery, noHash⟩, searchStart, searchPlain, hashStart⟩ := parts
  refine ⟨?_, ?_, marked_of_dropLone searchStart, ?_, marked_of_dropLone hashStart⟩ <;> dsimp only
  -- an empty pathname becomes `/`, which holds no marker either
  · split <;> simp_all
  · split <;> simp_all
  · split <;> simp_all

theorem parse_path (l : Location) (canonical : l.Canonical) (key : String) :
    parse l.path key = { l with key } := by
  obtain ⟨parts, nonempty, searchNe, hashNe⟩ := (canonical_iff l).1 canonical
  simp [parse_eq_of_parts parts, nonempty, searchNe, hashNe]

theorem path_parse_eq_iff {s p q h : String} (parts : Parts s p q h) (key : String) :
    (parse s key).path = s ↔ p ≠ "" ∧ q ≠ "?" ∧ h ≠ "#" := by
  constructor
  · intro same
    -- the parsed location is canonical, so its parts are those of `s`
    obtain ⟨written, nonempty, searchNe, hashNe⟩ := (canonical_iff _).1 (canonical_parse s key)
    rw [same] at written
    obtain ⟨rfl, rfl, rfl⟩ := written.unique parts
    exact ⟨nonempty, searchNe, hashNe⟩
  · rintro ⟨nonempty, searchNe, hashNe⟩
    simp only [parse_eq_of_parts parts, nonempty, searchNe, hashNe, if_false, path]
    exact parts.spells

/-- Parsing and writing out, in the words of the parts of a text. Every text has its parts, in
one way only. A text survives parsing and writing out iff its pathname is not empty, its search
not a lone `?` and its hash not a lone `#`. The locations parsing gives are exactly the canonical
ones, each of which parsing its text gives back with the new key; so parsing the text of a parsed
location gives it again, with the new key. -/
theorem parse_path_round_trip :
    (∀ s, ∃ p q h, Parts s p q h) ∧
    (∀ s p q h p' q' h', Parts s p q h → Parts s p' q' h' → p = p' ∧ q = q' ∧ h = h') ∧
    (∀ s key p q h, Parts s p q h → ((parse s key).path = s ↔ p ≠ "" ∧ q ≠ "?" ∧ h ≠ "#")) ∧
    (∀ l : Location, (∃ s key, parse s key = l) ↔ l.Canonical) ∧
    (∀ (l : Location) key, l.Canonical → parse l.path key = { l with key }) ∧
    (∀ s key key', parse (parse s key).path key' = { parse s key with key := key' }) := by
  refine ⟨parts_exist, fun _ _ _ _ _ _ _ parts parts' => parts.unique parts',
    fun _ key _ _ _ parts => path_parse_eq_iff parts key, fun l => ⟨?_, ?_⟩,
    fun l key canonical => parse_path l canonical key,
    fun s key key' => parse_path _ (canonical_parse s key) key'⟩
  · rintro ⟨s, key, rfl⟩
    exact canonical_parse s key
  · intro canonical
    exact ⟨l.path, l.key, parse_path l canonical l.key⟩

end Location

end SheetStore
