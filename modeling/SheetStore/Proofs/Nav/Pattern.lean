import SheetStore.Nav.Route
import Mathlib.Data.List.Chain
import Mathlib.Data.List.TakeWhile

/-! The pieces of a route pattern, said without the scanner (`Route.IsSplit`), kept by
the scanner for what it has built (`Route.Scanned`).
-/

set_option autoImplicit false

namespace SheetStore

namespace RoutePiece

/-- The text a piece stands for in the pattern: a literal's characters, or a colon and the
parameter's name. -/
def text : RoutePiece → List Char
  | .literal cs => cs
  | .param name => ':' :: name.toList

end RoutePiece

namespace Route

def Opens (cs : List Char) : Prop :=
  ∃ before c after, cs = before ++ ':' :: c :: after ∧ isNameStart c = true

/-- A piece as the cut leaves it: a literal of some characters with no parameter start in them,
or a parameter named by a letter or an underscore followed by letters, digits and underscores. -/
def Proper : RoutePiece → Prop
  | .literal cs => cs ≠ [] ∧ ¬ Opens cs
  | .param name => ∃ c rest, name.toList = c :: rest ∧ isNameStart c = true ∧
      ∀ d ∈ rest, isNameChar d = true

/-- Which piece may follow which: after a parameter no character that would continue its name,
and no literal right after a literal. -/
def Follows : RoutePiece → RoutePiece → Prop
  | .param _, .literal cs => ∀ c ∈ cs.head?, isNameChar c = false
  | .literal _, .literal _ => False
  | _, _ => True

/-- `pieces` are the text `t` cut at its leftmost non-overlapping parameters. -/
structure IsSplit (t : List Char) (pieces : List RoutePiece) : Prop where
  spells : (pieces.map RoutePiece.text).flatten = t
  proper : ∀ piece ∈ pieces, Proper piece
  follows : pieces.IsChain Follows

/-! ### Growing a literal -/

theorem not_opens_append {cs : List Char} {d : Char} (clear : ¬ Opens cs)
    (after : cs.getLast? = some ':' → isNameStart d = false) : ¬ Opens (cs ++ [d]) := by
  rintro ⟨before, c, rest, split, start⟩
  rcases List.eq_nil_or_concat rest with rfl | ⟨rest', e, rfl⟩
  · -- the new character is the one after a colon that ends the literal
    have : cs ++ [d] = (before ++ [':']) ++ [c] := by rw [split]; simp
    obtain ⟨rfl, same⟩ := List.append_inj' this rfl
    simp only [List.cons.injEq, and_true] at same
    subst same
    simp [start] at after
  · -- otherwise the parameter start lies in the literal as it was
    have : cs ++ [d] = (before ++ ':' :: c :: rest') ++ [e] := by rw [split]; simp
    obtain ⟨rfl, -⟩ := List.append_inj' this rfl
    exact clear ⟨before, c, rest', rfl, start⟩

theorem not_opens_singleton (d : Char) : ¬ Opens [d] := by
  rintro ⟨before, c, after, split, -⟩
  have := congrArg List.length split
  simp at this
  omega

/-! ### What the scanner has built -/

/-- What the scanner has built, last piece first: proper pieces, each allowed after the piece
before it. -/
structure Scanned (acc : List RoutePiece) : Prop where
  proper : ∀ piece ∈ acc, Proper piece
  follows : acc.IsChain fun later earlier => Follows earlier later

/-- What the characters still to scan may start with, given the last piece built: nothing that
would continue a parameter's name, and nothing that would make a parameter of a colon ending a
literal. -/
def Boundary : List RoutePiece → List Char → Prop
  | .param _ :: _, chars => ∀ c ∈ chars.head?, isNameChar c = false
  | .literal cs :: _, chars => cs.getLast? = some ':' → ∀ c ∈ chars.head?, isNameStart c = false
  | [], _ => True

def scannedText (acc : List RoutePiece) : List Char := (acc.reverse.map RoutePiece.text).flatten

theorem scannedText_addLiteral (c : Char) (acc : List RoutePiece) :
    scannedText (addLiteral c acc) = scannedText acc ++ [c] := by
  unfold addLiteral
  split <;> simp [scannedText, RoutePiece.text]

theorem scannedText_param (name : String) (acc : List RoutePiece) :
    scannedText (.param name :: acc) = scannedText acc ++ ':' :: name.toList := by
  simp [scannedText, RoutePiece.text]

theorem Scanned.addLiteral {acc : List RoutePiece} {c : Char} {more : List Char}
    (built : Scanned acc) (boundary : Boundary acc (c :: more)) :
    Scanned (addLiteral c acc) := by
  unfold Route.addLiteral
  split
  · -- the character joins the literal being built
    rename_i cs rest
    have old := built.proper (.literal cs) List.mem_cons_self
    have grown : Proper (.literal (cs ++ [c])) :=
      ⟨by simp, not_opens_append old.2 fun last => boundary last c rfl⟩
    refine ⟨?_, ?_⟩
    · intro piece mem
      rcases List.mem_cons.1 mem with rfl | mem
      · exact grown
      · exact built.proper piece (List.mem_cons_of_mem _ mem)
    · have chain := built.follows
      cases rest with
      | nil => exact List.isChain_singleton _
      | cons earlier rest =>
        rw [List.isChain_cons_cons] at chain ⊢
        refine ⟨?_, chain.2⟩
        -- the piece before the literal is a parameter, and the literal still starts the same way
        cases earlier with
        | literal ds => exact absurd chain.1 id
        | param name =>
          have first := chain.1
          simp only [Follows] at first ⊢
          cases cs with
          | nil => exact absurd rfl old.1
          | cons d ds => simpa using first
  · -- the character starts a new literal
    rename_i others
    refine ⟨?_, ?_⟩
    · intro piece mem
      rcases List.mem_cons.1 mem with rfl | mem
      · exact ⟨by simp, not_opens_singleton c⟩
      · exact built.proper piece mem
    · cases acc with
      | nil => exact List.isChain_singleton _
      | cons earlier rest =>
        refine List.isChain_cons_cons.2 ⟨?_, built.follows⟩
        cases earlier with
        | literal ds => exact absurd rfl (others ds rest)
        | param name => simpa [Boundary, Follows] using boundary

theorem Scanned.param {acc : List RoutePiece} {name : String} (built : Scanned acc)
    (proper : Proper (.param name)) : Scanned (.param name :: acc) := by
  refine ⟨?_, ?_⟩
  · intro piece mem
    rcases List.mem_cons.1 mem with rfl | mem
    · exact proper
    · exact built.proper piece mem
  · cases acc with
    | nil => exact List.isChain_singleton _
    | cons earlier rest =>
      refine List.isChain_cons_cons.2 ⟨?_, built.follows⟩
      cases earlier <;> trivial

theorem boundary_addLiteral {c : Char} {acc : List RoutePiece} {chars : List Char}
    (closed : c = ':' → ∀ d ∈ chars.head?, isNameStart d = false) :
    Boundary (addLiteral c acc) chars := by
  unfold addLiteral
  split <;> simpa [Boundary] using closed

theorem Scanned.isSplit {acc : List RoutePiece} (built : Scanned acc) :
    IsSplit (scannedText acc) acc.reverse :=
  ⟨rfl, fun piece mem => built.proper piece (List.mem_reverse.1 mem),
    List.isChain_reverse.2 built.follows⟩

/-! ### Scanning a pattern -/

theorem takeWhile_append_drop {α : Type} (p : α → Bool) :
    ∀ l : List α, l.takeWhile p ++ l.drop (l.takeWhile p).length = l
  | [] => rfl
  | a :: l => by
    by_cases taken : p a <;> simp [taken, takeWhile_append_drop p l]

theorem head?_drop_takeWhile {α : Type} (p : α → Bool) :
    ∀ l : List α, ∀ c ∈ (l.drop (l.takeWhile p).length).head?, p c = false
  | [] => by simp
  | a :: l => by
    by_cases taken : p a
    · simpa [List.takeWhile_cons, taken] using head?_drop_takeWhile p l
    · simp [taken]

theorem isSplit_scan (chars : List Char) (acc : List RoutePiece) (built : Scanned acc)
    (boundary : Boundary acc chars) : IsSplit (scannedText acc ++ chars) (scan chars acc).reverse := by
  induction chars, acc using scan.induct with
  | case1 acc =>
    rw [scan, List.append_nil]
    exact built.isSplit
  | case2 c rest acc start _ ih =>
    -- a parameter: its name runs over the name characters after its first one
    have name : Proper (.param (String.ofList (c :: rest.takeWhile isNameChar))) :=
      ⟨c, rest.takeWhile isNameChar, by simp, start, fun d mem => List.mem_takeWhile_imp mem⟩
    have next := ih (built.param name) (head?_drop_takeWhile isNameChar rest)
    rw [scannedText_param, String.toList_ofList, List.append_assoc, List.cons_append,
      List.cons_append, takeWhile_append_drop] at next
    rw [scan, if_pos start]
    exact next
  | case3 c rest acc notStart ih =>
    -- a colon before a character that starts no name stays in the literal
    have next := ih (built.addLiteral boundary)
      (boundary_addLiteral fun _ => by simpa using notStart)
    rw [scannedText_addLiteral, List.append_assoc] at next
    rw [scan, if_neg notStart]
    exact next
  | case4 c rest acc other ih =>
    -- any other character, or a colon that ends the pattern, joins the literal
    have closed : c = ':' → ∀ d ∈ rest.head?, isNameStart d = false := by
      intro colon d mem
      cases rest with
      | nil => cases mem
      | cons e more => exact absurd rfl (other e more colon)
    have next := ih (built.addLiteral boundary) (boundary_addLiteral closed)
    rw [scannedText_addLiteral, List.append_assoc] at next
    -- the scan's last equation holds where no colon starts a longer pattern
    rw [scan]
    · exact next
    · exact other

theorem compile_isSplit (pattern : String) :
    IsSplit (trimSlashes pattern).toList (compile pattern) := by
  simpa [scannedText, compile] using
    isSplit_scan (trimSlashes pattern).toList [] ⟨by simp, List.isChain_nil⟩ trivial

end Route

end SheetStore
