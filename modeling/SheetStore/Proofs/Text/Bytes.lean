import SheetStore.Proofs.Text.Replace

/-! The UTF-8 bytes of a text, and facts about the characters of a long literal checked on
its bytes.
-/

set_option autoImplicit false

namespace SheetStore

namespace Text

theorem toUTF8_data (s : String) :
    s.toUTF8.data.toList = s.toList.flatMap String.utf8EncodeChar := by
  have encoded := String.toByteArray_ofList (l := s.toList)
  rw [String.ofList_toList] at encoded
  rw [String.toUTF8, encoded, List.utf8Encode, List.data_toByteArray, List.toList_toArray]

theorem utf8EncodeChar_of_lt {c : Char} (ascii : c.toNat < 128) :
    String.utf8EncodeChar c = [UInt8.ofNat c.toNat] := by
  have small : c.val.toNat ≤ 127 := by
    change c.toNat ≤ 127
    omega
  unfold String.utf8EncodeChar
  dsimp only
  rw [if_pos small]
  rfl

theorem eq_of_mem_utf8EncodeChar {c : Char} {n : Nat} (small : n < 128)
    (mem : UInt8.ofNat n ∈ String.utf8EncodeChar c) : c.toNat = n := by
  have code := List.mem_map_of_mem (f := UInt8.toNat) mem
  unfold String.utf8EncodeChar at code
  dsimp only at code
  change c.val.toNat = n
  -- every byte of a longer encoding carries a high bit
  split_ifs at code <;>
    simp only [List.map_cons, List.map_nil, List.mem_cons, List.not_mem_nil, or_false,
      UInt8.toNat_ofNat', Nat.reducePow] at code <;>
    omega

theorem byte_mem_of_mem {s : String} {c : Char} (ascii : c.toNat < 128) (mem : c ∈ s.toList) :
    UInt8.ofNat c.toNat ∈ s.toUTF8.data.toList := by
  rw [toUTF8_data, List.mem_flatMap]
  exact ⟨c, mem, by rw [utf8EncodeChar_of_lt ascii]; exact List.mem_singleton_self _⟩

theorem not_mem_of_bytes {s : String} {c : Char} (ascii : c.toNat < 128)
    (absent : UInt8.ofNat c.toNat ∉ s.toUTF8.data.toList) : c ∉ s.toList :=
  fun mem => absent (byte_mem_of_mem ascii mem)

theorem bytes_infix_of_infix_chars {s : String} {w : List Char} (inner : w <:+: s.toList) :
    w.flatMap String.utf8EncodeChar <:+: s.toUTF8.data.toList := by
  obtain ⟨before, after, spelled⟩ := inner
  rw [toUTF8_data, ← spelled]
  exact ⟨before.flatMap String.utf8EncodeChar, after.flatMap String.utf8EncodeChar,
    by simp only [List.flatMap_append]⟩

theorem not_infix_of_bytes {s : String} {w : List Char}
    (absent : ¬ w.flatMap String.utf8EncodeChar <:+: s.toUTF8.data.toList) : ¬ w <:+: s.toList :=
  fun inner => absent (bytes_infix_of_infix_chars inner)

end Text

end SheetStore
