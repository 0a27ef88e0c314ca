/-! Quoting text for people (`debugQuote`) and for markup (`escapeHtml`).
-/

set_option autoImplicit false

namespace SheetStore

namespace Text

def hexDigits (n : Nat) : String :=
  String.ofList ((Nat.toDigits 16 n).map Char.toLower)

/-- Ranges of code points that are written escaped: controls, format characters, separators other
than the space, private use, noncharacters and combining marks. -/
def hiddenRanges : List (Nat × Nat) :=
  [(0x0, 0x1F), (0x7F, 0xA0), (0xAD, 0xAD), (0x300, 0x36F), (0x483, 0x489), (0x591, 0x5BD),
    (0x5BF, 0x5BF), (0x5C1, 0x5C2), (0x5C4, 0x5C5), (0x5C7, 0x5C7), (0x600, 0x605),
    (0x610, 0x61A), (0x61C, 0x61C), (0x64B, 0x65F), (0x670, 0x670), (0x6D6, 0x6DD),
    (0x6DF, 0x6E4), (0x6E7, 0x6E8), (0x6EA, 0x6ED), (0x70F, 0x70F), (0x900, 0x902),
    (0x93A, 0x93A), (0x93C, 0x93C), (0x941, 0x948), (0x94D, 0x94D), (0x951, 0x957),
    (0xE31, 0xE31), (0xE34, 0xE3A), (0xE47, 0xE4E), (0x1680, 0x1680), (0x180B, 0x180F),
    (0x1AB0, 0x1AFF), (0x1DC0, 0x1DFF), (0x2000, 0x200F), (0x2028, 0x202F), (0x205F, 0x2064),
    (0x2066, 0x206F), (0x20D0, 0x20F0), (0x3000, 0x3000), (0x302A, 0x302F), (0x3099, 0x309A),
    (0xD800, 0xF8FF), (0xFDD0, 0xFDEF), (0xFE00, 0xFE0F), (0xFE20, 0xFE2F), (0xFEFF, 0xFEFF),
    (0xFFF0, 0xFFFB), (0xFFFE, 0xFFFF), (0x1D165, 0x1D169), (0x1D16D, 0x1D172),
    (0x1D173, 0x1D182), (0x1F3FB, 0x1F3FF), (0xE0000, 0xE0FFF), (0xF0000, 0x10FFFF)]

def isHidden (c : Char) : Bool :=
  hiddenRanges.any fun (lo, hi) => lo ≤ c.toNat && c.toNat ≤ hi

def debugChar (c : Char) : String :=
  if c = '"' then "\\\""
  else if c = '\\' then "\\\\"
  else if c = '\n' then "\\n"
  else if c = '\r' then "\\r"
  else if c = '\t' then "\\t"
  else if c.toNat = 0 then "\\0"
  else if isHidden c then "\\u\x7b" ++ hexDigits c.toNat ++ "\x7d"
  else c.toString

def debugQuote (s : String) : String :=
  "\"" ++ String.join (s.toList.map debugChar) ++ "\""

def htmlChar (c : Char) : String :=
  if c = '&' then "&amp;"
  else if c = '<' then "&lt;"
  else if c = '>' then "&gt;"
  else if c = '"' then "&quot;"
  else if c = '\'' then "&#39;"
  else c.toString

/-- Text made safe inside markup: `&`, `<`, `>`, `"` and `'` become entities. -/
def escapeHtml (s : String) : String :=
  String.join (s.toList.map htmlChar)

/-- Every occurrence of `pattern` in the characters `s` replaced by `replacement`, scanning from
the left and resuming after each replaced occurrence. An empty pattern replaces nothing. -/
def replaceChars (pattern replacement : List Char) : List Char → List Char
  | [] => []
  | c :: rest =>
    if _found : pattern ≠ [] ∧ pattern.isPrefixOf (c :: rest) then
      replacement ++ replaceChars pattern replacement ((c :: rest).drop pattern.length)
    else c :: replaceChars pattern replacement rest
termination_by s => s.length
decreasing_by
  · -- a match of a nonempty pattern is dropped whole
    have : 0 < pattern.length := List.length_pos_iff.2 _found.1
    simp only [List.length_drop, List.length_cons]
    omega
  · simp

/-- Every occurrence of `pattern` in `s` replaced by `replacement`, scanning from the left and
resuming after each replaced occurrence. -/
def replaceAll (s pattern replacement : String) : String :=
  String.ofList (replaceChars pattern.toList replacement.toList s.toList)

end Text

end SheetStore
