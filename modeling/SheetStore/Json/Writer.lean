import SheetStore.Json.Basic
import SheetStore.Number.Text

/-! Compact JSON text, with the escapes of strings written as JSON's short escapes or as
`\u00XX` in lower-case hex.
-/

set_option autoImplicit false

namespace SheetStore

namespace Json

def hexDigit (n : Nat) : Char :=
  if n < 10 then Char.ofNat (48 + n) else Char.ofNat (87 + n)

def escapeChar (c : Char) : String :=
  if c = '"' then "\\\""
  else if c = '\\' then "\\\\"
  else if c = '\n' then "\\n"
  else if c = '\r' then "\\r"
  else if c = '\t' then "\\t"
  else if c.toNat = 8 then "\\b"
  else if c.toNat = 12 then "\\f"
  else if c.toNat < 32 then
    String.ofList ['\\', 'u', '0', '0', hexDigit (c.toNat / 16), hexDigit (c.toNat % 16)]
  else c.toString

def quote (s : String) : String :=
  "\"" ++ String.join (s.toList.map escapeChar) ++ "\""

def numberText : JsonNumber → String
  | .nat n => toString n
  | .neg n => toString n
  | .float x => if x.isFinite then x.interchangeText else "null"

mutual

def write : Json → String
  | .null => "null"
  | .bool b => if b then "true" else "false"
  | .number n => numberText n
  | .str s => quote s
  | .arr items => "[" ++ writeItems items ++ "]"
  | .obj members => "\x7b" ++ writeMembers members ++ "\x7d"

def writeItems : List Json → String
  | [] => ""
  | [w] => write w
  | w :: ws => write w ++ "," ++ writeItems ws

def writeMembers : List (String × Json) → String
  | [] => ""
  | [(k, w)] => quote k ++ ":" ++ write w
  | (k, w) :: rest => quote k ++ ":" ++ write w ++ "," ++ writeMembers rest

end

end Json

end SheetStore
