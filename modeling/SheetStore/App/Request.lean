/-! Requests to the application, and the checks of method, target and content type a
request passes before it is sent.
-/

set_option autoImplicit false

namespace SheetStore

/-- Why a request cannot be built. -/
inductive RequestFault where
  | invalidMethod
  | emptyTarget
  | targetTooLong
  | invalidTargetByte
  | invalidFormat
  | invalidAuthority
  | schemeTooLong
  | invalidHeaderValue
  deriving DecidableEq, Inhabited

def RequestFault.message : RequestFault → String
  | .invalidMethod => "invalid HTTP method"
  | .emptyTarget => "empty string"
  | .targetTooLong => "uri too long"
  | .invalidTargetByte => "invalid uri character"
  | .invalidFormat => "invalid format"
  | .invalidAuthority => "invalid authority"
  | .schemeTooLong => "scheme too long"
  | .invalidHeaderValue => "failed to parse header value"

/-- A request to the application. -/
structure Request where
  method : String
  /-- The path the request is routed by. -/
  path : String
  contentType : Option String
  body : String

namespace Target

def lengthLimit : Nat := 65534

def schemeLimit : Nat := 64

def alphanumeric (b : Nat) : Bool :=
  (0x30 ≤ b && b ≤ 0x39) || (0x41 ≤ b && b ≤ 0x5A) || (0x61 ≤ b && b ≤ 0x7A)

def oneOf (chars : String) (b : Nat) : Bool := chars.toList.any fun c => c.toNat = b

def pathByte (b : Nat) : Bool :=
  b = 0x21 || (0x24 ≤ b && b ≤ 0x3B) || b = 0x3D || (0x40 ≤ b && b ≤ 0x5F) ||
    (0x61 ≤ b && b ≤ 0x7A) || b = 0x7C || b = 0x7E || b = 0x22 || b = 0x7B || b = 0x7D

def queryByte (b : Nat) : Bool :=
  b = 0x21 || (0x24 ≤ b && b ≤ 0x3B) || b = 0x3D || (0x3F ≤ b && b ≤ 0x7E)

/-- Whether a byte may stand in an address outside a path: letters, digits and
``!#$&'()*+,-./:;=?@[]_~``. -/
def addressByte (b : Nat) : Bool := alphanumeric b || oneOf "!#$&\x27()*+,-./:;=?@[]_~" b

def schemeByte (b : Nat) : Bool := alphanumeric b || oneOf "+-." b

def tokenByte (b : Nat) : Bool := alphanumeric b || oneOf "!#$%&\x27*+-.^_`|~" b

def headerByte (b : Nat) : Bool := (32 ≤ b && b ≠ 127) || b = 9

/-- The path of a path with its query: the part before `?` or `#`, checked byte by byte, the
query checked up to `#`; an empty path is `/`. -/
def pathOf (bytes : List Nat) : Except RequestFault (List Nat) :=
  let path := bytes.takeWhile fun b => b ≠ 0x3F && b ≠ 0x23
  let rest := bytes.drop path.length
  let query := match rest with
    | 0x3F :: q => q.takeWhile (· ≠ 0x23)
    | _ => []
  if !path.all pathByte || !query.all queryByte then .error .invalidTargetByte
  else .ok (if path.isEmpty then [0x2F] else path)

/-- What the scan of an authority has seen so far. -/
structure AuthorityScan where
  colons : Nat
  opened : Bool
  closed : Bool
  percent : Bool
  /-- The position of the last `@`. -/
  at? : Option Nat

/-- The length of the authority at the front of `bytes`: up to the first `/`, `?` or `#`. The
authority may carry user information before an `@`, a port after one `:`, and an IPv6 address in
brackets; a `%` may stand only in the user information. -/
def authorityLength (bytes : List Nat) : Except RequestFault Nat :=
  let step (acc : Except RequestFault (Option Nat × AuthorityScan)) (ib : Nat × Nat) :
      Except RequestFault (Option Nat × AuthorityScan) := do
    let (stop, s) ← acc
    let (i, b) := ib
    if stop.isSome then return (stop, s)
    if b = 0x2F || b = 0x3F || b = 0x23 then return (some i, s)
    if b = 0x3A then
      if 8 ≤ s.colons then throw .invalidAuthority
      return (none, { s with colons := s.colons + 1 })
    if b = 0x5B then
      if s.percent || s.opened then throw .invalidAuthority
      return (none, { s with opened := true })
    if b = 0x5D then
      if !s.opened || s.closed then throw .invalidAuthority
      return (none, { s with closed := true, colons := 0, percent := false })
    if b = 0x40 then return (none, { s with at? := some i, colons := 0, percent := false })
    if addressByte b then return (none, s)
    if b = 0x25 then return (none, { s with percent := true })
    throw .invalidTargetByte
  do
    let (stop, s) ← (List.range bytes.length).zip bytes |>.foldl step
      (.ok (none, { colons := 0, opened := false, closed := false, percent := false, at? := none }))
    let finish := stop.getD bytes.length
    if s.opened != s.closed || 1 < s.colons then throw .invalidAuthority
    if 0 < finish && s.at? = some (finish - 1) then throw .invalidAuthority
    if s.percent then throw .invalidAuthority
    return finish

def schemeLength (bytes : List Nat) : Except RequestFault (Option Nat) :=
  let lower := bytes.map fun b => if 0x41 ≤ b && b ≤ 0x5A then b + 32 else b
  let http := "http://".toList.map Char.toNat
  let https := "https://".toList.map Char.toNat
  if lower.take 7 = http then .ok (some 4)
  else if lower.take 8 = https then .ok (some 5)
  else if bytes.length ≤ 3 then .ok none
  else
    let name := bytes.takeWhile schemeByte
    match bytes.drop name.length with
    | 0x3A :: 0x2F :: 0x2F :: _ =>
      if schemeLimit < name.length then .error .schemeTooLong else .ok (some name.length)
    | _ => .ok none

/-- The routing path of a target. Every byte a path admits is ASCII, so the path reads back
byte for byte. -/
def path (target : String) : Except RequestFault String := do
  let bytes := target.toUTF8.data.toList.map UInt8.toNat
  let text (bs : List Nat) : String := String.ofList (bs.map Char.ofNat)
  if bytes.isEmpty then throw .emptyTarget
  if lengthLimit < bytes.length then throw .targetTooLong
  if bytes = [0x2F] then return "/"
  if bytes = [0x2A] then return "*"
  if bytes.length = 1 then
    let n ← authorityLength bytes
    if n ≠ bytes.length then throw .invalidTargetByte
    return ""
  if bytes.head? = some 0x2F then return text (← pathOf bytes)
  match ← schemeLength bytes with
  | none =>
    let n ← authorityLength bytes
    if n ≠ bytes.length then throw .invalidFormat
    return ""
  | some k =>
    let rest := bytes.drop (k + 3)
    let n ← authorityLength rest
    if n = 0 then throw .invalidFormat
    return text (← pathOf (rest.drop n))

end Target

namespace Request

/-- Build a request, or say why it cannot be built: the method is checked first, then the
target, then the content type. -/
def build (method target : String) (contentType : Option String) (body : String) :
    Except RequestFault Request := do
  let methodBytes := method.toUTF8.data.toList.map UInt8.toNat
  if methodBytes.isEmpty || !methodBytes.all Target.tokenByte then throw .invalidMethod
  let path ← Target.path target
  if let some v := contentType then
    if !(v.toUTF8.data.toList.all fun b => Target.headerByte b.toNat) then
      throw .invalidHeaderValue
  return { method, path, contentType, body }

end Request

end SheetStore
