import SheetStore.Json.Basic

/-! Matching a pathname against a route pattern such as `/workbook/:name`, parameters taking
as many characters as they can, the first parameter first.
-/

set_option autoImplicit false

namespace SheetStore

/-- A piece of a compiled route pattern. -/
inductive RoutePiece where
  /-- Characters that match themselves. -/
  | literal (chars : List Char)
  /-- A named parameter, matching one or more characters other than `/`. -/
  | param (name : String)
  deriving DecidableEq, Inhabited

/-- The result of matching a pathname against a pattern. -/
structure RouteMatch where
  path : String
  url : String
  isExact : Bool
  params : List (String × String)
  deriving DecidableEq, Inhabited

namespace Route

def isNameStart (c : Char) : Bool := c.isAlpha || c = '_'

def isNameChar (c : Char) : Bool := c.isAlphanum || c = '_'

def addLiteral (c : Char) : List RoutePiece → List RoutePiece
  | .literal cs :: rest => .literal (cs ++ [c]) :: rest
  | pieces => .literal [c] :: pieces

def scan : List Char → List RoutePiece → List RoutePiece
  | [], acc => acc
  | ':' :: c :: rest, acc =>
    if isNameStart c then
      let tail := rest.takeWhile isNameChar
      scan (rest.drop tail.length) (.param (String.ofList (c :: tail)) :: acc)
    else scan (c :: rest) (addLiteral ':' acc)
  | c :: rest, acc => scan rest (addLiteral c acc)
termination_by chars => chars.length
decreasing_by all_goals (simp; try omega)

def trimSlashes (s : String) : String :=
  String.ofList (s.toList.reverse.dropWhile (· = '/')).reverse

def compile (pattern : String) : List RoutePiece := (scan (trimSlashes pattern).toList []).reverse

def segmentLength (input : List Char) : Nat := (input.takeWhile (· ≠ '/')).length

/-- The first way, in priority order, for `pieces` followed by the ending to match a prefix of
`input`: the captured texts and the number of characters matched. `ending` says how many
characters the ending takes from what remains, or that it fails. -/
def matchPieces (ending : List Char → Option Nat) :
    List RoutePiece → List Char → Option (List String × Nat)
  | [], input => (ending input).map fun n => ([], n)
  | .literal cs :: rest, input =>
    if cs.isPrefixOf input then
      (matchPieces ending rest (input.drop cs.length)).map fun (caps, n) => (caps, cs.length + n)
    else none
  | .param _ :: rest, input =>
    let longest := segmentLength input
    ((List.range longest).reverse.map (· + 1)).findSome? fun k =>
      (matchPieces ending rest (input.drop k)).map fun (caps, n) =>
        (String.ofList (input.take k) :: caps, k + n)

def exactEnding : List Char → Option Nat
  | [] => some 0
  | ['/'] => some 1
  | _ => none

def prefixEnding : List Char → Option Nat
  | [] => some 0
  | '/' :: _ => some 1
  | _ => none

def insertParam (name value : String) : List (String × String) → List (String × String)
  | [] => [(name, value)]
  | (k, v) :: rest =>
    if name < k then (name, value) :: (k, v) :: rest
    else if name = k then (name, value) :: rest
    else (k, v) :: insertParam name value rest

def paramNames (pieces : List RoutePiece) : List String :=
  pieces.filterMap fun
    | .param name => some name
    | .literal _ => none

/-- A text without trailing slashes, or `/` if nothing is left. -/
def normalize (s : String) : String :=
  let t := trimSlashes s
  if t.isEmpty then "/" else t

end Route

/-- Match `pathname` against `pattern`, exactly or as a prefix ending on a segment boundary. -/
def matchPath (pattern pathname : String) (exact : Bool) : Option RouteMatch :=
  let pieces := Route.compile pattern
  let input := pathname.toList
  let ending := if exact then Route.exactEnding else Route.prefixEnding
  (Route.matchPieces ending pieces input).map fun (caps, n) =>
    let url := Route.normalize (String.ofList (input.take n))
    { path := pattern, url, isExact := url == Route.normalize pathname,
      params := ((Route.paramNames pieces).zip caps).foldl
        (fun acc (k, v) => Route.insertParam k v acc) [] }

def RouteMatch.toJson (m : RouteMatch) : Json :=
  .obj [("path", .str m.path), ("url", .str m.url), ("is_exact", .bool m.isExact),
    ("params", .obj (m.params.map fun (k, v) => (k, .str v)))]

end SheetStore
