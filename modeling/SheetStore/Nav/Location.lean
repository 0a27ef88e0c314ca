import SheetStore.Json.Decode
import SheetStore.Text.Escape

/-! Locations, how they were reached, and how `pathname?search#hash` is parsed.
-/

set_option autoImplicit false

namespace SheetStore

/-- How the current location was reached. -/
inductive Navigation where
  | push
  | replace
  | pop
  deriving DecidableEq, Inhabited

namespace Navigation

def name : Navigation → String
  | .push => "PUSH"
  | .replace => "REPLACE"
  | .pop => "POP"

def toJson (n : Navigation) : Json := .str n.name

def decode (layer : Layer) : Json → Decode Navigation :=
  Decode.unitEnum layer [("PUSH", .push), ("REPLACE", .replace), ("POP", .pop)]

end Navigation

/-- A place in the application. -/
structure Location where
  pathname : String
  search : String
  hash : String
  key : String
  deriving DecidableEq, Inhabited

def splitAtFirst (c : Char) (s : String) : String × String :=
  let chars := s.toList
  let before := chars.takeWhile (· ≠ c)
  (String.ofList before, String.ofList (chars.drop before.length))

namespace Location

def parse (path key : String) : Location :=
  let (rest, hash) := splitAtFirst '#' path
  let (pathname, search) := splitAtFirst '?' rest
  { pathname := if pathname.isEmpty then "/" else pathname
    search := if search = "?" then "" else search
    hash := if hash = "#" then "" else hash
    key }

def path (l : Location) : String := l.pathname ++ l.search ++ l.hash

def toJson (l : Location) : Json :=
  .obj [("pathname", .str l.pathname), ("search", .str l.search), ("hash", .str l.hash),
    ("key", .str l.key)]

def debug (l : Location) : String :=
  "Location \x7b pathname: " ++ Text.debugQuote l.pathname ++ ", search: " ++
    Text.debugQuote l.search ++ ", hash: " ++ Text.debugQuote l.hash ++ ", key: " ++
    Text.debugQuote l.key ++ " \x7d"

def decode (layer : Layer) : Json → Decode Location :=
  let assemble (pick : Nat → String → Option String → Ranked String) : Ranked Location :=
    ((pick 0 "pathname" none).pair <| (pick 1 "search" (some "")).pair <|
      (pick 2 "hash" (some "")).pair (pick 3 "key" (some ""))).map
      fun (pathname, search, hash, key) => { pathname, search, hash, key }
  Record.decode layer "struct Location" 4
    (fun members => assemble fun rank name fallback =>
      Record.field members rank name Decode.string fallback)
    (fun items => assemble fun rank _ fallback =>
      Record.element items rank 4 "struct Location" Decode.string fallback)

end Location

/-- The router slice of the state: where the application is and how it got there. -/
structure RouterState where
  location : Location
  action : Navigation
  deriving DecidableEq, Inhabited

namespace RouterState

def toJson (r : RouterState) : Json :=
  .obj [("location", r.location.toJson), ("action", r.action.toJson)]

def decode (layer : Layer) : Json → Decode RouterState :=
  let assemble (location : Ranked Location) (action : Ranked Navigation) : Ranked RouterState :=
    (location.pair action).map fun (location, action) => { location, action }
  Record.decode layer "struct RouterState" 2
    (fun members => assemble (Record.field members 0 "location" (Location.decode layer) none)
      (Record.field members 1 "action" (Navigation.decode layer) none))
    (fun items => assemble
      (Record.element items 0 2 "struct RouterState" (Location.decode layer) none)
      (Record.element items 1 2 "struct RouterState" (Navigation.decode layer) none))

end RouterState

end SheetStore
