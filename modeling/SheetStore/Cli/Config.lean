import SheetStore.Grid.Settings
import SheetStore.Text.Escape

/-! The configuration of the server and the rules a valid one keeps, checked in order.
-/

set_option autoImplicit false

namespace SheetStore

/-- How the server is set up. -/
structure Config where
  host : String
  port : Nat
  staticDir : String
  columnWidth : Nat
  spareRows : Nat
  spareColumns : Nat
  readOnly : Bool
  initialPath : String
  verbose : Bool
  deriving DecidableEq, Inhabited

/-- A broken configuration rule: the field and why. -/
structure ConfigError where
  field : String
  reason : String
  deriving DecidableEq, Inhabited

namespace ConfigError

def message (e : ConfigError) : String := "Invalid value for " ++ e.field ++ ": " ++ e.reason

def shellMessage (e : ConfigError) : String := "Configuration error: " ++ e.message

def debug (e : ConfigError) : String :=
  "Config(InvalidValue \x7b field: " ++ Text.debugQuote e.field ++ ", reason: " ++
    Text.debugQuote e.reason ++ " \x7d)"

end ConfigError

namespace Config

def default : Config :=
  { host := "127.0.0.1", port := 3000, staticDir := "static", columnWidth := defaultColumnWidth,
    spareRows := defaultSpareRows, spareColumns := defaultSpareColumns, readOnly := false,
    initialPath := "/", verbose := false }

def address (c : Config) : String := c.host ++ ":" ++ toString c.port

def validate (c : Config) : Option ConfigError :=
  if c.columnWidth = 0 then some ⟨"column_width", "must be greater than zero"⟩
  else if !c.initialPath.startsWith "/" then
    some ⟨"initial_path", "\x27" ++ c.initialPath ++ "\x27 does not start with \x27/\x27"⟩
  else none

def gridSettings (c : Config) (data : Matrix) : GridSettings :=
  { GridSettings.withData data with
    readOnly := c.readOnly, columnWidth := c.columnWidth, spareRows := c.spareRows,
    spareColumns := c.spareColumns }

def toJson (c : Config) : Json :=
  .obj [("host", .str c.host), ("port", .ofNat c.port), ("static_dir", .str c.staticDir),
    ("column_width", .ofNat c.columnWidth), ("spare_rows", .ofNat c.spareRows),
    ("spare_cols", .ofNat c.spareColumns), ("read_only", .bool c.readOnly),
    ("initial_path", .str c.initialPath), ("verbose", .bool c.verbose)]

end Config

end SheetStore
