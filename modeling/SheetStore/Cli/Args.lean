import SheetStore.Cli.Config
import SheetStore.Text.Similarity

/-! Reading the configuration from the command line. A value waits until the next option
or the end, and is checked only then; an unknown argument is reported at once.
-/

set_option autoImplicit false

namespace SheetStore

/-- What an option of the command line sets. -/
inductive Setting where
  | host
  | port
  | staticDir
  | columnWidth
  | spareRows
  | spareColumns
  | readOnly
  | initialPath
  | verbose
  | help
  deriving DecidableEq, Inhabited

/-- An option of the command line. -/
structure OptionSpec where
  setting : Setting
  long : String
  short : Option Char
  /-- The placeholder of the value, for options that take one. -/
  valueName : Option String
  /-- The largest value, for options that take a number. -/
  maxValue : Option Nat
  deriving DecidableEq, Inhabited

namespace OptionSpec

def takesValue (o : OptionSpec) : Bool := o.valueName.isSome

def display (o : OptionSpec) : String :=
  "--" ++ o.long ++ (match o.valueName with | some v => " <" ++ v ++ ">" | none => "")

end OptionSpec

def optionSpecs : List OptionSpec :=
  [⟨.host, "host", none, some "HOST", none⟩, ⟨.port, "port", some 'p', some "PORT", some 65535⟩,
    ⟨.staticDir, "static-dir", none, some "STATIC_DIR", none⟩,
    ⟨.columnWidth, "column-width", none, some "COLUMN_WIDTH", some 4294967295⟩,
    ⟨.spareRows, "spare-rows", none, some "SPARE_ROWS", some 4294967295⟩,
    ⟨.spareColumns, "spare-cols", none, some "SPARE_COLS", some 4294967295⟩,
    ⟨.readOnly, "read-only", none, none, none⟩,
    ⟨.initialPath, "initial-path", none, some "INITIAL_PATH", none⟩,
    ⟨.verbose, "verbose", some 'v', none, none⟩, ⟨.help, "help", some 'h', none, none⟩]

def helpText : String :=
  "Serve a spreadsheet grid backed by a single state store\n\nUsage: datable [OPTIONS]\n\n" ++
  "Options:\n" ++
  "      --host <HOST>                  Address to listen on [env: DATABLE_HOST=] [default: 127.0.0.1]\n" ++
  "  -p, --port <PORT>                  Port to listen on [env: DATABLE_PORT=] [default: 3000]\n" ++
  "      --static-dir <STATIC_DIR>      Directory served under /static [env: DATABLE_STATIC_DIR=] [default: static]\n" ++
  "      --column-width <COLUMN_WIDTH>  Default column width in pixels [default: 100]\n" ++
  "      --spare-rows <SPARE_ROWS>      Blank rows kept below the data [default: 160]\n" ++
  "      --spare-cols <SPARE_COLS>      Blank columns kept right of the data [default: 26]\n" ++
  "      --read-only                    Start with the grid read-only\n" ++
  "      --initial-path <INITIAL_PATH>  Location the history starts at [default: /]\n" ++
  "  -v, --verbose                      Enable verbose logging\n" ++
  "  -h, --help                         Print help\n"

/-- Why the command line was refused, or the request for help. -/
inductive CliErrorKind where
  | unknownArgument
  | argumentConflict
  | invalidValue
  | valueValidation
  | tooManyValues
  | displayHelp
  deriving DecidableEq, Inhabited

def CliErrorKind.name : CliErrorKind → String
  | .unknownArgument => "UnknownArgument"
  | .argumentConflict => "ArgumentConflict"
  | .invalidValue => "InvalidValue"
  | .valueValidation => "ValueValidation"
  | .tooManyValues => "TooManyValues"
  | .displayHelp => "DisplayHelp"

/-- A refused command line, with the text shown for it. -/
structure CliError where
  kind : CliErrorKind
  message : String
  deriving DecidableEq, Inhabited

/-- What an option was given. -/
inductive Given where
  | text (s : String)
  | number (n : Nat)
  | flag
  deriving DecidableEq, Inhabited

/-- The state of reading the command line. -/
structure Matches where
  /-- The options given so far, in the order first given. -/
  given : List (OptionSpec × Given)
  /-- An option whose values are still being collected. -/
  pending : Option (OptionSpec × List String)
  /-- Whether `--` was seen. -/
  trailing : Bool
  deriving Inhabited

namespace Cli

def quoted (s : String) : String := "\x27" ++ s ++ "\x27"

def usage (used : List OptionSpec) : String :=
  "Usage: datable" ++
    (if used.isEmpty then " [OPTIONS]" else String.join (used.map fun o => " " ++ o.display))

def tryHelp : String := "\n\nFor more information, try " ++ quoted "--help" ++ ".\n"

def withUsage (kind : CliErrorKind) (message : String) (used : List OptionSpec) : CliError :=
  ⟨kind, "error: " ++ message ++ "\n\n" ++ usage used ++ tryHelp⟩

def plain (kind : CliErrorKind) (message : String) : CliError :=
  ⟨kind, "error: " ++ message ++ tryHelp⟩

def unknownArgument (arg : String) (tip : Option String) (used : List OptionSpec) : CliError :=
  let tipText := match tip with
    | some t => "\n\n  tip: a similar argument exists: " ++ quoted t
    | none => ""
  withUsage .unknownArgument ("unexpected argument " ++ quoted arg ++ " found" ++ tipText) used

def integerError (text : String) : Option String :=
  let chars := text.toList
  let (negative, digits) := match chars with
    | '-' :: rest => (true, rest)
    | '+' :: rest => (false, rest)
    | _ => (false, chars)
  if chars.isEmpty then some "cannot parse integer from empty string"
  else if digits.isEmpty then some "invalid digit found in string"
  else
    let limit : Nat := if negative then Nat.pow 2 63 else Nat.pow 2 63 - 1
    let rec scan : List Char → Nat → Option String
      | [], _ => none
      | c :: rest, acc =>
        if !c.isDigit then some "invalid digit found in string"
        else
          let acc := acc * 10 + (c.toNat - 48)
          if limit < acc then
            some (if negative then "number too small to fit in target type"
              else "number too large to fit in target type")
          else scan rest acc
    scan digits 0

def parseNumber (text : String) (max : Nat) : Except String Nat :=
  match integerError text with
  | some e => .error e
  | none =>
    let value : Int := match text.toList with
      | '-' :: rest => -(String.ofList rest).toNat!
      | '+' :: rest => (String.ofList rest).toNat!
      | _ => text.toNat!
    if 0 ≤ value ∧ value ≤ max then .ok value.toNat
    else .error (toString value ++ " is not in 0..=" ++ toString max)

def used (m : Matches) : List OptionSpec := m.given.map (·.1)

/-- Record an option with its values: a value must be there, the option must be new, and the
value must read. A refused repeat removes the earlier occurrence. -/
def record (m : Matches) (o : OptionSpec) (values : List String) : Except (CliError × Matches) Matches :=
  if o.takesValue && values.isEmpty then
    .error (plain .invalidValue ("a value is required for " ++ quoted o.display ++
      " but none was supplied"), m)
  else if o.setting = .help then .error (⟨.displayHelp, helpText⟩, m)
  else if m.given.any (·.1.setting = o.setting) then
    .error (withUsage .argumentConflict ("the argument " ++ quoted o.display ++
      " cannot be used multiple times") [], { m with given := m.given.filter (·.1.setting ≠ o.setting) })
  else
    let value := values.headD ""
    match o.valueName, o.maxValue with
    | none, _ => .ok { m with given := m.given ++ [(o, .flag)] }
    | some _, none => .ok { m with given := m.given ++ [(o, .text value)] }
    | some _, some max =>
      match parseNumber value max with
      | .ok n => .ok { m with given := m.given ++ [(o, .number n)] }
      | .error e =>
        .error (plain .valueValidation ("invalid value " ++ quoted value ++ " for " ++
          quoted o.display ++ ": " ++ e), { m with given := m.given ++ [(o, .number 0)] })

def settle (m : Matches) : Except (CliError × Matches) Matches :=
  match m.pending with
  | none => .ok m
  | some (o, values) => record { m with pending := none } o values

def settleLoud (m : Matches) : Except CliError Matches :=
  match settle m with
  | .ok m => .ok m
  | .error (e, _) => .error e

def settleQuiet (m : Matches) : Matches :=
  match settle m with
  | .ok m => m
  | .error (_, m) => m

def recordLoud (m : Matches) (o : OptionSpec) (values : List String) : Except CliError Matches :=
  match record m o values with
  | .ok m => .ok m
  | .error (e, _) => .error e

def findLong (name : String) : Option OptionSpec := optionSpecs.find? (·.long = name)

def findShort (c : Char) : Option OptionSpec := optionSpecs.find? (·.short = some c)

def suggestion (name : String) : Option OptionSpec :=
  let threshold := Binary64.ofRatio false 7 10
  optionSpecs.foldl (fun best o =>
    let score := jaro name.toList o.long.toList
    if threshold.ltNonneg score then
      match best with
      | some (b, bScore) => if score.ltNonneg bScore then some (b, bScore) else some (o, score)
      | none => some (o, score)
    else best) none |>.map (·.1)

/-- An argument that is neither an option nor the value of one: always refused, whatever the
waiting option holds. -/
def positional (arg : String) : Except CliError Matches :=
  .error (unknownArgument arg none [])

def longArg (m : Matches) (body : String) : Except CliError Matches :=
  let (name, value) := match body.splitOn "=" with
    | [] => (body, none)
    | [n] => (n, none)
    | n :: rest => (n, some ("=".intercalate rest))
  match findLong name with
  | some o =>
    if o.takesValue then
      match value with
      | some v => do
        let m ← settleLoud m
        recordLoud m o [v]
      | none => do
        let m ← settleLoud m
        pure { m with pending := some (o, []) }
    else
      match value with
      | some v =>
        .error (withUsage .tooManyValues ("unexpected value " ++ quoted v ++ " for " ++
          quoted o.display ++ " found; no more were expected") (used m ++ [o]))
      | none => do
        let m ← settleLoud m
        recordLoud m o []
  | none =>
    let m := settleQuiet m
    let tip := suggestion name
    let shown := match tip with
      | some t => if (used m).contains t then used m else used m ++ [t]
      | none => used m
    .error (unknownArgument ("--" ++ name) (tip.map fun t => "--" ++ t.long) shown)

def shortArg (m : Matches) : List Char → Except CliError Matches
  | [] => .ok m
  | c :: rest =>
    match findShort c with
    | none => .error (unknownArgument ("-" ++ c.toString) none [])
    | some o =>
      if o.takesValue then
        let attached := String.ofList rest
        let value := if attached.startsWith "=" then some (attached.drop 1).toString
          else if attached.isEmpty then none else some attached
        match value with
        | some v => do
          let m ← settleLoud m
          recordLoud m o [v]
        | none => do
          let m ← settleLoud m
          pure { m with pending := some (o, []) }
      else do
        let m ← settleLoud m
        let m ← recordLoud m o []
        shortArg m rest

def step (m : Matches) (arg : String) : Except CliError Matches :=
  if m.trailing then positional arg
  else if arg = "--" then .ok { m with trailing := true }
  else if arg.startsWith "--" then longArg m (arg.drop 2).toString
  else if arg.startsWith "-" ∧ arg.length > 1 then shortArg m (arg.drop 1).toString.toList
  else
    match m.pending with
    | some (o, []) => .ok { m with pending := some (o, [arg]) }
    | _ => positional arg

def readAll (m : Matches) : List String → Except CliError Matches
  | [] => settleLoud m
  | arg :: rest => do
    let m ← step m arg
    readAll m rest

def textOf (m : Matches) (s : Setting) (fallback : String) : String :=
  match m.given.find? (·.1.setting = s) with
  | some (_, .text t) => t
  | _ => fallback

def numberOf (m : Matches) (s : Setting) (fallback : Nat) : Nat :=
  match m.given.find? (·.1.setting = s) with
  | some (_, .number n) => n
  | _ => fallback

def flagOf (m : Matches) (s : Setting) : Bool := m.given.any (·.1.setting = s)

end Cli

def parseConfig (args : List String) : Except CliError Config := do
  let m ← Cli.readAll { given := [], pending := none, trailing := false } args
  let d := Config.default
  pure
    { host := Cli.textOf m .host d.host
      port := Cli.numberOf m .port d.port
      staticDir := Cli.textOf m .staticDir d.staticDir
      columnWidth := Cli.numberOf m .columnWidth d.columnWidth
      spareRows := Cli.numberOf m .spareRows d.spareRows
      spareColumns := Cli.numberOf m .spareColumns d.spareColumns
      readOnly := Cli.flagOf m .readOnly
      initialPath := Cli.textOf m .initialPath d.initialPath
      verbose := Cli.flagOf m .verbose }

end SheetStore
