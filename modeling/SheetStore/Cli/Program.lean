import SheetStore.Cli.Args

/-! What the program does with its arguments before it would start serving, and the
status it ends with.
-/

set_option autoImplicit false

namespace SheetStore

/-- How the program ends, or the configuration it serves. -/
inductive ProgramOutcome where
  | exit (status : Nat) (stdout stderr : String)
  | serve (config : Config)
  deriving DecidableEq, Inhabited

def runProgram (args : List String) : ProgramOutcome :=
  match parseConfig args with
  | .error e =>
    if e.kind = .displayHelp then .exit 0 e.message "" else .exit 2 "" e.message
  | .ok config =>
    match config.validate with
    | some e => .exit 1 "" ("Error: " ++ e.debug ++ "\n")
    | none => .serve config

end SheetStore
