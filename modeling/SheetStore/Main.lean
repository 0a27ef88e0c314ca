import SheetStore.Cli.Program

/-! The command-line entry point: it prints what the program decided and ends with its
status.
-/

open SheetStore

def main (args : List String) : IO UInt32 := do
  match runProgram args with
  | .exit status stdout stderr =>
    IO.print stdout
    IO.eprint stderr
    pure status.toUInt32
  | .serve config =>
    IO.eprintln ("would listen on http://" ++ config.address)
    pure 0
