import Nmea0183.CommandLine.Run

/-!
# The program

The command line.  No models are compiled into it, so it finds no files of
models; a program that has some hands them to `CommandLine.run`.
-/

/-- Runs the command that the arguments ask for. -/
def main (arguments : List String) : IO UInt32 := do
  let outcome := Nmea0183.CommandLine.run (fun _ => .missing) arguments
  IO.print outcome.stdout
  IO.eprint outcome.stderr
  return UInt32.ofNat outcome.exit
