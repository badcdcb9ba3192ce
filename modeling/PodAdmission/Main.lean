import PodAdmission.Startup.Program

/-!
# The command line

`main` runs the program that the first argument names with the arguments behind it. It looks up
the environment, tries the files and prints; all that is decided is decided by `Program.prepare`
and `Service.load`. No TLS listener is part of this library, so a service whose files load ends as
one that cannot listen.
-/

namespace PodAdmission

/-- The values of variables that are set in the environment. -/
def readEnvironment : List String → IO (List (String × String))
  | [] => return []
  | name :: rest => do
    let others ← readEnvironment rest
    match ← IO.getEnv name with
    | some value => return (name, value) :: others
    | none => return others

/-- The file can be read. -/
def isReadable (file : String) : IO Bool := do
  try
    let _ ← IO.FS.readBinFile file
    return true
  catch _ => return false

/-- Prints how a program ends and answers its code. -/
def report (exit : Exit) : IO UInt32 := do
  let output ← IO.getStdout
  for line in exit.log do
    output.putStrLn (Utf8.display line.write)
  if exit.output ≠ "" then output.putStrLn exit.output
  if exit.error ≠ "" then IO.eprintln exit.error
  return exit.code.toUInt32

/-- Runs a program. -/
def runProgram (program : Program) (arguments : List String) : IO UInt32 := do
  let environment ← readEnvironment program.envNames
  match program.prepare (fun name => environment.lookup name) arguments with
  | .error exit => report exit
  | .ok service =>
    let certificate ← isReadable service.config.certificate
    let key ← isReadable service.config.key
    let readable (file : String) : Bool :=
      if file = service.config.certificate then certificate else key
    match service.load readable with
    | .error exit => report exit
    | .ok service => report (service.exitFor service.config.noListener)

/-- Runs the program that the first argument names. -/
def runNamed : List String → IO UInt32
  | [] => report Program.unknown
  | name :: rest =>
    match Program.named? name with
    | some program => runProgram program rest
    | none => report Program.unknown

end PodAdmission

/-- The entry point. -/
def main (arguments : List String) : IO UInt32 :=
  PodAdmission.runNamed arguments
