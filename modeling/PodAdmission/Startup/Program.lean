import PodAdmission.Policy.HostProcess
import PodAdmission.Policy.RuntimeClass
import PodAdmission.Startup.Listener
import PodAdmission.Startup.LogFilter

/-!
# The programs

There is a program for either policy. A run reads its settings, logs that it starts and loads its
files; what it prints and the code it ends with are answered as a value. `Program.prepare` is the
part that needs no files and `Service.load` the part that does.
-/

namespace PodAdmission

/-- A line of the log of a program. -/
structure LogLine where
  level : Level
  target : String
  fields : List (String × String)
  deriving DecidableEq

/-- A line of the log as a JSON text. -/
def LogLine.write (line : LogLine) : Bytes :=
  Json.objectOf
    [("level", Json.writeText line.level.name),
      ("fields", Json.objectOf (line.fields.map fun (k, v) => (k, Json.writeText v))),
      ("target", Json.writeText line.target)]

/-- How a program ends before it serves: its code, what it prints besides the log, the log, and
what it prints as an error. -/
structure Exit where
  code : Nat
  output : String
  log : List LogLine
  error : String
  deriving DecidableEq

/-- A program whose settings are known, with what it has logged so far. -/
structure Service where
  config : ListenerConfig
  policy : Policy
  log : List LogLine

namespace Service

/-- How a program ends that fails to serve. -/
def exitFor (s : Service) (failure : Failure) : Exit :=
  ⟨1, "", s.log, "Error: " ++ failure.message⟩

/-- Loads the files, given which of them can be read. -/
def load (readable : String → Bool) (s : Service) : Except Exit Service :=
  match s.config.loadFailure? readable with
  | some failure => .error (s.exitFor failure)
  | none => .ok s

end Service

/-- A program. -/
structure Program where
  name : String
  version : String
  about : String
  target : String
  flags : List Flag
  /-- The policy and what is logged at the start besides the address. -/
  configure : Settings → Policy × String × List (String × String)

namespace Program

/-- The program for host-process pods. -/
def hostProcess : Program where
  name := "hpc-mutating-webhook"
  version := "0.1.0"
  about := "Mutating admission webhook for HPC containers"
  target := "hpc_mutating_webhook"
  flags := listenerFlags
  configure _ := (HostProcess.policy, "Starting HPC mutating webhook", [])

/-- The flag for the runtime class. -/
def runtimeClassFlag : Flag :=
  ⟨"runtime-class-name", "RUNTIME_CLASS_NAME", .text, false⟩

/-- The runtime class that settings give. -/
def runtimeClassOf (s : Settings) : String :=
  RuntimeClass.resolve
    (match s.get? runtimeClassFlag.name with
      | some (.text v) => some v
      | _ => some RuntimeClass.defaultName)

/-- The program for the Hyper-V runtime class. -/
def runtimeClass : Program where
  name := "hyperv-mutating-webhook"
  version := "0.1.0"
  about := "Mutating admission webhook assigning a Hyper-V runtime class to pods"
  target := "hyperv_mutating_webhook"
  flags := listenerFlags ++ [runtimeClassFlag]
  configure s :=
    (RuntimeClass.policy (runtimeClassOf s), "Starting Hyper-V mutating webhook",
      [("runtime_class", runtimeClassOf s)])

/-- All programs. -/
def all : List Program := [hostProcess, runtimeClass]

/-- The program of a name. -/
def named? (name : String) : Option Program :=
  all.find? fun p => p.name == name

/-- The end of a run that names no program. -/
def unknown : Exit :=
  ⟨2, "", [], "error: expected one of the programs " ++
    String.intercalate ", " (all.map Program.name)⟩

/-- The variable of the environment that holds the log filter. -/
def filterName : String := "RUST_LOG"

/-- The variables of the environment that a program reads. -/
def envNames (p : Program) : List String :=
  [filterName, Terminal.plainName, Terminal.styledName] ++ p.flags.map Flag.envName

/-- The end of a program that cannot make sense of the log filter. -/
def aborted : Exit := ⟨101, "", [], ""⟩

/-- How a program ends for arguments that it does not start with. -/
def exitFor (p : Program) (environment : String → Option String) (fault : FlagFault) : Exit :=
  match fault with
  | .help => ⟨0, p.about, [], ""⟩
  | .version => ⟨0, p.name ++ " " ++ p.version, [], ""⟩
  | fault =>
    let message := Terminal.styled .alarm "error:" ++ " " ++ fault.message
    ⟨2, "", [], if Terminal.wantsStyles environment then message else Terminal.plain message⟩

/-- The line that a program logs when it starts. -/
def startLine (p : Program) (config : ListenerConfig) (message : String)
    (more : List (String × String)) : LogLine :=
  ⟨.info, p.target, [("message", message), ("addr", config.address)] ++ more⟩

/-- Reads the settings of a program and logs that it starts. The log is set up first. -/
def prepare (p : Program) (environment : String → Option String) (arguments : List String) :
    Except Exit Service :=
  match LogFilter.resolve (environment filterName) with
  | .error _ => .error aborted
  | .ok filter =>
    match Flags.resolve p.flags true environment arguments with
    | .error fault => .error (p.exitFor environment fault)
    | .ok settings =>
      let config := settings.listener
      let (policy, message, more) := p.configure settings
      let line := p.startLine config message more
      .ok ⟨config, policy,
        if filter.admits line.target (line.fields.map Prod.fst) line.level then [line] else []⟩

/-- Runs a program up to the point where it serves. -/
def start (p : Program) (environment : String → Option String) (arguments : List String)
    (readable : String → Bool) : Except Exit Service :=
  match p.prepare environment arguments with
  | .error exit => .error exit
  | .ok service => service.load readable

end Program

end PodAdmission
