import PodAdmission.Policy.Basic
import PodAdmission.Text.Blank

/-!
# Host-process pods

A Windows pod that runs as a process of the host cannot start `agnhost` the way a Linux pod does.
This policy selects host-process pods on the host network that have an agnhost container, and has
each such container copy the program to an `.exe` and run that in a PowerShell script, with the
words of its command and arguments behind it.

The wrapper's own command is no agnhost command, so a container is wrapped at most once.
-/

namespace PodAdmission.HostProcess

/-- The program: a part of the image's name and the first word of a command. -/
def program : String := "agnhost"

/-- The annotation of a pod that has been changed. -/
def annotationKey : String := "hpc.kubernetes.io/mutated"

/-- The command of a wrapped container. -/
def wrapperCommand : List String := ["powershell", "-Command"]

/-- The script in front of the words of the command. -/
def scriptPrefix : String :=
  "Copy-Item c:\\hpc\\agnhost -Destination c:\\hpc\\agnhost.exe; c:\\hpc\\agnhost.exe "

/-- What follows the program's name at the start of a token. -/
def behindProgram? (token : String) : Option (List Char) :=
  if program.toList.isPrefixOf token.toList then
    some (token.toList.drop program.toList.length)
  else none

/-- The token is the program's name, alone or with a blank behind it. -/
def matchesProgram (token : String) : Bool :=
  match behindProgram? token with
  | some [] => true
  | some (c :: _) => isBlank c
  | none => false

/-- One character sequence is a part of another. -/
def isPartOf (part : List Char) : List Char → Bool
  | [] => part.isEmpty
  | c :: rest => part.isPrefixOf (c :: rest) || isPartOf part rest

/-- A container of an agnhost image, with no command or one that starts the program. -/
def runsProgram (c : Container) : Bool :=
  match c.image? with
  | none => false
  | some image =>
    isPartOf program.toList image.toList &&
      match c.command? with
      | none => true
      | some [] => true
      | some (first :: _) => matchesProgram first

/-- A token without the program's name and the blanks behind it. -/
def stripProgram (token : String) : String :=
  match behindProgram? token with
  | some rest =>
    if matchesProgram token then String.ofList (Text.dropBlanks rest) else token
  | none => token

/-- The words of the wrapped command: the first token without the program's name, unless nothing
is left of it, then the other tokens and all arguments. -/
def scriptParts (command args : Option (List String)) : List String :=
  (match command.getD [] with
    | [] => []
    | first :: rest =>
      let first := stripProgram first
      if first.isEmpty then rest else first :: rest) ++ args.getD []

/-- The script of a wrapped container. -/
def script (command args : Option (List String)) : String :=
  scriptPrefix ++ " ".intercalate (scriptParts command args)

/-- The command and the arguments of a container once it is wrapped. -/
def wrap (command args : Option (List String)) : List String × List String :=
  (wrapperCommand, [script command args])

/-- Wraps the command of a container. -/
def wrapContainer (c : Container) : Container :=
  let (command, args) := wrap c.command? c.args?
  (c.setTexts "command" command).setTexts "args" args

/-- The pod as a whole or a regular container asks to run as a process of the host. -/
def isRequested (p : Pod) : Bool :=
  p.hostProcess? == some true || Pod.anyHostProcess p.containers

/-- The pods that the policy selects. -/
def selects (p : Pod) : Bool :=
  isRequested p && p.hostNetwork && p.containers.any runsProgram

/-- Wraps every agnhost container and, if there is one, sets the annotation. -/
def mutate (p : Pod) : Pod :=
  if p.containers.any runsProgram then
    (p.mapContainers fun c => if runsProgram c then wrapContainer c else c).annotate
      annotationKey "true"
  else p

/-- The policy for host-process pods. -/
def policy : Policy where
  name := "hpc"
  selects := selects
  mutate := mutate

end PodAdmission.HostProcess
