import PodAdmission.Text.Terminal

/-!
# Flags

Settings from the command line and the environment. A flag is `--name value` or `--name=value`; a
setting whose flag is not given is looked up in the environment, and one that is found nowhere has
its default. A flag that is given is never looked up, so a bad value in the environment does no
harm then.

Arguments are read from left to right. The value behind a flag is judged only when the next known
flag or the end of the arguments is reached, so an unknown argument behind it is reported first.
-/

namespace PodAdmission

/-- What the value of a flag has to be. -/
inductive ValueKind where
  /-- Any text that is not empty. -/
  | path
  /-- A whole number of 16 bits. -/
  | port
  /-- Any text. -/
  | text
  deriving DecidableEq

/-- A flag. -/
structure Flag where
  name : String
  envName : String
  kind : ValueKind
  isRequired : Bool
  deriving DecidableEq

/-- The value of a setting. -/
inductive Setting where
  | text (s : String)
  | port (n : Nat)
  deriving DecidableEq

/-- Why arguments are not accepted, or what they ask for instead of a start. -/
inductive FlagFault where
  | missingFlag
  | unknownArgument (argument : String)
  | missingValue (flag : Flag)
  | invalidValue (value : String) (flag : Flag) (why : String)
  | repeated (flag : Flag)
  | unneededValue (value : String) (name : String)
  | help
  | version
  deriving DecidableEq

namespace Flag

/-- A flag with its value, as messages show it. -/
def usage (f : Flag) : String :=
  "--" ++ f.name ++ " <" ++ f.envName ++ ">"

end Flag

open Terminal in
/-- The message of a fault up to its hints, what is wrong and what is meant being set off. -/
def FlagFault.message : FlagFault → String
  | .missingFlag => "the following required arguments were not provided:"
  | .unknownArgument argument =>
    "unexpected argument '" ++ styled .faulty argument ++ "' found"
  | .missingValue flag =>
    "a value is required for '" ++ styled .faulty flag.usage ++ "' but none was supplied"
  | .invalidValue value flag why =>
    "invalid value '" ++ styled .faulty value ++ "' for '" ++ styled .literal flag.usage ++
      "': " ++ why
  | .repeated flag =>
    "the argument '" ++ styled .faulty flag.usage ++ "' cannot be used multiple times"
  | .unneededValue value name =>
    "unexpected value '" ++ styled .faulty value ++ "' for '" ++ styled .literal ("--" ++ name) ++
      "' found; no more were expected"
  | .help => ""
  | .version => ""

/-! ### Values -/

namespace Setting

/-- The digits of a number of 63 bits, taken from left to right. -/
def readDigits (limit value : Nat) (tooLarge : String) : List Char → Except String Nat
  | [] => .ok value
  | c :: rest =>
    if c.isDigit then
      let next := value * 10 + (c.toNat - 48)
      if next ≤ limit then readDigits limit next tooLarge rest else .error tooLarge
    else .error "invalid digit found in string"

/-- A number of 64 bits with an optional sign. -/
def readInteger (s : String) : Except String Int :=
  let large := "number too large to fit in target type"
  let small := "number too small to fit in target type"
  match s.toList with
  | [] => .error "cannot parse integer from empty string"
  | ['+'] => .error "invalid digit found in string"
  | ['-'] => .error "invalid digit found in string"
  | '+' :: rest => (readDigits 0x7fffffffffffffff 0 large rest).map Int.ofNat
  | '-' :: rest => (readDigits 0x8000000000000000 0 small rest).map fun n => -(n : Int)
  | cs => (readDigits 0x7fffffffffffffff 0 large cs).map Int.ofNat

/-- A port number. -/
def readPort (s : String) : Except String Nat :=
  match readInteger s with
  | .error why => .error why
  | .ok n =>
    if 0 ≤ n ∧ n ≤ 65535 then .ok n.toNat else .error (toString n ++ " is not in 0..=65535")

/-- The setting that a value of a flag stands for. -/
def read (flag : Flag) (value : String) : Except FlagFault Setting :=
  match flag.kind with
  | .path => if value.isEmpty then .error (.missingValue flag) else .ok (.text value)
  | .text => .ok (.text value)
  | .port =>
    match readPort value with
    | .ok n => .ok (.port n)
    | .error why => .error (.invalidValue value flag why)

end Setting

/-! ### Arguments -/

/-- The settings found so far, by the name of their flag. -/
abbrev Settings := List (String × Setting)

namespace Settings

/-- The setting of a flag. -/
def get? (name : String) (s : Settings) : Option Setting :=
  (s.find? fun e => e.1 == name).map Prod.snd

/-- Adds the value of a flag, which must not have been given before. -/
def add (s : Settings) (flag : Flag) (value : String) : Except FlagFault Settings :=
  match get? flag.name s with
  | some _ => .error (.repeated flag)
  | none => (Setting.read flag value).map fun v => s ++ [(flag.name, v)]

end Settings

/-- A flag whose value has not been judged yet, with the value once it is there. -/
abbrev Pending := Option (Flag × Option String)

namespace Flags

/-- Judges the value that is pending. -/
def settle (s : Settings) : Pending → Except FlagFault Settings
  | none => .ok s
  | some (flag, none) => .error (.missingValue flag)
  | some (flag, some value) => s.add flag value

/-- The part of an argument before the first `=`, and the part behind it if there is one. -/
def splitValue (cs : List Char) : String × Option String :=
  let name := cs.takeWhile (· != '=')
  match cs.drop name.length with
  | [] => (String.ofList name, none)
  | _ :: value => (String.ofList name, some (String.ofList value))

/-- The words that ask for something else than a start. The version is not known everywhere. -/
def request? (hasVersion : Bool) (name : String) : Option FlagFault :=
  if name = "help" then some .help
  else if name = "version" ∧ hasVersion = true then some .version
  else none

/-- The letters for the same. -/
def requestLetter? (hasVersion : Bool) (c : Char) : Option FlagFault :=
  if c = 'h' then some .help
  else if c = 'V' ∧ hasVersion = true then some .version
  else none

/-- Takes an argument with two dashes. -/
def takeLong (flags : List Flag) (hasVersion : Bool) (s : Settings) (pending : Pending)
    (name : String) (value : Option String) : Except FlagFault (Settings × Pending) :=
  match flags.find? fun f => f.name == name with
  | some flag =>
    match settle s pending with
    | .error fault => .error fault
    | .ok s =>
      match value with
      | some v => (s.add flag v).map fun s => (s, none)
      | none => .ok (s, some (flag, none))
  | none =>
    match request? hasVersion name with
    | some request =>
      match value with
      | some v => .error (.unneededValue v name)
      | none =>
        match settle s pending with
        | .error fault => .error fault
        | .ok _ => .error request
    | none => .error (.unknownArgument ("--" ++ name))

/-- Takes an argument with one dash. -/
def takeShort (hasVersion : Bool) (s : Settings) (pending : Pending) (c : Char) : FlagFault :=
  match requestLetter? hasVersion c with
  | some request =>
    match settle s pending with
    | .error fault => fault
    | .ok _ => request
  | none => .unknownArgument (String.ofList ['-', c])

/-- Takes an argument without a dash: the value of the flag before it. -/
def takePlain (pending : Pending) (argument : String) : Except FlagFault Pending :=
  match pending with
  | some (flag, none) => .ok (some (flag, some argument))
  | _ => .error (.unknownArgument argument)

/-- Reads arguments from left to right. Behind `--` there may be nothing. -/
def readArguments (flags : List Flag) (hasVersion : Bool) (s : Settings) (pending : Pending) :
    List String → Except FlagFault Settings
  | [] => settle s pending
  | argument :: rest =>
    match argument.toList with
    | ['-', '-'] =>
      match rest with
      | [] => settle s pending
      | extra :: _ => .error (.unknownArgument extra)
    | '-' :: '-' :: cs =>
      let (name, value) := splitValue cs
      match takeLong flags hasVersion s pending name value with
      | .error fault => .error fault
      | .ok (s, pending) => readArguments flags hasVersion s pending rest
    | '-' :: c :: _ => .error (takeShort hasVersion s pending c)
    | _ =>
      match takePlain pending argument with
      | .error fault => .error fault
      | .ok pending => readArguments flags hasVersion s pending rest

/-- Looks up, in the order of the flags, what was not given. -/
def readEnvironment (environment : String → Option String) :
    List Flag → Settings → Except FlagFault Settings
  | [], s => .ok s
  | flag :: rest, s =>
    match s.get? flag.name, environment flag.envName with
    | none, some value =>
      match s.add flag value with
      | .error fault => .error fault
      | .ok s => readEnvironment environment rest s
    | _, _ => readEnvironment environment rest s

/-- The settings that arguments and environment give, all required ones among them. -/
def resolve (flags : List Flag) (hasVersion : Bool) (environment : String → Option String)
    (arguments : List String) : Except FlagFault Settings :=
  match readArguments flags hasVersion [] none arguments with
  | .error fault => .error fault
  | .ok s =>
    match readEnvironment environment flags s with
    | .error fault => .error fault
    | .ok s =>
      if flags.any fun f => f.isRequired && (s.get? f.name).isNone then .error .missingFlag
      else .ok s

end Flags

end PodAdmission
