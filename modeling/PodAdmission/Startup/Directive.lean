import PodAdmission.Decision
import PodAdmission.Text.Pattern

/-!
# Log directives

A directive says how much of what is logged by some part of the program is written. Its text is

    target[span{field=value}]=level

where every part may be left out, brackets and braces with what is in them. A text without brackets
and `=` is a level if it stands for one, and else a target; without a level all is written. A field
may stand without a value; a value is a truth value, a number or a regular expression.

White space around the text is passed over by the reader but keeps its bytes: a part is cut out of
the whole text at the distances counted without the white space in front. So a directive with a
blank in front has a blank in its target, and a cut may fall into the middle of a character.
-/

namespace PodAdmission

namespace Level

/-- How much a level lets through. -/
def rank : Level → Nat
  | .error => 1
  | .warn => 2
  | .info => 3
  | .debug => 4
  | .trace => 5

/-- The name of a level. -/
def name : Level → String
  | .error => "ERROR"
  | .warn => "WARN"
  | .info => "INFO"
  | .debug => "DEBUG"
  | .trace => "TRACE"

/-- All levels, the one that lets the least through first. -/
def all : List Level := [.error, .warn, .info, .debug, .trace]

/-- The level that a number stands for, which may have a plus sign; zero is none at all. -/
def ofNumber? (word : List Char) : Option (Option Level) :=
  let digits :=
    match word with
    | '+' :: digits => digits
    | digits => digits
  if digits.isEmpty || digits.any fun c => !c.isDigit then none
  else
    match digits.foldl (fun n c => n * 10 + (c.toNat - '0'.toNat)) 0 with
    | 0 => some none
    | n => (all.find? fun level => level.rank == n).map some

/-- The level that a word stands for: a number, or a name in any case; `off` is none at all. -/
def ofWord? (word : String) : Option (Option Level) :=
  match ofNumber? word.toList with
  | some level => some level
  | none =>
    if Ascii.sameIgnoringCase word "off" then some none
    else (all.find? fun level => Ascii.sameIgnoringCase word level.name).map some

end Level

/-- What a directive asks of a field. -/
structure FieldCondition where
  name : String
  hasValue : Bool
  deriving DecidableEq

/-- Why a text is no directive. -/
inductive DirectiveFault where
  /-- It does not have the form of one. -/
  | malformed
  /-- A part of it would start or end inside a character. -/
  | brokenCharacter
  deriving DecidableEq

/-- A directive. An empty target is the start of every name; no level means that nothing is
written. -/
structure Directive where
  target : String
  span : Option String
  fields : List FieldCondition
  level : Option Level
  deriving DecidableEq

namespace Directive

/-- The directive of an empty text: everything is written. -/
def blank : Directive := ⟨"", none, [], some .trace⟩

/-- The directive says something about an event by itself, whatever is known of spans and values. -/
def isStatic (d : Directive) : Bool :=
  d.span.isNone && d.fields.all fun f => !f.hasValue

/-! ### Values of fields -/

/-- A number with a fraction or an exponent, behind its sign; or a name for no finite one. -/
def isReal (cs : List Char) : Bool :=
  let (whole, rest) := (cs.takeWhile Char.isDigit, cs.dropWhile Char.isDigit)
  let (fraction, rest) :=
    match rest with
    | '.' :: rest => (rest.takeWhile Char.isDigit, rest.dropWhile Char.isDigit)
    | rest => ([], rest)
  let isExponent (cs : List Char) : Bool :=
    let digits :=
      match cs with
      | '+' :: digits => digits
      | '-' :: digits => digits
      | digits => digits
    !digits.isEmpty && digits.all Char.isDigit
  let isNumeral := !(whole.isEmpty && fraction.isEmpty) &&
    match rest with
    | [] => true
    | c :: rest => (c == 'e' || c == 'E') && isExponent rest
  isNumeral || ["inf", "infinity", "nan"].any (Ascii.sameIgnoringCase (String.ofList cs))

/-- The value that a field may be compared with. Truth values and numbers are regular expressions
as well, but for a number with a plus sign. -/
def isValue (value : String) : Bool :=
  match value.toList with
  | '+' :: number => isReal number
  | _ => Pattern.isPattern value

/-- The condition on a field that a text stands for. A second `=` and what follows are ignored. -/
def readField (s : String) : Except DirectiveFault FieldCondition :=
  match s.splitOn "=" with
  | name :: value :: _ => if isValue value then .ok ⟨name, true⟩ else .error .malformed
  | _ => if s.isEmpty then .error .malformed else .ok ⟨s, false⟩

/-! ### Reading -/

/-- Which part of the text is being read, and where it started. -/
inductive Part where
  | start
  | name (start : Nat)
  | span (start : Nat)
  | field (start : Nat)
  | behindField
  | behindBrackets
  | level (start : Nat)
  deriving DecidableEq

/-- The bytes of a text between two places, if they are a text. -/
def slice (bytes : Bytes) (start stop : Nat) : Except DirectiveFault String :=
  (Utf8.decode ((bytes.take stop).drop start)).mapError fun _ => .brokenCharacter

/-- The level that a text stands for. -/
def readLevel (s : String) : Except DirectiveFault (Option Level) :=
  match Level.ofWord? s with
  | some level => .ok level
  | none => .error .malformed

/-- A character that a directive may start with. -/
def isStart (c : Char) : Bool :=
  c == '-' || c == ':' || c == '_' || isAlphanumeric c

/-- Takes the next character, which has the place given. -/
def take (bytes : Bytes) (place : Nat) (c : Char) :
    Part × Directive → Except DirectiveFault (Part × Directive)
  | (.start, d) =>
    if c = '[' then .ok (.span (place + 1), d)
    else if isStart c then .ok (.name place, d)
    else .error .malformed
  | (.name start, d) =>
    if c = '=' then
      (slice bytes start place).map fun s => (.level (place + 1), { d with target := s })
    else if c = '[' then
      (slice bytes start place).map fun s => (.span (place + 1), { d with target := s })
    else .ok (.name start, d)
  | (.span start, d) =>
    if c = ']' then
      (slice bytes start place).map fun s => (.behindBrackets, { d with span := some s })
    else if c = '\x7b' then
      (slice bytes start place).map fun s =>
        (.field (place + 1), { d with span := if s.isEmpty then none else some s })
    else .ok (.span start, d)
  | (.field start, d) =>
    if c = '\x7d' then
      ((slice bytes start place).bind readField).map fun f =>
        (.behindField, { d with fields := d.fields ++ [f] })
    else .ok (.field start, d)
  | (.behindField, d) => if c = ']' then .ok (.behindBrackets, d) else .error .malformed
  | (.behindBrackets, d) => if c = '=' then .ok (.level (place + 1), d) else .error .malformed
  | (.level start, d) => .ok (.level start, d)

/-- Takes all characters, of which the first has the place given. -/
def takeAll (bytes : Bytes) (place : Nat) (state : Part × Directive) :
    List Char → Except DirectiveFault (Part × Directive)
  | [] => .ok state
  | c :: rest =>
    match take bytes place c state with
    | .ok state => takeAll bytes (place + c.utf8Size) state rest
    | .error fault => .error fault

/-- The directive once all characters are taken. -/
def finish (bytes : Bytes) : Part × Directive → Except DirectiveFault Directive
  | (.name start, d) =>
    (slice bytes start bytes.length).map fun s =>
      match Level.ofWord? s with
      | some level => { d with level := level }
      | none => { d with target := s }
  | (.level start, d) =>
    match slice bytes start bytes.length with
    | .ok "" => .ok d
    | .ok s => (readLevel s).map fun level => { d with level := level }
    | .error fault => .error fault
  | (.behindBrackets, d) => .ok d
  | _ => .error .malformed

/-- The directive that a text stands for. -/
def read (s : String) : Except DirectiveFault Directive :=
  let bytes := Utf8.encode s
  (takeAll bytes 0 (.start, blank) (Text.trim s).toList).bind (finish bytes)

end Directive

end PodAdmission
