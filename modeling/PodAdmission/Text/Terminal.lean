import PodAdmission.Text.Ascii

/-!
# Text for a terminal

How parts of a message are set off by control sequences, and what is left of a text when the
control sequences are taken out of it, and with them all control characters but white space.

Control sequences are recognised as a terminal does: an escape character starts one, and what
follows it decides where it ends. Once a character is shown, characters are shown until one comes
that is not: so white space inside a sequence brings the rest of it to light.
-/

namespace PodAdmission.Terminal

/-! ### Styles -/

/-- How a part of a message is set off. -/
inductive Style where
  /-- Bold and red. -/
  | alarm
  /-- Yellow. -/
  | faulty
  /-- Bold. -/
  | literal
  deriving DecidableEq

/-- The sequences that start a style. -/
def Style.start : Style → String
  | .alarm => "\x1b[1m\x1b[31m"
  | .faulty => "\x1b[33m"
  | .literal => "\x1b[1m"

/-- A text in a style. -/
def styled (style : Style) (s : String) : String :=
  style.start ++ s ++ "\x1b[0m"

/-- The variable of the environment that forbids styles unless it is empty. -/
def plainName : String := "NO_COLOR"

/-- The variable of the environment that asks for styles unless it is zero. -/
def styledName : String := "CLICOLOR_FORCE"

/-- Styles are asked for, although messages do not go to a terminal. -/
def wantsStyles (environment : String → Option String) : Bool :=
  if ((environment plainName).getD "").isEmpty then (environment styledName).getD "0" != "0"
  else false

/-! ### Control sequences -/

/-- Which kind of sequence is open. -/
inductive Mode where
  /-- None. -/
  | ground
  /-- Behind an escape character. -/
  | escape
  /-- Behind an escape character and a character that asks for another one. -/
  | intermediate
  /-- A sequence with parameters, which a letter or sign ends. -/
  | control
  /-- A command of the operating system, which a bell ends. -/
  | command
  /-- A text for the device, which only another sequence ends. -/
  | device
  /-- A text without meaning. -/
  | ignored
  deriving DecidableEq

/-- What a character does: it leaves the mode or changes it, and may be shown. -/
structure Effect where
  next : Option Mode
  isShown : Bool

namespace Effect

/-- Nothing. -/
def none : Effect := ⟨.none, false⟩

/-- A change of the mode. -/
def goTo (mode : Mode) : Effect := ⟨some mode, false⟩

/-- A control character is carried out; white space is shown. -/
def execute (b : UInt8) : Effect :=
  ⟨.none, b == 0x09 || b == 0x0A || b == 0x0C || b == 0x0D⟩

end Effect

/-- The mode behind an escape character and the character given. -/
def enter (b : UInt8) : Mode :=
  if b < 0x30 then .intermediate
  else if b = 0x5B then .control
  else if b = 0x5D then .command
  else if b = 0x50 then .device
  else if b = 0x58 ∨ b = 0x5E ∨ b = 0x5F then .ignored
  else .ground

/-- The effect of an ASCII character. Cancel, substitute and escape have the same one in all
modes. -/
def effect (mode : Mode) (b : UInt8) : Effect :=
  if b = 0x18 ∨ b = 0x1A then .goTo .ground
  else if b = 0x1B then .goTo .escape
  else if b < 0x20 then
    match mode with
    | .command => if b = 0x07 then .goTo .ground else .none
    | .device => .none
    | .ignored => .none
    | _ => .execute b
  else if b = 0x7F then .none
  else
    match mode with
    | .ground => ⟨.none, true⟩
    | .escape => .goTo (enter b)
    | .intermediate => if b < 0x30 then .none else .goTo .ground
    | .control => if b < 0x40 then .none else .goTo .ground
    | _ => .none

/-- The mode and whether characters are being shown. -/
structure State where
  mode : Mode
  isShowing : Bool
  deriving DecidableEq

/-- Before the first character. -/
def State.initial : State := ⟨.ground, false⟩

/-- Takes an ASCII character and tells whether it is shown. As long as characters are shown, what
this one does is asked as if no sequence was open. -/
def takeAscii (s : State) (b : UInt8) : State × Bool :=
  let shown := if s.isShowing then effect .ground b else ⟨none, false⟩
  let mode := shown.next.getD s.mode
  if shown.isShown then (⟨mode, true⟩, true)
  else
    let hidden := effect mode b
    (⟨hidden.next.getD mode, hidden.isShown⟩, hidden.isShown)

/-- Takes a character beyond ASCII and tells whether it is shown. A text without meaning ends at
the byte `0x9C`. -/
def takeOther (s : State) (c : Char) : State × Bool :=
  if s.isShowing ∨ s.mode = .ground then (⟨.ground, true⟩, true)
  else if s.mode = .ignored ∧ (Utf8.encodeChar c).contains 0x9C then (.initial, false)
  else (s, false)

/-- Takes a character and tells whether it is shown. -/
def take (s : State) (c : Char) : State × Bool :=
  if c.toNat < 0x80 then takeAscii s (UInt8.ofNat c.toNat) else takeOther s c

/-- The characters that are shown from a state on. -/
def shownFrom (s : State) : List Char → List Char
  | [] => []
  | c :: rest =>
    match take s c with
    | (s, true) => c :: shownFrom s rest
    | (s, false) => shownFrom s rest

/-- A text without control sequences. -/
def plain (s : String) : String :=
  String.ofList (shownFrom .initial s.toList)

end PodAdmission.Terminal
