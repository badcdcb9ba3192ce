import PodAdmission.Text.Alphanumeric
import PodAdmission.Text.Ascii
import PodAdmission.Text.Blank

/-!
# Regular expressions

Whether a text is a regular expression. The dialect has groups, alternatives, repetitions, classes
in brackets and escapes; it has neither back references nor a look at what is around a match.

Characters are those of Unicode unless the mode `u` is off, but no data about them is at hand: a
class such as `\d`, a boundary of words and a comparison that ignores case are refused as long as
that mode is on. Off, they are about ASCII, and what would match a part of a character is refused.

A counted repetition and a number in braces need a closing brace, so a pattern that is written
between braces has none, and an opening brace is refused.
-/

namespace PodAdmission.Pattern

/-- The modes that decide what is allowed. -/
structure Mode where
  ignoresCase : Bool
  isUnicode : Bool
  /-- Blanks and comments are passed over. -/
  isVerbose : Bool
  deriving DecidableEq

/-- The modes at the start of a pattern. -/
def Mode.initial : Mode := ⟨false, true, false⟩

namespace Mode

/-- A character that stands for itself is allowed. -/
def takesLiteral (m : Mode) : Bool :=
  !(m.ignoresCase && m.isUnicode)

/-- Switches the mode of a letter; letters of modes that do not matter here change nothing. -/
def switch (m : Mode) (letter : Char) (isOn : Bool) : Option Mode :=
  if letter = 'i' then some { m with ignoresCase := isOn }
  else if letter = 'u' then some { m with isUnicode := isOn }
  else if letter = 'x' then some { m with isVerbose := isOn }
  else if letter = 'm' ∨ letter = 's' ∨ letter = 'U' ∨ letter = 'R' then some m
  else none

/-- Passes over blanks and comments if the mode says so. -/
def gap (m : Mode) (inComment : Bool) : List Char → List Char
  | [] => []
  | c :: rest =>
    if m.isVerbose then
      if inComment then gap m (c != '\n') rest
      else if c = '#' then gap m true rest
      else if isBlank c then gap m false rest
      else c :: rest
    else c :: rest

end Mode

/-! ### Escapes -/

/-- What an escape stands for. -/
inductive Meaning where
  | literal (c : Char)
  | characters
  | boundary

/-- The number that hexadecimal digits stand for. -/
def hexNumber? (digits : List Char) : Option Nat :=
  digits.foldl
    (fun value c =>
      match value, Ascii.hexValue? (UInt8.ofNat c.toNat) with
      | some n, some d => if c.toNat < 0x80 then some (n * 16 + d) else none
      | _, _ => none)
    (some 0)

/-- A character by its number, which has as many digits as given. -/
def readNumbered (mode : Mode) (count : Nat) (rest : List Char) :
    Option (Meaning × List Char) :=
  if (rest.take count).length = count then
    match hexNumber? (rest.take count) with
    | some n =>
      if n.isValidChar ∧ (mode.isUnicode = true ∨ n < 0x80 ∨ count ≠ 2) then
        some (.literal (Char.ofNat n), rest.drop count)
      else none
    | none => none
  else none

/-- An ASCII character that may stand behind a backslash and then means itself. -/
def isEscapable (c : Char) : Bool :=
  c.toNat < 0x80 && !c.isAlphanum && c != '<' && c != '>'

/-- Reads an escape, the backslash before it being taken. -/
def readEscape (mode : Mode) : List Char → Option (Meaning × List Char)
  | [] => none
  | c :: rest =>
    if c = 'x' then readNumbered mode 2 rest
    else if c = 'u' then readNumbered mode 4 rest
    else if c = 'U' then readNumbered mode 8 rest
    else if c = 'd' ∨ c = 's' ∨ c = 'w' then
      if mode.isUnicode then none else some (.characters, rest)
    else if c = 'b' ∨ c = 'B' ∨ c = '<' ∨ c = '>' then
      if mode.isUnicode then none else some (.boundary, rest)
    else if c = 'A' ∨ c = 'z' then some (.boundary, rest)
    else if c = 'a' then some (.literal '\x07', rest)
    else if c = 'f' then some (.literal '\x0c', rest)
    else if c = 't' then some (.literal '\t', rest)
    else if c = 'n' then some (.literal '\n', rest)
    else if c = 'r' then some (.literal '\r', rest)
    else if c = 'v' then some (.literal '\x0b', rest)
    else if isEscapable c then some (.literal c, rest)
    else none

/-! ### Classes in brackets -/

/-- The names of classes of ASCII characters. -/
def classNames : List String :=
  ["alnum", "alpha", "ascii", "blank", "cntrl", "digit", "graph", "lower", "print", "punct",
   "space", "upper", "word", "xdigit"]

/-- Reads a class by name behind its opening bracket: whether it is negated, and the rest. -/
def readNamedClass? (cs : List Char) : Option (Bool × List Char) :=
  match cs with
  | ':' :: cs =>
    let (negated, cs) :=
      match cs with
      | '^' :: cs => (true, cs)
      | cs => (false, cs)
    let name := cs.takeWhile (· != ':')
    match cs.drop name.length with
    | ':' :: ']' :: rest =>
      if classNames.contains (String.ofList name) then some (negated, rest) else none
    | _ => none
  | _ => none

/-- Passes over what may stand at the start of a class: a negation, dashes, and a closing bracket
that is meant literally. -/
def openClass (mode : Mode) (cs : List Char) : Option (List Char) :=
  let (negated, cs) :=
    match mode.gap false cs with
    | '^' :: cs => (true, mode.gap false cs)
    | cs => (false, cs)
  let (dashes, cs) := (cs.takeWhile (· == '-'), cs.dropWhile (· == '-'))
  if negated && !mode.isUnicode then none
  else
    match dashes, mode.gap false cs with
    | [], ']' :: cs => some cs
    | _, cs => some cs

/-- Reads an item of a class: the character that it is, if it is a single one. -/
def readClassItem (mode : Mode) : List Char → Option (Option Char × List Char)
  | [] => none
  | '\\' :: rest =>
    match readEscape mode rest with
    | some (.literal c, rest) => some (some c, rest)
    | some (.characters, rest) => some (none, rest)
    | _ => none
  | c :: rest => some (some c, rest)

/-- Reads an item of a class or a range of characters. -/
def readClassRange (mode : Mode) (cs : List Char) : Option (List Char) :=
  match readClassItem mode cs with
  | none => none
  | some (first, rest) =>
    match mode.gap false rest with
    | [] => none
    | '-' :: rest =>
      let behind := mode.gap false rest
      match behind with
      | [] => none
      | d :: _ =>
        if d = ']' ∨ d = '-' then some ('-' :: rest)
        else
          match first, readClassItem mode behind with
          | some a, some (some b, rest) => if a ≤ b then some rest else none
          | _, _ => none
    | rest => some rest

/-- Reads a class to its closing bracket, some classes around it being open. A round takes at least
one character. -/
def readClass (mode : Mode) (around : Nat) : (rounds : List Char) → List Char →
    Option (List Char)
  | rounds, cs =>
    match mode.gap false cs, rounds with
    | [], _ => none
    | _, [] => none
    | c :: rest, _ :: rounds =>
      if c = '[' then
        match readNamedClass? rest with
        | some (negated, rest) =>
          if negated && !mode.isUnicode then none else readClass mode around rounds rest
        | none =>
          match openClass mode rest with
          | some rest => readClass mode (around + 1) rounds rest
          | none => none
      else if c = ']' then
        match around with
        | 0 => some rest
        | around + 1 => readClass mode around rounds rest
      else if (c = '&' ∨ c = '-' ∨ c = '~') ∧ rest.head? = some c then
        readClass mode around rounds rest.tail
      else
        match readClassRange mode (c :: rest) with
        | some rest => readClass mode around rounds rest
        | none => none

/-! ### Groups -/

/-- Reads the letters of modes up to the character that ends them. No letter may be there twice,
and a dash, which switches off what follows, has to be followed by a letter. -/
def readModes (mode : Mode) (isOn : Bool) (seen : List Char) :
    List Char → Option (Mode × Bool × List Char)
  | [] => none
  | c :: rest =>
    let isComplete := seen.head? != some '-'
    if c = ':' then if isComplete then some (mode, true, rest) else none
    else if c = ')' then
      if isComplete && !seen.isEmpty then some (mode, false, rest) else none
    else if seen.contains c then none
    else if c = '-' then readModes mode false (c :: seen) rest
    else
      match mode.switch c isOn with
      | some mode => readModes mode isOn (c :: seen) rest
      | none => none

/-- A name of a group. -/
def isGroupName (name : List Char) : Bool :=
  match name with
  | [] => false
  | c :: rest =>
    (c == '_' || (isAlphanumeric c && !c.isDigit)) &&
      rest.all fun d => d == '_' || d == '.' || d == '[' || d == ']' || isAlphanumeric d

/-- Where the reader of a pattern is: the modes, those to go back to behind each open group,
whether there is something to repeat, and the names of groups so far. -/
structure State where
  mode : Mode
  outer : List Mode
  isRepeatable : Bool
  names : List (List Char)

/-- The state behind the opening parenthesis of a group. -/
def State.enter (s : State) (inner : Mode) : State :=
  { s with mode := inner, outer := s.mode :: s.outer, isRepeatable := false }

/-- Opens a group whose name starts here. -/
def openNamed (s : State) (cs : List Char) : Option (State × List Char) :=
  let name := cs.takeWhile (· != '>')
  match cs.drop name.length with
  | _ :: rest =>
    if isGroupName name && !s.names.contains name then
      some ({ s.enter s.mode with names := name :: s.names }, rest)
    else none
  | [] => none

/-- Opens a group, the parenthesis being taken; it may set modes instead. -/
def openGroup (s : State) (cs : List Char) : Option (State × List Char) :=
  match cs with
  | '?' :: 'P' :: '<' :: cs => openNamed s cs
  | '?' :: '<' :: '!' :: _ => none
  | '?' :: '<' :: '=' :: _ => none
  | '?' :: '<' :: cs => openNamed s cs
  | '?' :: cs =>
    match readModes s.mode true [] cs with
    | some (mode, true, rest) => some (s.enter mode, rest)
    | some (mode, false, rest) => some ({ s with mode := mode, isRepeatable := false }, rest)
    | none => none
  | cs => some (s.enter s.mode, cs)

/-! ### Patterns -/

/-- The state behind a part that can be repeated. -/
def State.behindPart (s : State) : State :=
  { s with isRepeatable := true }

/-- Reads the next part of a pattern, which starts with the character given. -/
def readPart (s : State) (c : Char) (rest : List Char) : Option (State × List Char) :=
  if c = '(' then openGroup s (s.mode.gap false rest)
  else if c = ')' then
    match s.outer with
    | mode :: outer => some ({ s.behindPart with mode := mode, outer := outer }, rest)
    | [] => none
  else if c = '|' then some ({ s with isRepeatable := false }, rest)
  else if c = '*' ∨ c = '+' ∨ c = '?' then if s.isRepeatable then some (s, rest) else none
  else if c = '\x7b' then none
  else if c = '[' then
    if s.mode.takesLiteral then
      match openClass s.mode rest with
      | some inside => (readClass s.mode 0 rest inside).map fun rest => (s.behindPart, rest)
      | none => none
    else none
  else if c = '\\' then
    match readEscape s.mode rest with
    | some (.literal _, rest) =>
      if s.mode.takesLiteral then some (s.behindPart, rest) else none
    | some (_, rest) => some (s.behindPart, rest)
    | none => none
  else if c = '^' ∨ c = '$' then some (s.behindPart, rest)
  else if c = '.' then if s.mode.isUnicode then some (s.behindPart, rest) else none
  else if s.mode.takesLiteral then some (s.behindPart, rest)
  else none

/-- Reads a pattern to its end, where no group may be open. A round takes at least one character. -/
def readParts (s : State) : (rounds : List Char) → List Char → Bool
  | rounds, cs =>
    match s.mode.gap false cs, rounds with
    | [], _ => s.outer.isEmpty
    | _, [] => false
    | c :: rest, _ :: rounds =>
      match readPart s c rest with
      | some (s, rest) => readParts s rounds rest
      | none => false

/-- The text is a regular expression. -/
def isPattern (s : String) : Bool :=
  readParts ⟨.initial, [], false, []⟩ s.toList s.toList

end PodAdmission.Pattern
