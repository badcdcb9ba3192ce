import PodAdmission.Json.Fault
import PodAdmission.Text.Ascii

/-!
# Words, numbers and texts of a document

A reader takes the bytes that are left of a document and answers what it read and the bytes left
after it, or the fault that it met. The readers here are for values without parts: the words
`null`, `true` and `false`, numbers, and texts.
-/

namespace PodAdmission

/-- What a reader answers: a value and the bytes behind it, or a fault. -/
abbrev Read (α : Type) := Except Fault (α × Bytes)

namespace Reader

open Ascii

/-- White space between tokens. -/
def isSpace (b : UInt8) : Bool :=
  b == space || b == newline || b == tab || b == carriageReturn

/-- Passes over white space. -/
def skipSpace (bytes : Bytes) : Bytes :=
  bytes.dropWhile isSpace

/-- Passes over the rest of a word. -/
def readWord : (word : Bytes) → Bytes → Except Fault Bytes
  | [], bytes => .ok bytes
  | _ :: _, [] => .error (.here .endInValue [])
  | w :: word, b :: rest =>
    if b = w then readWord word rest else .error (.here .expectedWord rest)

/-! ### Numbers -/

/-- Takes digits as long as the number they make fits in 64 bits. Answers that number, how many
digits were taken, and the rest. -/
def takeDigits (value count : Nat) : Bytes → Nat × Nat × Bytes
  | [] => (value, count, [])
  | b :: rest =>
    if isDigit b && value * 10 + digitValue b < 0x10000000000000000 then
      takeDigits (value * 10 + digitValue b) (count + 1) rest
    else (value, count, b :: rest)

/-- Counts the digits that follow. -/
def countDigits (count : Nat) : Bytes → Nat × Bytes
  | [] => (count, [])
  | b :: rest => if isDigit b then countDigits (count + 1) rest else (count, b :: rest)

/-- Takes the digits of an exponent; stops behind the digit that makes it exceed 31 bits. -/
def takeExponent (value : Nat) : Bytes → Option Nat × Bytes
  | [] => (some value, [])
  | b :: rest =>
    if isDigit b then
      if value * 10 + digitValue b < 0x80000000 then takeExponent (value * 10 + digitValue b) rest
      else (none, rest)
    else (some value, b :: rest)

/-- The binary64 number of a decimal that ends here. -/
def finishReal (negative : Bool) (significand : Nat) (exponent : Int) (rest : Bytes) :
    Read Number :=
  match Binary64.ofDecimal? negative significand exponent with
  | some x => .ok (.real x, rest)
  | none => .error (.here .numberOutOfRange rest)

/-- Reads an exponent, the letter before it being taken. An exponent beyond 31 bits makes the
number zero if it is negative or the significand is zero. -/
def readExponent (negative : Bool) (significand : Nat) (exponent : Int) (bytes : Bytes) :
    Read Number :=
  let (down, bytes) :=
    match bytes with
    | b :: rest => if b = plus then (false, rest) else if b = minus then (true, rest)
      else (false, b :: rest)
    | [] => (false, [])
  match bytes with
  | [] => .error (.here .endInValue [])
  | b :: rest =>
    if isDigit b then
      match takeExponent (digitValue b) rest with
      | (some e, rest) =>
        finishReal negative significand (if down then exponent - e else exponent + e) rest
      | (none, rest) =>
        if significand ≠ 0 ∧ down = false then .error (.here .numberOutOfRange rest)
        else .ok (.real (.zero negative), rest.dropWhile isDigit)
    else .error (.here .malformedNumber rest)

/-- Reads what may follow the digits of a number with a fraction or too many digits. -/
def readScale (negative : Bool) (significand : Nat) (exponent : Int) (bytes : Bytes) :
    Read Number :=
  match bytes with
  | b :: rest =>
    if b = lowerE ∨ b = upperE then readExponent negative significand exponent rest
    else finishReal negative significand exponent (b :: rest)
  | [] => finishReal negative significand exponent []

/-- Reads a fraction, the point before it being taken; it has at least one digit. Digits that no
longer fit are ignored. -/
def readFraction (negative : Bool) (significand : Nat) (exponent : Int) (bytes : Bytes) :
    Read Number :=
  match bytes with
  | [] => .error (.ahead .endInValue [])
  | b :: rest =>
    if isDigit b then
      let (significand, count, rest) := takeDigits significand 0 (b :: rest)
      readScale negative significand (exponent - count) (rest.dropWhile isDigit)
    else .error (.ahead .malformedNumber (b :: rest))

/-- A number without point and exponent whose digits all fit in 64 bits. A negative one that has
no place in 63 bits, and minus zero, are binary64 numbers. -/
def finishWhole (negative : Bool) (value : Nat) (rest : Bytes) : Read Number :=
  if negative then
    if value = 0 ∨ 0x8000000000000000 < value then finishReal true value 0 rest
    else .ok (.whole (-value), rest)
  else .ok (.whole value, rest)

/-- Reads what may follow the whole digits of a number. -/
def readTail (negative : Bool) (value : Nat) (bytes : Bytes) : Read Number :=
  match bytes with
  | [] => finishWhole negative value []
  | b :: rest =>
    if b = point then readFraction negative value 0 rest
    else if b = lowerE ∨ b = upperE then readExponent negative value 0 rest
    else if isDigit b then
      let (extra, after) := countDigits 0 (b :: rest)
      match after with
      | c :: behind =>
        if c = point then readFraction negative value extra behind
        else readScale negative value extra after
      | [] => readScale negative value extra []
    else finishWhole negative value (b :: rest)

/-- Reads a number behind its sign. A leading zero stands alone. -/
def readNumber (negative : Bool) (bytes : Bytes) : Read Number :=
  match bytes with
  | [] => .error (.here .endInValue [])
  | b :: rest =>
    if b = zero then
      match rest with
      | c :: _ =>
        if isDigit c then .error (.ahead .malformedNumber rest) else readTail negative 0 rest
      | [] => readTail negative 0 []
    else if isDigit b then
      let (value, _, rest) := takeDigits (digitValue b) 1 rest
      readTail negative value rest
    else .error (.here .malformedNumber rest)

/-! ### Texts -/

/-- What a one-letter escape stands for. -/
def escaped? (b : UInt8) : Option UInt8 :=
  if b = quote ∨ b = backslash ∨ b = slash then some b
  else if b = lowerB then some backspace
  else if b = lowerF then some formFeed
  else if b = lowerN then some newline
  else if b = lowerR then some carriageReturn
  else if b = lowerT then some tab
  else none

/-- The number that four hexadecimal digits stand for. -/
def hexQuad? (a b c d : UInt8) : Option Nat :=
  match hexValue? a, hexValue? b, hexValue? c, hexValue? d with
  | some a, some b, some c, some d => some (((a * 16 + b) * 16 + c) * 16 + d)
  | _, _, _, _ => none

/-- The first half of a character above U+FFFF. -/
def isHighSurrogate (n : Nat) : Bool :=
  0xD800 ≤ n && n ≤ 0xDBFF

/-- The second half of a character above U+FFFF. -/
def isLowSurrogate (n : Nat) : Bool :=
  0xDC00 ≤ n && n ≤ 0xDFFF

/-- The character of two halves. -/
def joinSurrogates (high low : Nat) : Char :=
  Char.ofNat ((high - 0xD800) * 0x400 + (low - 0xDC00) + 0x10000)

/-- Reads the four hexadecimal digits of an escape. -/
def readQuad (bytes : Bytes) : Read Nat :=
  match bytes with
  | h :: i :: j :: k :: rest =>
    match hexQuad? h i j k with
    | some n => .ok (n, rest)
    | none => .error (.here .malformedEscape rest)
  | _ => .error (.here .endInText [])

/-- Takes a byte that has to stand between the halves of a character. -/
def readJoint (wanted : UInt8) (bytes : Bytes) : Except Fault Bytes :=
  match bytes with
  | [] => .error (.here .endInText [])
  | b :: rest => if b = wanted then .ok rest else .error (.here .halfSurrogatePair rest)

/-- Reads the second half of a character, which is an escape of its own. -/
def readLowSurrogate (bytes : Bytes) : Read Nat :=
  match (readJoint backslash bytes).bind (readJoint lowerU) with
  | .error fault => .error fault
  | .ok rest =>
    match readQuad rest with
    | .error fault => .error fault
    | .ok (low, rest) =>
      if isLowSurrogate low then .ok (low, rest) else .error (.here .loneSurrogate rest)

/-- Reads the character of an escape by number, the letter before it being taken. -/
def readCodePoint (bytes : Bytes) : Read Char :=
  match readQuad bytes with
  | .error fault => .error fault
  | .ok (n, rest) =>
    if isHighSurrogate n then
      (readLowSurrogate rest).map fun (low, rest) => (joinSurrogates n low, rest)
    else if isLowSurrogate n then .error (.here .loneSurrogate rest)
    else .ok (Char.ofNat n, rest)

/-- Reads an escape, the backslash before it being taken: the bytes that it stands for. -/
def readEscape (bytes : Bytes) : Read Bytes :=
  match bytes with
  | [] => .error (.here .endInText [])
  | e :: rest =>
    match escaped? e with
    | some b => .ok ([b], rest)
    | none =>
      if e = lowerU then (readCodePoint rest).map fun (c, rest) => (Utf8.encodeChar c, rest)
      else .error (.here .malformedEscape rest)

/-- Reads to the closing quote and undoes escapes. The bytes read come behind those in `seen`,
which are in reverse. A round takes at least one byte, so `rounds` may be the bytes at the start. -/
def readContent (seen : Bytes) : (rounds : Bytes) → Bytes → Read Bytes
  | _, [] => .error (.here .endInText [])
  | rounds, b :: rest =>
    if b = quote then .ok (seen.reverse, rest)
    else if b < space then .error (.here .controlCharacter rest)
    else
      match rounds with
      | [] => .error (.here .endInText rest)
      | _ :: rounds =>
        if b = backslash then
          match readEscape rest with
          | .error fault => .error fault
          | .ok (unescaped, rest) => readContent (unescaped.reverse ++ seen) rounds rest
        else readContent (b :: seen) rounds rest

/-- Reads a text behind its opening quote. Bytes that are not UTF-8 are a fault as many bytes
before the end as the unescaped content has from its first bad byte on. -/
def readText (bytes : Bytes) : Read String :=
  match readContent [] bytes bytes with
  | .error fault => .error fault
  | .ok (content, rest) =>
    match Utf8.decode content with
    | .ok s => .ok (s, rest)
    | .error bad => .error (.noticed .notUtf8 (rest.length + bad))

/-! ### Values without parts -/

/-- Reads a value without parts that starts with the byte given. -/
def readLeaf (b : UInt8) (rest : Bytes) : Read Json :=
  if b = lowerN then (readWord nullWord.tail rest).map fun r => (.null, r)
  else if b = lowerT then (readWord trueWord.tail rest).map fun r => (.bool true, r)
  else if b = lowerF then (readWord falseWord.tail rest).map fun r => (.bool false, r)
  else if b = minus then (readNumber true rest).map fun (n, r) => (.number n, r)
  else if isDigit b then (readNumber false (b :: rest)).map fun (n, r) => (.number n, r)
  else if b = quote then (readText rest).map fun (s, r) => (.text s, r)
  else .error (.ahead .expectedValue (b :: rest))

end Reader

end PodAdmission
