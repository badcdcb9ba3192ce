import PodAdmission.Json.Reader.Bracket

/-!
# Passing over a value

A value that nobody asks for, and one whose own text is wanted, is passed over without being
understood: brackets, quotes, commas and colons have to be in place, but a text need not be UTF-8,
a number may be of any size, and brackets may nest to any depth. The open brackets are kept in a
list.
-/

namespace PodAdmission.Reader

open Ascii

/-! ### Values without parts -/

/-- Passes over a text behind its opening quote. -/
def skipContent : Bytes → Except Fault Bytes
  | [] => .error (.here .endInText [])
  | b :: rest =>
    if b = quote then .ok rest
    else if b = backslash then
      match rest with
      | [] => .error (.here .endInText [])
      | e :: rest =>
        if (escaped? e).isSome then skipContent rest
        else if e = lowerU then
          match rest with
          | h :: i :: j :: k :: rest =>
            if (hexQuad? h i j k).isSome then skipContent rest
            else .error (.here .malformedEscape rest)
          | _ => .error (.here .endInText [])
        else .error (.here .malformedEscape rest)
    else if b < space then .error (.here .controlCharacter (b :: rest))
    else skipContent rest

/-- Passes over an exponent, the letter before it being taken. -/
def skipExponent (bytes : Bytes) : Except Fault Bytes :=
  let bytes :=
    match bytes with
    | b :: rest => if b = plus ∨ b = minus then rest else b :: rest
    | [] => []
  match bytes with
  | b :: rest =>
    if isDigit b then .ok (rest.dropWhile isDigit) else .error (.here .malformedNumber rest)
  | [] => .error (.here .malformedNumber [])

/-- Passes over an exponent if there is one. -/
def skipScale (bytes : Bytes) : Except Fault Bytes :=
  match bytes with
  | b :: rest => if b = lowerE ∨ b = upperE then skipExponent rest else .ok (b :: rest)
  | [] => .ok []

/-- Passes over a fraction, the point before it being taken. -/
def skipFraction (bytes : Bytes) : Except Fault Bytes :=
  match bytes with
  | b :: rest =>
    if isDigit b then skipScale (rest.dropWhile isDigit)
    else .error (.ahead .malformedNumber (b :: rest))
  | [] => .error (.ahead .malformedNumber [])

/-- Passes over what may follow the whole digits of a number. -/
def skipTail (bytes : Bytes) : Except Fault Bytes :=
  match bytes with
  | b :: rest => if b = point then skipFraction rest else skipScale (b :: rest)
  | [] => .ok []

/-- Passes over a number behind its sign. -/
def skipNumber (bytes : Bytes) : Except Fault Bytes :=
  match bytes with
  | [] => .error (.here .malformedNumber [])
  | b :: rest =>
    if b = zero then
      match rest with
      | c :: _ => if isDigit c then .error (.ahead .malformedNumber rest) else skipTail rest
      | [] => .ok []
    else if isDigit b then skipTail (rest.dropWhile isDigit)
    else .error (.here .malformedNumber rest)

/-- Passes over a value without parts that starts with the byte given. -/
def skipLeaf (b : UInt8) (rest : Bytes) : Except Fault Bytes :=
  if b = lowerN then readWord nullWord.tail rest
  else if b = lowerT then readWord trueWord.tail rest
  else if b = lowerF then readWord falseWord.tail rest
  else if b = minus then skipNumber rest
  else if isDigit b then skipNumber (b :: rest)
  else if b = quote then skipContent rest
  else .error (.ahead .expectedValue (b :: rest))

/-! ### Values with parts -/

/-- An open bracket. -/
inductive Frame where
  | list
  | object
  deriving DecidableEq

namespace Frame

/-- The byte that closes the bracket. -/
def closer : Frame → UInt8
  | .list => closeList
  | .object => closeObject

/-- The fault of a document that ends inside the bracket. -/
def unclosed : Frame → Cause
  | .list => .endInList
  | .object => .endInObject

/-- The fault of a part that nothing separates from the one before. -/
def unseparated : Frame → Cause
  | .list => .expectedListEnd
  | .object => .expectedObjectEnd

end Frame

/-- Passes over a key and its colon. -/
def skipKey (bytes : Bytes) : Except Fault Bytes :=
  match skipSpace bytes with
  | [] => .error (.ahead .endInObject [])
  | b :: rest =>
    if b = quote then
      match skipContent rest with
      | .error fault => .error fault
      | .ok rest => readColon rest
    else .error (.ahead .expectedKey (b :: rest))

/-- Goes to the value of the next part inside a bracket. -/
def enterPart (frame : Frame) (bytes : Bytes) : Except Fault Bytes :=
  match frame with
  | .list => .ok bytes
  | .object => skipKey bytes

/-- From behind an opening bracket or a value, closes what closes and goes to where the next value
starts. Answers the brackets that are open there; if none is, the whole value is passed.
A comma is accepted only behind a value. -/
def nextPart (top : Frame) (below : List Frame) (behindValue : Bool) :
    Bytes → Except Fault (List Frame × Bytes)
  | [] => .error (.ahead top.unclosed [])
  | b :: rest =>
    if isSpace b then nextPart top below behindValue rest
    else if b = comma ∧ behindValue = true then
      (enterPart top rest).map fun rest => (top :: below, rest)
    else if b = top.closer then
      match below with
      | [] => .ok ([], rest)
      | frame :: below => nextPart frame below true rest
    else if behindValue then .error (.ahead top.unseparated (b :: rest))
    else (enterPart top (b :: rest)).map fun rest => (top :: below, rest)

/-- Passes over the value that starts here and all that the open brackets still hold. -/
def skipParts (frames : List Frame) : (rounds : Bytes) → Bytes → Except Fault Bytes
  | rounds, bytes =>
    match skipSpace bytes with
    | [] => .error (.ahead .endInValue [])
    | b :: rest =>
      let next : Except Fault (List Frame × Bytes) :=
        if b = openList then nextPart .list frames false rest
        else if b = openObject then nextPart .object frames false rest
        else
          match skipLeaf b rest with
          | .error fault => .error fault
          | .ok rest =>
            match frames with
            | [] => .ok ([], rest)
            | frame :: below => nextPart frame below true rest
      match next with
      | .error fault => .error fault
      | .ok ([], rest) => .ok rest
      | .ok (frames, rest) =>
        match rounds with
        | [] => .error (.ahead .endInValue rest)
        | _ :: rounds => skipParts frames rounds rest

/-- Passes over a value. -/
def skipValue (bytes : Bytes) : Except Fault Bytes :=
  skipParts [] bytes bytes

/-- Reads the own text of a value, from its first to its last byte. -/
def readRaw (bytes : Bytes) : Read Bytes :=
  let start := skipSpace bytes
  match skipValue start with
  | .error fault => .error fault
  | .ok rest =>
    let raw := start.take (start.length - rest.length)
    match Utf8.scan [] raw with
    | (_, []) => .ok (raw, rest)
    | (_, bad) => .error (.noticed .notUtf8 (rest.length + bad.length - 1))

end PodAdmission.Reader
