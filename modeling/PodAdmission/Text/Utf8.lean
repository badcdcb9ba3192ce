/-!
# UTF-8

Text as bytes. `Utf8.encode` writes a text, `Utf8.decode` reads it back. A byte sequence that is
not UTF-8 is refused together with the number of bytes from its first bad sequence to its end,
which is what a reader needs to say where the fault lies.

Characters are assembled with `/`, `%`, `+` and `*` on natural numbers, so facts about single
characters are facts of linear arithmetic.
-/

namespace PodAdmission

/-- A sequence of bytes: a document, a request body, or what is left of either. -/
abbrev Bytes := List UInt8

namespace Utf8

/-! ### Writing -/

/-- The one to four bytes of a character. -/
def encodeChar (c : Char) : Bytes :=
  let n := c.toNat
  if n < 0x80 then
    [UInt8.ofNat n]
  else if n < 0x800 then
    [UInt8.ofNat (0xC0 + n / 0x40), UInt8.ofNat (0x80 + n % 0x40)]
  else if n < 0x10000 then
    [UInt8.ofNat (0xE0 + n / 0x1000), UInt8.ofNat (0x80 + n / 0x40 % 0x40),
      UInt8.ofNat (0x80 + n % 0x40)]
  else
    [UInt8.ofNat (0xF0 + n / 0x40000), UInt8.ofNat (0x80 + n / 0x1000 % 0x40),
      UInt8.ofNat (0x80 + n / 0x40 % 0x40), UInt8.ofNat (0x80 + n % 0x40)]

/-- The bytes of a text. -/
def encode (s : String) : Bytes :=
  s.toList.flatMap encodeChar

/-! ### Reading -/

/-- A byte that continues a character. -/
def isTail (b : UInt8) : Bool :=
  0x80 ≤ b && b ≤ 0xBF

/-- The six bits that a continuation byte adds. -/
def tailBits (b : UInt8) : Nat :=
  b.toNat - 0x80

/-- The number that a lead byte and one continuation byte stand for. -/
def pairValue (a b : UInt8) : Nat :=
  (a.toNat - 0xC0) * 0x40 + tailBits b

/-- The number that a lead byte and two continuation bytes stand for. -/
def tripleValue (a b c : UInt8) : Nat :=
  ((a.toNat - 0xE0) * 0x40 + tailBits b) * 0x40 + tailBits c

/-- The number that a lead byte and three continuation bytes stand for. -/
def quadValue (a b c d : UInt8) : Nat :=
  (((a.toNat - 0xF0) * 0x40 + tailBits b) * 0x40 + tailBits c) * 0x40 + tailBits d

/-- Two bytes that are a character; the short form is the only one. -/
def isPair (a b : UInt8) : Bool :=
  0xC2 ≤ a && a ≤ 0xDF && isTail b

/-- Three bytes that are a character: no longer than needed and no surrogate. -/
def isTriple (a b c : UInt8) : Bool :=
  0xE0 ≤ a && a ≤ 0xEF && isTail b && isTail c && 0x800 ≤ tripleValue a b c
    && decide (tripleValue a b c).isValidChar

/-- Four bytes that are a character: no longer than needed and within the code space. -/
def isQuad (a b c d : UInt8) : Bool :=
  0xF0 ≤ a && a ≤ 0xF4 && isTail b && isTail c && isTail d && 0x10000 ≤ quadValue a b c d
    && decide (quadValue a b c d).isValidChar

/-- Reads characters as long as the bytes are UTF-8. Answers the characters, put in front of
`seen` in reverse, and the bytes from the first bad sequence on. -/
def scan (seen : List Char) : Bytes → List Char × Bytes
  | [] => (seen, [])
  | a :: r =>
    if a < 0x80 then scan (Char.ofNat a.toNat :: seen) r
    else
      match r with
      | [] => (seen, [a])
      | b :: r =>
        if isPair a b then scan (Char.ofNat (pairValue a b) :: seen) r
        else
          match r with
          | [] => (seen, [a, b])
          | c :: r =>
            if isTriple a b c then scan (Char.ofNat (tripleValue a b c) :: seen) r
            else
              match r with
              | [] => (seen, [a, b, c])
              | d :: r =>
                if isQuad a b c d then scan (Char.ofNat (quadValue a b c d) :: seen) r
                else (seen, a :: b :: c :: d :: r)

/-- The text of a byte sequence, or how many bytes there are from its first bad one on. -/
def decode (bytes : Bytes) : Except Nat String :=
  match scan [] bytes with
  | (seen, []) => .ok (String.ofList seen.reverse)
  | (_, bad) => .error bad.length

/-- The text of a byte sequence with U+FFFD for every byte that belongs to no character. -/
def display (bytes : Bytes) : String :=
  String.ofList (go [] bytes bytes).reverse
where
  /-- One round for each bad byte; the bytes themselves bound the number of rounds. -/
  go (seen : List Char) : Bytes → Bytes → List Char
    | [], _ => seen
    | _ :: rounds, bytes =>
      match scan seen bytes with
      | (seen, []) => seen
      | (seen, _ :: r) => go ('\uFFFD' :: seen) rounds r

end Utf8

end PodAdmission
