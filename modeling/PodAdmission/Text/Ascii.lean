import PodAdmission.Text.Utf8

/-!
# ASCII

Names for the bytes that carry the structure of a document, and decimal and hexadecimal digits as
bytes.
-/

namespace PodAdmission.Ascii

abbrev quote : UInt8 := 0x22
abbrev backslash : UInt8 := 0x5C
abbrev slash : UInt8 := 0x2F
abbrev comma : UInt8 := 0x2C
abbrev colon : UInt8 := 0x3A
abbrev openList : UInt8 := 0x5B
abbrev closeList : UInt8 := 0x5D
abbrev openObject : UInt8 := 0x7B
abbrev closeObject : UInt8 := 0x7D
abbrev minus : UInt8 := 0x2D
abbrev plus : UInt8 := 0x2B
abbrev point : UInt8 := 0x2E
abbrev zero : UInt8 := 0x30
abbrev space : UInt8 := 0x20
abbrev tab : UInt8 := 0x09
abbrev newline : UInt8 := 0x0A
abbrev carriageReturn : UInt8 := 0x0D
abbrev backspace : UInt8 := 0x08
abbrev formFeed : UInt8 := 0x0C
abbrev lowerB : UInt8 := 0x62
abbrev lowerE : UInt8 := 0x65
abbrev lowerF : UInt8 := 0x66
abbrev lowerN : UInt8 := 0x6E
abbrev lowerR : UInt8 := 0x72
abbrev lowerT : UInt8 := 0x74
abbrev lowerU : UInt8 := 0x75
abbrev upperE : UInt8 := 0x45

/-- The word `null`. -/
def nullWord : Bytes := [0x6E, 0x75, 0x6C, 0x6C]

/-- The word `true`. -/
def trueWord : Bytes := [0x74, 0x72, 0x75, 0x65]

/-- The word `false`. -/
def falseWord : Bytes := [0x66, 0x61, 0x6C, 0x73, 0x65]

/-- A decimal digit. -/
def isDigit (b : UInt8) : Bool :=
  0x30 ≤ b && b ≤ 0x39

/-- The value of a decimal digit. -/
def digitValue (b : UInt8) : Nat :=
  b.toNat - 0x30

/-- The value of a hexadecimal digit of either case. -/
def hexValue? (b : UInt8) : Option Nat :=
  if 0x30 ≤ b && b ≤ 0x39 then some (b.toNat - 0x30)
  else if 0x41 ≤ b && b ≤ 0x46 then some (b.toNat - 0x41 + 10)
  else if 0x61 ≤ b && b ≤ 0x66 then some (b.toNat - 0x61 + 10)
  else none

/-- The lower-case hexadecimal digit of a number below 16. -/
def hexDigit (n : Nat) : UInt8 :=
  if n < 10 then UInt8.ofNat (0x30 + n) else UInt8.ofNat (0x61 + (n - 10))

/-- A number in decimal. -/
def decimal (n : Nat) : Bytes :=
  (Nat.toDigits 10 n).map (fun c => UInt8.ofNat c.toNat)

/-- The lower-case form of an ASCII letter; any other character is its own. -/
def lowerChar (c : Char) : Char :=
  if 'A' ≤ c ∧ c ≤ 'Z' then Char.ofNat (c.toNat + 32) else c

/-- Equality of texts up to the case of ASCII letters. -/
def sameIgnoringCase (s t : String) : Bool :=
  s.toList.map lowerChar == t.toList.map lowerChar

end PodAdmission.Ascii
