import PodAdmission.Text.Ascii

/-!
# Base64

Bytes as text, three bytes to four symbols, the last group filled up with `=`. The reader takes the
one text that the writer makes and refuses every other: symbols outside the alphabet, padding that
is missing or out of place, and last symbols with bits that stand for nothing.
-/

namespace PodAdmission.Base64

/-! ### Writing -/

/-- The symbol of six bits. -/
def symbol (n : Nat) : UInt8 :=
  if n < 26 then UInt8.ofNat (0x41 + n)
  else if n < 52 then UInt8.ofNat (0x61 + (n - 26))
  else if n < 62 then UInt8.ofNat (0x30 + (n - 52))
  else if n = 62 then 0x2B
  else 0x2F

/-- The sign that fills up the last group. -/
abbrev padding : UInt8 := 0x3D

/-- The text of a byte sequence. -/
def encode : Bytes → Bytes
  | [] => []
  | [a] => [symbol (a.toNat / 4), symbol (a.toNat % 4 * 16), padding, padding]
  | [a, b] =>
    [symbol (a.toNat / 4), symbol (a.toNat % 4 * 16 + b.toNat / 16), symbol (b.toNat % 16 * 4),
      padding]
  | a :: b :: c :: rest =>
    symbol (a.toNat / 4) :: symbol (a.toNat % 4 * 16 + b.toNat / 16) ::
      symbol (b.toNat % 16 * 4 + c.toNat / 64) :: symbol (c.toNat % 64) :: encode rest

/-! ### Reading -/

/-- What is wrong with a text. -/
inductive Fault where
  | badSymbol (byte : UInt8) (offset : Nat)
  | badLength (length : Nat)
  | badLastSymbol (byte : UInt8) (offset : Nat)
  | badPadding
  deriving DecidableEq

/-- The wording of a fault. -/
def Fault.message : Fault → String
  | .badSymbol byte offset =>
    "Invalid symbol " ++ toString byte.toNat ++ ", offset " ++ toString offset ++ "."
  | .badLength length => "Invalid input length: " ++ toString length
  | .badLastSymbol byte offset =>
    "Invalid last symbol " ++ toString byte.toNat ++ ", offset " ++ toString offset ++ "."
  | .badPadding => "Invalid padding"

/-- The six bits of a symbol. -/
def bits? (b : UInt8) : Option Nat :=
  if 0x41 ≤ b && b ≤ 0x5A then some (b.toNat - 0x41)
  else if 0x61 ≤ b && b ≤ 0x7A then some (b.toNat - 0x61 + 26)
  else if 0x30 ≤ b && b ≤ 0x39 then some (b.toNat - 0x30 + 52)
  else if b = 0x2B then some 62
  else if b = 0x2F then some 63
  else none

/-- The first byte at or behind an offset that is no symbol. -/
def firstBad (offset : Nat) : Bytes → Except Fault Unit
  | [] => .ok ()
  | b :: rest =>
    match bits? b with
    | some _ => firstBad (offset + 1) rest
    | none => .error (.badSymbol b offset)

/-- The symbols of the last group and the number of padding signs behind them. Padding stands only
at the end and only behind two symbols. -/
def lastSymbols (offset : Nat) : Bytes → Except Fault (Bytes × Nat)
  | group =>
    let symbols := group.takeWhile (· ≠ padding)
    let behind := group.drop symbols.length
    match firstBad offset symbols with
    | .error fault => .error fault
    | .ok () =>
      if behind = [] then .ok (symbols, 0)
      else if symbols.length < 2 ∨ behind.any (· ≠ padding) then
        .error (.badSymbol padding (offset + symbols.length))
      else .ok (symbols, behind.length)

/-- The bytes of the last group, which may be incomplete. -/
def decodeLast (offset : Nat) (group : Bytes) : Except Fault Bytes :=
  match lastSymbols offset group with
  | .error fault => .error fault
  | .ok (symbols, pads) =>
    if symbols.length < 2 then .error (.badLength (offset + symbols.length))
    else if (symbols.length + pads) % 4 ≠ 0 then .error .badPadding
    else
      match symbols.map fun b => (bits? b).getD 0 with
      | [a, b] =>
        if b % 16 = 0 then .ok [UInt8.ofNat (a * 4 + b / 16)]
        else .error (.badLastSymbol (symbols.getD 1 0) (offset + 1))
      | [a, b, c] =>
        if c % 4 = 0 then
          .ok [UInt8.ofNat (a * 4 + b / 16), UInt8.ofNat (b % 16 * 16 + c / 4)]
        else .error (.badLastSymbol (symbols.getD 2 0) (offset + 2))
      | a :: b :: c :: d :: _ =>
        .ok [UInt8.ofNat (a * 4 + b / 16), UInt8.ofNat (b % 16 * 16 + c / 4),
          UInt8.ofNat (c % 4 * 64 + d)]
      | _ => .ok []

/-- The bytes of the groups from an offset on, put behind those in `seen`, which are in reverse.
The last group is the one that nothing follows. -/
def decodeGroups (offset : Nat) (seen : Bytes) : Bytes → Except Fault Bytes
  | a :: b :: c :: d :: e :: rest =>
    match bits? a, bits? b, bits? c, bits? d with
    | some i, some j, some k, some l =>
      decodeGroups (offset + 4)
        (UInt8.ofNat (k % 4 * 64 + l) :: UInt8.ofNat (j % 16 * 16 + k / 4) ::
          UInt8.ofNat (i * 4 + j / 16) :: seen)
        (e :: rest)
    | _, _, _, _ =>
      match firstBad offset [a, b, c, d] with
      | .error fault => .error fault
      | .ok () => .ok []
  | group => (decodeLast offset group).map fun last => seen.reverse ++ last

/-- The bytes that a text stands for. A bad last byte that is alone in its group is reported before
anything else. -/
def decode (text : Bytes) : Except Fault Bytes :=
  if text = [] then .ok []
  else
    match text.getLast? with
    | some last =>
      if text.length % 4 = 1 ∧ last ≠ padding ∧ (bits? last).isNone then
        .error (.badSymbol last (text.length - 1))
      else decodeGroups 0 [] text
    | none => .ok []

end PodAdmission.Base64
