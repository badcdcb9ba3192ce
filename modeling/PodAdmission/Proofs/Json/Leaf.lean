import Mathlib.Tactic.Common
import PodAdmission.Json.Reader.Value
import PodAdmission.Proofs.Json.Document

/-!
# Values without parts read back

The text of a word, a number or a text is read as the same value. A number with a fraction need not
come back as the same number, so `Number.reread?` says what it comes back as.
-/

namespace PodAdmission

open Ascii Json

/-! ### Numbers -/

/-- What a reader makes of a text with nothing behind it. -/
def Reader.taken {α : Type} (read : Bytes → Read α) (t : Bytes) : Option α :=
  (read t).toOption.map Prod.fst

/-- The number that a reader makes of a text. -/
def Reader.numberOf? (t : Bytes) : Option Number :=
  match t with
  | [] => none
  | b :: r =>
    if b = minus then Reader.taken (Reader.readNumber true) r
    else Reader.taken (Reader.readNumber false) (b :: r)

/-- The number that a reader makes of the text of a number. -/
def Number.reread? (n : Number) : Option Number :=
  Reader.numberOf? (writeNumber n)

namespace Reader

lemma Takes.yields {read : Bytes → Read Number} {t rest : Bytes} (h : Takes read t)
    (hrest : Delimited rest) : Yields (read (t ++ rest)) (taken read t) rest := by
  obtain ⟨o, ho⟩ := h
  have halone := ho [] delimited_nil
  rw [List.append_nil] at halone
  rw [Yields, ho rest hrest, taken, halone]
  cases o <;> rfl

/-- A numeral starts with a digit. -/
lemma numeral_eq_cons {t : Bytes} (h : Numeral t) : ∃ b r, t = b :: r ∧ isDigit b = true := by
  obtain ⟨hw, hf, he⟩ := h
  cases hw with
  | zero => exact ⟨zero, _, rfl, by decide⟩
  | run hne hd => exact ⟨_, _, rfl, (isRun_cons.1 hd).1⟩

end Reader

open Reader

/-- A whole number is read back as it is. -/
theorem Number.reread?_whole {n : Int} (h : (Number.whole n).Valid) :
    (Number.whole n).reread? = some (.whole n) := by
  obtain ⟨hlow, hhigh⟩ := h
  have hread (negative : Bool) (hfit : n.natAbs < 2 ^ 64) :
      readNumber negative (decimal n.natAbs) = finishWhole negative n.natAbs [] := by
    have h := readNumber_decimal hfit negative delimited_nil
    rwa [List.append_nil] at h
  by_cases hneg : n < 0
  · have hwrite : writeNumber (.whole n) = minus :: decimal n.natAbs := by
      rw [writeNumber, writeWhole, if_pos hneg]
    simp only [Number.reread?, numberOf?, hwrite, if_true]
    rw [Reader.taken, hread true (by omega), finishWhole, if_pos rfl, if_neg (by omega)]
    have habs : -(n.natAbs : Int) = n := by omega
    rw [habs]
    rfl
  · have hwrite : writeNumber (.whole n) = decimal n.natAbs := by
      rw [writeNumber, writeWhole, if_neg hneg]
    obtain ⟨b, r, hcons, hb⟩ := numeral_eq_cons (numeral_decimal n.natAbs)
    have hminus : b ≠ minus := by
      rintro rfl
      cases hb
    simp only [Number.reread?, numberOf?, hwrite, hcons, if_neg hminus]
    rw [← hcons, Reader.taken, hread false (by omega), finishWhole, if_neg Bool.false_ne_true]
    have habs : (n.natAbs : Int) = n := by omega
    rw [habs]
    rfl

/-! ### First bytes -/

namespace Reader

lemma ne_of_isDigit {b c : UInt8} (h : isDigit b = true) (hc : isDigit c = false) : b ≠ c := by
  rintro rfl
  rw [h] at hc
  cases hc

/-- The first byte of a value without parts: a reader is sent to what reads such values. -/
structure Leads (b : UInt8) : Prop where
  isSpace : isSpace b = false
  ne_closeList : b ≠ closeList
  ne_openList : b ≠ openList
  ne_openObject : b ≠ openObject

lemma leads_of_isDigit {b : UInt8} (h : isDigit b = true) : Leads b := by
  refine ⟨?_, ne_of_isDigit h (by decide), ne_of_isDigit h (by decide),
    ne_of_isDigit h (by decide)⟩
  have hspace := ne_of_isDigit h (by decide : isDigit space = false)
  have hnewline := ne_of_isDigit h (by decide : isDigit newline = false)
  have htab := ne_of_isDigit h (by decide : isDigit tab = false)
  have hreturn := ne_of_isDigit h (by decide : isDigit carriageReturn = false)
  simp [isSpace, hspace, hnewline, htab, hreturn]

end Reader

namespace Json

/-- A value without parts. -/
def IsLeaf : Json → Prop
  | .list _ => False
  | .object _ => False
  | _ => True

/-- What a reader makes of the text of a value without parts. -/
def rereadLeaf? : Json → Option Json
  | .null => some .null
  | .bool b => some (.bool b)
  | .number n => n.reread?.map .number
  | .text s => some (.text s)
  | .list _ => none
  | .object _ => none

end Json

namespace Document

/-- A document without parts. -/
def IsLeaf : Document → Prop
  | .list _ => False
  | .object _ => False
  | _ => True

/-- What a reader makes of a document without parts. -/
def leaf? : Document → Option Json
  | .null => some .null
  | .bool b => some (.bool b)
  | .number t => (numberOf? t).map .number
  | .text s => some (.text s)
  | .list _ => none
  | .object _ => none

variable {D : Document} {t r : Bytes} {b : UInt8}

lemma leaf?_document (j : Json) : j.document.leaf? = j.rereadLeaf? := by
  cases j <;> rfl

/-- A document without parts leads to what reads such values. -/
lemma Spells.leads (h : D.Spells t) (hleaf : D.IsLeaf) : ∃ b r, t = b :: r ∧ Leads b := by
  cases h with
  | number h =>
    obtain ⟨b, r, rfl, hb⟩ := numeral_eq_cons h
    exact ⟨b, r, rfl, leads_of_isDigit hb⟩
  | list h => exact hleaf.elim
  | object h => exact hleaf.elim
  | _ => exact ⟨_, _, rfl, by decide, by decide, by decide, by decide⟩

/-- The first byte of a document says whether it is a list or an object. -/
lemma Spells.eq_cons (h : D.Spells t) : ∃ b r, t = b :: r ∧ isSpace b = false ∧ b ≠ closeList ∧
    (b = openList → ∃ items, D = .list items) ∧
      (b = openObject → ∃ members, D = .object members) := by
  by_cases hleaf : D.IsLeaf
  · obtain ⟨b, r, rfl, hb⟩ := h.leads hleaf
    exact ⟨b, r, rfl, hb.isSpace, hb.ne_closeList, fun heq => absurd heq hb.ne_openList,
      fun heq => absurd heq hb.ne_openObject⟩
  · cases h with
    | list h =>
      exact ⟨_, _, rfl, by decide, by decide, fun _ => ⟨_, rfl⟩, fun heq => absurd heq (by decide)⟩
    | object h =>
      exact ⟨_, _, rfl, by decide, by decide, fun heq => absurd heq (by decide), fun _ => ⟨_, rfl⟩⟩
    | _ => exact absurd trivial hleaf

/-- A document starts like a value. -/
lemma Spells.starts (h : D.Spells t) : Starts t := by
  obtain ⟨b, r, ht, hspace, hclose, -⟩ := h.eq_cons
  exact ⟨b, r, ht, hspace, hclose⟩

/-- No other document starts like the word `null`. -/
lemma Spells.ne_lowerN (h : D.Spells t) (hne : D ≠ .null) (ht : t = b :: r) : b ≠ lowerN := by
  cases h with
  | null => exact absurd rfl hne
  | number h =>
    obtain ⟨_, _, rfl, hb⟩ := numeral_eq_cons h
    obtain ⟨rfl, -⟩ := List.cons.inj ht
    exact ne_of_isDigit hb (by decide)
  | _ =>
    obtain ⟨rfl, -⟩ := List.cons.inj ht
    decide

end Document

namespace Reader

variable {D : Document} {t r rest : Bytes} {b : UInt8}

lemma readLeaf_digit (h : isDigit b = true) (rest : Bytes) :
    readLeaf b rest = (readNumber false (b :: rest)).map fun (n, r) => (.number n, r) := by
  rw [readLeaf, if_neg (ne_of_isDigit h (by decide)), if_neg (ne_of_isDigit h (by decide)),
    if_neg (ne_of_isDigit h (by decide)), if_neg (ne_of_isDigit h (by decide)), if_pos h]

/-- A document without parts is read. -/
lemma yields_readLeaf (h : D.Spells t) (hleaf : D.IsLeaf) (ht : t = b :: r)
    (hrest : Delimited rest) : Yields (readLeaf b (r ++ rest)) D.leaf? rest := by
  cases h with
  | number h =>
    obtain ⟨_, _, rfl, hb⟩ := numeral_eq_cons h
    obtain ⟨rfl, rfl⟩ := List.cons.inj ht
    rw [readLeaf_digit hb, Document.leaf?, numberOf?,
      if_neg (ne_of_isDigit hb (by decide : isDigit minus = false))]
    exact ((takes_readNumber h false).yields hrest).map Json.number
  | negative h =>
    obtain ⟨rfl, rfl⟩ := List.cons.inj ht
    exact ((takes_readNumber h true).yields hrest).map Json.number
  | @text s raw h =>
    obtain ⟨rfl, rfl⟩ := List.cons.inj ht
    have hread : readLeaf quote (raw ++ [quote] ++ rest) =
        (readText (raw ++ quote :: rest)).map fun read => (Json.text read.1, read.2) := by
      rw [List.append_assoc]
      rfl
    rw [hread, readText_spelled h]
    exact yields_ok (Json.text s) rest
  | list h => exact hleaf.elim
  | object h => exact hleaf.elim
  | _ =>
    obtain ⟨rfl, rfl⟩ := List.cons.inj ht
    rfl

end Reader

end PodAdmission
