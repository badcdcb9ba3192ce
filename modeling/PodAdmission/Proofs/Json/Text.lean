import PodAdmission.Json.Reader.Skip
import PodAdmission.Json.Writer
import PodAdmission.Proofs.Text.Utf8

/-!
# Texts read back

What stands between quotes spells a content: a byte stands for itself or is escaped, by a letter or
by number. A spelled text is read as what it spells, and a reader that passes over it stops behind
the closing quote. A written text spells itself.
-/

namespace PodAdmission.Reader

open Ascii Json

/-! ### Spelling -/

/-- What stands between quotes spells the content. A character above U+FFFF may be escaped by the
numbers of its two halves. -/
inductive Spelled : (content raw : Bytes) → Prop where
  | nil : Spelled [] []
  | plain {b : UInt8} {content raw : Bytes} (hquote : b ≠ quote) (hescape : b ≠ backslash)
      (hcontrol : ¬ b < space) (h : Spelled content raw) : Spelled (b :: content) (b :: raw)
  | letter {e b : UInt8} {content raw : Bytes} (he : escaped? e = some b)
      (h : Spelled content raw) : Spelled (b :: content) (backslash :: e :: raw)
  | code {i j k l : UInt8} {n : Nat} {content raw : Bytes} (hquad : hexQuad? i j k l = some n)
      (hhigh : isHighSurrogate n = false) (hlow : isLowSurrogate n = false)
      (h : Spelled content raw) :
      Spelled (Utf8.encodeChar (Char.ofNat n) ++ content)
        (backslash :: lowerU :: i :: j :: k :: l :: raw)
  | halves {i j k l i' j' k' l' : UInt8} {n m : Nat} {content raw : Bytes}
      (hquad : hexQuad? i j k l = some n) (hhigh : isHighSurrogate n = true)
      (hquad' : hexQuad? i' j' k' l' = some m) (hlow : isLowSurrogate m = true)
      (h : Spelled content raw) :
      Spelled (Utf8.encodeChar (joinSurrogates n m) ++ content)
        (backslash :: lowerU :: i :: j :: k :: l :: backslash :: lowerU :: i' :: j' :: k' :: l' ::
          raw)

/-! ### Reading -/

lemma escaped?_lowerU : escaped? lowerU = none := by decide

lemma readEscape_letter {e b : UInt8} (h : escaped? e = some b) (rest : Bytes) :
    readEscape (e :: rest) = .ok ([b], rest) := by
  simp [readEscape, h]

lemma readEscape_code {i j k l : UInt8} {n : Nat} (hquad : hexQuad? i j k l = some n)
    (hhigh : isHighSurrogate n = false) (hlow : isLowSurrogate n = false) (rest : Bytes) :
    readEscape (lowerU :: i :: j :: k :: l :: rest) =
      .ok (Utf8.encodeChar (Char.ofNat n), rest) := by
  simp [readEscape, escaped?_lowerU, readCodePoint, readQuad, hquad, hhigh, hlow, Except.map]

lemma readEscape_halves {i j k l i' j' k' l' : UInt8} {n m : Nat}
    (hquad : hexQuad? i j k l = some n) (hhigh : isHighSurrogate n = true)
    (hquad' : hexQuad? i' j' k' l' = some m) (hlow : isLowSurrogate m = true) (rest : Bytes) :
    readEscape (lowerU :: i :: j :: k :: l :: backslash :: lowerU :: i' :: j' :: k' :: l' ::
      rest) = .ok (Utf8.encodeChar (joinSurrogates n m), rest) := by
  simp [readEscape, escaped?_lowerU, readCodePoint, readLowSurrogate, readJoint, readQuad, hquad,
    hhigh, hquad', hlow, Except.map, Except.bind]

section Rounds

variable {b : UInt8} {raw raw' unescaped rounds rest : Bytes}

/-- A byte that stands for itself takes a round. -/
lemma exists_readContent_plain (hrounds : (b :: raw).length ≤ rounds.length) (hquote : b ≠ quote)
    (hescape : b ≠ backslash) (hcontrol : ¬ b < space) (seen rest : Bytes) :
    ∃ left : Bytes, raw.length ≤ left.length ∧
      readContent seen rounds (b :: raw ++ quote :: rest) =
        readContent (b :: seen) left (raw ++ quote :: rest) := by
  cases rounds with
  | nil => cases hrounds
  | cons r left =>
    refine ⟨left, Nat.le_of_succ_le_succ hrounds, ?_⟩
    rw [List.cons_append, readContent]
    simp [hquote, hescape, hcontrol]

/-- An escape takes a round, however long it is. -/
lemma exists_readContent_escape (hrounds : (backslash :: raw).length ≤ rounds.length)
    (h : readEscape (raw ++ quote :: rest) = .ok (unescaped, raw' ++ quote :: rest))
    (hlength : raw'.length ≤ raw.length) (seen : Bytes) :
    ∃ left : Bytes, raw'.length ≤ left.length ∧
      readContent seen rounds (backslash :: raw ++ quote :: rest) =
        readContent (unescaped.reverse ++ seen) left (raw' ++ quote :: rest) := by
  cases rounds with
  | nil => cases hrounds
  | cons r left =>
    refine ⟨left, Nat.le_trans hlength (Nat.le_of_succ_le_succ hrounds), ?_⟩
    rw [List.cons_append, readContent]
    simp +decide [h]

end Rounds

/-- What spells a content is read as that content. -/
lemma readContent_spelled {content raw : Bytes} (h : Spelled content raw) (seen : Bytes)
    {rounds : Bytes} (hrounds : raw.length ≤ rounds.length) (rest : Bytes) :
    readContent seen rounds (raw ++ quote :: rest) = .ok (seen.reverse ++ content, rest) := by
  induction h generalizing seen rounds with
  | nil => cases rounds <;> simp [readContent]
  | plain hquote hescape hcontrol h ih =>
    obtain ⟨left, hleft, hread⟩ :=
      exists_readContent_plain hrounds hquote hescape hcontrol seen rest
    rw [hread, ih _ hleft]
    simp
  | letter he h ih =>
    obtain ⟨left, hleft, hread⟩ :=
      exists_readContent_escape hrounds (readEscape_letter he _) (by simp) seen
    rw [hread, ih _ hleft]
    simp
  | code hquad hhigh hlow h ih =>
    obtain ⟨left, hleft, hread⟩ := exists_readContent_escape hrounds
      (readEscape_code hquad hhigh hlow _) (by simp only [List.length_cons]; omega) seen
    rw [hread, ih _ hleft]
    simp
  | halves hquad hhigh hquad' hlow h ih =>
    obtain ⟨left, hleft, hread⟩ := exists_readContent_escape hrounds
      (readEscape_halves hquad hhigh hquad' hlow _) (by simp only [List.length_cons]; omega) seen
    rw [hread, ih _ hleft]
    simp

/-- What spells a text is read as that text behind the opening quote. -/
lemma readText_spelled {s : String} {raw : Bytes} (h : Spelled (Utf8.encode s) raw)
    (rest : Bytes) : readText (raw ++ quote :: rest) = .ok (s, rest) := by
  rw [readText, readContent_spelled h [] (by simp)]
  simp

/-! ### Passing over -/

/-- What may stand between quotes, whether it spells anything or not: an escape by number may be of
half a character, and the bytes need not be UTF-8. -/
inductive Content : Bytes → Prop where
  | nil : Content []
  | plain {b : UInt8} {raw : Bytes} (hquote : b ≠ quote) (hescape : b ≠ backslash)
      (hcontrol : ¬ b < space) (h : Content raw) : Content (b :: raw)
  | letter {e : UInt8} {raw : Bytes} (he : (escaped? e).isSome = true) (h : Content raw) :
      Content (backslash :: e :: raw)
  | code {i j k l : UInt8} {raw : Bytes} (hquad : (hexQuad? i j k l).isSome = true)
      (h : Content raw) : Content (backslash :: lowerU :: i :: j :: k :: l :: raw)

lemma Spelled.content {content raw : Bytes} (h : Spelled content raw) : Content raw := by
  induction h with
  | nil => exact .nil
  | plain hquote hescape hcontrol h ih => exact .plain hquote hescape hcontrol ih
  | letter he h ih => exact .letter (by rw [he]; rfl) ih
  | code hquad hhigh hlow h ih => exact .code (by rw [hquad]; rfl) ih
  | halves hquad hhigh hquad' hlow h ih =>
    exact .code (by rw [hquad]; rfl) (.code (by rw [hquad']; rfl) ih)

/-- What may stand between quotes is passed over. -/
lemma skipContent_content {raw : Bytes} (h : Content raw) (rest : Bytes) :
    skipContent (raw ++ quote :: rest) = .ok rest := by
  induction h with
  | nil =>
    rw [skipContent.eq_def]
    simp
  | plain hquote hescape hcontrol h ih =>
    rw [List.cons_append, skipContent.eq_def]
    simpa [hquote, hescape, hcontrol] using ih
  | letter he h ih =>
    simp only [List.cons_append]
    rw [skipContent.eq_def]
    simpa +decide [he] using ih
  | code hquad h ih =>
    simp only [List.cons_append]
    rw [skipContent.eq_def]
    simpa +decide [hquad] using ih

/-! ### Written texts -/

lemma hexQuad?_hexDigit : ∀ n < 32,
    hexQuad? zero zero (hexDigit (n / 16)) (hexDigit (n % 16)) = some n := by
  decide

/-- A byte is written as itself or as an escape: by a letter that stands for it, or by number. -/
lemma escapeByte_cases (b : UInt8) :
    (∃ e, escapeByte b = [backslash, e] ∧ escaped? e = some b) ∨
    (b < space ∧ escapeByte b = [backslash, lowerU, zero, zero, hexDigit (b.toNat / 16),
      hexDigit (b.toNat % 16)]) ∨
    (escapeByte b = [b] ∧ b ≠ quote ∧ b ≠ backslash ∧ ¬ b < space) := by
  rw [escapeByte]
  split_ifs with h1 h2 h3 h4 h5 h6 h7 h8
  · exact .inl ⟨quote, rfl, by rw [h1]; decide⟩
  · exact .inl ⟨backslash, rfl, by rw [h2]; decide⟩
  · exact .inl ⟨lowerB, rfl, by rw [h3]; decide⟩
  · exact .inl ⟨lowerF, rfl, by rw [h4]; decide⟩
  · exact .inl ⟨lowerN, rfl, by rw [h5]; decide⟩
  · exact .inl ⟨lowerR, rfl, by rw [h6]; decide⟩
  · exact .inl ⟨lowerT, rfl, by rw [h7]; decide⟩
  · exact .inr (.inl ⟨h8, rfl⟩)
  · exact .inr (.inr ⟨rfl, h1, h2, h8⟩)

lemma spelled_control {b : UInt8} (hb : b < space) {content raw : Bytes}
    (h : Spelled content raw) :
    Spelled (b :: content) (backslash :: lowerU :: zero :: zero :: hexDigit (b.toNat / 16) ::
      hexDigit (b.toNat % 16) :: raw) := by
  have hlt : b.toNat < 32 := UInt8.lt_iff_toNat_lt.1 hb
  have hhigh : isHighSurrogate b.toNat = false := by
    simp [isHighSurrogate]
    omega
  have hlow : isLowSurrogate b.toNat = false := by
    simp [isLowSurrogate]
    omega
  have hchar : Utf8.encodeChar (Char.ofNat b.toNat) = [b] :=
    Utf8.encodeChar_single (UInt8.lt_iff_toNat_lt.2 (by simp; omega))
  have hcode := Spelled.code (hexQuad?_hexDigit b.toNat hlt) hhigh hlow h
  rwa [hchar] at hcode

/-- What is written between quotes spells what is written. -/
lemma spelled_flatMap (content : Bytes) : Spelled content (content.flatMap escapeByte) := by
  induction content with
  | nil => exact .nil
  | cons b content ih =>
    rw [List.flatMap_cons]
    rcases escapeByte_cases b with ⟨e, he, hb⟩ | ⟨hb, he⟩ | ⟨he, hq, hs, hc⟩
    · rw [he]
      exact .letter hb ih
    · rw [he]
      exact spelled_control hb ih
    · rw [he]
      exact .plain hq hs hc ih

lemma length_le_length_flatMap (content : Bytes) :
    content.length ≤ (content.flatMap escapeByte).length := by
  induction content with
  | nil => simp
  | cons b content ih =>
    have hb : 1 ≤ (escapeByte b).length := by
      rcases escapeByte_cases b with ⟨e, he, -⟩ | ⟨-, he⟩ | ⟨he, -⟩ <;> simp [he]
    rw [List.flatMap_cons, List.length_append, List.length_cons]
    omega

end PodAdmission.Reader
