import Mathlib.Tactic.Common
import PodAdmission.Text.Utf8

/-!
# UTF-8 read back

A text that is written is read back as it was, and bytes that are read as a text are the bytes of
that text.
-/

namespace PodAdmission.Utf8

/-! ### One round of the scan -/

lemma scan_single {a : UInt8} (ha : a < 0x80) (seen : List Char) (r : Bytes) :
    scan seen (a :: r) = scan (Char.ofNat a.toNat :: seen) r := by
  rw [scan.eq_def]
  simp [ha]

lemma scan_pair {a b : UInt8} (ha : ¬ a < 0x80) (hb : isPair a b = true) (seen : List Char)
    (r : Bytes) : scan seen (a :: b :: r) = scan (Char.ofNat (pairValue a b) :: seen) r := by
  rw [scan.eq_def]
  simp [ha, hb]

lemma scan_triple {a b c : UInt8} (ha : ¬ a < 0x80) (hb : isPair a b = false)
    (hc : isTriple a b c = true) (seen : List Char) (r : Bytes) :
    scan seen (a :: b :: c :: r) = scan (Char.ofNat (tripleValue a b c) :: seen) r := by
  rw [scan.eq_def]
  simp [ha, hb, hc]

lemma scan_quad {a b c d : UInt8} (ha : ¬ a < 0x80) (hb : isPair a b = false)
    (hc : isTriple a b c = false) (hd : isQuad a b c d = true) (seen : List Char) (r : Bytes) :
    scan seen (a :: b :: c :: d :: r) = scan (Char.ofNat (quadValue a b c d) :: seen) r := by
  rw [scan.eq_def]
  simp [ha, hb, hc, hd]

/-! ### Bytes by their numbers -/

lemma toNat_ofNat {n : Nat} (h : n < 256) : (UInt8.ofNat n).toNat = n := by
  simp [Nat.mod_eq_of_lt h]

lemma not_single {a : UInt8} {n : Nat} (ha : a.toNat = 0x80 + n) : ¬ a < 0x80 := by
  rw [UInt8.lt_iff_toNat_lt, ha]
  simp

lemma isTail_iff {b : UInt8} : isTail b = true ↔ 0x80 ≤ b.toNat ∧ b.toNat ≤ 0xBF := by
  simp [isTail, UInt8.le_iff_toNat_le]

lemma isPair_iff {a b : UInt8} :
    isPair a b = true ↔ 0xC2 ≤ a.toNat ∧ a.toNat ≤ 0xDF ∧ isTail b = true := by
  simp [isPair, UInt8.le_iff_toNat_le, and_assoc]

lemma isTriple_iff {a b c : UInt8} :
    isTriple a b c = true ↔ 0xE0 ≤ a.toNat ∧ a.toNat ≤ 0xEF ∧ isTail b = true ∧ isTail c = true ∧
      0x800 ≤ tripleValue a b c ∧ (tripleValue a b c).isValidChar := by
  simp [isTriple, UInt8.le_iff_toNat_le, and_assoc]

lemma isQuad_iff {a b c d : UInt8} :
    isQuad a b c d = true ↔ 0xF0 ≤ a.toNat ∧ a.toNat ≤ 0xF4 ∧ isTail b = true ∧
      isTail c = true ∧ isTail d = true ∧ 0x10000 ≤ quadValue a b c d ∧
      (quadValue a b c d).isValidChar := by
  simp [isQuad, UInt8.le_iff_toNat_le, and_assoc]

/-! ### Writing and reading -/

lemma scan_pair_encoded (seen : List Char) {n : Nat} (hlow : 0x80 ≤ n) (hhigh : n < 0x800)
    (rest : Bytes) :
    scan seen ([UInt8.ofNat (0xC0 + n / 0x40), UInt8.ofNat (0x80 + n % 0x40)] ++ rest) =
      scan (Char.ofNat n :: seen) rest := by
  have ha := toNat_ofNat (n := 0xC0 + n / 0x40) (by omega)
  have hb := toNat_ofNat (n := 0x80 + n % 0x40) (by omega)
  have hs : ¬ UInt8.ofNat (0xC0 + n / 0x40) < 0x80 := not_single (n := 0x40 + n / 0x40) (by omega)
  generalize UInt8.ofNat (0xC0 + n / 0x40) = a at ha hs ⊢
  generalize UInt8.ofNat (0x80 + n % 0x40) = b at hb ⊢
  have hp : pairValue a b = n := by
    unfold pairValue tailBits
    omega
  have hpair : isPair a b = true :=
    isPair_iff.2 ⟨by omega, by omega, isTail_iff.2 (by omega)⟩
  rw [List.cons_append, List.cons_append, scan_pair hs hpair, hp]
  rfl

lemma scan_triple_encoded (seen : List Char) {n : Nat} (hlow : 0x800 ≤ n) (hhigh : n < 0x10000)
    (hvalid : n.isValidChar) (rest : Bytes) :
    scan seen ([UInt8.ofNat (0xE0 + n / 0x1000), UInt8.ofNat (0x80 + n / 0x40 % 0x40),
      UInt8.ofNat (0x80 + n % 0x40)] ++ rest) = scan (Char.ofNat n :: seen) rest := by
  have ha := toNat_ofNat (n := 0xE0 + n / 0x1000) (by omega)
  have hb := toNat_ofNat (n := 0x80 + n / 0x40 % 0x40) (by omega)
  have hd := toNat_ofNat (n := 0x80 + n % 0x40) (by omega)
  have hs : ¬ UInt8.ofNat (0xE0 + n / 0x1000) < 0x80 :=
    not_single (n := 0x60 + n / 0x1000) (by omega)
  generalize UInt8.ofNat (0xE0 + n / 0x1000) = a at ha hs ⊢
  generalize UInt8.ofNat (0x80 + n / 0x40 % 0x40) = b at hb ⊢
  generalize UInt8.ofNat (0x80 + n % 0x40) = d at hd ⊢
  have hp : tripleValue a b d = n := by
    unfold tripleValue tailBits
    omega
  have hpair : isPair a b = false := by
    rw [← Bool.not_eq_true, isPair_iff]
    omega
  have htriple : isTriple a b d = true :=
    isTriple_iff.2 ⟨by omega, by omega, isTail_iff.2 (by omega), isTail_iff.2 (by omega),
      by omega, hp ▸ hvalid⟩
  rw [List.cons_append, List.cons_append, List.cons_append, scan_triple hs hpair htriple, hp]
  rfl

lemma scan_quad_encoded (seen : List Char) {n : Nat} (hlow : 0x10000 ≤ n) (hhigh : n < 0x110000)
    (hvalid : n.isValidChar) (rest : Bytes) :
    scan seen ([UInt8.ofNat (0xF0 + n / 0x40000), UInt8.ofNat (0x80 + n / 0x1000 % 0x40),
      UInt8.ofNat (0x80 + n / 0x40 % 0x40), UInt8.ofNat (0x80 + n % 0x40)] ++ rest) =
        scan (Char.ofNat n :: seen) rest := by
  have ha := toNat_ofNat (n := 0xF0 + n / 0x40000) (by omega)
  have hb := toNat_ofNat (n := 0x80 + n / 0x1000 % 0x40) (by omega)
  have hd := toNat_ofNat (n := 0x80 + n / 0x40 % 0x40) (by omega)
  have he := toNat_ofNat (n := 0x80 + n % 0x40) (by omega)
  have hs : ¬ UInt8.ofNat (0xF0 + n / 0x40000) < 0x80 :=
    not_single (n := 0x70 + n / 0x40000) (by omega)
  generalize UInt8.ofNat (0xF0 + n / 0x40000) = a at ha hs ⊢
  generalize UInt8.ofNat (0x80 + n / 0x1000 % 0x40) = b at hb ⊢
  generalize UInt8.ofNat (0x80 + n / 0x40 % 0x40) = d at hd ⊢
  generalize UInt8.ofNat (0x80 + n % 0x40) = e at he ⊢
  have hp : quadValue a b d e = n := by
    unfold quadValue tailBits
    omega
  have hpair : isPair a b = false := by
    rw [← Bool.not_eq_true, isPair_iff]
    omega
  have htriple : isTriple a b d = false := by
    rw [← Bool.not_eq_true, isTriple_iff]
    omega
  have hquad : isQuad a b d e = true :=
    isQuad_iff.2 ⟨by omega, by omega, isTail_iff.2 (by omega), isTail_iff.2 (by omega),
      isTail_iff.2 (by omega), by omega, hp ▸ hvalid⟩
  rw [List.cons_append, List.cons_append, List.cons_append, List.cons_append,
    scan_quad hs hpair htriple hquad, hp]
  rfl

/-- A character's bytes are read as the character. -/
lemma scan_encodeChar (seen : List Char) (c : Char) (rest : Bytes) :
    scan seen (encodeChar c ++ rest) = scan (c :: seen) rest := by
  have hc : Char.ofNat c.toNat = c := Char.ofNat_toNat c
  have hv : c.toNat.isValidChar := c.valid
  generalize hn : c.toNat = n at hc hv
  have hlt : n < 0x110000 := by
    rcases hv with h | ⟨_, h⟩ <;> omega
  simp only [encodeChar, hn]
  split_ifs with h1 h2 h3
  · have ha : (UInt8.ofNat n).toNat = n := toNat_ofNat (by omega)
    rw [List.cons_append, scan_single (by rw [UInt8.lt_iff_toNat_lt, ha]; exact h1), ha, hc]
    rfl
  · rw [scan_pair_encoded seen (by omega) h2 rest, hc]
  · rw [scan_triple_encoded seen (by omega) h3 hv rest, hc]
  · rw [scan_quad_encoded seen (by omega) hlt hv rest, hc]

lemma scan_flatMap (seen cs : List Char) :
    scan seen (cs.flatMap encodeChar) = (cs.reverse ++ seen, []) := by
  induction cs generalizing seen with
  | nil => simp [scan]
  | cons c cs ih =>
    rw [List.flatMap_cons, scan_encodeChar, ih]
    simp

/-- A text is read back from its bytes. -/
@[simp] theorem decode_encode (s : String) : decode (encode s) = .ok s := by
  rw [decode, encode, scan_flatMap]
  simp

/-! ### Reading and writing -/

lemma toNat_ofNat_of_valid {n : Nat} (h : n.isValidChar) : (Char.ofNat n).toNat = n := by
  rw [Char.ofNat, dif_pos h]
  rfl

lemma isValidChar_of_lt {n : Nat} (h : n < 0xD800) : n.isValidChar := Or.inl h

lemma encodeChar_single {a : UInt8} (ha : a < 0x80) : encodeChar (Char.ofNat a.toNat) = [a] := by
  have hlt : a.toNat < 0x80 := UInt8.lt_iff_toNat_lt.1 ha
  simp only [encodeChar, toNat_ofNat_of_valid (isValidChar_of_lt (by omega : a.toNat < 0xD800))]
  rw [if_pos hlt, UInt8.ofNat_toNat]

lemma encodeChar_pair {a b : UInt8} (h : isPair a b = true) :
    encodeChar (Char.ofNat (pairValue a b)) = [a, b] := by
  obtain ⟨ha, ha', hb⟩ := isPair_iff.1 h
  obtain ⟨hb, hb'⟩ := isTail_iff.1 hb
  have hn : pairValue a b = (a.toNat - 0xC0) * 0x40 + (b.toNat - 0x80) := rfl
  generalize pairValue a b = n at hn
  simp only [encodeChar, toNat_ofNat_of_valid (isValidChar_of_lt (by omega : n < 0xD800))]
  rw [if_neg (by omega), if_pos (by omega), show 0xC0 + n / 0x40 = a.toNat by omega,
    show 0x80 + n % 0x40 = b.toNat by omega]
  simp

lemma encodeChar_triple {a b c : UInt8} (h : isTriple a b c = true) :
    encodeChar (Char.ofNat (tripleValue a b c)) = [a, b, c] := by
  obtain ⟨ha, ha', hb, hc, hlow, hv⟩ := isTriple_iff.1 h
  obtain ⟨hb, hb'⟩ := isTail_iff.1 hb
  obtain ⟨hc, hc'⟩ := isTail_iff.1 hc
  have hn : tripleValue a b c =
      ((a.toNat - 0xE0) * 0x40 + (b.toNat - 0x80)) * 0x40 + (c.toNat - 0x80) := rfl
  generalize tripleValue a b c = n at hn hlow hv
  simp only [encodeChar, toNat_ofNat_of_valid hv]
  rw [if_neg (by omega), if_neg (by omega), if_pos (by omega),
    show 0xE0 + n / 0x1000 = a.toNat by omega, show 0x80 + n / 0x40 % 0x40 = b.toNat by omega,
    show 0x80 + n % 0x40 = c.toNat by omega]
  simp

lemma encodeChar_quad {a b c d : UInt8} (h : isQuad a b c d = true) :
    encodeChar (Char.ofNat (quadValue a b c d)) = [a, b, c, d] := by
  obtain ⟨ha, ha', hb, hc, hd, hlow, hv⟩ := isQuad_iff.1 h
  obtain ⟨hb, hb'⟩ := isTail_iff.1 hb
  obtain ⟨hc, hc'⟩ := isTail_iff.1 hc
  obtain ⟨hd, hd'⟩ := isTail_iff.1 hd
  have hn : quadValue a b c d =
      (((a.toNat - 0xF0) * 0x40 + (b.toNat - 0x80)) * 0x40 + (c.toNat - 0x80)) * 0x40 +
        (d.toNat - 0x80) := rfl
  generalize quadValue a b c d = n at hn hlow hv
  simp only [encodeChar, toNat_ofNat_of_valid hv]
  rw [if_neg (by omega), if_neg (by omega), if_neg (by omega),
    show 0xF0 + n / 0x40000 = a.toNat by omega, show 0x80 + n / 0x1000 % 0x40 = b.toNat by omega,
    show 0x80 + n / 0x40 % 0x40 = c.toNat by omega, show 0x80 + n % 0x40 = d.toNat by omega]
  simp

lemma encode_of_scan {seen cs : List Char} {bytes : Bytes} (h : scan seen bytes = (cs, [])) :
    ∃ ds : List Char, cs = ds.reverse ++ seen ∧ ds.flatMap encodeChar = bytes := by
  fun_induction scan seen bytes with
  | case1 seen =>
    cases h
    exact ⟨[], rfl, rfl⟩
  | case2 seen a r ha ih =>
    obtain ⟨ds, rfl, hds⟩ := ih h
    refine ⟨.ofNat a.toNat :: ds, by simp, ?_⟩
    rw [List.flatMap_cons, hds, encodeChar_single ha]
    rfl
  | case4 seen a ha b r hb ih =>
    obtain ⟨ds, rfl, hds⟩ := ih h
    refine ⟨.ofNat (pairValue a b) :: ds, by simp, ?_⟩
    rw [List.flatMap_cons, hds, encodeChar_pair hb]
    rfl
  | case6 seen a ha b hb c r hc ih =>
    obtain ⟨ds, rfl, hds⟩ := ih h
    refine ⟨.ofNat (tripleValue a b c) :: ds, by simp, ?_⟩
    rw [List.flatMap_cons, hds, encodeChar_triple hc]
    rfl
  | case8 seen a ha b hb c hc d r hd ih =>
    obtain ⟨ds, rfl, hds⟩ := ih h
    refine ⟨.ofNat (quadValue a b c d) :: ds, by simp, ?_⟩
    rw [List.flatMap_cons, hds, encodeChar_quad hd]
    rfl
  | case3 | case5 | case7 | case9 => simp at h

/-- Bytes that are UTF-8 are the bytes of a text. -/
lemma exists_encode_of_scan {bytes : Bytes} (h : (scan [] bytes).2 = []) :
    ∃ s, bytes = encode s := by
  obtain ⟨ds, -, hds⟩ := encode_of_scan (Prod.ext rfl h : scan [] bytes = ((scan [] bytes).1, []))
  exact ⟨String.ofList ds, by simpa [encode] using hds.symm⟩

end PodAdmission.Utf8
