import PodAdmission.Proofs.Text.Utf8
import PodAdmission.Text.Base64

/-!
# Base64 read back

The text that is written for a byte sequence stands for that sequence, however many bytes there are
in its last group.
-/

namespace PodAdmission.Base64

variable {n i j k l offset : Nat} {a b c : UInt8} {seen : Bytes}

/-! ### Symbols -/

lemma bits?_symbol (h : n < 64) : bits? (symbol n) = some n := by
  have hall : ∀ n : Fin 64, bits? (symbol n) = some n.1 := by decide
  exact hall ⟨n, h⟩

lemma symbol_ne_padding (h : n < 64) : symbol n ≠ padding := by
  intro heq
  have hbits := bits?_symbol h
  rw [heq] at hbits
  cases hbits

/-- Symbols are no control characters, no quotes and no backslashes. -/
lemma symbol_plain (h : n < 64) :
    symbol n < 0x80 ∧ ¬ symbol n < 0x20 ∧ symbol n ≠ 0x22 ∧ symbol n ≠ 0x5C := by
  have hall : ∀ n : Fin 64,
      symbol n < 0x80 ∧ ¬ symbol n < 0x20 ∧ symbol n ≠ 0x22 ∧ symbol n ≠ 0x5C := by decide
  exact hall ⟨n, h⟩

lemma firstBad_symbols {symbols : List Nat} (h : ∀ n ∈ symbols, n < 64) (offset : Nat) :
    firstBad offset (symbols.map symbol) = .ok () := by
  induction symbols generalizing offset with
  | nil => rfl
  | cons n symbols ih =>
    obtain ⟨hn, hrest⟩ := List.forall_mem_cons.1 h
    rw [List.map_cons, firstBad, bits?_symbol hn]
    exact ih hrest (offset + 1)

/-- Three bytes are what their four symbols stand for. -/
lemma ofNat_first (a b : UInt8) :
    UInt8.ofNat (a.toNat / 4 * 4 + (a.toNat % 4 * 16 + b.toNat / 16) / 16) = a := by
  have ha := a.toNat_lt
  have hb := b.toNat_lt
  rw [← UInt8.toNat_inj, UInt8.toNat_ofNat']
  omega

lemma ofNat_second (a b c : UInt8) :
    UInt8.ofNat ((a.toNat % 4 * 16 + b.toNat / 16) % 16 * 16 +
      (b.toNat % 16 * 4 + c.toNat / 64) / 4) = b := by
  have hb := b.toNat_lt
  have hc := c.toNat_lt
  rw [← UInt8.toNat_inj, UInt8.toNat_ofNat']
  omega

lemma ofNat_third (b c : UInt8) :
    UInt8.ofNat ((b.toNat % 16 * 4 + c.toNat / 64) % 4 * 64 + c.toNat % 64) = c := by
  have hc := c.toNat_lt
  rw [← UInt8.toNat_inj, UInt8.toNat_ofNat']
  omega

/-! ### The last group -/

/-- Symbols with padding behind them are taken for what they are. -/
lemma lastSymbols_padded (symbols : List Nat) (h : ∀ n ∈ symbols, n < 64)
    (htwo : 2 ≤ symbols.length) (pads offset : Nat) :
    lastSymbols offset (symbols.map symbol ++ List.replicate pads padding) =
      .ok (symbols.map symbol, pads) := by
  have htake : (symbols.map symbol ++ List.replicate pads padding).takeWhile (· ≠ padding) =
      symbols.map symbol := by
    rw [List.takeWhile_append_of_pos]
    · cases pads <;> simp [List.replicate_succ]
    · intro b hb
      obtain ⟨n, hn, rfl⟩ := List.mem_map.1 hb
      simpa using symbol_ne_padding (h n hn)
  rw [lastSymbols, htake, List.drop_left, firstBad_symbols h]
  cases pads with
  | zero => rfl
  | succ pads =>
    have hlength : ¬ (symbols.map symbol).length < 2 := by
      rw [List.length_map]
      omega
    have hpads : (List.replicate (pads + 1) padding).any (· ≠ padding) = false := by simp
    simp only [hlength, hpads, List.replicate_succ_ne_nil, Bool.false_eq_true, or_self, if_false,
      List.length_replicate]

/-- The last group of one byte. -/
lemma decodeLast_single (hi : i < 64) (hj : j < 64) (hbits : j % 16 = 0) (offset : Nat) :
    decodeLast offset [symbol i, symbol j, padding, padding] =
      .ok [UInt8.ofNat (i * 4 + j / 16)] := by
  have hlast : lastSymbols offset [symbol i, symbol j, padding, padding] =
      .ok ([symbol i, symbol j], 2) :=
    lastSymbols_padded [i, j] (by simp [hi, hj]) (by simp) 2 offset
  simp [decodeLast, hlast, bits?_symbol hi, bits?_symbol hj, hbits]

/-- The last group of two bytes. -/
lemma decodeLast_pair (hi : i < 64) (hj : j < 64) (hk : k < 64) (hbits : k % 4 = 0)
    (offset : Nat) : decodeLast offset [symbol i, symbol j, symbol k, padding] =
      .ok [UInt8.ofNat (i * 4 + j / 16), UInt8.ofNat (j % 16 * 16 + k / 4)] := by
  have hlast : lastSymbols offset [symbol i, symbol j, symbol k, padding] =
      .ok ([symbol i, symbol j, symbol k], 1) :=
    lastSymbols_padded [i, j, k] (by simp [hi, hj, hk]) (by simp) 1 offset
  simp [decodeLast, hlast, bits?_symbol hi, bits?_symbol hj, bits?_symbol hk, hbits]

/-- A last group that is full. -/
lemma decodeLast_triple (hi : i < 64) (hj : j < 64) (hk : k < 64) (hl : l < 64) (offset : Nat) :
    decodeLast offset [symbol i, symbol j, symbol k, symbol l] =
      .ok [UInt8.ofNat (i * 4 + j / 16), UInt8.ofNat (j % 16 * 16 + k / 4),
        UInt8.ofNat (k % 4 * 64 + l)] := by
  have hlast : lastSymbols offset [symbol i, symbol j, symbol k, symbol l] =
      .ok ([symbol i, symbol j, symbol k, symbol l], 0) :=
    lastSymbols_padded [i, j, k, l] (by simp [hi, hj, hk, hl]) (by simp) 0 offset
  simp [decodeLast, hlast, bits?_symbol hi, bits?_symbol hj, bits?_symbol hk, bits?_symbol hl]

/-! ### Whole texts -/

lemma encode_ne_nil {bytes : Bytes} (h : bytes ≠ []) : encode bytes ≠ [] := by
  match bytes with
  | [] => exact absurd rfl h
  | [_] => simp [encode]
  | [_, _] => simp [encode]
  | _ :: _ :: _ :: _ => simp [encode]

/-- A group that another one follows. -/
lemma decodeGroups_cons (hi : i < 64) (hj : j < 64) (hk : k < 64) (hl : l < 64) (offset : Nat)
    (seen : Bytes) {more : Bytes} (hmore : more ≠ []) :
    decodeGroups offset seen (symbol i :: symbol j :: symbol k :: symbol l :: more) =
      decodeGroups (offset + 4)
        (UInt8.ofNat (k % 4 * 64 + l) :: UInt8.ofNat (j % 16 * 16 + k / 4) ::
          UInt8.ofNat (i * 4 + j / 16) :: seen) more := by
  cases more with
  | nil => exact absurd rfl hmore
  | cons e rest =>
    rw [decodeGroups, bits?_symbol hi, bits?_symbol hj, bits?_symbol hk, bits?_symbol hl]

/-- A group that no other one follows. -/
lemma decodeGroups_last {w x y z : UInt8} {last : Bytes}
    (h : decodeLast offset [w, x, y, z] = .ok last) (seen : Bytes) :
    decodeGroups offset seen [w, x, y, z] = .ok (seen.reverse ++ last) := by
  rw [decodeGroups, h]
  · rfl
  · simp

lemma decodeGroups_encode {bytes : Bytes} (h : bytes ≠ []) (offset : Nat) (seen : Bytes) :
    decodeGroups offset seen (encode bytes) = .ok (seen.reverse ++ bytes) := by
  induction bytes using encode.induct generalizing offset seen with
  | case1 => exact absurd rfl h
  | case2 a =>
    have ha := a.toNat_lt
    have hlast := decodeLast_single (i := a.toNat / 4) (j := a.toNat % 4 * 16) (by omega)
      (by omega) (by omega) offset
    have hfirst := ofNat_first a 0
    rw [UInt8.toNat_zero, Nat.zero_div, Nat.add_zero] at hfirst
    rw [hfirst] at hlast
    exact decodeGroups_last hlast seen
  | case3 a b =>
    have ha := a.toNat_lt
    have hb := b.toNat_lt
    have hlast := decodeLast_pair (i := a.toNat / 4) (j := a.toNat % 4 * 16 + b.toNat / 16)
      (k := b.toNat % 16 * 4) (by omega) (by omega) (by omega) (by omega) offset
    have hsecond := ofNat_second a b 0
    rw [UInt8.toNat_zero, Nat.zero_div, Nat.add_zero] at hsecond
    rw [ofNat_first, hsecond] at hlast
    exact decodeGroups_last hlast seen
  | case4 a b c rest ih =>
    have ha := a.toNat_lt
    have hb := b.toNat_lt
    have hc := c.toNat_lt
    cases rest with
    | nil =>
      have hlast := decodeLast_triple (i := a.toNat / 4) (j := a.toNat % 4 * 16 + b.toNat / 16)
        (k := b.toNat % 16 * 4 + c.toNat / 64) (l := c.toNat % 64) (by omega) (by omega)
        (by omega) (by omega) offset
      rw [ofNat_first, ofNat_second, ofNat_third] at hlast
      exact decodeGroups_last hlast seen
    | cons d rest =>
      rw [encode, decodeGroups_cons (by omega) (by omega) (by omega) (by omega) _ _
        (encode_ne_nil (List.cons_ne_nil d rest)), ofNat_first, ofNat_second, ofNat_third,
        ih (List.cons_ne_nil d rest)]
      simp

lemma length_encode (bytes : Bytes) : (encode bytes).length % 4 = 0 := by
  induction bytes using encode.induct with
  | case1 => simp [encode]
  | case2 a => simp [encode]
  | case3 a b => simp [encode]
  | case4 a b c rest ih =>
    simp only [encode, List.length_cons]
    omega

/-- The text of a byte sequence stands for that sequence. -/
theorem decode_encode (bytes : Bytes) : decode (encode bytes) = .ok bytes := by
  by_cases h : bytes = []
  · subst h
    rfl
  · have hlength := length_encode bytes
    have hgroups := decodeGroups_encode h 0 []
    rw [decode, if_neg (encode_ne_nil h)]
    split
    · rw [if_neg (by omega)]
      exact hgroups
    · rename_i hnone
      exact absurd (List.getLast?_eq_none_iff.1 hnone) (encode_ne_nil h)

/-- What is written is made of symbols and padding. -/
lemma plain_encode (bytes : Bytes) :
    ∀ b ∈ encode bytes, b < 0x80 ∧ ¬ b < 0x20 ∧ b ≠ 0x22 ∧ b ≠ 0x5C := by
  have hpadding : padding < 0x80 ∧ ¬ padding < 0x20 ∧ padding ≠ 0x22 ∧ padding ≠ 0x5C := by decide
  induction bytes using encode.induct with
  | case1 => simp [encode]
  | case2 a =>
    have ha := a.toNat_lt
    simp only [encode, List.forall_mem_cons]
    exact ⟨symbol_plain (by omega), symbol_plain (by omega), hpadding, hpadding, by simp⟩
  | case3 a b =>
    have ha := a.toNat_lt
    have hb := b.toNat_lt
    simp only [encode, List.forall_mem_cons]
    exact ⟨symbol_plain (by omega), symbol_plain (by omega), symbol_plain (by omega), hpadding,
      by simp⟩
  | case4 a b c rest ih =>
    have ha := a.toNat_lt
    have hb := b.toNat_lt
    have hc := c.toNat_lt
    simp only [encode, List.forall_mem_cons]
    exact ⟨symbol_plain (by omega), symbol_plain (by omega), symbol_plain (by omega),
      symbol_plain (by omega), ih⟩

end PodAdmission.Base64
