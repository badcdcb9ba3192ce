import Mathlib.Data.Nat.Digits.Defs
import Mathlib.Tactic.Common
import PodAdmission.Policy.RuntimeClass
import PodAdmission.Proofs.Text.Blank
import PodAdmission.Startup.Flags

/-!
# Values of flags

Which texts are values of a flag, and what they stand for: a port is a decimal numeral, with a sign
or without one, of a number that has 16 bits, and the name of a runtime class is what a text has
between the blanks at its ends.
-/

namespace PodAdmission

/-! ### Ports -/

namespace Setting

/-- Decimal digits of a number. -/
structure Numeral (digits : List Char) (n : Nat) : Prop where
  nonempty : digits ≠ []
  digit : ∀ c ∈ digits, c.isDigit = true
  number : Nat.ofDigitChars 10 digits 0 = n

/-- The text is a numeral with a sign or without one. -/
inductive Denotes (text : String) : Nat → Prop
  | bare {n : Nat} (h : Numeral text.toList n) : Denotes text n
  | plus {digits : List Char} {n : Nat} (htext : text.toList = '+' :: digits)
    (h : Numeral digits n) : Denotes text n
  | minus {digits : List Char} (htext : text.toList = '-' :: digits) (h : Numeral digits 0) :
    Denotes text 0

variable {limit value n : Nat} {k : Int} {tooLarge text : String} {cs : List Char}

lemma le_ofDigitChars (value : Nat) (cs : List Char) : value ≤ Nat.ofDigitChars 10 cs value := by
  rw [Nat.ofDigitChars_eq_ofDigitChars_zero]
  exact Nat.le_trans (Nat.le_mul_of_pos_left _ (Nat.pow_pos (by decide))) (Nat.le_add_right _ _)

/-- Digits are read up to a limit. -/
lemma readDigits_eq_ok_iff (hvalue : value ≤ limit) : readDigits limit value tooLarge cs = .ok n ↔
    (∀ c ∈ cs, c.isDigit = true) ∧ Nat.ofDigitChars 10 cs value = n ∧ n ≤ limit := by
  induction cs generalizing value with
  | nil =>
    simp [readDigits]
    rintro rfl
    exact hvalue
  | cons c cs ih =>
    have hnext : 10 * value + (c.toNat - '0'.toNat) = value * 10 + (c.toNat - 48) := by
      rw [Nat.mul_comm]
      rfl
    rw [readDigits, List.forall_mem_cons, Nat.ofDigitChars_cons, hnext]
    by_cases hdigit : c.isDigit = true
    · rw [if_pos hdigit]
      by_cases hle : value * 10 + (c.toNat - 48) ≤ limit
      · simp only [if_pos hle, ih hle, hdigit, true_and]
      · have hgrow := le_ofDigitChars (value * 10 + (c.toNat - 48)) cs
        simp only [if_neg hle]
        refine ⟨nofun, ?_⟩
        rintro ⟨-, rfl, hlimit⟩
        exact absurd (hgrow.trans hlimit) hle
    · simp [hdigit]

lemma readPort_eq_ok_iff_readInteger :
    readPort text = .ok n ↔ readInteger text = .ok (n : Int) ∧ n ≤ 65535 := by
  rw [readPort]
  cases readInteger text with
  | error why => simp
  | ok k =>
    by_cases hk : 0 ≤ k ∧ k ≤ 65535
    · simp only [if_pos hk, Except.ok.injEq]
      omega
    · simp only [if_neg hk, Except.ok.injEq, reduceCtorEq, false_iff]
      omega

lemma map_readDigits_eq_ok_iff {f : Nat → Int} (hcs : cs ≠ []) :
    (readDigits limit 0 tooLarge cs).map f = .ok k ↔ ∃ n, Numeral cs n ∧ n ≤ limit ∧ f n = k := by
  constructor
  · intro h
    cases hread : readDigits limit 0 tooLarge cs with
    | error why =>
      rw [hread] at h
      cases h
    | ok n =>
      rw [hread] at h
      obtain ⟨hdigit, hnumber, hle⟩ := (readDigits_eq_ok_iff (Nat.zero_le limit)).1 hread
      exact ⟨n, ⟨hcs, hdigit, hnumber⟩, hle, Except.ok.inj h⟩
  · rintro ⟨n, hn, hle, rfl⟩
    rw [(readDigits_eq_ok_iff (Nat.zero_le limit)).2 ⟨hn.digit, hn.number, hle⟩]
    rfl

lemma readInteger_plus (hcs : cs ≠ []) (htext : text.toList = '+' :: cs) :
    readInteger text = (readDigits 0x7fffffffffffffff 0 "number too large to fit in target type"
      cs).map Int.ofNat := by
  obtain ⟨c, cs, rfl⟩ := List.exists_cons_of_ne_nil hcs
  rw [readInteger.eq_def]
  simp only [htext]

lemma readInteger_minus (hcs : cs ≠ []) (htext : text.toList = '-' :: cs) :
    readInteger text = (readDigits 0x8000000000000000 0 "number too small to fit in target type"
      cs).map fun n : Nat => -(n : Int) := by
  obtain ⟨c, cs, rfl⟩ := List.exists_cons_of_ne_nil hcs
  rw [readInteger.eq_def]
  simp only [htext]
  cases readDigits 0x8000000000000000 0 "number too small to fit in target type" (c :: cs) <;> rfl

lemma readInteger_bare (hcs : text.toList ≠ []) (hplus : ∀ c ∈ text.toList.head?, c ≠ '+')
    (hminus : ∀ c ∈ text.toList.head?, c ≠ '-') :
    readInteger text = (readDigits 0x7fffffffffffffff 0 "number too large to fit in target type"
      text.toList).map Int.ofNat := by
  rw [readInteger.eq_def]
  generalize text.toList = cs at hcs hplus hminus
  obtain ⟨c, cs, rfl⟩ := List.exists_cons_of_ne_nil hcs
  have hplus : c ≠ '+' := hplus c rfl
  have hminus : c ≠ '-' := hminus c rfl
  split
  case h_6 => rfl
  all_goals simp_all

lemma denotes_of_readInteger (h : readInteger text = .ok (n : Int)) : Denotes text n := by
  have hread := h
  rw [readInteger.eq_def] at hread
  split at hread
  case h_1 => cases hread
  case h_2 => cases hread
  case h_3 => cases hread
  case h_4 digits hne htext =>
    obtain ⟨m, hm, -, hmn⟩ := (map_readDigits_eq_ok_iff hne).1 hread
    obtain rfl := Int.ofNat.inj hmn
    exact .plus htext hm
  case h_5 digits hne htext =>
    rw [readInteger_minus hne htext] at h
    obtain ⟨m, hm, -, hmn⟩ := (map_readDigits_eq_ok_iff hne).1 h
    obtain ⟨rfl, rfl⟩ : m = 0 ∧ n = 0 := by omega
    exact .minus htext hm
  case h_6 hne _ _ _ _ =>
    obtain ⟨m, hm, -, hmn⟩ := (map_readDigits_eq_ok_iff hne).1 hread
    obtain rfl := Int.ofNat.inj hmn
    exact .bare hm

lemma readInteger_of_denotes (h : Denotes text n) (hle : n ≤ 65535) :
    readInteger text = .ok (n : Int) := by
  cases h with
  | bare h =>
    have hhead (c : Char) (hc : c ∈ text.toList.head?) : c.isDigit = true :=
      h.digit c (List.mem_of_head? hc)
    rw [readInteger_bare h.nonempty]
    · exact (map_readDigits_eq_ok_iff h.nonempty).2 ⟨n, h, by omega, rfl⟩
    · rintro c hc rfl
      exact absurd (hhead _ hc) (by decide)
    · rintro c hc rfl
      exact absurd (hhead _ hc) (by decide)
  | plus htext h =>
    rw [readInteger_plus h.nonempty htext]
    exact (map_readDigits_eq_ok_iff h.nonempty).2 ⟨n, h, by omega, rfl⟩
  | minus htext h =>
    rw [readInteger_minus h.nonempty htext]
    exact (map_readDigits_eq_ok_iff h.nonempty).2 ⟨0, h, by omega, rfl⟩

/-- A port is a numeral of a number that has 16 bits. -/
theorem readPort_eq_ok_iff : readPort text = .ok n ↔ Denotes text n ∧ n ≤ 65535 := by
  rw [readPort_eq_ok_iff_readInteger]
  exact and_congr_left fun hle => ⟨denotes_of_readInteger, fun h => readInteger_of_denotes h hle⟩

end Setting

namespace Flag

variable {flag : Flag} {text : String} {x : Setting}

/-- The text is a value of the flag. -/
def Accepts (flag : Flag) (text : String) : Prop :=
  match flag.kind with
  | .path => text ≠ ""
  | .port => ∃ n ≤ 65535, Setting.Denotes text n
  | .text => True

lemma read_path_eq_ok_iff (hkind : flag.kind = .path) :
    Setting.read flag text = .ok x ↔ text ≠ "" ∧ x = .text text := by
  rw [Setting.read, hkind]
  by_cases h : text = ""
  · simp [h]
  · simpa [h] using eq_comm

lemma read_text_eq_ok_iff (hkind : flag.kind = .text) :
    Setting.read flag text = .ok x ↔ x = .text text := by
  rw [Setting.read, hkind]
  simpa using eq_comm

lemma read_port_eq_ok_iff (hkind : flag.kind = .port) :
    Setting.read flag text = .ok x ↔ ∃ n ≤ 65535, Setting.Denotes text n ∧ x = .port n := by
  have hiff : Setting.read flag text = .ok x ↔
      ∃ n, Setting.readPort text = .ok n ∧ x = .port n := by
    rw [Setting.read, hkind]
    cases Setting.readPort text with
    | error why => simp
    | ok n => simpa using eq_comm
  rw [hiff]
  refine exists_congr fun n => ?_
  rw [Setting.readPort_eq_ok_iff, and_assoc, and_left_comm]

/-- The values of a flag are the texts that are read for it. -/
theorem accepts_iff (flag : Flag) (text : String) :
    flag.Accepts text ↔ ∃ x, Setting.read flag text = .ok x := by
  rw [Accepts]
  cases hkind : flag.kind with
  | path => simp [read_path_eq_ok_iff hkind]
  | text => simp [read_text_eq_ok_iff hkind]
  | port =>
    simp only [read_port_eq_ok_iff hkind]
    constructor
    · rintro ⟨n, hle, hn⟩
      exact ⟨.port n, n, hle, hn, rfl⟩
    · rintro ⟨x, n, hle, hn, -⟩
      exact ⟨n, hle, hn⟩

end Flag

/-! ### Runtime classes -/

namespace RuntimeClass

/-- The name is what a text has between the blanks at its ends, or the default one if that is
nothing. So it is not blank, and it stands for itself. -/
structure Resolves (text name : String) : Prop where
  core : ∃ core, Text.Core text.toList core ∧
    name = if core = [] then defaultName else String.ofList core
  solid : ∃ c ∈ name.toList, isBlank c = false
  settled : resolve (some name) = name

variable {text : String}

lemma resolve_blank (h : Text.trim text = "") : resolve (some text) = defaultName := by
  rw [resolve]
  simp only [h]
  rfl

lemma resolve_solid (h : Text.trim text ≠ "") : resolve (some text) = Text.trim text := by
  rw [resolve]
  exact if_neg (by simpa using h)

theorem resolves_resolve (text : String) : Resolves text (resolve (some text)) := by
  have hcore := Text.core_trim text
  by_cases h : Text.trim text = ""
  · rw [resolve_blank h]
    refine ⟨⟨_, hcore, ?_⟩, ⟨'r', by decide, rfl⟩, rfl⟩
    rw [h]
    rfl
  · have hne : (Text.trim text).toList ≠ [] := by simpa using h
    obtain ⟨c, cs, hcs⟩ := List.exists_cons_of_ne_nil hne
    rw [resolve_solid h]
    refine ⟨⟨_, hcore, ?_⟩, ⟨c, ?_, hcore.head c ?_⟩, ?_⟩
    · rw [if_neg hne, String.ofList_toList]
    · rw [hcs]
      exact List.mem_cons_self
    · rw [hcs]
      rfl
    · have htrim := Text.trim_trim text
      rw [resolve_solid (by rwa [htrim]), htrim]

end RuntimeClass

end PodAdmission
