import Mathlib.Data.List.TakeWhile
import Mathlib.Tactic.Common
import PodAdmission.Http
import PodAdmission.Proofs.Text.Blank
import PodAdmission.Proofs.Text.Utf8

/-!
# Declared media types

A header value that is shown as text is one byte a character. It declares JSON if it is the media
type in letters of either case, with blanks around it and perhaps parameters behind a semicolon;
that is what the check of a request's content type finds out.
-/

namespace PodAdmission

open Ascii

/-! ### Bytes as characters -/

namespace Ascii

abbrev semicolon : UInt8 := 0x3B

/-- The character that a byte stands for. -/
def charOf (b : UInt8) : Char :=
  Char.ofNat b.toNat

/-- The text of bytes, each of them a character. -/
def text (bytes : Bytes) : String :=
  String.ofList (bytes.map charOf)

/-- A blank of a header value. -/
def IsBlankByte (b : UInt8) : Prop :=
  b = space ∨ b = tab

lemma toNat_charOf (b : UInt8) : (charOf b).toNat = b.toNat :=
  Utf8.toNat_ofNat_of_valid (Utf8.isValidChar_of_lt (by have := b.toNat_lt; omega))

lemma charOf_eq_semicolon {b : UInt8} : charOf b = ';' ↔ b = semicolon := by
  rw [← Char.toNat_inj, toNat_charOf, ← UInt8.toNat_inj]
  rfl

lemma isBlank_charOf {b : UInt8} (h : HttpRequest.isVisible b = true) :
    isBlank (charOf b) = true ↔ IsBlankByte b := by
  simp only [HttpRequest.isVisible, Bool.or_eq_true, Bool.and_eq_true, decide_eq_true_eq,
    beq_iff_eq, UInt8.le_iff_toNat_le, ← UInt8.toNat_inj, UInt8.toNat_ofNat] at h
  simp only [isBlank, toNat_charOf, IsBlankByte, Bool.or_eq_true, Bool.and_eq_true,
    decide_eq_true_eq, beq_iff_eq, ← UInt8.toNat_inj, UInt8.toNat_ofNat]
  omega

lemma isBlank_of_isBlankByte {b : UInt8} (h : IsBlankByte b) : isBlank (charOf b) = true := by
  rcases h with rfl | rfl <;> decide

end Ascii

namespace Utf8

lemma scan_ascii {bytes : Bytes} (h : ∀ b ∈ bytes, b < 0x80) (seen : List Char) :
    scan seen bytes = ((bytes.map charOf).reverse ++ seen, []) := by
  induction bytes generalizing seen with
  | nil => simp [scan]
  | cons b rest ih =>
    rw [scan_single (h b List.mem_cons_self), ih fun c hc => h c (List.mem_cons_of_mem b hc)]
    simp [charOf]

lemma display_ascii {bytes : Bytes} (h : ∀ b ∈ bytes, b < 0x80) :
    display bytes = Ascii.text bytes := by
  rw [display, Ascii.text]
  cases bytes with
  | nil => rfl
  | cons b rest => simp [display.go, scan_ascii h]

end Utf8

/-! ### The media type of JSON -/

/-- A header value that declares JSON. -/
def IsJsonMediaType (value : Bytes) : Prop :=
  ∃ lead mediaType trail parameters : Bytes,
    value = lead ++ mediaType ++ trail ++ parameters ∧
    (∀ b ∈ lead, IsBlankByte b) ∧ (∀ b ∈ trail, IsBlankByte b) ∧
    sameIgnoringCase (Ascii.text mediaType) "application/json" = true ∧
    ∀ b ∈ parameters.head?, b = semicolon

lemma text_toList (value : Bytes) : (Ascii.text value).toList = value.map charOf :=
  String.toList_ofList

lemma takeWhile_text (value : Bytes) :
    (Ascii.text value).toList.takeWhile (· != ';') =
      (value.takeWhile fun b => charOf b != ';').map charOf := by
  rw [text_toList, List.takeWhile_map]
  rfl

/-- The characters of a media type that is JSON are those of its name, up to their case. -/
lemma lowerChar_mem {mediaType : Bytes}
    (h : sameIgnoringCase (Ascii.text mediaType) "application/json" = true) :
    ∀ c ∈ mediaType.map charOf, lowerChar c ∈ "application/json".toList := by
  intro c hc
  rw [sameIgnoringCase, text_toList, beq_iff_eq] at h
  have hmem : lowerChar c ∈ (mediaType.map charOf).map lowerChar := List.mem_map_of_mem hc
  rw [h] at hmem
  exact hmem

/-- A letter of the name of JSON in either case is no blank and no semicolon. -/
lemma not_isBlank_of_lowerChar {c : Char} (h : lowerChar c ∈ "application/json".toList) :
    isBlank c = false ∧ c ≠ ';' := by
  by_cases hc : 'A' ≤ c ∧ c ≤ 'Z'
  · have hlow : 65 ≤ c.toNat := hc.1
    have hhigh : c.toNat ≤ 90 := hc.2
    constructor
    · simp [isBlank]
      omega
    · rintro rfl
      exact absurd hlow (by decide)
  · rw [lowerChar, if_neg hc] at h
    have hall : "application/json".toList.all (fun c => !isBlank c && c != ';') = true := by decide
    simpa using List.all_eq_true.1 hall c h

lemma isBlank_map_charOf {bytes : Bytes} (h : ∀ b ∈ bytes, IsBlankByte b) :
    ∀ c ∈ bytes.map charOf, isBlank c = true := by
  intro c hc
  obtain ⟨b, hb, rfl⟩ := List.mem_map.1 hc
  exact isBlank_of_isBlankByte (h b hb)

lemma isBlankByte_of_map {bytes : Bytes}
    (hvisible : ∀ b ∈ bytes, HttpRequest.isVisible b = true)
    (h : ∀ c ∈ bytes.map charOf, isBlank c = true) : ∀ b ∈ bytes, IsBlankByte b :=
  fun b hb => (isBlank_charOf (hvisible b hb)).1 (h _ (List.mem_map_of_mem hb))

/-- The part of a value before its first semicolon. -/
lemma takeWhile_append_parameters {front parameters : Bytes}
    (hfront : ∀ b ∈ front, (charOf b != ';') = true)
    (hparameters : ∀ b ∈ parameters.head?, b = semicolon) :
    (front ++ parameters).takeWhile (fun b => charOf b != ';') = front := by
  rw [List.takeWhile_append_of_pos hfront]
  cases parameters with
  | nil => simp
  | cons b rest =>
    have hb : charOf b = ';' := charOf_eq_semicolon.2 (hparameters b rfl)
    rw [List.takeWhile_cons_of_neg (by simp [hb]), List.append_nil]

/-- The media type in front of the parameters, without blanks around it. -/
def declaredType (value : Bytes) : String :=
  Text.trim (String.ofList ((Ascii.text value).toList.takeWhile (· != ';')))

lemma isJsonMediaType_of_same {value : Bytes}
    (hvisible : ∀ b ∈ value, HttpRequest.isVisible b = true)
    (h : sameIgnoringCase (declaredType value) "application/json" = true) :
    IsJsonMediaType value := by
  rw [declaredType, takeWhile_text] at h
  obtain ⟨lead, trail, hsplit, hlead, htrail⟩ :=
    Text.exists_trim_split ((value.takeWhile fun b => charOf b != ';').map charOf)
  obtain ⟨front, after, hfront, hcore, rfl⟩ := List.map_eq_append_iff.1 hsplit
  obtain ⟨before, mediaType, rfl, rfl, hmedia⟩ := List.map_eq_append_iff.1 hcore
  have hmem : before ++ mediaType ++ after ⊆ value := by
    rw [← hfront]
    exact List.takeWhile_subset _
  refine ⟨before, mediaType, after, value.dropWhile fun b => charOf b != ';', ?_, ?_, ?_, ?_, ?_⟩
  · exact List.takeWhile_append_dropWhile.symm.trans (by rw [hfront])
  · exact isBlankByte_of_map (fun b hb => hvisible b (hmem (by simp [hb]))) hlead
  · exact isBlankByte_of_map (fun b hb => hvisible b (hmem (by simp [hb]))) htrail
  · rw [String.toList_inj.1 ((text_toList mediaType).trans hmedia)]
    exact h
  · intro b hb
    have hnot := List.head?_dropWhile_not (fun b => charOf b != ';') value
    rw [hb] at hnot
    exact charOf_eq_semicolon.1 (by simpa using hnot)

lemma same_of_isJsonMediaType {value : Bytes} (h : IsJsonMediaType value) :
    sameIgnoringCase (declaredType value) "application/json" = true := by
  obtain ⟨lead, mediaType, trail, parameters, rfl, hlead, htrail, hmedia, hparameters⟩ := h
  have hcore (c : Char) (hc : c ∈ mediaType.map charOf) : isBlank c = false ∧ c ≠ ';' :=
    not_isBlank_of_lowerChar (lowerChar_mem hmedia c hc)
  have hfront : ∀ b ∈ lead ++ mediaType ++ trail, (charOf b != ';') = true := by
    intro b hb
    rw [bne_iff_ne]
    rcases List.mem_append.1 hb with hb | hb
    · rcases List.mem_append.1 hb with hb | hb
      · rcases hlead b hb with rfl | rfl <;> decide
      · exact (hcore _ (List.mem_map_of_mem hb)).2
    · rcases htrail b hb with rfl | rfl <;> decide
  have hne : mediaType.map charOf ≠ [] := by
    intro hnil
    rw [Ascii.text, hnil] at hmedia
    exact absurd hmedia (by decide)
  rw [declaredType, takeWhile_text, takeWhile_append_parameters hfront hparameters, List.map_append,
    List.map_append, Text.trim_of_split (isBlank_map_charOf hlead) (isBlank_map_charOf htrail) hne
      (fun c hc => (hcore c (List.mem_of_mem_head? hc)).1)
      (fun c hc => (hcore c (List.mem_of_getLast? hc)).1)]
  exact hmedia

/-- A value that is shown as text passes the check of a content type just if it declares JSON. -/
theorem isJsonMediaType_iff {value : Bytes}
    (hvisible : ∀ b ∈ value, HttpRequest.isVisible b = true) :
    sameIgnoringCase (declaredType value) "application/json" = true ↔ IsJsonMediaType value :=
  ⟨isJsonMediaType_of_same hvisible, same_of_isJsonMediaType⟩

end PodAdmission
