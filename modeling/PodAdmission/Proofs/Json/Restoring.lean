import PodAdmission.Proofs.Json.Settling

/-!
# Written values read back

A reader restores a value from a text if the text is lexically a value other than `null` and the
reader makes the value of it. Wherever the text stands then, and however optional the value is
there, the value is what is read.
-/

namespace PodAdmission.Reader

open Ascii Json

variable {α : Type} {read : Bytes → Read α} {t : Bytes} {a : α} {D : Document}

/-- The text is lexically a value other than `null`, and is read as what is given. -/
structure Restores (read : Bytes → Read α) (t : Bytes) (a : α) : Prop where
  lexical : Lexical t
  given : t ≠ nullWord
  taken_eq : taken read t = some a

lemma Restores.map {β : Type} (h : Restores read t a) (f : α → β) :
    Restores (fun bytes => (read bytes).map fun (a, r) => (f a, r)) t (f a) := by
  refine ⟨h.lexical, h.given, ?_⟩
  rw [taken_map, h.taken_eq]
  rfl

/-- A value that may be left out is restored if it is there. -/
lemma Restores.optional (hread : Settles read) (h : Restores read t a) :
    taken (readOptional read) t = some (some a) := by
  rw [(reads_readOptional hread h.lexical h.given).taken_eq, h.taken_eq]
  rfl

/-- No other document is spelled `null`. -/
lemma ne_nullWord_of_spells (h : D.Spells t) (hD : D ≠ .null) : t ≠ nullWord := by
  rintro rfl
  generalize ht : nullWord = t at h
  cases h with
  | null => exact hD rfl
  | number h =>
    obtain ⟨b, r, rfl, hb⟩ := numeral_eq_cons h
    obtain ⟨rfl, -⟩ := List.cons.inj ht
    cases hb
  | _ => exact absurd (List.cons.inj ht).1 (by decide)

/-- What a reader makes of a document it makes of every text of it. -/
lemma restores_of_agrees {value : Document → Option α} (hread : Agrees read value)
    (hD : D.Spells t) (hne : D ≠ .null) (h : value D = some a) : Restores read t a := by
  have hreads : Reads read t (value D) := hread D t hD
  exact ⟨hD.lexical, ne_nullWord_of_spells hD hne, hreads.taken_eq.trans h⟩

lemma restores_text (wanted : String) {accept : Json → Except Cause α} {s : String}
    (h : accept (.text s) = .ok a) : Restores (readAs wanted accept) (writeText s) a := by
  refine restores_of_agrees (agrees_readAs wanted accept)
    (.text (spelled_flatMap (Utf8.encode s))) (by simp) ?_
  simp [Document.leaf?, h, Except.toOption]

lemma restores_flag (b : Bool) : Restores (readAs "a boolean" acceptBool) (writeBool b) b := by
  cases b with
  | false => exact restores_of_agrees (agrees_readAs _ _) .no (by simp) rfl
  | true => exact restores_of_agrees (agrees_readAs _ _) .yes (by simp) rfl

/-- The own text of a value is restored if it is UTF-8. -/
lemma restores_raw {s : String} (ht : Lexical (Utf8.encode s)) (hne : Utf8.encode s ≠ nullWord) :
    Restores readRaw (Utf8.encode s) (Utf8.encode s) :=
  ⟨ht, hne, (reads_readRaw_encode ht).taken_eq⟩

/-- A whole text is read as the value that is restored from it. -/
lemma readWhole_of_restores (hread : Settles read) (h : Restores read t a) :
    readWhole read t = .ok a := by
  have hyields := hread.yields h.lexical delimited_nil
  rw [List.append_nil, h.taken_eq] at hyields
  have hwhole := yields_readWhole blank_nil hyields
  cases hok : readWhole read t with
  | error e =>
    rw [hok] at hwhole
    cases hwhole
  | ok b =>
    rw [hok] at hwhole
    exact congrArg Except.ok (Option.some.inj hwhole)

/-! ### Objects -/

/-- The members of a written object, as they are spelled. -/
def spelledMembers (members : List (String × Bytes)) : List (Bytes × Bytes) :=
  members.map fun (k, v) => ((Utf8.encode k).flatMap escapeByte, v)

/-- A written object is lexically an object. -/
lemma parts_objectOf {members : List (String × Bytes)} (h : ∀ m ∈ members, Lexical m.2) :
    ∃ u, objectOf members = openObject :: u ∧
      Parts closeObject (Member Lexical.Item) true (spelledMembers members) u := by
  refine ⟨_, rfl, Parts.map (parts_separated fun m hm => ?_)⟩
  have hkey := (spelled_flatMap (Utf8.encode m.1)).content
  have hmember := Member.mk hkey blank_nil blank_nil (P := Lexical.Item) ⟨rfl, h m hm⟩
  simpa [memberOf, writeText] using hmember

/-- Written members are read one after the other under their keys. -/
lemma foldlM_spelledMembers {σ : Type} (answer : σ → String → Bytes → Option σ)
    (members : List (String × Bytes)) (state : σ) :
    (spelledMembers members).foldlM (memberStep answer) state =
      members.foldlM (fun state m => answer state m.1 m.2) state := by
  rw [spelledMembers, List.foldlM_map]
  congr 1
  funext state m
  rw [memberStep, textOf?_spelled (spelled_flatMap (Utf8.encode m.1)), Option.bind_some]

end PodAdmission.Reader
