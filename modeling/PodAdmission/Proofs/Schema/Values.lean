import PodAdmission.Proofs.Schema.Reading

/-!
# Data read back

`Shape.ofJson?` says what a reader makes of the text of a value against a shape, without the text.
It is what is read of the document that the value is written as.
-/

namespace PodAdmission

open Json Reader

namespace Shape

/-- What comes back of a text. -/
def textOfJson? (j : Json) : Option String :=
  j.rereadLeaf?.bind fun v => (acceptText v).toOption

/-- What comes back of a field that may be left out. -/
def optionalOfJson? {α : Type} (ofJson? : Json → Option α) : Json → Option (Option α)
  | .null => some none
  | j => (ofJson? j).map some

/-- What a member of an object adds to a record. -/
def ofMember? (fixed : List (String × String)) (fields : List (String × (Json → Option Datum)))
    (made : Record) (m : String × Json) : Option Record :=
  match Entries.get? m.1 fields with
  | some ofJson? =>
    (optionalOfJson? ofJson? m.2).map fun
      | some d => Entries.insert m.1 d made
      | none => Entries.erase m.1 made
  | none =>
    match Entries.get? m.1 fixed with
    | some value => if textOfJson? m.2 = some value then some made else none
    | none => some made

/-- What comes back of a list. -/
def itemsOfJson? (ofJson? : Nat → Json → Option Datum) (depth : Nat) (j : Json) :
    Option (List Datum) :=
  match depth, j with
  | depth + 1, .list items => items.mapM (ofJson? depth)
  | _, _ => none

/-- What comes back of a string map. -/
def entriesOfJson? (ofJson? : Nat → Json → Option Datum) (depth : Nat) (j : Json) :
    Option Record :=
  match depth, j with
  | depth + 1, .object members => members.foldlM (addMember? (ofJson? depth)) []
  | _, _ => none

/-- What comes back of a record, the fields of which come back as given. -/
def recordOfJson? (fixed : List (String × String))
    (fields : Nat → List (String × (Json → Option Datum))) (depth : Nat) (j : Json) :
    Option Record :=
  match depth, j with
  | depth + 1, .object members => members.foldlM (ofMember? fixed (fields depth)) []
  | _, _ => none

mutual

/-- What a reader makes of the text of a value against a shape. -/
def ofJson? : Shape → (depth : Nat) → Json → Option Datum
  | .text, _, j => (textOfJson? j).map .text
  | .flag, _, j => (j.rereadLeaf?.bind fun v => (acceptBool v).toOption).map .flag
  | .int32, _, j => j.rereadLeaf?.bind fun v => (acceptInt32 v).toOption
  | .int64, _, j => j.rereadLeaf?.bind fun v => (acceptInt64 v).toOption
  | .intOrText, _, j => j.rereadLeaf?.bind fun v => (acceptIntOrText v).toOption
  | .time, _, j => j.rereadLeaf?.bind fun v => (acceptTime v).toOption
  | .free, depth, j => (j.reread? (some Json.read) depth).map .free
  | .list item, depth, j => (itemsOfJson? (ofJson? item) depth j).map .list
  | .dict item, depth, j => (entriesOfJson? (ofJson? item) depth j).map .record
  | .record _ fields, depth, j =>
    (recordOfJson? [] (fieldsOfJson? fields) depth j).map fun given =>
      .record (complete fields given)

/-- What readers make of the fields of a record. -/
def fieldsOfJson? : List (String × Presence × Shape) → (depth : Nat) →
    List (String × (Json → Option Datum))
  | [], _ => []
  | (name, _, shape) :: rest, depth => (name, ofJson? shape depth) :: fieldsOfJson? rest depth

end

lemma get?_fieldsOfJson? (fields : List (String × Presence × Shape)) (depth : Nat)
    (name : String) :
    Entries.get? name (fieldsOfJson? fields depth) =
      (Entries.get? name fields).map fun f => ofJson? f.2 depth := by
  induction fields with
  | nil => rfl
  | cons f fields ih =>
    obtain ⟨l, presence, shape⟩ := f
    rw [fieldsOfJson?, Entries.get?, Entries.get?]
    split_ifs
    · rfl
    · exact ih

/-! ### Values as documents -/

variable {free : FreeReading}

lemma text?_document (j : Json) : j.document.text? = textOfJson? j := by
  rw [Document.text?, Document.leaf?_document, textOfJson?]

lemma optional?_document {α : Type} {value? : Document → Option α} {ofJson? : Json → Option α}
    {j : Json} (h : value? j.document = ofJson? j) :
    Document.optional? value? j.document = optionalOfJson? ofJson? j := by
  cases j with
  | null => rfl
  | _ => exact congrArg (Option.map some) h

lemma items?_document {value? : Nat → Document → Option Datum} {ofJson? : Nat → Json → Option Datum}
    (h : ∀ depth (j : Json), value? depth j.document = ofJson? depth j) (depth : Nat) (j : Json) :
    j.document.items? value? depth = itemsOfJson? ofJson? depth j := by
  cases j with
  | list items =>
    cases depth with
    | zero => rfl
    | succ depth =>
      rw [document_list, Document.items?, itemsOfJson?, List.mapM_map]
      exact mapM_congr fun x _ => h depth x
  | _ => cases depth <;> rfl

lemma entries?_document {value? : Nat → Document → Option Datum}
    {ofJson? : Nat → Json → Option Datum}
    (h : ∀ depth (j : Json), value? depth j.document = ofJson? depth j) (depth : Nat) (j : Json) :
    j.document.entries? value? depth = entriesOfJson? ofJson? depth j := by
  cases j with
  | object members =>
    cases depth with
    | zero => rfl
    | succ depth =>
      rw [document_object, Document.entries?, entriesOfJson?, List.foldlM_map]
      exact foldlM_congr (fun m _ made => by rw [addMember?, addMember?, h depth m.2]) []
  | _ => cases depth <;> rfl

lemma addField?_document {fixed : List (String × String)}
    {fields : List (String × Presence × Shape)} {depth : Nat}
    (h : ∀ f ∈ fields, ∀ j : Json, ofDocument? free f.2.2 depth j.document = ofJson? f.2.2 depth j)
    (made : Record) (m : String × Json) :
    Document.addField? fixed (fieldsOfDocument? free fields depth) made (m.1, m.2.document) =
      ofMember? fixed (fieldsOfJson? fields depth) made m := by
  rw [Document.addField?, ofMember?, get?_fieldsOfDocument?, get?_fieldsOfJson?]
  cases hkey : Entries.get? m.1 fields with
  | none =>
    simp only [Option.map_none]
    cases Entries.get? m.1 fixed <;> simp only [text?_document]
  | some f =>
    have hvalue := optional?_document (h (m.1, f) (Entries.mem_of_get? hkey) m.2)
    simp only [Option.map_some]
    exact congrArg (Option.map _) hvalue

lemma record?_document {fixed : List (String × String)} {fields : List (String × Presence × Shape)}
    (h : ∀ f ∈ fields, ∀ depth (j : Json),
      ofDocument? free f.2.2 depth j.document = ofJson? f.2.2 depth j)
    (depth : Nat) (j : Json) :
    j.document.record? fixed (fieldsOfDocument? free fields) depth =
      recordOfJson? fixed (fieldsOfJson? fields) depth j := by
  cases j with
  | object members =>
    cases depth with
    | zero => rfl
    | succ depth =>
      rw [document_object, Document.record?, recordOfJson?, List.foldlM_map]
      exact foldlM_congr (fun m _ made => addField?_document (fun f hf => h f hf depth) made m) []
  | _ => cases depth <;> rfl

/-- What comes back of a value is what is read of the document that it is written as. -/
theorem ofDocument?_document (s : Shape) (depth : Nat) (j : Json) :
    s.ofDocument? (Document.value? (some Json.read)) depth j.document = s.ofJson? depth j := by
  induction s generalizing depth j with
  | text => rw [ofDocument?, ofJson?, text?_document]
  | free => rw [ofDocument?, ofJson?, Document.value?_document]
  | list item ih => rw [ofDocument?, ofJson?, items?_document ih]
  | dict item ih => rw [ofDocument?, ofJson?, entries?_document ih]
  | record name fields ih => rw [ofDocument?, ofJson?, record?_document ih]
  | _ => rw [ofDocument?, ofJson?, Document.leaf?_document]

end Shape

end PodAdmission
