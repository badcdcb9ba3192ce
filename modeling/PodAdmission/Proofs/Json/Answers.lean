import PodAdmission.Proofs.Json.Reading

/-!
# What documents hold

Whatever the text of a document is, a value that is read from it is well formed: its numbers are in
range and the members of its objects are in ascending order of keys. No object in it has the key
alone that marks a document in a text, since such an object is read as that document.
-/

namespace PodAdmission

open Ascii Json

namespace Reader

/-- Whatever the reader answers has the property. -/
def Gives {α : Type} (P : α → Prop) (r : Read α) : Prop :=
  ∀ a rest, r = .ok (a, rest) → P a

section Gives

variable {α β : Type} {P : α → Prop} {Q : β → Prop}

lemma gives_error (fault : Fault) : Gives P (.error fault) := by
  intro a rest h
  cases h

lemma gives_ok {a : α} (ha : P a) (rest : Bytes) : Gives P (.ok (a, rest)) := by
  rintro b r ⟨⟩
  exact ha

lemma Gives.map {r : Read α} (h : Gives P r) {f : α → β} (hf : ∀ a, P a → Q (f a)) :
    Gives Q (r.map fun (a, rest) => (f a, rest)) := by
  intro b rest hb
  cases r with
  | error fault => cases hb
  | ok p =>
    cases hb
    exact hf _ (h _ _ rfl)

/-- What the items of a list have in common. -/
lemma gives_readItems {item : Bytes → Read α} (hitem : ∀ bytes, Gives P (item bytes)) (first : Bool)
    {seen : List α} (hseen : ∀ x ∈ seen, P x) (rounds bytes : Bytes) :
    Gives (fun xs => ∀ x ∈ xs, P x) (readItems item first seen rounds bytes) := by
  intro xs rest h
  have hread := itemsRead_of_ok h
  clear h
  induction hread with
  | finished => exact fun x hx => hseen x (List.mem_reverse.1 hx)
  | more hnext hx h ih =>
    apply ih
    rw [List.forall_mem_cons]
    exact ⟨hitem _ _ _ hx, hseen⟩

/-- What every member of an object keeps. -/
lemma gives_readMembers {σ : Type} {P : σ → Prop} {member : σ → String → Bytes → Read σ}
    (hmember : ∀ state key bytes, P state → Gives P (member state key bytes)) (first : Bool)
    {state : σ} (hstate : P state) (rounds bytes : Bytes) :
    Gives P (readMembers member first state rounds bytes) := by
  intro made rest h
  have hread := membersRead_of_ok h
  clear h
  induction hread with
  | finished => exact hstate
  | more hnext hkey hstate' h ih => exact ih (hmember _ _ _ hstate _ _ hstate')

end Gives

/-! ### Numbers -/

lemma takeDigits_lt {value count : Nat} {bytes : Bytes} (h : value < 2 ^ 64) :
    (takeDigits value count bytes).1 < 2 ^ 64 := by
  induction bytes generalizing value count with
  | nil => exact h
  | cons b bytes ih =>
    rw [takeDigits]
    split_ifs with hb
    · simp only [Bool.and_eq_true, decide_eq_true_eq] at hb
      exact ih hb.2
    · exact h

lemma gives_finishReal (negative : Bool) (significand : Nat) (exponent : Int) (rest : Bytes) :
    Gives Number.Valid (finishReal negative significand exponent rest) := by
  rw [finishReal]
  split
  · rename_i x hx
    have hvalid : (Number.real x).Valid := Binary64.canonical_of_ofDecimal? hx
    exact gives_ok hvalid _
  · exact gives_error _

lemma gives_finishWhole (negative : Bool) {value : Nat} (h : value < 2 ^ 64) (rest : Bytes) :
    Gives Number.Valid (finishWhole negative value rest) := by
  rw [finishWhole]
  split_ifs with hneg hreal
  · exact gives_finishReal _ _ _ _
  · refine gives_ok ⟨?_, ?_⟩ _ <;> omega
  · refine gives_ok ⟨?_, ?_⟩ _ <;> omega

lemma gives_readExponent (negative : Bool) (significand : Nat) (exponent : Int) (bytes : Bytes) :
    Gives Number.Valid (readExponent negative significand exponent bytes) := by
  have hzero : (Number.real (.zero negative)).Valid := Binary64.canonical_zero negative
  unfold readExponent
  split
  rename_i down bytes hsign
  split
  · exact gives_error _
  · split
    · split
      · exact gives_finishReal _ _ _ _
      · split
        · exact gives_error _
        · exact gives_ok hzero _
    · exact gives_error _

lemma gives_readScale (negative : Bool) (significand : Nat) (exponent : Int) (bytes : Bytes) :
    Gives Number.Valid (readScale negative significand exponent bytes) := by
  simp only [readScale]
  split
  · split_ifs
    · exact gives_readExponent _ _ _ _
    · exact gives_finishReal _ _ _ _
  · exact gives_finishReal _ _ _ _

lemma gives_readFraction (negative : Bool) (significand : Nat) (exponent : Int) (bytes : Bytes) :
    Gives Number.Valid (readFraction negative significand exponent bytes) := by
  simp only [readFraction]
  split
  · exact gives_error _
  · split_ifs
    · exact gives_readScale _ _ _ _
    · exact gives_error _

lemma gives_readTail (negative : Bool) {value : Nat} (h : value < 2 ^ 64) (bytes : Bytes) :
    Gives Number.Valid (readTail negative value bytes) := by
  unfold readTail
  split
  · exact gives_finishWhole _ h _
  · split_ifs
    · exact gives_readFraction _ _ _ _
    · exact gives_readExponent _ _ _ _
    · dsimp only
      split
      · split_ifs
        · exact gives_readFraction _ _ _ _
        · exact gives_readScale _ _ _ _
      · exact gives_readScale _ _ _ _
    · exact gives_finishWhole _ h _

/-- A number that is read is in range. -/
lemma gives_readNumber (negative : Bool) (bytes : Bytes) :
    Gives Number.Valid (readNumber negative bytes) := by
  rw [readNumber.eq_def]
  split
  · exact gives_error _
  · rename_i b rest
    split_ifs
    · split
      · split_ifs
        · exact gives_error _
        · exact gives_readTail _ (by decide) _
      · exact gives_readTail _ (by decide) _
    · have hdigit : digitValue b < 2 ^ 64 := by
        have := b.toNat_lt
        rw [digitValue]
        omega
      exact gives_readTail _ (takeDigits_lt hdigit) _
    · exact gives_error _

/-! ### Values -/

lemma gives_readLeaf (b : UInt8) (rest : Bytes) : Gives WellFormed (readLeaf b rest) := by
  rw [readLeaf]
  split_ifs
  · cases readWord nullWord.tail rest with
    | error fault => exact gives_error _
    | ok r => exact gives_ok WellFormed.null r
  · cases readWord trueWord.tail rest with
    | error fault => exact gives_error _
    | ok r => exact gives_ok (WellFormed.bool true) r
  · cases readWord falseWord.tail rest with
    | error fault => exact gives_error _
    | ok r => exact gives_ok (WellFormed.bool false) r
  · exact (gives_readNumber true rest).map fun n hn => WellFormed.number hn
  · exact (gives_readNumber false (b :: rest)).map fun n hn => WellFormed.number hn
  · cases readText rest with
    | error fault => exact gives_error _
    | ok p => exact gives_ok (WellFormed.text p.1) p.2
  · exact gives_error _

lemma wellFormed_insert {members : Entries Json} (h : (object members).WellFormed) (key : String)
    {v : Json} (hv : v.WellFormed) : (object (Entries.insert key v members)).WellFormed := by
  apply WellFormed.object (Entries.ascending_insert key v h.ascending)
  intro m hm
  rcases Entries.mem_insert hm with rfl | hm
  · exact hv
  · exact h.members m hm

/-- A value without parts is read as one. -/
lemma gives_readLeaf_isLeaf (b : UInt8) (rest : Bytes) : Gives IsLeaf (readLeaf b rest) := by
  rw [readLeaf]
  split_ifs
  · cases readWord nullWord.tail rest with
    | error fault => exact gives_error _
    | ok r => exact gives_ok (trivial : IsLeaf .null) r
  · cases readWord trueWord.tail rest with
    | error fault => exact gives_error _
    | ok r => exact gives_ok (trivial : IsLeaf (.bool true)) r
  · cases readWord falseWord.tail rest with
    | error fault => exact gives_error _
    | ok r => exact gives_ok (trivial : IsLeaf (.bool false)) r
  · exact (gives_readNumber true rest).map fun n _ => trivial
  · exact (gives_readNumber false (b :: rest)).map fun n _ => trivial
  · cases readText rest with
    | error fault => exact gives_error _
    | ok p => exact gives_ok (trivial : IsLeaf (.text p.1)) p.2
  · exact gives_error _

end Reader

namespace Json

/-- No object in the value has the reserved key alone: the documents in texts are in their place. -/
def Unfolded (j : Json) : Prop :=
  ∀ v, ¬ j.Contains (.object [(embeddingKey, v)])

/-- What every value that is read from a document is. -/
structure Regular (j : Json) : Prop where
  wellFormed : j.WellFormed
  unfolded : j.Unfolded

lemma unfolded_leaf {j : Json} (h : j.IsLeaf) : j.Unfolded := by
  intro v hv
  cases hv with
  | self => exact h
  | item => exact h
  | member => exact h

lemma unfolded_list {items : List Json} (h : ∀ x ∈ items, x.Unfolded) : (list items).Unfolded := by
  intro v hv
  cases hv with
  | item hx hv => exact h _ hx v hv

lemma unfolded_object {members : Entries Json} (hlone : ∀ v, members ≠ [(embeddingKey, v)])
    (h : ∀ m ∈ members, m.2.Unfolded) : (object members).Unfolded := by
  intro v hv
  cases hv with
  | self => exact hlone v rfl
  | member hm hv => exact h _ hm v hv

lemma Unfolded.items {items : List Json} (h : (list items).Unfolded) : ∀ x ∈ items, x.Unfolded :=
  fun _ hx v hv => h v (.item hx hv)

lemma Unfolded.members {members : Entries Json} (h : (object members).Unfolded) :
    ∀ m ∈ members, m.2.Unfolded :=
  fun _ hm v hv => h v (.member hm hv)

lemma Unfolded.ne_lone {members : Entries Json} (h : (object members).Unfolded) (v : Json) :
    members ≠ [(embeddingKey, v)] := by
  rintro rfl
  exact h v (.self _)

lemma regular_object {members : Entries Json} (ha : members.Ascending)
    (hlone : ∀ v, members ≠ [(embeddingKey, v)]) (h : ∀ m ∈ members, m.2.Regular) :
    (object members).Regular :=
  ⟨WellFormed.object ha fun m hm => (h m hm).wellFormed,
    unfolded_object hlone fun m hm => (h m hm).unfolded⟩

end Json

namespace Reader

/-- The members of an object that have been read so far, behind a first key that is not the
reserved one. -/
structure Opened (members : Entries Json) : Prop where
  ascending : members.Ascending
  regular : ∀ m ∈ members, m.2.Regular
  other : ∃ v k, k ≠ embeddingKey ∧ Entries.get? k members = some v

lemma Opened.object {members : Entries Json} (h : Opened members) : (object members).Regular := by
  refine regular_object h.ascending ?_ h.regular
  rintro v rfl
  obtain ⟨w, k, hk, hget⟩ := h.other
  rw [Entries.get?, if_neg (Ne.symm hk)] at hget
  cases hget

lemma Opened.insert {members : Entries Json} (h : Opened members) (key : String) {v : Json}
    (hv : v.Regular) : Opened (Entries.insert key v members) := by
  refine ⟨Entries.ascending_insert key v h.ascending, fun m hm => ?_, ?_⟩
  · rcases Entries.mem_insert hm with rfl | hm
    · exact hv
    · exact h.regular m hm
  · obtain ⟨w, k, hk, hget⟩ := h.other
    by_cases hkey : k = key
    · exact ⟨v, k, hk, hkey ▸ Entries.get?_insert_self _ v members⟩
    · exact ⟨w, k, hk, (Entries.get?_insert_of_ne hkey v members).trans hget⟩

lemma opened_singleton {key : String} (hkey : key ≠ embeddingKey) {v : Json} (hv : v.Regular) :
    Opened [(key, v)] := by
  refine ⟨List.pairwise_singleton _ _, fun m hm => ?_, v, key, hkey, if_pos rfl⟩
  obtain rfl := List.mem_singleton.1 hm
  exact hv

/-- A member that is added has been read. -/
lemma addMember_ok {α : Type} {read : Bytes → Read α} {members made : Entries α} {key : String}
    {bytes rest : Bytes} (h : addMember read members key bytes = .ok (made, rest)) :
    ∃ v start, read start = .ok (v, rest) ∧ made = Entries.insert key v members := by
  rw [addMember] at h
  split at h
  · cases h
  · rename_i start _
    split at h
    · cases h
    · rename_i v behind hv
      obtain ⟨rfl, rfl⟩ := Prod.mk.inj (Except.ok.inj h)
      exact ⟨v, start, hv, rfl⟩

/-- An object whose first key is not the reserved one is read member by member. -/
lemma gives_readObject {read : Bytes → Read Json} (hread : ∀ bytes, Gives Regular (read bytes))
    {bytes : Bytes} (hfirst : behindKey? embeddingKey bytes = none) (rounds : Bytes) :
    Gives (fun ms : Entries Json => (object ms).Regular)
      (readMembers (addMember read) true [] rounds bytes) := by
  have hmember : ∀ members key bytes, Opened members →
      Gives Opened (addMember read members key bytes) := by
    intro members key bytes h made rest hmade
    obtain ⟨v, start, hv, rfl⟩ := addMember_ok hmade
    exact h.insert key (hread _ _ _ hv)
  rw [behindKey?] at hfirst
  rw [readMembers.eq_def]
  simp only
  split
  · exact gives_error _
  · exact gives_ok (P := fun ms : Entries Json => (Json.object ms).Regular)
      (regular_object List.Pairwise.nil (fun v => by simp) (by simp)) _
  · rename_i start hstart
    split
    · exact gives_error _
    · split
      · exact gives_error _
      · rename_i key rest hkey
        simp only [hstart, hkey] at hfirst
        split_ifs at hfirst with hne
        split
        · exact gives_error _
        · rename_i made behind hmade
          obtain ⟨v, start, hv, rfl⟩ := addMember_ok hmade
          intro ms r hms
          exact (gives_readMembers hmember false (opened_singleton hne (hread _ _ _ hv)) _ _
            ms r hms).object

lemma gives_readEmbedded {P : Json → Prop} {embedded : Bytes → Except JsonError Json}
    (h : ∀ t j, embedded t = .ok j → P j) (bytes : Bytes) :
    Gives P (readEmbedded embedded bytes) := by
  rw [readEmbedded]
  split
  · exact gives_error _
  · split
    · exact gives_error _
    · split
      · exact gives_error _
      · rename_i text rest hread _ value hvalue
        cases readObjectEnd rest with
        | error fault => exact gives_error _
        | ok r => exact gives_ok (h text value hvalue) r

/-- A value is regular if the documents in its texts are. -/
lemma gives_readValueWith {embedded : Bytes → Except JsonError Json}
    (hembedded : ∀ t j, embedded t = .ok j → j.Regular) (depth : Nat) (bytes : Bytes) :
    Gives Regular (readValueWith (some embedded) depth bytes) := by
  have hleaf : ∀ b rest, Gives Regular (readLeaf b rest) := fun b rest j r h =>
    ⟨gives_readLeaf b rest j r h, unfolded_leaf (gives_readLeaf_isLeaf b rest j r h)⟩
  induction depth generalizing bytes with
  | zero =>
    rw [readValueWith.eq_def]
    split
    · exact gives_error _
    · split_ifs
      · exact gives_error _
      · exact gives_error _
      · exact hleaf _ _
  | succ depth ih =>
    rw [readValueWith.eq_def]
    split
    · exact gives_error _
    · split_ifs
      · exact (gives_readItems ih true (fun x hx => absurd hx List.not_mem_nil) _ _).map
          fun xs h => ⟨WellFormed.list fun x hx => (h x hx).wellFormed,
            unfolded_list fun x hx => (h x hx).unfolded⟩
      · dsimp only
        split
        · rename_i _ document behind heq _
          obtain rfl := Option.some.inj heq
          exact gives_readEmbedded hembedded behind
        · rename_i hnone
          refine (gives_readObject ih ?_ _).map fun ms h => h
          rw [← Option.not_isSome_iff_eq_none, Option.isSome_iff_exists]
          rintro ⟨behind, hbehind⟩
          exact hnone embedded behind rfl hbehind
      · exact hleaf _ _

lemma readWhole_ok {α : Type} {read : Bytes → Read α} {text : Bytes} {a : α}
    (h : readWhole read text = .ok a) : ∃ rest, read text = .ok (a, rest) := by
  rw [readWhole] at h
  split at h
  · cases h
  · rename_i b rest hread
    split at h
    · cases h
      exact ⟨rest, hread⟩
    · cases h

end Reader

/-- Every value that is read from a document is regular. -/
theorem regular_of_read {text : Bytes} {j : Json} (h : Json.read text = .ok j) : j.Regular := by
  induction hlength : text.length using Nat.strong_induction_on generalizing text j with
  | _ n ih =>
    subst hlength
    rw [Reader.read_eq] at h
    obtain ⟨rest, hread⟩ := Reader.readWhole_ok h
    refine Reader.gives_readValueWith (fun t k hk => ?_) _ _ _ _ hread
    rw [Reader.within] at hk
    split_ifs at hk with hshort
    exact ih _ hshort hk rfl

/-- Every value that is read from a document is well formed. -/
theorem wellFormed_of_read {text : Bytes} {j : Json} (h : Json.read text = .ok j) : j.WellFormed :=
  (regular_of_read h).wellFormed

end PodAdmission
