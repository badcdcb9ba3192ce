import PodAdmission.Proofs.Json.Reading
import PodAdmission.Proofs.Json.Skipping

/-!
# Lexical values read

A reader settles on lexical values: it stops behind each of them or fails, and what it answers does
not depend on the white space in front or on what comes behind. So `Reader.taken`, what it makes of
a text alone, is what it makes of it anywhere in a document.
-/

namespace PodAdmission.Reader

open Ascii Json

variable {t r rest : Bytes} {b : UInt8}

/-! ### Contents of texts -/

/-- Behind the first half of a character there is the second half, or there is a fault. -/
lemma readLowSurrogate_cases {raw : Bytes} (h : Content raw) :
    (∀ rest, ∃ fault, readLowSurrogate (raw ++ quote :: rest) = .error fault) ∨
    ∃ low raw', Content raw' ∧ raw'.length ≤ raw.length ∧ ∀ rest,
      readLowSurrogate (raw ++ quote :: rest) = .ok (low, raw' ++ quote :: rest) := by
  cases h with
  | nil => exact .inl fun rest => ⟨_, rfl⟩
  | @plain b raw hquote hescape hcontrol h =>
    refine .inl fun rest => ⟨.here .halfSurrogatePair (raw ++ quote :: rest), ?_⟩
    simp [readLowSurrogate, readJoint, hescape, Except.bind]
  | @letter e raw he h =>
    have hne : e ≠ lowerU := by
      rintro rfl
      rw [escaped?_lowerU] at he
      cases he
    refine .inl fun rest => ⟨.here .halfSurrogatePair (raw ++ quote :: rest), ?_⟩
    simp [readLowSurrogate, readJoint, hne, Except.bind]
  | @code i j k l raw hquad h =>
    obtain ⟨m, hm⟩ := Option.isSome_iff_exists.1 hquad
    cases hlow : isLowSurrogate m with
    | false =>
      refine .inl fun rest => ⟨.here .loneSurrogate (raw ++ quote :: rest), ?_⟩
      simp [readLowSurrogate, readJoint, readQuad, hm, hlow, Except.bind]
    | true =>
      refine .inr ⟨m, raw, h, by simp only [List.length_cons]; omega, fun rest => ?_⟩
      simp [readLowSurrogate, readJoint, readQuad, hm, hlow, Except.bind]

/-- An escape by number is refused, or it takes part of the content. -/
lemma readEscape_code_cases {i j k l : UInt8} {raw : Bytes}
    (hquad : (hexQuad? i j k l).isSome = true) (h : Content raw) :
    (∀ rest, ∃ fault,
      readEscape (lowerU :: i :: j :: k :: l :: (raw ++ quote :: rest)) = .error fault) ∨
    ∃ unescaped raw', Content raw' ∧ raw'.length ≤ raw.length ∧ ∀ rest,
      readEscape (lowerU :: i :: j :: k :: l :: (raw ++ quote :: rest)) =
        .ok (unescaped, raw' ++ quote :: rest) := by
  obtain ⟨n, hn⟩ := Option.isSome_iff_exists.1 hquad
  have hread (bytes : Bytes) : readEscape (lowerU :: i :: j :: k :: l :: bytes) =
      (readCodePoint (i :: j :: k :: l :: bytes)).map fun p => (Utf8.encodeChar p.1, p.2) := by
    simp [readEscape, escaped?_lowerU]
  have hquad (bytes : Bytes) : readQuad (i :: j :: k :: l :: bytes) = .ok (n, bytes) := by
    simp [readQuad, hn]
  simp only [hread, readCodePoint, hquad]
  cases hhigh : isHighSurrogate n with
  | true =>
    obtain hfault | ⟨low, raw', hraw', hlength, hlow⟩ := readLowSurrogate_cases h
    · refine .inl fun rest => ?_
      obtain ⟨fault, hfault⟩ := hfault rest
      exact ⟨fault, by simp [hfault, Except.map]⟩
    · refine .inr ⟨Utf8.encodeChar (joinSurrogates n low), raw', hraw', hlength, fun rest => ?_⟩
      simp [hlow, Except.map]
  | false =>
    cases hlow : isLowSurrogate n with
    | true => exact .inl fun rest => ⟨_, rfl⟩
    | false =>
      refine .inr ⟨Utf8.encodeChar (Char.ofNat n), raw, h, Nat.le_refl _, fun rest => ?_⟩
      simp [Except.map]

/-- What is made of the content, behind what has been seen of it, does not depend on what comes
behind its closing quote. -/
def ReadsContent (raw seen : Bytes) (o : Option Bytes) : Prop :=
  ∀ rounds rest : Bytes, raw.length ≤ rounds.length →
    Yields (readContent seen rounds (raw ++ quote :: rest)) o rest

section ReadsContent

variable {raw raw' seen unescaped : Bytes} {o : Option Bytes}

lemma readsContent_nil (seen : Bytes) : ReadsContent [] seen (some seen.reverse) := by
  intro rounds rest _
  cases rounds <;> exact yields_ok _ rest

lemma readsContent_plain (hquote : b ≠ quote) (hescape : b ≠ backslash) (hcontrol : ¬ b < space)
    (h : ReadsContent raw (b :: seen) o) : ReadsContent (b :: raw) seen o := by
  intro rounds rest hrounds
  obtain ⟨left, hleft, hread⟩ :=
    exists_readContent_plain hrounds hquote hescape hcontrol seen rest
  rw [hread]
  exact h left rest hleft

lemma readsContent_escape
    (hescape : ∀ rest, readEscape (raw ++ quote :: rest) = .ok (unescaped, raw' ++ quote :: rest))
    (hlength : raw'.length ≤ raw.length) (h : ReadsContent raw' (unescaped.reverse ++ seen) o) :
    ReadsContent (backslash :: raw) seen o := by
  intro rounds rest hrounds
  obtain ⟨left, hleft, hread⟩ := exists_readContent_escape hrounds (hescape rest) hlength seen
  rw [hread]
  exact h left rest hleft

lemma readsContent_fault
    (hfault : ∀ rest, ∃ fault, readEscape (raw ++ quote :: rest) = .error fault) (seen : Bytes) :
    ReadsContent (backslash :: raw) seen none := by
  intro rounds rest hrounds
  obtain ⟨fault, hfault⟩ := hfault rest
  cases rounds with
  | nil => cases hrounds
  | cons r rounds =>
    rw [List.cons_append, readContent]
    simpa +decide [hfault] using yields_error fault rest

/-- Every content is read whatever comes behind its closing quote. -/
lemma exists_readsContent (h : Content raw) (seen : Bytes) : ∃ o, ReadsContent raw seen o := by
  -- the second half of a character belongs to the escape before it, so the pieces that are left
  -- need not be those behind the first one
  induction hn : raw.length using Nat.strong_induction_on generalizing raw seen with
  | h n ih =>
    subst hn
    cases h with
    | nil => exact ⟨_, readsContent_nil seen⟩
    | @plain b raw hquote hescape hcontrol h =>
      obtain ⟨o, ho⟩ := ih raw.length (Nat.lt_succ_self _) h (b :: seen) rfl
      exact ⟨o, readsContent_plain hquote hescape hcontrol ho⟩
    | @letter e raw he h =>
      obtain ⟨c, hc⟩ := Option.isSome_iff_exists.1 he
      obtain ⟨o, ho⟩ := ih raw.length (by simp only [List.length_cons]; omega) h (c :: seen) rfl
      exact ⟨o, readsContent_escape (fun rest => readEscape_letter hc _) (Nat.le_succ _) ho⟩
    | @code i j k l raw hquad h =>
      obtain hfault | ⟨unescaped, raw', hraw', hlength, hescape⟩ := readEscape_code_cases hquad h
      · exact ⟨none, readsContent_fault hfault seen⟩
      · obtain ⟨o, ho⟩ := ih raw'.length (by simp only [List.length_cons]; omega) hraw'
          (unescaped.reverse ++ seen) rfl
        refine ⟨o, readsContent_escape hescape ?_ ho⟩
        simp only [List.length_cons]
        omega

end ReadsContent

/-- The text that a content spells, if it spells one. -/
def textOf? (raw : Bytes) : Option String :=
  taken readText (raw ++ [quote])

/-- A text is read as what its content spells. -/
lemma yields_readText {raw : Bytes} (h : Content raw) (rest : Bytes) :
    Yields (readText (raw ++ quote :: rest)) (textOf? raw) rest := by
  have hexists : ∃ o, ∀ rest, Yields (readText (raw ++ quote :: rest)) o rest := by
    obtain ⟨o, ho⟩ := exists_readsContent h []
    cases o with
    | none =>
      refine ⟨none, fun rest => ?_⟩
      obtain ⟨fault, hread, -⟩ | ⟨content, -, hcontent⟩ :=
        (ho (raw ++ quote :: rest) rest (by simp)).cases
      · rw [readText, hread]
        exact yields_error fault rest
      · cases hcontent
    | some content =>
      refine ⟨(Utf8.decode content).toOption, fun rest => ?_⟩
      obtain ⟨fault, -, hcontent⟩ | ⟨_, hread, hcontent⟩ :=
        (ho (raw ++ quote :: rest) rest (by simp)).cases
      · cases hcontent
      · obtain rfl := Option.some.inj hcontent
        rw [readText, hread]
        simp only
        cases Utf8.decode content <;> rfl
  obtain ⟨o, ho⟩ := hexists
  have halone : textOf? raw = o := by
    have h := ho []
    rw [Yields] at h
    rw [textOf?, taken, h]
    cases o <;> rfl
  rw [halone]
  exact ho rest

lemma textOf?_spelled {s : String} {raw : Bytes} (h : Spelled (Utf8.encode s) raw) :
    textOf? raw = some s := by
  rw [textOf?, taken, readText_spelled h]
  rfl

/-! ### Values of a certain kind -/

section Settling

variable {α β : Type} {read : Bytes → Read α} {o : Option α}

/-- The reader makes of the text what is given, whatever white space is in front and whatever comes
behind that cannot continue a number. -/
def Reads (read : Bytes → Read α) (t : Bytes) (o : Option α) : Prop :=
  ∀ w rest, Blank w → Delimited rest → Yields (read (w ++ (t ++ rest))) o rest

/-- The reader makes of every lexical value what it makes of it alone. -/
def Settles (read : Bytes → Read α) : Prop :=
  ∀ t, Lexical t → Reads read t (taken read t)

lemma taken_of_yields (h : Yields (read t) o []) : taken read t = o := by
  rw [Yields] at h
  rw [taken, h]
  cases o <;> rfl

lemma Reads.taken_eq (h : Reads read t o) : taken read t = o := by
  have halone := h [] [] blank_nil delimited_nil
  rw [List.nil_append, List.append_nil] at halone
  exact taken_of_yields halone

lemma settles_of_exists (h : ∀ t, Lexical t → ∃ o, Reads read t o) : Settles read := by
  intro t ht
  obtain ⟨o, ho⟩ := h t ht
  rwa [ho.taken_eq]

/-- Where a reader passes over white space in front, it settles if it does where there is none. -/
lemma settles_of_skips (hskips : ∀ w bytes, Blank w → read (w ++ bytes) = read bytes)
    (h : ∀ b r, Lexical (b :: r) → isSpace b = false →
      ∃ o, ∀ rest, Delimited rest → Yields (read (b :: (r ++ rest))) o rest) : Settles read := by
  refine settles_of_exists fun t ht => ?_
  have hstarts := ht.starts
  obtain ⟨b, r, rfl, hspace, -⟩ := hstarts
  obtain ⟨o, ho⟩ := h b r ht hspace
  refine ⟨o, fun w rest hw hrest => ?_⟩
  rw [hskips w _ hw]
  exact ho rest hrest

/-- With no white space in front. -/
lemma Settles.yields (h : Settles read) (ht : Lexical t) (hrest : Delimited rest) :
    Yields (read (t ++ rest)) (taken read t) rest :=
  h t ht [] rest blank_nil hrest

lemma Reads.map (h : Reads read t o) (f : α → β) :
    Reads (fun bytes => (read bytes).map fun (a, r) => (f a, r)) t (o.map f) :=
  fun w rest hw hrest => (h w rest hw hrest).map f

lemma taken_map (read : Bytes → Read α) (f : α → β) (t : Bytes) :
    taken (fun bytes => (read bytes).map fun (a, r) => (f a, r)) t = (taken read t).map f := by
  simp only [taken]
  cases read t <;> rfl

lemma Settles.map (h : Settles read) (f : α → β) :
    Settles fun bytes => (read bytes).map fun (a, r) => (f a, r) :=
  settles_of_exists fun t ht => ⟨_, (h t ht).map f⟩

/-- A value without parts is read whatever comes behind it. -/
lemma exists_yields_readLeaf (h : Token (b :: r)) :
    ∃ o, ∀ rest, Delimited rest → Yields (readLeaf b (r ++ rest)) o rest := by
  generalize ht : b :: r = t at h
  cases h with
  | number h =>
    obtain ⟨_, _, rfl, hb⟩ := numeral_eq_cons h
    obtain ⟨rfl, rfl⟩ := List.cons.inj ht
    refine ⟨(taken (readNumber false) (b :: r)).map .number, fun rest hrest => ?_⟩
    rw [readLeaf_digit hb]
    exact ((takes_readNumber h false).yields hrest).map Json.number
  | negative h =>
    obtain ⟨rfl, rfl⟩ := List.cons.inj ht
    exact ⟨_, fun rest hrest => ((takes_readNumber h true).yields hrest).map Json.number⟩
  | @text raw h =>
    obtain ⟨rfl, rfl⟩ := List.cons.inj ht
    refine ⟨(textOf? raw).map .text, fun rest _ => ?_⟩
    rw [List.append_assoc]
    exact (yields_readText h rest).map Json.text
  | null =>
    obtain ⟨rfl, rfl⟩ := List.cons.inj ht
    exact ⟨some .null, fun rest _ => rfl⟩
  | yes =>
    obtain ⟨rfl, rfl⟩ := List.cons.inj ht
    exact ⟨some (.bool true), fun rest _ => rfl⟩
  | no =>
    obtain ⟨rfl, rfl⟩ := List.cons.inj ht
    exact ⟨some (.bool false), fun rest _ => rfl⟩

/-- A value that has to be of a certain kind is read whatever comes behind it. -/
lemma settles_readAs (wanted : String) (accept : Json → Except Cause α) :
    Settles (readAs wanted accept) := by
  refine settles_of_exists fun t ht => ?_
  obtain ht | ⟨items, u, rfl, -⟩ | ⟨members, u, rfl, -⟩ := ht.cases
  · obtain ⟨b, r, rfl, hb⟩ := ht.leads
    obtain ⟨o, ho⟩ := exists_yields_readLeaf ht
    refine ⟨o.bind fun v => (accept v).toOption, fun w rest hw hrest => ?_⟩
    rw [List.cons_append, readAs, skipSpace_blank hw hb.isSpace]
    simp only [if_neg hb.ne_openList, if_neg hb.ne_openObject]
    obtain ⟨fault, hread, rfl⟩ | ⟨v, hread, rfl⟩ := (ho rest hrest).cases
    · rw [hread]
      exact yields_error fault rest
    · rw [hread, Option.bind_some]
      simp only
      cases accept v <;> rfl
  · refine ⟨none, fun w rest hw hrest => ?_⟩
    rw [List.cons_append, readAs, skipSpace_blank hw (by decide)]
    rfl
  · refine ⟨none, fun w rest hw hrest => ?_⟩
    rw [List.cons_append, readAs, skipSpace_blank hw (by decide)]
    rfl

lemma reads_readOptional_null : Reads (readOptional read) nullWord (some none) := by
  intro w rest hw hrest
  rw [readOptional]
  simp only [nullWord, List.cons_append, skipSpace_blank hw (by decide : isSpace 0x6E = false)]
  rfl

/-- A value that may be `null` and is not is read as any other. -/
lemma reads_readOptional (h : Settles read) (ht : Lexical t) (hne : t ≠ nullWord) :
    Reads (readOptional read) t ((taken read t).map some) := by
  intro w rest hw hrest
  have hread := (h.yields ht hrest).map some
  have hfirst := ht.eq_nullWord
  obtain ⟨b, r, rfl, hspace, -⟩ := ht.starts
  have hb : b ≠ lowerN := by
    rintro rfl
    exact hne (hfirst r rfl)
  rw [List.cons_append, readOptional, skipSpace_blank hw hspace]
  simp only [if_neg hb]
  exact hread

/-- A value that may be `null` is read whatever comes behind it. -/
lemma settles_readOptional (h : Settles read) : Settles (readOptional read) := by
  refine settles_of_exists fun t ht => ?_
  by_cases hnull : t = nullWord
  · exact ⟨some none, hnull ▸ reads_readOptional_null⟩
  · exact ⟨_, reads_readOptional h ht hnull⟩

/-! ### Own texts -/

/-- The own text of a value is read if it is UTF-8. -/
lemma reads_readRaw (ht : Lexical t) :
    Reads readRaw t (if (Utf8.scan [] t).2.isEmpty then some t else none) := by
  intro w rest hw hrest
  have hskip := skipValue_lexical ht blank_nil hrest
  obtain ⟨b, r, rfl, hspace, -⟩ := ht.starts
  have hstart : skipSpace (w ++ (b :: r ++ rest)) = b :: r ++ rest := skipSpace_blank hw hspace _
  have htake : (b :: r ++ rest).take ((b :: r ++ rest).length - rest.length) = b :: r := by
    rw [List.length_append, Nat.add_sub_cancel, List.take_left']
    rfl
  rw [readRaw, hstart]
  rw [List.nil_append] at hskip
  simp only [hskip, htake]
  obtain ⟨seen, bad⟩ := Utf8.scan [] (b :: r)
  cases bad with
  | nil => exact yields_ok (b :: r) rest
  | cons c bad => exact yields_error _ rest

lemma settles_readRaw : Settles readRaw :=
  settles_of_exists fun _ ht => ⟨_, reads_readRaw ht⟩

lemma reads_readRaw_encode {s : String} (ht : Lexical (Utf8.encode s)) :
    Reads readRaw (Utf8.encode s) (some (Utf8.encode s)) := by
  have hread := reads_readRaw ht
  rwa [Utf8.encode, Utf8.scan_flatMap] at hread

end Settling

/-! ### Lists and objects -/

section Brackets

variable {α σ : Type} {item : Bytes → Read α} {member : σ → String → Bytes → Read σ}
  {answer : σ → String → Bytes → Option σ}

/-- A list of lexical values is read item by item. -/
lemma yields_items (h : Settles item) {items : List Bytes}
    (ht : Parts closeList Lexical.Item true items t) (rest : Bytes) :
    Yields (readItems item true [] (t ++ rest) (t ++ rest)) (items.mapM (taken item)) rest := by
  refine yields_readItems ht (fun a _ t ht => ?_) (fun a _ t ht rest hrest => ?_) rest
  · obtain ⟨rfl, ha⟩ := ht
    exact ha.starts
  · obtain ⟨rfl, ha⟩ := ht
    exact h.yields ha hrest

/-- The reader of members makes of a key and what is under it what is given. -/
def MemberReads (member : σ → String → Bytes → Read σ)
    (answer : σ → String → Bytes → Option σ) : Prop :=
  ∀ state key t, Lexical t → ∀ w w' rest, Blank w → Blank w' → Delimited rest →
    Yields (member state key (w ++ colon :: (w' ++ (t ++ rest)))) (answer state key t) rest

/-- What a member does to the state. Under a key that spells nothing nothing is read. -/
def memberStep (answer : σ → String → Bytes → Option σ) (state : σ) (m : Bytes × Bytes) :
    Option σ :=
  (textOf? m.1).bind fun key => answer state key m.2

lemma MemberReads.keyed (h : MemberReads member answer) (m : Bytes × Bytes) :
    KeyedAgrees (Member Lexical.Item) member (memberStep answer) m := by
  intro t ht
  cases ht with
  | @mk raw a w w' t hkey hw hw' ht =>
    obtain ⟨rfl, ha⟩ := ht
    refine ⟨_, rfl, fun state rest hrest => ?_⟩
    rw [readKeyed, List.append_assoc, List.cons_append, memberStep]
    obtain ⟨fault, hread, hvalue⟩ | ⟨key, hread, hvalue⟩ := (yields_readText hkey _).cases
    · rw [hread, hvalue]
      exact yields_error fault rest
    · rw [hread, hvalue]
      simpa using h state key t ha w w' rest hw hw' hrest

/-- An object of lexical values is read member by member. -/
lemma yields_members (h : MemberReads member answer) {members : List (Bytes × Bytes)}
    (ht : Parts closeObject (Member Lexical.Item) true members t) (state : σ) (rest : Bytes) :
    Yields (readMembers member true state (t ++ rest) (t ++ rest))
      (members.foldlM (memberStep answer) state) rest :=
  yields_readMembers_loop ht (fun m _ => h.keyed m) state rest

lemma memberReads_addMember {read : Bytes → Read α} (h : Settles read) :
    MemberReads (addMember read) fun state key t =>
      (taken read t).map fun v => state.insert key v := by
  intro state key t ht w w' rest hw hw' hrest
  rw [addMember, readColon_blank hw]
  obtain ⟨fault, hread, hvalue⟩ | ⟨v, hread, hvalue⟩ := (h t ht w' rest hw' hrest).cases
  · simp only [hread, hvalue]
    exact yields_error fault rest
  · simp only [hread, hvalue]
    exact yields_ok _ rest

end Brackets

/-! ### Values of any kind -/

/-- The first key of an object that has one is looked for behind the bracket. -/
lemma behindKey?_content {raw w : Bytes} (hw : Blank w) (hkey : Content raw) (key : String)
    (u : Bytes) :
    behindKey? key (w ++ quote :: (raw ++ quote :: u)) =
      if textOf? raw = some key then some u else none := by
  rw [behindKey?, nextKey_first hw]
  obtain ⟨fault, hread, hvalue⟩ | ⟨first, hread, hvalue⟩ := (yields_readText hkey u).cases
  · simp [hread, hvalue]
  · simp [hread, hvalue]

/-- An object that stands for a document in a text is read whatever comes behind it. -/
lemma exists_yields_readEmbedded (embedded : Bytes → Except JsonError Json) {w w' u : Bytes}
    {others : List (Bytes × Bytes)} (hw : Blank w) (hw' : Blank w') (ht : Lexical t)
    (hu : Parts closeObject (Member Lexical.Item) false others u) :
    ∃ o, ∀ rest, Yields (readEmbedded embedded (w ++ colon :: (w' ++ (t ++ (u ++ rest))))) o
      rest := by
  refine ⟨(taken (readAs "raw value" acceptEmbedded) t).bind fun text =>
    (embedded text).toOption.bind fun value => if others.isEmpty then some value else none,
    fun rest => ?_⟩
  have hread := settles_readAs "raw value" acceptEmbedded t ht w' (u ++ rest) hw'
    (hu.delimited (.inr rfl) rest)
  simp only [readEmbedded, readColon_blank hw]
  obtain ⟨fault, hfault, hvalue⟩ | ⟨text, hok, hvalue⟩ := hread.cases
  · rw [hfault, hvalue]
    exact yields_error fault rest
  · rw [hok, hvalue, Option.bind_some]
    simp only
    cases embedded text with
    | error error => exact yields_error _ rest
    | ok value => exact yields_readObjectEnd hu value rest

lemma exists_reads_token (embedding : Embedding) (depth : Nat) (ht : Token t) :
    ∃ o, Reads (readValueWith embedding depth) t o := by
  obtain ⟨b, r, rfl, hb⟩ := ht.leads
  obtain ⟨o, ho⟩ := exists_yields_readLeaf ht
  refine ⟨o, fun w rest hw hrest => ?_⟩
  rw [List.cons_append, readValueWith.eq_def, skipSpace_blank hw hb.isSpace]
  simp only [if_neg hb.ne_openList, if_neg hb.ne_openObject]
  exact ho rest hrest

/-- The first member behind a bracket, part by part. -/
lemma first_append (w raw w₁ w₂ t u rest : Bytes) :
    w ++ (quote :: (raw ++ quote :: (w₁ ++ colon :: (w₂ ++ t))) ++ u) ++ rest =
      w ++ quote :: (raw ++ quote :: (w₁ ++ colon :: (w₂ ++ (t ++ (u ++ rest))))) := by
  simp

/-- An object that may stand for a document in a text is read whatever comes behind it. -/
lemma exists_reads_object {embedding : Embedding} {depth : Nat}
    (h : Settles (readValueWith embedding depth)) {members : List (Bytes × Bytes)}
    (ht : Parts closeObject (Member Lexical.Item) true members t) :
    ∃ o, Reads (readValueWith embedding (depth + 1)) (openObject :: t) o := by
  obtain ⟨o, hmembers⟩ : ∃ o, ∀ rest, Yields
      ((readMembers (addMember (readValueWith embedding depth)) true [] (t ++ rest)
        (t ++ rest)).map fun p => (Json.object p.1, p.2)) o rest :=
    ⟨_, fun rest => (yields_members (memberReads_addMember h) ht [] rest).map Json.object⟩
  cases embedding with
  | none =>
    refine ⟨o, fun w rest hw _ => ?_⟩
    rw [List.cons_append, readValueWith_openObject _ _ hw]
    exact hmembers rest
  | some embedded =>
    cases ht with
    | @close _ w' hw' =>
      refine ⟨o, fun w rest hw _ => ?_⟩
      have hclose : behindKey? embeddingKey (w' ++ [closeObject] ++ rest) = none := by
        rw [List.append_assoc, List.singleton_append, behindKey?, nextKey_close hw']
      rw [List.cons_append, readValueWith_openObject _ _ hw, hclose]
      exact hmembers rest
    | @first w' t u m more hw' hkeyed hu =>
      cases hkeyed with
      | @mk raw a w₁ w₂ t hkey hw₁ hw₂ ha =>
        obtain ⟨rfl, ha⟩ := ha
        have hbehind (rest : Bytes) := behindKey?_content hw' hkey embeddingKey
          (w₁ ++ colon :: (w₂ ++ (t ++ (u ++ rest))))
        by_cases hfirst : textOf? raw = some embeddingKey
        · obtain ⟨o, hembedded⟩ := exists_yields_readEmbedded embedded hw₁ hw₂ ha hu
          refine ⟨o, fun w rest hw _ => ?_⟩
          rw [List.cons_append, readValueWith_openObject _ _ hw, first_append, hbehind,
            if_pos hfirst]
          exact hembedded rest
        · refine ⟨o, fun w rest hw _ => ?_⟩
          have hread := hmembers rest
          rw [first_append] at hread
          rw [List.cons_append, readValueWith_openObject _ _ hw, first_append, hbehind,
            if_neg hfirst]
          exact hread

/-- Any value is read whatever comes behind it. -/
theorem settles_readValueWith (embedding : Embedding) (depth : Nat) :
    Settles (readValueWith embedding depth) := by
  induction depth with
  | zero =>
    refine settles_of_exists fun t ht => ?_
    obtain ht | ⟨items, u, rfl, hu⟩ | ⟨members, u, rfl, hu⟩ := ht.cases
    · exact exists_reads_token embedding 0 ht
    · refine ⟨none, fun w rest hw hrest => ?_⟩
      rw [List.cons_append, readValueWith.eq_def, skipSpace_blank hw (by decide)]
      rfl
    · refine ⟨none, fun w rest hw hrest => ?_⟩
      rw [List.cons_append, readValueWith.eq_def, skipSpace_blank hw (by decide)]
      rfl
  | succ depth ih =>
    refine settles_of_exists fun t ht => ?_
    obtain ht | ⟨items, u, rfl, hu⟩ | ⟨members, u, rfl, hu⟩ := ht.cases
    · exact exists_reads_token embedding (depth + 1) ht
    · refine ⟨(items.mapM (taken (readValueWith embedding depth))).map .list,
        fun w rest hw hrest => ?_⟩
      rw [List.cons_append, readValueWith_openList _ _ hw]
      exact (yields_items ih hu rest).map Json.list
    · exact exists_reads_object ih hu

end PodAdmission.Reader
