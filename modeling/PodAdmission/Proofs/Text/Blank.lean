import Mathlib.Data.List.TakeWhile
import Mathlib.Tactic.Common
import PodAdmission.Text.Blank

/-!
# Trimmed texts and words

Cutting the blanks off a text takes a sequence of blanks from either end. The words of a text are
the longest of its parts without a blank: a text that is cut at a blank keeps its words, and texts
that are joined with spaces have the words of all of them.
-/

namespace PodAdmission.Text

/-! ### Trimmed texts -/

/-- Cutting the blanks off a text takes a sequence of blanks from either end. -/
lemma exists_trim_split (cs : List Char) : ∃ lead trail : List Char,
    cs = lead ++ (trim (String.ofList cs)).toList ++ trail ∧
    (∀ c ∈ lead, isBlank c = true) ∧ ∀ c ∈ trail, isBlank c = true := by
  let start := cs.takeWhile isBlank
  let rest := cs.dropWhile isBlank
  let trail := (rest.reverse.takeWhile isBlank).reverse
  have hrest : rest = (rest.reverse.dropWhile isBlank).reverse ++ trail := by
    rw [← List.reverse_append, List.takeWhile_append_dropWhile, List.reverse_reverse]
  refine ⟨start, trail, ?_, fun c hc => List.mem_takeWhile_imp hc,
    fun c hc => List.mem_takeWhile_imp (List.mem_reverse.1 hc)⟩
  rw [trim, String.toList_ofList, String.toList_ofList, List.append_assoc]
  simp only [dropBlanks]
  rw [← hrest, List.takeWhile_append_dropWhile]

lemma dropBlanks_append {blanks core : List Char} (hblanks : ∀ c ∈ blanks, isBlank c = true)
    (hcore : ∀ c ∈ core.head?, isBlank c = false) : dropBlanks (blanks ++ core) = core := by
  rw [dropBlanks, List.dropWhile_append_of_pos hblanks]
  cases core with
  | nil => rfl
  | cons c cs => rw [List.dropWhile_cons_of_neg (by simp [hcore c rfl])]

/-- What has no blank at its ends is what is left between blanks. -/
lemma trim_of_split {lead core trail : List Char} (hlead : ∀ c ∈ lead, isBlank c = true)
    (htrail : ∀ c ∈ trail, isBlank c = true) (hcore : core ≠ [])
    (hhead : ∀ c ∈ core.head?, isBlank c = false)
    (hlast : ∀ c ∈ core.getLast?, isBlank c = false) :
    trim (String.ofList (lead ++ core ++ trail)) = String.ofList core := by
  have hstart : ∀ c ∈ (core ++ trail).head?, isBlank c = false := by
    obtain ⟨c, cs, rfl⟩ := List.exists_cons_of_ne_nil hcore
    exact hhead
  have hback : dropBlanks (trail.reverse ++ core.reverse) = core.reverse :=
    dropBlanks_append (fun c hc => htrail c (List.mem_reverse.1 hc))
      (by rwa [List.head?_reverse])
  rw [trim, String.toList_ofList, List.append_assoc, dropBlanks_append hlead hstart,
    List.reverse_append, hback, List.reverse_reverse]

/-- What is left of a character sequence once the blanks are cut off. -/
structure Core (cs core : List Char) : Prop where
  split : ∃ lead trail, cs = lead ++ core ++ trail ∧ (∀ c ∈ lead, isBlank c = true) ∧
    ∀ c ∈ trail, isBlank c = true
  head : ∀ c ∈ core.head?, isBlank c = false
  last : ∀ c ∈ core.getLast?, isBlank c = false

lemma head?_dropBlanks (cs : List Char) : ∀ c ∈ (dropBlanks cs).head?, isBlank c = false := by
  intro c hc
  have hhead := List.head?_dropWhile_not isBlank cs
  rw [dropBlanks] at hc
  rw [Option.mem_def.1 hc] at hhead
  exact hhead

lemma getLast?_dropBlanks {cs : List Char} {c : Char} (h : c ∈ (dropBlanks cs).getLast?) :
    c ∈ cs.getLast? := by
  have hcs : cs = cs.takeWhile isBlank ++ dropBlanks cs := List.takeWhile_append_dropWhile.symm
  rw [hcs, List.getLast?_append, Option.mem_def.1 h]
  rfl

lemma core_trim (s : String) : Core s.toList (trim s).toList where
  split := by simpa using exists_trim_split s.toList
  head := by
    rw [trim, String.toList_ofList, List.head?_reverse]
    intro c hc
    refine head?_dropBlanks s.toList c ?_
    rw [← List.reverse_reverse (dropBlanks s.toList), List.head?_reverse]
    exact getLast?_dropBlanks hc
  last := by
    rw [trim, String.toList_ofList, List.getLast?_reverse]
    exact head?_dropBlanks _

/-- Nothing is cut off a second time. -/
lemma trim_trim (s : String) : trim (trim s) = trim s := by
  have hcore := core_trim s
  by_cases hne : (trim s).toList = []
  · rw [String.toList_eq_nil_iff.1 hne]
    rfl
  · have htrim : trim (String.ofList ([] ++ (trim s).toList ++ [])) =
        String.ofList (trim s).toList :=
      trim_of_split (fun c hc => absurd hc List.not_mem_nil)
        (fun c hc => absurd hc List.not_mem_nil) hne hcore.head hcore.last
    rwa [List.nil_append, List.append_nil, String.ofList_toList] at htrim

/-! ### Words -/

/-- The pieces of a character sequence between blanks, less those that are empty. -/
def runs (cs : List Char) : List (List Char) :=
  (cs.splitOnP isBlank).filter (· ≠ [])

/-- The words of a text. -/
def words (s : String) : List String :=
  (runs s.toList).map String.ofList

variable {c : Char} {blanks core cs : List Char}

lemma runs_nil : runs [] = [] := rfl

/-- A cut at a blank goes through no word. -/
lemma runs_append_cons (hc : isBlank c = true) (cs ds : List Char) :
    runs (cs ++ c :: ds) = runs cs ++ runs ds := by
  rw [runs, List.splitOnP_append_cons cs ds hc, List.filter_append, runs, runs]

lemma runs_cons (hc : isBlank c = true) (cs : List Char) : runs (c :: cs) = runs cs :=
  runs_append_cons hc [] cs

/-- Blanks in front of a text are no part of its words. -/
lemma runs_blanks (h : ∀ c ∈ blanks, isBlank c = true) (cs : List Char) :
    runs (blanks ++ cs) = runs cs := by
  induction blanks with
  | nil => rfl
  | cons c blanks ih =>
    obtain ⟨hc, hrest⟩ := List.forall_mem_cons.1 h
    rw [List.cons_append, runs_cons hc, ih hrest]

lemma runs_dropBlanks (cs : List Char) : runs (dropBlanks cs) = runs cs := by
  have hcs : cs = cs.takeWhile isBlank ++ dropBlanks cs := List.takeWhile_append_dropWhile.symm
  conv_rhs => rw [hcs, runs_blanks fun c hc => List.mem_takeWhile_imp hc]

/-- What holds no blank is one word. -/
lemma runs_solid (hne : core ≠ []) (h : ∀ c ∈ core, isBlank c = false) : runs core = [core] := by
  rw [runs, List.splitOnP_eq_singleton h]
  simp [hne]

/-- What holds no blank is the first word if nothing or a blank is behind it. -/
lemma runs_solid_append (hne : core ≠ []) (h : ∀ c ∈ core, isBlank c = false)
    (hrest : ∀ c ∈ cs.head?, isBlank c = true) : runs (core ++ cs) = core :: runs cs := by
  cases cs with
  | nil => rw [List.append_nil, runs_solid hne h, runs_nil]
  | cons c cs =>
    have hc : isBlank c = true := hrest c rfl
    rw [runs_append_cons hc, runs_cons hc, runs_solid hne h, List.singleton_append]

lemma words_empty : words "" = [] := rfl

/-- The words of texts that are joined with spaces are their words, one after the other. -/
theorem words_intercalate (ts : List String) : words (" ".intercalate ts) = ts.flatMap words := by
  induction ts with
  | nil => rfl
  | cons t ts ih =>
    cases ts with
    | nil => simp
    | cons u us =>
      have hspace : isBlank ' ' = true := rfl
      rw [String.intercalate_cons_cons, List.flatMap_cons, ← ih, words, words, words,
        ← List.map_append, ← runs_append_cons hspace]
      simp

end PodAdmission.Text
