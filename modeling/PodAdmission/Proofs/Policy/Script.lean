import PodAdmission.Policy.HostProcess
import PodAdmission.Proofs.Text.Blank

/-!
# The script of a wrapped command

The tokens of a command are joined to a script, the first one without the program's name. `Behind`
says what is left of the tokens, token by token; word by word nothing is lost, doubled or moved but
that name, so it makes no difference where the command is cut into tokens and where its arguments
begin.
-/

namespace PodAdmission.HostProcess

variable {s first : String} {tokens rest : List String} {command args : Option (List String)}

/-! ### The first token -/

/-- The text starts with the program's name, alone or with a blank behind it. -/
def StartsProgram (s : String) : Prop :=
  ∃ rest, s.toList = program.toList ++ rest ∧ ∀ c ∈ rest.head?, isBlank c = true

lemma behindProgram?_eq_some_iff {s : String} {rest : List Char} :
    behindProgram? s = some rest ↔ s.toList = program.toList ++ rest := by
  rw [behindProgram?]
  split_ifs with hpre
  · obtain ⟨behind, heq⟩ := List.isPrefixOf_iff_prefix.1 hpre
    simp [← heq]
  · refine iff_of_false nofun fun heq => hpre ?_
    rw [List.isPrefixOf_iff_prefix, heq]
    exact List.prefix_append _ _

lemma matchesProgram_iff {s : String} : matchesProgram s = true ↔ StartsProgram s := by
  rw [matchesProgram, StartsProgram]
  simp only [← behindProgram?_eq_some_iff]
  cases behindProgram? s with
  | none => simp
  | some rest => cases rest <;> simp

lemma stripProgram_of_matches (h : matchesProgram s = true) {cs : List Char}
    (hcs : s.toList = program.toList ++ cs) :
    stripProgram s = String.ofList (Text.dropBlanks cs) := by
  rw [stripProgram]
  simp only [behindProgram?_eq_some_iff.2 hcs, if_pos h]

lemma stripProgram_of_not_matches (h : matchesProgram s = false) : stripProgram s = s := by
  rw [stripProgram]
  cases behindProgram? s with
  | none => rfl
  | some cs => simp only [h]; rfl

/-- Behind the program's name there is nothing, or a blank. -/
lemma matchesProgram_append {cs : List Char} :
    matchesProgram (String.ofList (program.toList ++ cs)) = true ↔
      ∀ c ∈ cs.head?, isBlank c = true := by
  rw [matchesProgram_iff, StartsProgram, String.toList_ofList]
  simp only [List.append_cancel_left_eq, exists_eq_left']

/-- A token that starts the program has blanks behind the name, and then nothing or a text. -/
lemma stripProgram_append {blanks core : List Char} (hblanks : ∀ c ∈ blanks, isBlank c = true)
    (hcore : ∀ c ∈ core.head?, isBlank c = false)
    (h : matchesProgram (String.ofList (program.toList ++ (blanks ++ core))) = true) :
    stripProgram (String.ofList (program.toList ++ (blanks ++ core))) = String.ofList core := by
  rw [stripProgram_of_matches h String.toList_ofList, Text.dropBlanks_append hblanks hcore]

/-! ### What is left of the tokens -/

/-- The tokens of a command without the program's name and the blanks behind it, by which the first
one starts. If there is nothing else in the first token, it is left out. -/
inductive Behind : List String → List String → Prop where
  | empty : Behind [] []
  | name {blanks : List Char} (hblanks : ∀ c ∈ blanks, isBlank c = true) (tokens : List String) :
      Behind (String.ofList (program.toList ++ blanks) :: tokens) tokens
  | text {blanks : List Char} (hblanks : ∀ c ∈ blanks, isBlank c = true) (hne : blanks ≠ [])
      {c : Char} (hc : isBlank c = false) (cs : List Char) (tokens : List String) :
      Behind (String.ofList (program.toList ++ (blanks ++ c :: cs)) :: tokens)
        (String.ofList (c :: cs) :: tokens)

lemma scriptParts_cons (first : String) (tokens : List String) (args : Option (List String)) :
    scriptParts (some (first :: tokens)) args =
      (if (stripProgram first).isEmpty then tokens else stripProgram first :: tokens) ++
        args.getD [] := rfl

lemma behind_cons (h : matchesProgram first = true) (tokens : List String) :
    Behind (first :: tokens) (scriptParts (some (first :: tokens)) none) := by
  obtain ⟨cs, hcs, hhead⟩ := matchesProgram_iff.1 h
  have hfirst : first = String.ofList (program.toList ++ cs) := by
    rw [← hcs, String.ofList_toList]
  have hsplit : cs = cs.takeWhile isBlank ++ Text.dropBlanks cs :=
    List.takeWhile_append_dropWhile.symm
  have hblanks : ∀ c ∈ cs.takeWhile isBlank, isBlank c = true := fun c hc =>
    List.mem_takeWhile_imp hc
  rw [scriptParts_cons, stripProgram_of_matches h hcs, Option.getD_none, List.append_nil]
  cases hdrop : Text.dropBlanks cs with
  | nil =>
    rw [hdrop, List.append_nil] at hsplit
    rw [hfirst, hsplit]
    exact .name hblanks tokens
  | cons c rest =>
    have hc : isBlank c = false := by
      have hnot := List.head?_dropWhile_not isBlank cs
      rw [Text.dropBlanks] at hdrop
      simpa [hdrop] using hnot
    have hne : cs.takeWhile isBlank ≠ [] := by
      intro hnil
      rw [hnil, hdrop, List.nil_append] at hsplit
      rw [hsplit] at hhead
      exact absurd (hhead c rfl) (by simp [hc])
    rw [hdrop] at hsplit
    rw [if_neg (by simp), hfirst, hsplit]
    exact .text hblanks hne hc rest tokens

/-- What is left of the tokens are the parts of a script without arguments. -/
lemma Behind.eq_scriptParts {left : List String} (h : Behind tokens left) :
    left = scriptParts (some tokens) none := by
  cases h with
  | empty => rfl
  | @name blanks hblanks tokens =>
    have hmatches : matchesProgram (String.ofList (program.toList ++ blanks)) = true :=
      matchesProgram_append.2 fun c hc => hblanks c (List.mem_of_mem_head? hc)
    have hstrip : stripProgram (String.ofList (program.toList ++ (blanks ++ []))) =
        String.ofList [] :=
      stripProgram_append hblanks (by simp) (by rwa [List.append_nil])
    rw [List.append_nil] at hstrip
    rw [scriptParts_cons, hstrip]
    simp
  | @text blanks hblanks hne c hc cs tokens =>
    have hmatches : matchesProgram (String.ofList (program.toList ++ (blanks ++ c :: cs))) =
        true := by
      obtain ⟨b, bs, rfl⟩ := List.exists_cons_of_ne_nil hne
      refine matchesProgram_append.2 fun d hd => ?_
      obtain rfl := Option.some.inj hd
      exact hblanks b List.mem_cons_self
    rw [scriptParts_cons, stripProgram_append hblanks (by simpa using hc) hmatches]
    simp

lemma Behind.unique {left left' : List String} (h : Behind tokens left)
    (h' : Behind tokens left') : left = left' :=
  h.eq_scriptParts.trans h'.eq_scriptParts.symm

/-- The parts of the script of a container that runs the program. -/
lemma exists_behind (h : ∀ first ∈ (command.getD []).head?, matchesProgram first = true)
    (args : Option (List String)) :
    ∃ left, Behind (command.getD []) left ∧ scriptParts command args = left ++ args.getD [] := by
  cases htokens : command.getD [] with
  | nil => exact ⟨[], .empty, by rw [scriptParts, htokens]⟩
  | cons first tokens =>
    rw [htokens] at h
    refine ⟨_, behind_cons (h first rfl) tokens, ?_⟩
    rw [scriptParts_cons, Option.getD_none, List.append_nil, scriptParts, htokens]

/-! ### The words of a script -/

/-- The words of tokens, one token after the other. -/
def tokenWords (tokens : Option (List String)) : List String :=
  (tokens.getD []).flatMap Text.words

/-- The first token of the command starts the program. -/
def Starts (command : Option (List String)) : Prop :=
  ∃ first rest, command = some (first :: rest) ∧ matchesProgram first = true

/-- The script holds the words of the command and of the arguments in their order, behind its own,
without the program's name if the command starts with it. -/
structure KeepsWords (command args : Option (List String)) (made : String) : Prop where
  starts : Starts command → ∃ behind, tokenWords command = program :: behind ∧
    Text.words made = Text.words scriptPrefix ++ behind ++ tokenWords args
  other : ¬ Starts command →
    Text.words made = Text.words scriptPrefix ++ tokenWords command ++ tokenWords args

/-- A token that starts the program has its name as the first word. -/
lemma words_of_matches (h : matchesProgram s = true) :
    Text.words s = program :: Text.words (stripProgram s) := by
  obtain ⟨cs, hcs, hhead⟩ := matchesProgram_iff.1 h
  have hall : program.toList.all (fun c => !isBlank c) = true := by decide
  have hprogram (c : Char) (hc : c ∈ program.toList) : isBlank c = false := by
    simpa using List.all_eq_true.1 hall c hc
  rw [stripProgram_of_matches h hcs, Text.words, hcs,
    Text.runs_solid_append (by decide) hprogram hhead, List.map_cons, String.ofList_toList,
    Text.words, String.toList_ofList, Text.runs_dropBlanks]

/-- The words behind the program's name are those of the script. -/
lemma flatMap_words_scriptParts (first : String) (tokens : List String)
    (args : Option (List String)) :
    (scriptParts (some (first :: tokens)) args).flatMap Text.words =
      Text.words (stripProgram first) ++ tokens.flatMap Text.words ++ tokenWords args := by
  rw [scriptParts_cons, List.flatMap_append, tokenWords]
  split_ifs with hempty
  · rw [String.isEmpty_iff.1 hempty, Text.words_empty, List.nil_append]
  · rw [List.flatMap_cons]

lemma words_script (command args : Option (List String)) :
    Text.words (script command args) =
      Text.words scriptPrefix ++ (scriptParts command args).flatMap Text.words := by
  have hprefix : scriptPrefix.toList = scriptPrefix.toList.dropLast ++ [' '] := by decide
  have hspace : isBlank ' ' = true := rfl
  rw [← Text.words_intercalate, script, Text.words, Text.words, Text.words, String.toList_append,
    hprefix, List.append_assoc, List.singleton_append, Text.runs_append_cons hspace,
    Text.runs_append_cons hspace, Text.runs_nil, List.append_nil, List.map_append]

lemma keepsWords_script (command args : Option (List String)) :
    KeepsWords command args (script command args) := by
  constructor
  · rintro ⟨first, tokens, rfl, hmatches⟩
    refine ⟨Text.words (stripProgram first) ++ tokens.flatMap Text.words, ?_, ?_⟩
    · rw [tokenWords, Option.getD_some, List.flatMap_cons, words_of_matches hmatches,
        List.cons_append]
    · rw [words_script, flatMap_words_scriptParts, ← List.append_assoc (Text.words scriptPrefix)]
  · intro hstarts
    rw [words_script, List.append_assoc]
    congr 1
    cases htokens : command.getD [] with
    | nil =>
      rw [scriptParts, htokens, tokenWords, htokens]
      rfl
    | cons first tokens =>
      have hcommand : command = some (first :: tokens) := by
        cases command with
        | none => cases htokens
        | some ts => rw [← htokens, Option.getD_some]
      subst hcommand
      have hmatches : matchesProgram first = false := by
        rw [← Bool.not_eq_true]
        exact fun h => hstarts ⟨first, tokens, rfl, h⟩
      have hwords : tokenWords (some (first :: tokens)) =
          Text.words first ++ tokens.flatMap Text.words := rfl
      rw [flatMap_words_scriptParts, stripProgram_of_not_matches hmatches, hwords]

/-- No word of the command and its arguments is lost, doubled or moved, but for the program's name.
So commands that start the program and agree with their arguments word by word get scripts that
agree word by word. -/
theorem wrap_keeps_words (command args : Option (List String)) :
    (wrap command args).2 = [script command args] ∧
    KeepsWords command args (script command args) ∧
    ∀ command' args', Starts command → Starts command' →
      tokenWords command ++ tokenWords args = tokenWords command' ++ tokenWords args' →
        Text.words (script command args) = Text.words (script command' args') := by
  refine ⟨rfl, keepsWords_script command args, ?_⟩
  intro command' args' hstarts hstarts' hwords
  obtain ⟨behind, hcommand, hscript⟩ := (keepsWords_script command args).starts hstarts
  obtain ⟨behind', hcommand', hscript'⟩ := (keepsWords_script command' args').starts hstarts'
  rw [hcommand, hcommand', List.cons_append, List.cons_append] at hwords
  rw [hscript, hscript', List.append_assoc, List.append_assoc, (List.cons.inj hwords).2]

/-- The command may be one token with blanks of any kind, or end after the program's name. -/
theorem wrap_keeps_words_recut :
    Starts (some ["agnhost\u00a0netexec\t", "", "--port 80"]) ∧ Starts (some ["agnhost"]) ∧
      Text.words (script (some ["agnhost\u00a0netexec\t", "", "--port 80"]) none) =
        Text.words (script (some ["agnhost"]) (some ["netexec", "--port", "80"])) := by
  have hstarts : Starts (some ["agnhost\u00a0netexec\t", "", "--port 80"]) :=
    ⟨_, _, rfl, by decide⟩
  have hstarts' : Starts (some ["agnhost"]) := ⟨_, _, rfl, by decide⟩
  exact ⟨hstarts, hstarts', (wrap_keeps_words _ none).2.2 _ _ hstarts hstarts' (by decide)⟩

end PodAdmission.HostProcess
