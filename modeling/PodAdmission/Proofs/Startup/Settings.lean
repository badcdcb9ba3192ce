import Mathlib.Data.List.Induction
import Mathlib.Data.List.Pairwise
import PodAdmission.Proofs.Entries
import PodAdmission.Proofs.Startup.Arguments
import PodAdmission.Proofs.Startup.Values

/-!
# Settings of a start

What a flag is set to comes from its group or else from its variable in the environment. Settings
hold the texts of flags if each of them has the reading of its text and the others are missing
(`Settings.Hold`): so do those that are found in groups, and looking up the environment keeps them
and adds what is missing. A start fails just if a group is unknown, a text is no value of its flag
or a flag that is required has none (`Flags.Acceptable`).
-/

namespace PodAdmission

/-- The value of the first group with a name. -/
def FlagGroup.given? (name : String) (groups : List FlagGroup) : Option String :=
  (groups.find? fun g => g.name == name).map FlagGroup.value

/-- What a flag is set to: its value if it is given, or else its variable. -/
def Flag.text? (groups : List FlagGroup) (environment : String → Option String) (flag : Flag) :
    Option String :=
  (FlagGroup.given? flag.name groups).or (environment flag.envName)

/-- The settings are the readings of the texts of flags. -/
def Settings.Hold (flags : List Flag) (texts : Flag → Option String) (s : Settings) : Prop :=
  ∀ flag ∈ flags, Option.Rel (fun text x => Setting.read flag text = .ok x) (texts flag)
    (s.get? flag.name)

/-- The texts of flags are read, or else one of them is no value of its flag. -/
inductive Settings.Outcome (flags : List Flag) (texts : Flag → Option String) :
    Option Settings → Prop
  | held {s : Settings} (h : Settings.Hold flags texts s) : Outcome flags texts (some s)
  | refused {flag : Flag} {text : String} (hflag : flag ∈ flags) (htext : texts flag = some text)
    (hbad : ¬ flag.Accepts text) : Outcome flags texts none

namespace Flags

/-- The flags have names of their own. -/
def Distinct (flags : List Flag) : Prop :=
  flags.Pairwise fun f g => f.name ≠ g.name

instance (flags : List Flag) : Decidable (Distinct flags) :=
  inferInstanceAs (Decidable (flags.Pairwise fun f g => f.name ≠ g.name))

/-- The groups are well formed and give each of the flags once at most. -/
structure Proper (flags : List Flag) (groups : List FlagGroup) : Prop where
  wellFormed : ∀ g ∈ groups, g.WellFormed
  once : groups.Pairwise fun g h => g.name = h.name → g.flag? flags = none

/-- There is a start with these groups and this environment. -/
structure Acceptable (flags : List Flag) (groups : List FlagGroup)
    (environment : String → Option String) : Prop where
  known : ∀ g ∈ groups, (g.flag? flags).isSome = true
  readable : ∀ flag ∈ flags, ∀ text ∈ flag.text? groups environment, flag.Accepts text
  complete : ∀ flag ∈ flags, flag.isRequired = true →
    (flag.text? groups environment).isSome = true

end Flags

variable {flags : List Flag} {flag : Flag} {g : FlagGroup} {groups groups' : List FlagGroup}
  {s s' : Settings} {x : Setting} {name key value : String} {fault : FlagFault}
  {texts : Flag → Option String} {environment environment' : String → Option String}

/-! ### Settings -/

lemma Flags.Distinct.eq_of_name (h : Flags.Distinct flags) {f g : Flag} (hf : f ∈ flags)
    (hg : g ∈ flags) (hname : f.name = g.name) : f = g := by
  have : Std.Symm fun f g : Flag => f.name ≠ g.name := ⟨fun _ _ hfg => hfg.symm⟩
  by_contra hne
  exact List.Pairwise.forall h hf hg hne hname

namespace Settings

lemma get?_append (name key : String) (s : Settings) (x : Setting) :
    get? name (s ++ [(key, x)]) = (get? name s).or (if key = name then some x else none) := by
  rw [get?, get?, List.find?_append]
  cases s.find? fun e => e.1 == name with
  | some e => rfl
  | none =>
    by_cases h : key = name
    · simp [h]
    · simp [h]

lemma get?_append_self (h : get? key s = none) (x : Setting) :
    get? key (s ++ [(key, x)]) = some x := by
  rw [get?_append, h, if_pos rfl, Option.none_or]

lemma get?_append_of_ne (h : key ≠ name) (s : Settings) (x : Setting) :
    get? name (s ++ [(key, x)]) = get? name s := by
  rw [get?_append, if_neg h, Option.or_none]

lemma add_eq_ok_iff : s.add flag value = .ok s' ↔
    s.get? flag.name = none ∧
      ∃ x, Setting.read flag value = .ok x ∧ s' = s ++ [(flag.name, x)] := by
  rw [add]
  cases s.get? flag.name with
  | some x => simp
  | none =>
    cases Setting.read flag value with
    | error fault => simp [Except.map]
    | ok x => simp [Except.map, eq_comm]

namespace Hold

lemma cases (h : Hold flags texts s) (hflag : flag ∈ flags) :
    texts flag = none ∧ s.get? flag.name = none ∨
      ∃ text x, texts flag = some text ∧ Setting.read flag text = .ok x ∧
        s.get? flag.name = some x := by
  have hrel := h flag hflag
  cases hget : s.get? flag.name <;> cases htext : texts flag <;> rw [hget, htext] at hrel <;>
    cases hrel
  case none.none => exact .inl ⟨rfl, rfl⟩
  case some.some hread => exact .inr ⟨_, _, rfl, hread, rfl⟩

lemma get?_eq_none_iff (h : Hold flags texts s) (hflag : flag ∈ flags) :
    s.get? flag.name = none ↔ texts flag = none := by
  obtain ⟨htext, hget⟩ | ⟨text, x, htext, -, hget⟩ := h.cases hflag <;> simp [htext, hget]

lemma get?_eq (h : Hold flags texts s) (hflag : flag ∈ flags) :
    s.get? flag.name = (texts flag).bind fun text => (Setting.read flag text).toOption := by
  obtain ⟨htext, hget⟩ | ⟨text, x, htext, hread, hget⟩ := h.cases hflag
  · rw [htext, hget, Option.bind_none]
  · rw [htext, hget, Option.bind_some, hread, toOption_ok]

/-- A setting is missing from what is required just if its flag has no text. -/
lemma any_missing_iff (h : Hold flags texts s) :
    (flags.any fun f => f.isRequired && (s.get? f.name).isNone) = true ↔
      ∃ flag ∈ flags, flag.isRequired = true ∧ texts flag = none := by
  rw [List.any_eq_true]
  refine exists_congr fun flag => and_congr_right fun hflag => ?_
  rw [Bool.and_eq_true_iff, Option.isNone_iff_eq_none, h.get?_eq_none_iff hflag]

/-- Every text that is held has been read. -/
lemma accepts (h : Hold flags texts s) (hflag : flag ∈ flags) (htext : texts flag = some value) :
    flag.Accepts value := by
  obtain ⟨hnone, -⟩ | ⟨text, x, hsome, hread, -⟩ := h.cases hflag
  · rw [htext] at hnone
    cases hnone
  · obtain rfl := Option.some.inj (htext.symm.trans hsome)
    exact (Flag.accepts_iff ..).2 ⟨x, hread⟩

lemma congr {texts' : Flag → Option String} (h : Hold flags texts s)
    (htexts : ∀ flag ∈ flags, texts flag = texts' flag) : Hold flags texts' s :=
  fun flag hflag => htexts flag hflag ▸ h flag hflag

/-- Adding the text of a flag that has none. -/
lemma outcome_add (h : Hold flags texts s) (hflags : Flags.Distinct flags) (hflag : flag ∈ flags)
    (hget : s.get? flag.name = none) (value : String) :
    Outcome flags (Function.update texts flag (some value)) (s.add flag value).toOption := by
  cases hadd : s.add flag value with
  | error fault =>
    refine .refused hflag (Function.update_self ..) fun haccepts => ?_
    obtain ⟨x, hread⟩ := (Flag.accepts_iff ..).1 haccepts
    have hok : s.add flag value = .ok (s ++ [(flag.name, x)]) :=
      add_eq_ok_iff.2 ⟨hget, x, hread, rfl⟩
    rw [hadd] at hok
    cases hok
  | ok s' =>
    obtain ⟨-, x, hread, rfl⟩ := add_eq_ok_iff.1 hadd
    refine .held fun f hf => ?_
    by_cases heq : f = flag
    · rw [heq, Function.update_self, get?_append_self hget]
      exact .some hread
    · have hne : flag.name ≠ f.name := fun hname => heq (hflags.eq_of_name hf hflag hname.symm)
      rw [Function.update_of_ne heq, get?_append_of_ne hne]
      exact h f hf

end Hold

lemma Outcome.congr {texts' : Flag → Option String} {result : Option Settings}
    (h : Outcome flags texts result) (htexts : ∀ flag ∈ flags, texts flag = texts' flag) :
    Outcome flags texts' result := by
  cases h with
  | held h => exact .held (h.congr htexts)
  | refused hflag htext hbad => exact .refused hflag (htexts _ hflag ▸ htext) hbad

end Settings

namespace Flags

/-! ### Groups -/

lemma flag?_eq_some (h : g.flag? flags = some flag) : flag ∈ flags ∧ flag.name = g.name :=
  ⟨List.mem_of_find?_eq_some h, by simpa using List.find?_some h⟩

lemma flag?_ne_none (h : flag ∈ flags) (hname : flag.name = g.name) : g.flag? flags ≠ none :=
  Option.isSome_iff_ne_none.1 (List.find?_isSome.2 ⟨flag, h, by simp [hname]⟩)

lemma given?_append (name : String) (groups : List FlagGroup) (g : FlagGroup) :
    FlagGroup.given? name (groups ++ [g]) =
      (FlagGroup.given? name groups).or (if g.name = name then some g.value else none) := by
  rw [FlagGroup.given?, FlagGroup.given?, List.find?_append]
  cases groups.find? fun g => g.name == name with
  | some g => rfl
  | none =>
    by_cases h : g.name = name
    · simp [h]
    · simp [h]

lemma exists_mem_of_given? (h : FlagGroup.given? name groups = some value) :
    ∃ g ∈ groups, g.name = name ∧ g.value = value := by
  obtain ⟨g, hg, rfl⟩ := Option.map_eq_some_iff.1 h
  exact ⟨g, List.mem_of_find?_eq_some hg, by simpa using List.find?_some hg, rfl⟩

lemma addGroups_append (flags : List Flag) (groups : List FlagGroup) (g : FlagGroup)
    (s : Settings) :
    (groups ++ [g]).foldlM (Settings.addGroup flags) s =
      (groups.foldlM (Settings.addGroup flags) s).bind fun s => s.addGroup flags g := by
  rw [List.foldlM_append]
  simp

/-- A group that is not known is not accepted. -/
lemma addGroups_unknown (hg : g ∈ groups) (hunknown : g.flag? flags = none) (s : Settings) :
    groups.foldlM (Settings.addGroup flags) s = none := by
  by_contra hne
  obtain ⟨s', hs'⟩ := isSome_of_foldlM (Option.isSome_iff_ne_none.2 hne) g hg
  rw [Settings.addGroup, hunknown] at hs'
  cases hs'

/-- Of two groups of one flag that is known there is one at most. -/
lemma Proper.given?_eq_none (h : Proper flags (groups ++ [g])) (hflag : g.flag? flags = some flag) :
    FlagGroup.given? flag.name groups = none := by
  obtain ⟨hmem, hname⟩ := flag?_eq_some hflag
  by_contra hgiven
  obtain ⟨value, hvalue⟩ := Option.ne_none_iff_exists'.1 hgiven
  obtain ⟨g', hg', hsame, -⟩ := exists_mem_of_given? hvalue
  exact flag?_ne_none hmem hsame.symm
    ((List.pairwise_append.1 h.once).2.2 g' hg' g List.mem_cons_self (hsame.trans hname))

lemma Proper.before (h : Proper flags (groups ++ [g])) : Proper flags groups :=
  ⟨fun g' hg' => h.wellFormed g' (List.mem_append_left _ hg'), (List.pairwise_append.1 h.once).1⟩

/-- Groups of known flags are read, unless one of them has a text that is no value. -/
theorem outcome_addGroups (hflags : Distinct flags) (hgroups : Proper flags groups)
    (hknown : ∀ g ∈ groups, (g.flag? flags).isSome = true) :
    Settings.Outcome flags (fun f => FlagGroup.given? f.name groups)
      (groups.foldlM (Settings.addGroup flags) []) := by
  induction groups using List.reverseRecOn with
  | nil => exact .held fun flag _ => .none
  | append_singleton groups g ih =>
    obtain ⟨hbefore, hlast⟩ := List.forall_mem_append.1 hknown
    obtain ⟨flag, hflag⟩ := Option.isSome_iff_exists.1 (hlast g List.mem_cons_self)
    obtain ⟨hmem, hname⟩ := flag?_eq_some hflag
    have hnew := hgroups.given?_eq_none hflag
    rw [addGroups_append]
    generalize groups.foldlM (Settings.addGroup flags) [] = result at ih
    cases ih hgroups.before hbefore with
    | refused hf htext hbad =>
      refine .refused hf ?_ hbad
      rw [given?_append, htext, Option.some_or]
    | @held s hs =>
      have hadd := hs.outcome_add hflags hmem ((hs.get?_eq_none_iff hmem).2 hnew) g.value
      rw [Option.bind_some, Settings.addGroup, hflag, Option.bind_some]
      refine hadd.congr fun f hf => ?_
      by_cases heq : f = flag
      · rw [heq, Function.update_self, given?_append, hnew, if_pos hname.symm, Option.none_or]
      · have hne : g.name ≠ f.name := fun h => heq (hflags.eq_of_name hf hmem (by rw [hname, h]))
        rw [Function.update_of_ne heq, given?_append, if_neg hne, Option.or_none]

lemma toOption_readArguments (hgroups : Proper flags groups) (hasVersion : Bool) :
    (readArguments flags hasVersion [] none (groups.flatMap FlagGroup.arguments)).toOption =
      groups.foldlM (Settings.addGroup flags) [] :=
  readArguments_groups flags hasVersion hgroups.wellFormed [] none

lemma hold_of_readArguments (hflags : Distinct flags) (hgroups : Proper flags groups)
    (hasVersion : Bool)
    (h : readArguments flags hasVersion [] none (groups.flatMap FlagGroup.arguments) = .ok s) :
    Settings.Hold flags (fun f => FlagGroup.given? f.name groups) s := by
  have hsome := toOption_readArguments hgroups hasVersion
  rw [h, toOption_ok] at hsome
  have hknown : ∀ g ∈ groups, (g.flag? flags).isSome = true := fun g hg => by
    by_contra hunknown
    rw [addGroups_unknown hg (Option.not_isSome_iff_eq_none.1 hunknown)] at hsome
    cases hsome
  have hadd := outcome_addGroups hflags hgroups hknown
  rw [← hsome] at hadd
  cases hadd with
  | held hs => exact hs

/-! ### The environment -/

variable {rest : List Flag}

lemma readEnvironment_settled (rest : List Flag)
    (h : s.get? flag.name = none → environment flag.envName = none) :
    readEnvironment environment (flag :: rest) s = readEnvironment environment rest s := by
  rw [readEnvironment]
  cases hget : s.get? flag.name with
  | some x => rfl
  | none => rw [h hget]

lemma readEnvironment_missing (rest : List Flag) (hget : s.get? flag.name = none)
    (htext : environment flag.envName = some value) :
    readEnvironment environment (flag :: rest) s =
      (s.add flag value).bind (readEnvironment environment rest) := by
  rw [readEnvironment]
  simp only [hget, htext]
  cases s.add flag value <;> rfl

/-- What the flags are set to once the environment is looked up for some of them. -/
def lookedUp (environment : String → Option String) (rest : List Flag)
    (texts : Flag → Option String) (flag : Flag) : Option String :=
  if flag ∈ rest then (texts flag).or (environment flag.envName) else texts flag

lemma lookedUp_settled (h : texts flag = none → environment flag.envName = none) (f : Flag) :
    lookedUp environment (flag :: rest) texts f = lookedUp environment rest texts f := by
  by_cases heq : f = flag
  · have hor : (texts flag).or (environment flag.envName) = texts flag := by
      cases htext : texts flag with
      | none => rw [h htext, Option.none_or]
      | some text => rfl
    rw [heq, lookedUp, lookedUp, hor, ite_self, ite_self]
  · simp [lookedUp, heq]

lemma lookedUp_missing (hnone : texts flag = none) (htext : environment flag.envName = some value)
    (f : Flag) : lookedUp environment (flag :: rest) texts f =
      lookedUp environment rest (Function.update texts flag (some value)) f := by
  by_cases heq : f = flag
  · simp [lookedUp, heq, hnone, htext]
  · simp [lookedUp, heq]

lemma lookedUp_of_some (h : texts flag = some value) (rest : List Flag) :
    lookedUp environment rest texts flag = some value := by
  rw [lookedUp, h, Option.some_or, ite_self]

/-- Looking up the environment adds what is missing, unless it is no value. -/
theorem outcome_readEnvironment (environment : String → Option String) (hflags : Distinct flags)
    (hrest : ∀ flag ∈ rest, flag ∈ flags) (hs : Settings.Hold flags texts s) :
    Settings.Outcome flags (lookedUp environment rest texts)
      (readEnvironment environment rest s).toOption := by
  induction rest generalizing s texts with
  | nil => exact .held hs
  | cons flag rest ih =>
    obtain ⟨hflag, hrest⟩ := List.forall_mem_cons.1 hrest
    have hiff := hs.get?_eq_none_iff hflag
    by_cases hsettled : s.get? flag.name = none → environment flag.envName = none
    · rw [readEnvironment_settled rest hsettled]
      refine (ih hrest hs).congr fun f _ => ?_
      rw [lookedUp_settled fun hnone => hsettled (hiff.2 hnone)]
    · obtain ⟨hget, hset⟩ := Classical.not_imp.1 hsettled
      obtain ⟨value, hvalue⟩ := Option.ne_none_iff_exists'.1 hset
      have hadd := hs.outcome_add hflags hflag hget value
      rw [readEnvironment_missing rest hget hvalue, toOption_bind]
      refine Settings.Outcome.congr ?_ fun f _ => (lookedUp_missing (hiff.1 hget) hvalue f).symm
      generalize (s.add flag value).toOption = result at hadd
      cases hadd with
      | refused hf htext hbad => exact .refused hf (lookedUp_of_some htext rest) hbad
      | held hs => exact ih hrest hs

/-! ### Both -/

lemma toOption_resolve (hgroups : Proper flags groups) (hasVersion : Bool) :
    (resolve flags hasVersion environment (groups.flatMap FlagGroup.arguments)).toOption =
      (groups.foldlM (Settings.addGroup flags) []).bind fun s =>
        (readEnvironment environment flags s).toOption.bind fun s =>
          if flags.any fun f => f.isRequired && (s.get? f.name).isNone then none else some s := by
  rw [← toOption_readArguments hgroups hasVersion, resolve]
  cases readArguments flags hasVersion [] none (groups.flatMap FlagGroup.arguments) with
  | error fault => rfl
  | ok s =>
    cases hlook : readEnvironment environment flags s with
    | error fault =>
      simp only [hlook, toOption_ok, Option.bind_some]
      rfl
    | ok s =>
      simp only [hlook, toOption_ok, Option.bind_some]
      split_ifs <;> rfl

/-- A start with proper groups has settings that hold the texts of its flags, unless something is
not acceptable. -/
theorem resolve_cases (hflags : Distinct flags) (hgroups : Proper flags groups)
    (hasVersion : Bool) (environment : String → Option String) :
    (∃ s, resolve flags hasVersion environment (groups.flatMap FlagGroup.arguments) = .ok s ∧
      Settings.Hold flags (Flag.text? groups environment) s ∧
        Acceptable flags groups environment) ∨
    (resolve flags hasVersion environment (groups.flatMap FlagGroup.arguments)).toOption = none ∧
      ¬ Acceptable flags groups environment := by
  simp only [← toOption_eq_some_iff, toOption_resolve hgroups hasVersion]
  by_cases hknown : ∀ g ∈ groups, (g.flag? flags).isSome = true
  swap
  · obtain ⟨g, hg, hunknown⟩ := not_forall₂.1 hknown
    rw [addGroups_unknown hg (Option.not_isSome_iff_eq_none.1 hunknown)]
    exact .inr ⟨rfl, fun h => hknown h.known⟩
  have hadd := outcome_addGroups hflags hgroups hknown
  generalize groups.foldlM (Settings.addGroup flags) [] = result at hadd
  cases hadd with
  | @refused flag text hflag htext hbad =>
    refine .inr ⟨rfl, fun h => hbad (h.readable flag hflag text ?_)⟩
    rw [Flag.text?, htext, Option.some_or]
    rfl
  | @held s hs =>
    have hlook : Settings.Outcome flags (Flag.text? groups environment)
        (readEnvironment environment flags s).toOption :=
      (outcome_readEnvironment environment hflags (fun _ => id) hs).congr
        fun flag hflag => if_pos hflag
    rw [Option.bind_some]
    generalize (readEnvironment environment flags s).toOption = result at hlook
    cases hlook with
    | refused hflag htext hbad =>
      exact .inr ⟨rfl, fun h => hbad (h.readable _ hflag _ htext)⟩
    | @held s hs =>
      rw [Option.bind_some]
      split_ifs with hmissing
      · obtain ⟨flag, hflag, hrequired, hnone⟩ := hs.any_missing_iff.1 hmissing
        refine .inr ⟨rfl, fun h => ?_⟩
        have hsome := h.complete flag hflag hrequired
        rw [hnone] at hsome
        cases hsome
      · refine .inl ⟨s, rfl, hs, hknown, fun flag hflag text htext => hs.accepts hflag htext, ?_⟩
        intro flag hflag hrequired
        by_contra hnone
        exact hmissing (hs.any_missing_iff.2
          ⟨flag, hflag, hrequired, Option.not_isSome_iff_eq_none.1 hnone⟩)

/-! ### The order of groups -/

lemma flag?_congr {g' : FlagGroup} (h : g.name = g'.name) : g.flag? flags = g'.flag? flags := by
  rw [FlagGroup.flag?, FlagGroup.flag?, h]

lemma Proper.perm (h : Proper flags groups) (hperm : groups.Perm groups') :
    Proper flags groups' where
  wellFormed g hg := h.wellFormed g (hperm.mem_iff.2 hg)
  once := hperm.pairwise h.once fun hgh hname => by
    rw [flag?_congr hname]
    exact hgh hname.symm

/-- A flag has the value of any group that gives it. -/
lemma Proper.given?_eq_some_iff (h : Proper flags groups) (hflag : flag ∈ flags) :
    FlagGroup.given? flag.name groups = some value ↔
      ∃ g ∈ groups, g.name = flag.name ∧ g.value = value := by
  refine ⟨exists_mem_of_given?, ?_⟩
  rintro ⟨g, hg, hname, rfl⟩
  have hfound : (groups.find? fun g => g.name == flag.name).isSome = true :=
    List.find?_isSome.2 ⟨g, hg, by simp [hname]⟩
  obtain ⟨g', hg'⟩ := Option.isSome_iff_exists.1 hfound
  have hname' : g'.name = flag.name := by simpa using List.find?_some hg'
  have : Std.Symm fun g h : FlagGroup => g.name = h.name → g.flag? flags = none :=
    ⟨fun g h hgh hname => by rw [flag?_congr hname, hgh hname.symm]⟩
  have heq : g' = g := by
    by_contra hne
    exact flag?_ne_none hflag hname'.symm
      (List.Pairwise.forall h.once (List.mem_of_find?_eq_some hg') hg hne
        (hname'.trans hname.symm))
  rw [FlagGroup.given?, hg', heq, Option.map_some]

lemma Proper.text?_perm (h : Proper flags groups) (hperm : groups.Perm groups')
    (environment : String → Option String) (hflag : flag ∈ flags) :
    flag.text? groups environment = flag.text? groups' environment := by
  have hgiven : FlagGroup.given? flag.name groups = FlagGroup.given? flag.name groups' := by
    ext value
    rw [h.given?_eq_some_iff hflag, (h.perm hperm).given?_eq_some_iff hflag]
    simp only [hperm.mem_iff]
  rw [Flag.text?, Flag.text?, hgiven]

/-- Whether there is a start does not depend on the order of the groups. -/
lemma Acceptable.perm (h : Acceptable flags groups environment) (hgroups : Proper flags groups)
    (hperm : groups.Perm groups') : Acceptable flags groups' environment where
  known g hg := h.known g (hperm.mem_iff.2 hg)
  readable flag hflag text htext := by
    rw [← hgroups.text?_perm hperm environment hflag] at htext
    exact h.readable flag hflag text htext
  complete flag hflag hrequired := by
    rw [← hgroups.text?_perm hperm environment hflag]
    exact h.complete flag hflag hrequired

/-- The settings do not depend on the order of the groups. -/
theorem resolve_perm (hflags : Distinct flags) (hgroups : Proper flags groups)
    (hperm : groups.Perm groups') (hasVersion : Bool)
    (h : resolve flags hasVersion environment (groups.flatMap FlagGroup.arguments) = .ok s) :
    ∃ s', resolve flags hasVersion environment (groups'.flatMap FlagGroup.arguments) = .ok s' ∧
      ∀ flag ∈ flags, s.get? flag.name = s'.get? flag.name := by
  obtain ⟨s₁, hs₁, hhold, haccept⟩ | ⟨hnone, -⟩ :=
    resolve_cases hflags hgroups hasVersion environment
  · rw [h] at hs₁
    obtain rfl := Except.ok.inj hs₁
    obtain ⟨s', hs', hhold', -⟩ | ⟨-, hbad⟩ :=
      resolve_cases hflags (hgroups.perm hperm) hasVersion environment
    · refine ⟨s', hs', fun flag hflag => ?_⟩
      rw [hhold.get?_eq hflag, hhold'.get?_eq hflag, hgroups.text?_perm hperm environment hflag]
    · exact absurd (haccept.perm hgroups hperm) hbad
  · rw [h] at hnone
    cases hnone

/-! ### The variables of given flags -/

lemma readEnvironment_congr (h : ∀ flag ∈ rest, s.get? flag.name = none →
    environment flag.envName = environment' flag.envName) :
    readEnvironment environment rest s = readEnvironment environment' rest s := by
  induction rest generalizing s with
  | nil => rfl
  | cons flag rest ih =>
    obtain ⟨hflag, hrest⟩ := List.forall_mem_cons.1 h
    by_cases hsettled : s.get? flag.name = none → environment flag.envName = none
    · rw [readEnvironment_settled rest hsettled,
        readEnvironment_settled rest fun hget => by rw [← hflag hget, hsettled hget], ih hrest]
    · obtain ⟨hget, hset⟩ := Classical.not_imp.1 hsettled
      obtain ⟨value, hvalue⟩ := Option.ne_none_iff_exists'.1 hset
      rw [readEnvironment_missing rest hget hvalue,
        readEnvironment_missing rest hget ((hflag hget).symm.trans hvalue)]
      cases hadd : s.add flag value with
      | error fault => rfl
      | ok s' =>
        obtain ⟨-, x, -, rfl⟩ := Settings.add_eq_ok_iff.1 hadd
        refine ih fun f hf hnone => hrest f hf ?_
        rw [Settings.get?_append] at hnone
        exact (Option.or_eq_none_iff.1 hnone).1

/-- The variable of a flag that is given is not looked at. -/
theorem resolve_congr (hflags : Distinct flags) (hgroups : Proper flags groups) (hasVersion : Bool)
    (h : ∀ flag ∈ flags, FlagGroup.given? flag.name groups = none →
      environment flag.envName = environment' flag.envName) :
    resolve flags hasVersion environment (groups.flatMap FlagGroup.arguments) =
      resolve flags hasVersion environment' (groups.flatMap FlagGroup.arguments) := by
  rw [resolve, resolve]
  cases hs : readArguments flags hasVersion [] none (groups.flatMap FlagGroup.arguments) with
  | error fault => rfl
  | ok s =>
    have hhold := hold_of_readArguments hflags hgroups hasVersion hs
    have hlook : readEnvironment environment flags s = readEnvironment environment' flags s :=
      readEnvironment_congr fun flag hflag hget =>
        h flag hflag ((hhold.get?_eq_none_iff hflag).1 hget)
    simp only [hlook]

end Flags

end PodAdmission
