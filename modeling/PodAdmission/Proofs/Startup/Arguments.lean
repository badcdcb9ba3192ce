import Mathlib.Data.List.TakeWhile
import Mathlib.Tactic.Common
import PodAdmission.Startup.Flags

/-!
# Groups of arguments

Arguments that a program accepts come in groups of one or two, a flag with its value. Reading a
list of groups adds the values of its flags one after the other (`Settings.addGroup`). It makes no
difference that the value behind a flag is judged only later on: a fault in between keeps the
arguments from being accepted one way or the other, if with another message.
-/

namespace PodAdmission

/-! ### Results -/

lemma toOption_ok {ε α : Type} (a : α) : (Except.ok a : Except ε α).toOption = some a := rfl

lemma toOption_bind {ε α β : Type} (x : Except ε α) (f : α → Except ε β) :
    (x.bind f).toOption = x.toOption.bind fun a => (f a).toOption := by
  cases x <;> rfl

lemma toOption_eq_some_iff {ε α : Type} {x : Except ε α} {a : α} :
    x.toOption = some a ↔ x = .ok a := by
  cases x <;> simp [Except.toOption]

/-! ### Flags with their values -/

/-- A flag with its value, in one argument or in two. -/
structure FlagGroup where
  name : String
  value : String
  isJoined : Bool
  deriving DecidableEq

namespace FlagGroup

/-- The arguments of a group. -/
def arguments (g : FlagGroup) : List String :=
  if g.isJoined then ["--" ++ g.name ++ "=" ++ g.value] else ["--" ++ g.name, g.value]

/-- The arguments are read as a flag with this name and this value. -/
structure WellFormed (g : FlagGroup) : Prop where
  named : g.name ≠ ""
  undivided : '=' ∉ g.name.toList
  undashed : g.isJoined = false → g.value.toList.head? ≠ some '-'

/-- The flag of a group. -/
def flag? (flags : List Flag) (g : FlagGroup) : Option Flag :=
  flags.find? fun f => f.name == g.name

end FlagGroup

/-- Adds the value of a group. -/
def Settings.addGroup (flags : List Flag) (s : Settings) (g : FlagGroup) : Option Settings :=
  (g.flag? flags).bind fun flag => (s.add flag g.value).toOption

namespace Flags

variable {flags : List Flag} {flag : Flag} {g : FlagGroup} {s s' : Settings} {pending : Pending}
  {fault : FlagFault} {name value : String}

/-! ### Arguments one by one -/

lemma splitValue_undivided (h : '=' ∉ name.toList) :
    splitValue name.toList = (name, none) := by
  have htake : name.toList.takeWhile (· != '=') = name.toList :=
    List.takeWhile_eq_self_iff.2 fun c hc => bne_iff_ne.2 (ne_of_mem_of_not_mem hc h)
  rw [splitValue, htake, List.drop_length]
  simp

lemma splitValue_divided (h : '=' ∉ name.toList) (value : String) :
    splitValue (name.toList ++ '=' :: value.toList) = (name, some value) := by
  have htake : (name.toList ++ '=' :: value.toList).takeWhile (· != '=') = name.toList := by
    rw [List.takeWhile_append_of_pos fun c hc => bne_iff_ne.2 (ne_of_mem_of_not_mem hc h),
      List.takeWhile_cons_of_neg (by decide), List.append_nil]
  rw [splitValue, htake, List.drop_left]
  simp

/-- An argument with two dashes and more is a flag, with its value or without it. -/
lemma readArguments_long {argument : String} {c : Char} {cs : List Char}
    (h : argument.toList = '-' :: '-' :: c :: cs) (hasVersion : Bool) (rest : List String) :
    readArguments flags hasVersion s pending (argument :: rest) =
      (takeLong flags hasVersion s pending (splitValue (c :: cs)).1 (splitValue (c :: cs)).2).bind
        fun taken => readArguments flags hasVersion taken.1 taken.2 rest := by
  rw [readArguments.eq_def]
  simp only [h]
  cases takeLong flags hasVersion s pending (splitValue (c :: cs)).1 (splitValue (c :: cs)).2 <;>
    rfl

/-- An argument without a dash is the value of the flag before it. -/
lemma readArguments_plain (h : value.toList.head? ≠ some '-') (hasVersion : Bool)
    (flag : Flag) (rest : List String) :
    readArguments flags hasVersion s (some (flag, none)) (value :: rest) =
      readArguments flags hasVersion s (some (flag, some value)) rest := by
  rw [readArguments.eq_def]
  cases hvalue : value.toList with
  | nil =>
    simp only [hvalue]
    rfl
  | cons c cs =>
    have hc : c ≠ '-' := by
      rintro rfl
      rw [hvalue] at h
      exact h rfl
    simp only [hvalue]
    split
    case h_1 hdash => exact absurd (List.cons.inj hdash).1 hc
    case h_2 hdash => exact absurd (List.cons.inj hdash).1 hc
    case h_3 hdash => exact absurd (List.cons.inj hdash).1 hc
    case h_4 => rfl

/-- A flag that is not known is not accepted. -/
lemma takeLong_unknown (h : flags.find? (fun f => f.name == name) = none) (hasVersion : Bool)
    (s : Settings) (pending : Pending) (value : Option String) :
    ∃ fault, takeLong flags hasVersion s pending name value = .error fault := by
  rw [takeLong, h]
  cases request? hasVersion name with
  | none => exact ⟨_, rfl⟩
  | some request =>
    cases value with
    | some value => exact ⟨_, rfl⟩
    | none => cases settle s pending <;> exact ⟨_, rfl⟩

/-- A flag with its value has what is before it judged first. -/
lemma takeLong_some (h : flags.find? (fun f => f.name == name) = some flag) (hasVersion : Bool)
    (s : Settings) (pending : Pending) (value : String) :
    takeLong flags hasVersion s pending name (some value) =
      (settle s pending).bind fun s => (s.add flag value).map fun s => (s, none) := by
  rw [takeLong, h]
  cases settle s pending <;> rfl

lemma takeLong_none (h : flags.find? (fun f => f.name == name) = some flag) (hasVersion : Bool)
    (s : Settings) (pending : Pending) :
    takeLong flags hasVersion s pending name none =
      (settle s pending).map fun s => (s, some (flag, none)) := by
  rw [takeLong, h]
  cases settle s pending <;> rfl

/-! ### Groups -/

variable (flags) (hasVersion : Bool) (rest : List String)

lemma readArguments_group (h : g.WellFormed) (s : Settings) (pending : Pending) :
    readArguments flags hasVersion s pending (g.arguments ++ rest) =
      (takeLong flags hasVersion s pending g.name (if g.isJoined then some g.value else none)).bind
        fun taken => readArguments flags hasVersion taken.1 taken.2
          (if g.isJoined then rest else g.value :: rest) := by
  obtain ⟨c, cs, hname⟩ := List.exists_cons_of_ne_nil (mt String.toList_eq_nil_iff.1 h.named)
  cases hjoined : g.isJoined with
  | true =>
    have harguments : g.arguments = ["--" ++ g.name ++ "=" ++ g.value] := by
      rw [FlagGroup.arguments, hjoined, if_pos rfl]
    have hlist : ("--" ++ g.name ++ "=" ++ g.value).toList =
        '-' :: '-' :: c :: (cs ++ '=' :: g.value.toList) := by
      simp [hname]
    have hsplit := splitValue_divided h.undivided g.value
    rw [hname, List.cons_append] at hsplit
    rw [harguments, List.singleton_append, readArguments_long hlist, hsplit]
    simp
  | false =>
    have harguments : g.arguments = ["--" ++ g.name, g.value] := by
      rw [FlagGroup.arguments, hjoined, if_neg (by decide)]
    have hlist : ("--" ++ g.name).toList = '-' :: '-' :: c :: cs := by simp [hname]
    have hsplit := splitValue_undivided h.undivided
    rw [hname] at hsplit
    rw [harguments, List.cons_append, readArguments_long hlist, hsplit]
    simp

lemma readArguments_unknown (h : g.WellFormed) (hflag : g.flag? flags = none) (s : Settings)
    (pending : Pending) :
    (readArguments flags hasVersion s pending (g.arguments ++ rest)).toOption = none := by
  obtain ⟨fault, hfault⟩ := takeLong_unknown hflag hasVersion s pending
    (if g.isJoined then some g.value else none)
  rw [readArguments_group flags hasVersion rest h, hfault]
  rfl

lemma readArguments_joined (h : g.WellFormed) (hflag : g.flag? flags = some flag)
    (hjoined : g.isJoined = true) (s : Settings) (pending : Pending) :
    readArguments flags hasVersion s pending (g.arguments ++ rest) =
      (settle s pending).bind fun s => (s.add flag g.value).bind fun s =>
        readArguments flags hasVersion s none rest := by
  rw [readArguments_group flags hasVersion rest h, hjoined, if_pos rfl, takeLong_some hflag]
  cases hsettle : settle s pending with
  | error fault => rfl
  | ok s => cases hadd : s.add flag g.value <;> simp [Except.bind, Except.map, hadd]

lemma readArguments_separate (h : g.WellFormed) (hflag : g.flag? flags = some flag)
    (hjoined : g.isJoined = false) (s : Settings) (pending : Pending) :
    readArguments flags hasVersion s pending (g.arguments ++ rest) =
      (settle s pending).bind fun s =>
        readArguments flags hasVersion s (some (flag, some g.value)) rest := by
  rw [readArguments_group flags hasVersion rest h, hjoined, if_neg Bool.false_ne_true,
    takeLong_none hflag]
  cases hsettle : settle s pending with
  | error fault => rfl
  | ok s => simp [Except.bind, Except.map, readArguments_plain (h.undashed hjoined)]

/-- Reading groups adds the values of their flags, the one that is pending first. -/
theorem readArguments_groups {groups : List FlagGroup} (h : ∀ g ∈ groups, g.WellFormed)
    (s : Settings) (pending : Pending) :
    (readArguments flags hasVersion s pending (groups.flatMap FlagGroup.arguments)).toOption =
      (settle s pending).toOption.bind fun s => groups.foldlM (Settings.addGroup flags) s := by
  induction groups generalizing s pending with
  | nil =>
    rw [List.flatMap_nil, readArguments]
    cases settle s pending <;> rfl
  | cons g groups ih =>
    obtain ⟨hg, hgroups⟩ := List.forall_mem_cons.1 h
    rw [List.flatMap_cons]
    cases hflag : g.flag? flags with
    | none =>
      rw [readArguments_unknown flags hasVersion _ hg hflag]
      cases settle s pending with
      | error fault => rfl
      | ok s => simp [Except.toOption, Settings.addGroup, hflag]
    | some flag =>
      have hadd (s : Settings) : (g :: groups).foldlM (Settings.addGroup flags) s =
          (s.add flag g.value).toOption.bind fun s =>
            groups.foldlM (Settings.addGroup flags) s := by
        rw [List.foldlM_cons, Settings.addGroup, hflag]
        rfl
      cases hjoined : g.isJoined with
      | true =>
        rw [readArguments_joined flags hasVersion _ hg hflag hjoined, toOption_bind]
        congr 1
        funext s
        rw [toOption_bind, hadd]
        congr 1
        funext s
        exact ih hgroups s none
      | false =>
        rw [readArguments_separate flags hasVersion _ hg hflag hjoined, toOption_bind]
        congr 1
        funext s
        exact (ih hgroups s (some (flag, some g.value))).trans (hadd s).symm

end Flags

end PodAdmission
