import PodAdmission.Pod.Basic
import PodAdmission.Proofs.Schema.Consuming
import PodAdmission.Proofs.Schema.Lookup

/-!
# Pods and the texts that they are read from

The text that a pod is read from has an outline, and the views that the policies decide by are what
the outline has at certain places. A place that is not there, one that is `null` and one inside
either of these are all the same.
-/

namespace PodAdmission

open Ascii Json Reader Shape

variable {o : Outline} {text : Bytes} {p : Pod} {r : Record} {key field : String}

/-! ### Records -/

/-- Where a specification or a container says whether to run as a process of the host. -/
def hostProcessPath : List String := ["securityContext", "windowsOptions", "hostProcess"]

namespace Shape.MakesRecord

variable {name : String} {fixed : List (String × String)}
  {fields : List (String × Presence × Shape)}

lemma text?_eq (h : MakesRecord name fixed fields o r)
    (hf : Entries.get? key fields = some (.optional, .text))
    (hdefault : Entries.get? key (defaults fields) = none) :
    Record.text? key r = (o.member? key).bind Outline.text? :=
  (h.optional hf hdefault).text?_eq

lemma flag?_eq_some_iff (h : MakesRecord name fixed fields o r)
    (hf : Entries.get? key fields = some (.optional, .flag))
    (hdefault : Entries.get? key (defaults fields) = none) {x : Bool} :
    Record.flag? key r = some x ↔ o.at? [key] = some (.token (writeBool x)) := by
  rw [Outline.at?_singleton]
  exact (h.optional hf hdefault).flag?_eq_some_iff

/-- The Windows option to run as a process of the host. -/
lemma hostProcess?_eq_some_iff (h : MakesRecord name fixed fields o r) {context : String}
    {settings : List (String × Presence × Shape)}
    (hcontext : Entries.get? "securityContext" fields =
      some (.optional, .record context settings))
    (hdefault : Entries.get? "securityContext" (defaults fields) = none)
    (hoptions : Entries.get? "windowsOptions" settings =
      some (.optional, windowsSecurityContextOptions))
    (hdefault' : Entries.get? "windowsOptions" (defaults settings) = none) {x : Bool} :
    Record.hostProcess? r = some x ↔
      o.at? hostProcessPath = some (.token (writeBool x)) := by
  apply (h.optional hcontext hdefault).bind_record?_iff (P := (· = some _)) nofun
  intro v r hr
  apply (hr.makesRecord.optional hoptions hdefault').bind_record?_iff (P := (· = some _)) nofun
  intro v r hr
  exact hr.makesRecord.flag?_eq_some_iff rfl rfl

end Shape.MakesRecord

/-! ### Containers -/

namespace Container

variable {v : Outline} {c : Container}

/-- The container is what is read of a text with the outline. -/
def Of (v : Outline) (c : Container) : Prop :=
  container.Makes v (.record c.fields)

lemma Of.hostProcess?_eq_some_iff (h : Of v c) {x : Bool} :
    c.hostProcess? = some x ↔ v.at? hostProcessPath = some (.token (writeBool x)) :=
  h.makesRecord.hostProcess?_eq_some_iff rfl rfl rfl rfl

lemma Of.image?_eq (h : Of v c) : c.image? = (v.member? "image").bind Outline.text? :=
  h.makesRecord.text?_eq rfl rfl

lemma Of.command? (h : Of v c) :
    (v.member? "command" = none ∨ v.member? "command" = some (.token nullWord)) ∧
        c.command? = none ∨
      ∃ items texts, v.member? "command" = some (.list items) ∧ c.command? = some texts ∧
        List.Forall₂ (fun v s => v.text? = some s) items texts := by
  have hcommand : Filled (.list .text) none (v.member? "command") _ :=
    h.makesRecord.optional rfl rfl
  obtain ⟨hmember, hnone⟩ | hgiven := hcommand.texts?
  · refine .inl ⟨hmember, ?_⟩
    rw [Container.command?, Record.texts?, Record.list?, hnone]
    rfl
  · exact .inr hgiven

lemma forall₂_of {items : List Outline} {ds : List Datum}
    (h : List.Forall₂ container.Makes items ds) :
    List.Forall₂ Of items ((ds.filterMap Datum.asRecord?).map Container.mk) := by
  induction h with
  | nil => exact .nil
  | cons hd h ih =>
    obtain ⟨r, rfl, -⟩ := Makes.record hd
    exact .cons hd ih

end Container

/-! ### Pods -/

namespace Pod

lemma consumes_read : Consumes Pod.read :=
  (consumes_readRecord "Pod" (header "Pod")
    (consumes_readers fun f (_ : f ∈ podFields) => Shape.consumes_read f.2.2) maxDepth).map
      fun given => Pod.mk (complete podFields given)

lemma settles_read : Settles (readRecord "Pod" (header "Pod") (readers podFields) maxDepth) :=
  settles_readRecord "Pod" (header "Pod")
    (settles_readers fun f (_ : f ∈ podFields) => Shape.settles_read f.2.2) maxDepth

/-- The text that a pod is read from has an outline. -/
lemma exists_hasText (h : Pod.decode text = .ok p) : ∃ o : Outline, o.HasText text := by
  obtain ⟨w, t, w', hw, ⟨o, ho⟩, hw', rfl⟩ := exists_lexical_of_readWhole consumes_read h
  exact ⟨o, .mk hw ho hw'⟩

/-- A pod is what is read of the outline of its text. -/
lemma makesRecord_of_decode (h : Pod.decode text = .ok p) (ho : o.HasText text) :
    MakesRecord "Pod" (header "Pod") podFields o p.fields := by
  obtain ⟨hw, ho, hw'⟩ := ho
  rename_i w t w'
  have hread := settles_read t ⟨o, ho⟩ w w' hw (by simpa using delimited_blank hw' delimited_nil)
  have hwhole : (Pod.decode (w ++ (t ++ w'))).toOption = _ :=
    yields_readWhole hw' (hread.map fun given => Pod.mk (complete podFields given))
  rw [h] at hwhole
  obtain ⟨given, hgiven, rfl⟩ := Option.map_eq_some_iff.1 hwhole.symm
  exact ⟨t, ho, maxDepth, given, hgiven, rfl⟩

variable (h : MakesRecord "Pod" (header "Pod") podFields o p.fields)

include h

/-- What is seen in the specification is seen behind its name. -/
lemma bind_spec?_iff {α : Type} {view : Record → Option α} {a : α} {path : List String}
    {P : Option Outline → Prop} (hP : ¬ P none)
    (hview : ∀ v r, podSpec.Makes v (.record r) → (view r = some a ↔ P (v.at? (key :: path)))) :
    p.spec?.bind view = some a ↔ P (o.at? ("spec" :: key :: path)) := by
  have hspec : Filled podSpec none (o.member? "spec") (Entries.get? "spec" p.fields) :=
    h.optional rfl rfl
  exact hspec.bind_record?_iff hP hview

/-- Whether the pod as a whole asks to run as a process of the host. -/
lemma hostProcess?_eq_some_iff {x : Bool} :
    p.hostProcess? = some x ↔ o.at? ("spec" :: hostProcessPath) = some (.token (writeBool x)) :=
  bind_spec?_iff h (P := (· = some _)) nofun fun _ _ hr =>
    hr.makesRecord.hostProcess?_eq_some_iff rfl rfl rfl rfl

lemma hostNetwork_iff :
    p.hostNetwork = true ↔ o.at? ["spec", "hostNetwork"] = some (.token trueWord) := by
  have hflag : p.spec?.bind (Record.flag? "hostNetwork") = some true ↔
      o.at? ["spec", "hostNetwork"] = some (.token trueWord) :=
    bind_spec?_iff h (P := (· = some _)) nofun fun _ _ hr =>
      hr.makesRecord.flag?_eq_some_iff rfl rfl
  rw [hostNetwork, ← hflag]
  cases p.spec?.bind (Record.flag? "hostNetwork") with
  | none => simp
  | some x => simp

lemma nodeSelector?_eq_some_iff {value : String} : p.nodeSelector? key = some value ↔
    (o.at? ["spec", "nodeSelector", key]).bind Outline.text? = some value := by
  rw [nodeSelector?, Option.bind_assoc]
  apply bind_spec?_iff h (P := (Option.bind · Outline.text? = some value)) nofun
  intro v r hr
  have hselector : Filled (.dict .text) none (v.member? "nodeSelector") _ :=
    hr.makesRecord.optional rfl rfl
  rw [Record.record?, hselector.text?_dict, Outline.at?]
  simp only [Outline.at?_singleton, Option.bind_assoc]

/-- The containers under a field of the specification are what its items make, one by one. -/
lemma forall₂_containersIn (hfield : ∀ v r, podSpec.Makes v (.record r) →
    ∃ preset, (preset.bind Datum.asList?).getD [] = [] ∧
      Filled (.list container) preset (v.member? field) (Entries.get? field r)) :
    List.Forall₂ Container.Of (o.itemsAt ["spec", field]) (p.containersIn field) := by
  have hspec : Filled podSpec none (o.member? "spec") (Entries.get? "spec" p.fields) :=
    h.optional rfl rfl
  rw [Outline.itemsAt_cons, containersIn, spec?, Record.record?]
  generalize o.member? "spec" = v?, Entries.get? "spec" p.fields = d? at hspec ⊢
  cases hspec with
  | missing => exact .nil
  | null => exact .nil
  | @given v d hd =>
    obtain ⟨r, rfl, -⟩ := Makes.record hd
    obtain ⟨preset, hpreset, hlist⟩ := hfield v r hd
    have hitems := Container.forall₂_of (hlist.items hpreset)
    simp only [Option.elim, Outline.itemsAt_cons, Option.bind_some, Datum.asRecord?]
    cases hgiven : Record.list? field r with
    | none => rwa [← Record.list?, hgiven] at hitems
    | some ds => rwa [← Record.list?, hgiven] at hitems

lemma forall₂_containers :
    List.Forall₂ Container.Of (o.itemsAt ["spec", "containers"]) p.containers :=
  forall₂_containersIn h fun _ _ hr => ⟨_, rfl, hr.makesRecord.field rfl⟩

lemma forall₂_initContainers :
    List.Forall₂ Container.Of (o.itemsAt ["spec", "initContainers"]) p.initContainers :=
  forall₂_containersIn h fun _ _ hr => ⟨_, rfl, hr.makesRecord.field rfl⟩

end Pod

end PodAdmission
