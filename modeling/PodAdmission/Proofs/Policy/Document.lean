import PodAdmission.Proofs.Admission.Soundness
import PodAdmission.Proofs.Pod.Lookup
import PodAdmission.Proofs.Policy.Script

/-!
# What the policies see in a document

Which pods the policies select, said about the text that the pod is read from: which words, texts
and lists the text has at which places. A flag counts only where it is the word `true`, so it makes
no difference whether it is `false`, `null` or not there at all.
-/

namespace PodAdmission

open Ascii Json Reader Shape

variable {o v : Outline} {c : Container} {text : Bytes} {p : Pod}

/-- The specification or the container asks to run as a process of the host. -/
def Outline.AsksForHost (v : Outline) : Prop :=
  v.at? hostProcessPath = some (.token trueWord)

/-! ### Containers -/

/-- What is said of some item is said of some other if the two go together. -/
lemma exists_mem_iff_of_forall₂ {α β : Type} {R : α → β → Prop} {P : α → Prop} {Q : β → Prop}
    {xs : List α} {ys : List β} (h : List.Forall₂ R xs ys) (hPQ : ∀ x y, R x y → (P x ↔ Q y)) :
    (∃ x ∈ xs, P x) ↔ ∃ y ∈ ys, Q y := by
  induction h with
  | nil => simp
  | cons hxy _ ih =>
    simp only [List.exists_mem_cons_iff]
    rw [hPQ _ _ hxy, ih]

lemma anyHostProcess_iff {items : List Outline} {cs : List Container}
    (h : List.Forall₂ Container.Of items cs) :
    Pod.anyHostProcess cs = true ↔ ∃ v ∈ items, v.AsksForHost := by
  rw [Pod.anyHostProcess, List.any_eq_true, exists_mem_iff_of_forall₂ h]
  intro v c hc
  rw [beq_iff_eq, hc.hostProcess?_eq_some_iff]
  rfl

namespace HostProcess

/-- The container has an image with the program's name in it, and its command is not there, `null`,
empty or one that starts the program. -/
@[mk_iff startsIn_iff]
structure StartsIn (v : Outline) : Prop where
  image : ∃ s, (v.at? ["image"]).bind Outline.text? = some s ∧ program.toList <:+: s.toList
  command : v.at? ["command"] = none ∨ v.at? ["command"] = some (.token nullWord) ∨
    v.at? ["command"] = some (.list []) ∨
    ∃ first rest s, v.at? ["command"] = some (.list (first :: rest)) ∧
      first.text? = some s ∧ StartsProgram s

lemma isPartOf_iff {part cs : List Char} : isPartOf part cs = true ↔ part <:+: cs := by
  induction cs with
  | nil => simp [isPartOf]
  | cons c cs ih => simp [isPartOf, ih, List.infix_cons_iff]

/-- A command that is left out or empty, or that starts the program. -/
lemma startsProgram_iff (h : c.Of v) :
    (∀ first rest, c.command? = some (first :: rest) → matchesProgram first = true) ↔
      v.at? ["command"] = none ∨ v.at? ["command"] = some (.token nullWord) ∨
        v.at? ["command"] = some (.list []) ∨
        ∃ first rest s, v.at? ["command"] = some (.list (first :: rest)) ∧
          first.text? = some s ∧ StartsProgram s := by
  rw [Outline.at?_singleton]
  obtain ⟨hnone | hnull, hcommand⟩ | ⟨items, texts, hitems, hcommand, hpairs⟩ := h.command?
  · exact iff_of_true (by simp [hcommand]) (.inl hnone)
  · exact iff_of_true (by simp [hcommand]) (.inr (.inl hnull))
  · rw [hitems, hcommand]
    cases hpairs with
    | nil => exact iff_of_true (by simp) (.inr (.inr (.inl rfl)))
    | @cons item first items texts hfirst _ => simp [hfirst, matchesProgram_iff]

/-- A container runs the program just if its image and its command are as they should be. -/
lemma runsProgram_iff (h : c.Of v) : runsProgram c = true ↔ StartsIn v := by
  rw [startsIn_iff, ← startsProgram_iff h, Outline.at?_singleton, ← h.image?_eq, runsProgram]
  cases c.image? with
  | none => simp
  | some image =>
    simp only [Bool.and_eq_true, isPartOf_iff, Option.some.injEq, exists_eq_left']
    cases hcommand : c.command? with
    | none => simp
    | some texts => cases texts <;> simp

end HostProcess

/-! ### Pods -/

/-- The specification in the document asks to run as a process of the host. -/
lemma hostProcess?_iff (h : MakesRecord "Pod" (header "Pod") podFields o p.fields) :
    (p.hostProcess? == some true) = true ↔
      o.at? ("spec" :: hostProcessPath) = some (.token trueWord) := by
  rw [beq_iff_eq]
  exact Pod.hostProcess?_eq_some_iff h

/-- A pod is selected just if its text says so: the word `true` is the flag of the specification or
of some regular container, and under `hostNetwork`, and some regular container, be it another one,
starts the program. With no such flag at these places the pod is not selected, whatever the flags of
its other containers are. -/
theorem HostProcess.selects_iff_outline (h : Pod.decode text = .ok p) :
    (∃ o : Outline, o.HasText text) ∧ ∀ o : Outline, o.HasText text →
      (policy.selects p = true ↔
        (o.at? ("spec" :: hostProcessPath) = some (.token trueWord) ∨
          ∃ c ∈ o.itemsAt ["spec", "containers"], c.AsksForHost) ∧
        o.at? ["spec", "hostNetwork"] = some (.token trueWord) ∧
        ∃ c ∈ o.itemsAt ["spec", "containers"], StartsIn c) ∧
      (o.at? ("spec" :: hostProcessPath) ≠ some (.token trueWord) →
        (∀ c ∈ o.itemsAt ["spec", "containers"], ¬ c.AsksForHost) → policy.selects p = false) := by
  refine ⟨Pod.exists_hasText h, fun o ho => ?_⟩
  have hmakes := Pod.makesRecord_of_decode h ho
  have hcontainers := Pod.forall₂_containers hmakes
  refine (fun hiff => ⟨hiff, fun hpod hall => ?_⟩) ?_
  · change selects p = true ↔ _
    rw [selects, isRequested, Bool.and_eq_true, Bool.and_eq_true, Bool.or_eq_true, and_assoc,
      hostProcess?_iff hmakes, anyHostProcess_iff hcontainers, Pod.hostNetwork_iff hmakes,
      List.any_eq_true,
      exists_mem_iff_of_forall₂ hcontainers fun v c hc => (runsProgram_iff hc).symm]
  · rw [← Bool.not_eq_true, hiff]
    rintro ⟨hrequested | ⟨c, hc, hasks⟩, -⟩
    · exact hpod hrequested
    · exact hall c hc hasks

/-- A pod on the host network with a regular container that asks for the host. -/
theorem HostProcess.selects_agnhostOutline : ∃ o : Outline, o.HasText agnhostDocument.write ∧
    o.at? ["spec", "hostNetwork"] = some (.token trueWord) ∧
    ∃ c ∈ o.itemsAt ["spec", "containers"], StartsIn c := by
  obtain ⟨⟨o, ho⟩, hiff⟩ := HostProcess.selects_iff_outline decode_agnhostDocument
  have hselects : policy.selects agnhostPod = true := by decide +kernel
  obtain ⟨-, hnetwork, hstarts⟩ := (hiff o ho).1.1 hselects
  exact ⟨o, ho, hnetwork, hstarts⟩

/-- A pod is not selected just if its text says so: the word `true` is the flag of the
specification or of some container, those that run first included, or nodes have to have the label
`linux`. So a pod without a specification is selected. -/
theorem RuntimeClass.not_selects_iff_outline (h : Pod.decode text = .ok p) (name : String) :
    (∃ o : Outline, o.HasText text) ∧ ∀ o : Outline, o.HasText text →
      ((policy name).selects p = false ↔
        o.at? ("spec" :: hostProcessPath) = some (.token trueWord) ∨
        (∃ c ∈ o.itemsAt ["spec", "containers"] ++ o.itemsAt ["spec", "initContainers"],
          c.AsksForHost) ∨
        (o.at? ["spec", "nodeSelector", "kubernetes.io/os"]).bind Outline.text? = some "linux") ∧
      (o.at? ["spec"] = none ∨ o.at? ["spec"] = some (.token nullWord) →
        (policy name).selects p = true) := by
  refine ⟨Pod.exists_hasText h, fun o ho => ?_⟩
  have hmakes := Pod.makesRecord_of_decode h ho
  have hcontainers : List.Forall₂ Container.Of
      (o.itemsAt ["spec", "containers"] ++ o.itemsAt ["spec", "initContainers"])
      (p.containers ++ p.initContainers) :=
    List.rel_append (Pod.forall₂_containers hmakes) (Pod.forall₂_initContainers hmakes)
  refine (fun hiff => ⟨hiff, fun hspec => ?_⟩) ?_
  · change selects p = false ↔ _
    rw [selects, Bool.and_eq_false_iff, Bool.not_eq_false', bne_eq_false_iff_eq, runsOnHost,
      Bool.or_eq_true, or_assoc, hostProcess?_iff hmakes, anyHostProcess_iff hcontainers,
      Pod.nodeSelector?_eq_some_iff hmakes]
  · rw [Outline.at?_singleton] at hspec
    rw [← Bool.not_eq_false, hiff]
    rintro (hpod | ⟨c, hc, -⟩ | hlinux)
    · rw [hostProcessPath, Outline.at?_of_missing hspec] at hpod
      cases hpod
    · rw [Outline.itemsAt, Outline.itemsAt, Outline.at?_of_missing hspec,
        Outline.at?_of_missing hspec] at hc
      cases hc
    · rw [Outline.at?_of_missing hspec] at hlinux
      cases hlinux

/-- A pod of the host gets no runtime class. -/
theorem RuntimeClass.not_selects_agnhostOutline :
    ∃ o : Outline, o.HasText agnhostDocument.write ∧
      (o.at? ("spec" :: hostProcessPath) = some (.token trueWord) ∨
        (∃ c ∈ o.itemsAt ["spec", "containers"] ++ o.itemsAt ["spec", "initContainers"],
          c.AsksForHost) ∨
        (o.at? ["spec", "nodeSelector", "kubernetes.io/os"]).bind Outline.text? =
          some "linux") := by
  obtain ⟨⟨o, ho⟩, hiff⟩ := RuntimeClass.not_selects_iff_outline decode_agnhostDocument defaultName
  have hselects : (policy defaultName).selects agnhostPod = false := by decide +kernel
  exact ⟨o, ho, (hiff o ho).1.1 hselects⟩

end PodAdmission
