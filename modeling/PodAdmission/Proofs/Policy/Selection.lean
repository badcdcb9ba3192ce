import PodAdmission.Proofs.Pod.Conforming
import PodAdmission.Proofs.Policy.HostProcess
import PodAdmission.Proofs.Policy.RuntimeClass

/-!
# Which pods the policies select

No pod is selected by the policies of both webhooks. A pod that the one for host-process pods has
changed is selected by neither. What the one for runtime classes does to a pod has no influence on
who selects it, but done again it does nothing.
-/

namespace PodAdmission

open Json Shape Pod

variable {p : Pod}

/-! ### Runtime classes -/

namespace RuntimeClass

lemma keeps_assigned (name : String) {field : String} (h : field ≠ "runtimeClassName") :
    Keeps (assigned name) field := by
  intro r
  rw [assigned]
  cases Entries.get? "runtimeClassName" r with
  | some d => rfl
  | none => exact Entries.get?_insert_of_ne h _ r

lemma mutate_eq (name : String) (p : Pod) : mutate name p =
    (p.modifySpec (assigned name)).annotate annotationKey annotationValue :=
  modifySpec_annotate _ _ _ p

lemma spec?_mutate (name : String) (p : Pod) :
    (mutate name p).spec? = p.spec?.map (assigned name) := by
  rw [mutate_eq, spec?_annotate, spec?_modifySpec]

lemma runsOnHost_mutate (name : String) (p : Pod) :
    runsOnHost (mutate name p) = runsOnHost p := by
  have h := spec?_mutate name p
  rw [runsOnHost, hostProcess?_congr h (keeps_assigned name (by decide)), Pod.containers,
    containersIn_congr h (keeps_assigned name (by decide)), initContainers,
    containersIn_congr h (keeps_assigned name (by decide))]
  rfl

/-- The policy does not change which pods it selects. -/
theorem selects_mutate (name : String) (p : Pod) : selects (mutate name p) = selects p := by
  rw [selects, runsOnHost_mutate,
    nodeSelector?_congr (spec?_mutate name p) (keeps_assigned name (by decide))]
  rfl

lemma assigned_assigned (name name' : String) (spec : Record) :
    assigned name' (assigned name spec) = assigned name spec := by
  cases hget : Entries.get? "runtimeClassName" spec with
  | some d =>
    have h : assigned name spec = spec := by rw [assigned, hget]
    rw [h, assigned, hget]
  | none =>
    have h : assigned name spec = Entries.insert "runtimeClassName" (.text name) spec := by
      rw [assigned, hget]
    rw [h, assigned, Entries.get?_insert_self]

/-- Once the policy has changed a pod, changing it again does nothing, whatever the names are. -/
theorem mutate_mutate (name name' : String) (p : Pod) :
    mutate name' (mutate name p) = mutate name p := by
  have hassigned : assigned name' ∘ assigned name = assigned name :=
    funext fun spec => assigned_assigned name name' spec
  rw [mutate_eq, mutate_eq, modifySpec_annotate, modifySpec_modifySpec, hassigned]
  exact annotate_annotate _ _ _ _

end RuntimeClass

/-! ### Host processes -/

namespace HostProcess

lemma keeps_wrapped {field : String} (h : field ≠ "containers") : Keeps wrapped field := by
  intro r
  rw [wrapped, Entries.get?_modify, if_neg h]

lemma mutate_of_any (h : p.containers.any runsProgram = true) :
    mutate p = (p.modifySpec wrapped).annotate annotationKey "true" :=
  if_pos h

lemma mutate_of_not_any (h : p.containers.any runsProgram = false) : mutate p = p :=
  if_neg (by rw [h]; exact Bool.false_ne_true)

lemma spec?_mutate (h : p.containers.any runsProgram = true) :
    (mutate p).spec? = p.spec?.map wrapped := by
  rw [mutate_of_any h, spec?_annotate, spec?_modifySpec]

lemma asRecord?_mapRecord (f : Record → Record) (items : List Datum) :
    (items.map (Datum.mapRecord f)).filterMap Datum.asRecord? =
      (items.filterMap Datum.asRecord?).map f := by
  rw [List.filterMap_map, List.map_filterMap]
  congr 1
  funext d
  cases d <;> rfl

lemma containers_mutate_of_any (h : p.containers.any runsProgram = true) :
    (mutate p).containers = p.containers.map seen := by
  rw [Pod.containers, containersIn, spec?_mutate h, Pod.containers, containersIn]
  cases p.spec? with
  | none => rfl
  | some spec =>
    simp only [Option.map_some, Option.bind_some]
    rw [Record.list?, wrapped, Entries.get?_modify, if_pos rfl, Record.list?]
    cases Entries.get? "containers" spec with
    | none => rfl
    | some d =>
      cases d with
      | list items =>
        simp only [Option.map_some, Option.bind_some, Datum.mapItems, Datum.asList?]
        rw [asRecord?_mapRecord, List.map_map, List.map_map]
        rfl
      | _ => rfl

/-- The containers of a pod once the policy has seen them. -/
lemma containers_mutate (p : Pod) : (mutate p).containers = p.containers.map seen := by
  cases h : p.containers.any runsProgram with
  | true => exact containers_mutate_of_any h
  | false =>
    have hseen : ∀ c ∈ p.containers, seen c = id c := fun c hc =>
      if_neg (List.any_eq_false.1 h c hc)
    rw [mutate_of_not_any h, List.map_congr_left hseen, List.map_id]

lemma get?_wrapContainer {field : String} (hargs : field ≠ "args") (hcommand : field ≠ "command")
    (c : Container) :
    Entries.get? field (wrapContainer c).fields = Entries.get? field c.fields :=
  (Entries.get?_insert_of_ne hargs _ _).trans (Entries.get?_insert_of_ne hcommand _ _)

/-- A wrapped container does not run the program any more. -/
lemma runsProgram_seen (c : Container) : runsProgram (seen c) = false := by
  rw [seen]
  split_ifs with hruns
  · have hcommand : (wrapContainer c).command? = some wrapperCommand := by
      have hget : Entries.get? "command" (wrapContainer c).fields =
          some (.list (wrapperCommand.map .text)) :=
        (Entries.get?_insert_of_ne (by decide) _ _).trans (Entries.get?_insert_self _ _ _)
      rw [Container.command?, Record.texts?, Record.list?, hget]
      rfl
    have hwrapper : matchesProgram "powershell" = false := by decide
    rw [runsProgram, hcommand]
    cases (wrapContainer c).image? with
    | none => rfl
    | some image => simp [wrapperCommand, hwrapper]
  · simpa using hruns

lemma hostProcess?_seen (c : Container) : (seen c).hostProcess? = c.hostProcess? := by
  rw [seen]
  split_ifs
  · rw [Container.hostProcess?, Record.hostProcess?, Record.record?,
      get?_wrapContainer (by decide) (by decide)]
    rfl
  · rfl

lemma anyHostProcess_seen (cs : List Container) :
    anyHostProcess (cs.map seen) = anyHostProcess cs := by
  rw [anyHostProcess, List.any_map, anyHostProcess]
  congr 1
  funext c
  exact congrArg (· == some true) (hostProcess?_seen c)

/-- A pod that the policy has changed still asks to run as a process of the host. -/
lemma isRequested_mutate (h : p.containers.any runsProgram = true) :
    isRequested (mutate p) = isRequested p := by
  rw [isRequested, hostProcess?_congr (spec?_mutate h) (keeps_wrapped (by decide)),
    containers_mutate, anyHostProcess_seen]
  rfl

lemma any_of_selects (h : selects p = true) : p.containers.any runsProgram = true := by
  rw [selects, Bool.and_eq_true] at h
  exact h.2

lemma isRequested_of_selects (h : selects p = true) : isRequested p = true := by
  rw [selects, Bool.and_eq_true, Bool.and_eq_true] at h
  exact h.1.1

/-- No container of a pod that the policy has seen runs the program. -/
lemma any_mutate (p : Pod) : (mutate p).containers.any runsProgram = false := by
  rw [containers_mutate, List.any_map]
  exact List.any_eq_false.2 fun c _ => by simp [runsProgram_seen c]

/-- The policy does not select a pod that it has seen. -/
theorem selects_mutate (p : Pod) : selects (mutate p) = false := by
  rw [selects, any_mutate, Bool.and_false]

/-- Once the policy has seen a pod, it does nothing to it. -/
theorem mutate_mutate (p : Pod) : mutate (mutate p) = mutate p :=
  mutate_of_not_any (any_mutate p)

end HostProcess

/-! ### Both policies -/

/-- A pod that asks to run as a process of the host gets no runtime class. -/
lemma RuntimeClass.selects_of_isRequested (h : HostProcess.isRequested p = true) :
    RuntimeClass.selects p = false := by
  have hhost : RuntimeClass.runsOnHost p = true := by
    rw [HostProcess.isRequested, Bool.or_eq_true] at h
    rw [RuntimeClass.runsOnHost, Bool.or_eq_true]
    apply h.imp id
    intro hany
    rw [anyHostProcess, List.any_append]
    rw [anyHostProcess] at hany
    rw [hany, Bool.true_or]
  rw [RuntimeClass.selects, hhost]
  rfl

/-- No pod is selected by the policies of both webhooks. -/
theorem HostProcess.not_selects_of_runtimeClass (h : RuntimeClass.selects p = true) :
    HostProcess.selects p = false := by
  by_contra hselects
  have hrequested := isRequested_of_selects (Bool.not_eq_false _ ▸ hselects)
  rw [RuntimeClass.selects_of_isRequested hrequested] at h
  cases h

/-- The policy for runtime classes does not change which pods the other one selects. -/
theorem HostProcess.selects_runtimeClass_mutate (name : String) (p : Pod) :
    HostProcess.selects (RuntimeClass.mutate name p) = HostProcess.selects p := by
  have h := RuntimeClass.spec?_mutate name p
  have hkeeps {field : String} (hne : field ≠ "runtimeClassName") :=
    RuntimeClass.keeps_assigned name hne
  rw [selects, isRequested, hostProcess?_congr h (hkeeps (by decide)), Pod.containers,
    containersIn_congr h (hkeeps (by decide)), hostNetwork_congr h (hkeeps (by decide))]
  rfl

end PodAdmission
