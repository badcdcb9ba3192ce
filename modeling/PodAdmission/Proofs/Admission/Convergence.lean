import PodAdmission.Proofs.Admission.Soundness

/-!
# Runs of admissions

A document with metadata is submitted again and again, to both webhooks and in any order, and the
patch of each response is carried out before the next step. Steps whose policies do not select the
pod leave everything as it is. After the first step whose policy does, no policy that selects the
pod has anything left to do, so that the document is settled.
-/

namespace PodAdmission

open Json Reader Pod

variable {P Q : Policy} {operation : Trigger} {D : Json} {p : Pod}
  {steps before after : List (Policy × Trigger)}

/-! ### What is left to do -/

/-- A policy that selects a pod which a policy has changed does nothing to it. -/
lemma Policy.Builtin.mutate_mutate (hP : P.Builtin) (hselects : P.selects p = true)
    (hQ : Q.Builtin) (h : Q.selects (P.mutate p) = true) :
    Q.mutate (P.mutate p) = P.mutate p := by
  cases hP with
  | hostProcess =>
    have hseen := HostProcess.any_of_selects hselects
    cases hQ with
    | hostProcess => exact absurd h (Bool.eq_false_iff.1 (HostProcess.selects_mutate p))
    | runtimeClass name' =>
      have hrequested := (HostProcess.isRequested_mutate hseen).trans
        (HostProcess.isRequested_of_selects hselects)
      exact absurd h (Bool.eq_false_iff.1 (RuntimeClass.selects_of_isRequested hrequested))
  | runtimeClass name =>
    cases hQ with
    | hostProcess =>
      have hboth := (HostProcess.selects_runtimeClass_mutate name p).symm.trans h
      exact absurd hboth (Bool.eq_false_iff.1 (HostProcess.not_selects_of_runtimeClass hselects))
    | runtimeClass name' => exact RuntimeClass.mutate_mutate name name' p

/-- Policies of one kind select the same pods. -/
lemma Policy.Builtin.name_ne (hP : P.Builtin) (hQ : Q.Builtin) (h : P.selects p = true)
    (h' : Q.selects p = false) : P.name ≠ Q.name := by
  have hne : ("hpc" : String) ≠ "hyperv" := by decide
  cases hP with
  | hostProcess =>
    cases hQ with
    | hostProcess => exact absurd h (Bool.eq_false_iff.1 h')
    | runtimeClass name' => exact hne
  | runtimeClass name =>
    cases hQ with
    | hostProcess => exact hne.symm
    | runtimeClass name' => exact absurd h (Bool.eq_false_iff.1 h')

namespace Session

/-! ### Steps -/

/-- What is left of a document that is admitted as it is. -/
def admitted (D : Json) : Json × SessionOutcome :=
  (D, .admitted (.allow "session") none)

/-- A response without a patch leaves the document as it is. -/
lemma step_of_patch_eq_none {response : AdmissionResponse}
    (h : P.respond (request D operation) = response) (hnone : response.patch = none) :
    step D (.submit Codec.json P operation) = (D, .admitted response none) := by
  have hpatch : patchOf response = .ok [] := by rw [patchOf, hnone]
  have hempty : Patch.apply [] D = .ok D := rfl
  rw [Policy.respond] at h
  simp only [step, h, hpatch, hempty]

/-- A response with a patch changes the document. -/
lemma step_of_patch {response : AdmissionResponse} {patch : Patch} {D' : Json}
    (h : P.respond (request D operation) = response) (hpatch : response.patch = some patch.write)
    (hplain : patch.Plain) (hrun : patch.run? D = some D') :
    step D (.submit Codec.json P operation) = (D', .admitted response none) := by
  have hread : patchOf response = .ok patch := by
    rw [patchOf, hpatch]
    exact Patch.read_write hplain
  rw [Policy.respond] at h
  simp only [step, h, hread, Patch.apply_eq_ok_iff.2 hrun]

lemma objectText?_request (h : HasMetadata D) :
    (request D operation).objectText? = some D.write := by
  obtain ⟨inner, h⟩ := h
  cases D with
  | object members => exact objectText?_write rfl
  | _ => cases h

lemma respond_request (hP : P.Builtin) (hmetadata : HasMetadata D) :
    P.respond (request D operation) =
      (Decision.ofObject Codec.json P "session" D.write).response :=
  hP.respond_eq rfl (objectText?_request hmetadata)

lemma respond_decoded (hP : P.Builtin) (hmetadata : HasMetadata D)
    (hdecode : Pod.decode D.write = .ok p) :
    P.respond (request D operation) = (Decision.ofPod Codec.json P "session" p).response := by
  rw [respond_request hP hmetadata, Decision.ofObject_decoded hdecode]

/-- A document that holds no pod is rejected. -/
lemma step_undecoded (hP : P.Builtin) (hmetadata : HasMetadata D) {e : JsonError}
    (h : Pod.decode D.write = .error e) :
    step D (.submit Codec.json P operation) =
      (D, .admitted (.reject "session" .badRequest (Failure.decode e).message) none) := by
  refine step_of_patch_eq_none ?_ rfl
  rw [respond_request hP hmetadata, Decision.ofObject_undecoded h]

/-- A document whose pod is not selected is left as it is. -/
lemma step_unselected (hP : P.Builtin) (hmetadata : HasMetadata D)
    (hdecode : Pod.decode D.write = .ok p) (h : P.selects p = false) :
    step D (.submit Codec.json P operation) = admitted D := by
  refine step_of_patch_eq_none ?_ rfl
  rw [respond_decoded hP hmetadata hdecode, Decision.ofPod_unselected Codec.json "session" h]

/-- A document is rejected if the changed pod does not come back from its text. -/
lemma step_unrecovered (hP : P.Builtin) (hmetadata : HasMetadata D)
    (hdecode : Pod.decode D.write = .ok p) (hselects : P.selects p = true)
    (hrecovers : ¬ (P.mutate p).toJson.Recovers maxDepth) :
    ∃ why, step D (.submit Codec.json P operation) =
      (D, .admitted (.reject "session" .internalError why) none) := by
  obtain ⟨patch, touched, hchange, -⟩ := hP.change (sound_of_decode hdecode) hselects
  obtain ⟨why, heq⟩ := Decision.ofPod_unrecovered "session" hselects hchange hrecovers
  exact ⟨why, step_of_patch_eq_none ((respond_decoded hP hmetadata hdecode).trans heq) rfl⟩

/-! ### Settled documents -/

/-- A document holds a pod to which no policy that selects it has anything left to do. -/
structure Settled (D : Json) (p : Pod) : Prop where
  metadata : HasMetadata D
  decode : Pod.decode D.write = .ok p
  recovers : p.toJson.Recovers maxDepth
  mutate : ∀ {P : Policy}, P.Builtin → P.selects p = true → P.mutate p = p

/-- A settled document is admitted as it is. -/
theorem Settled.step (h : Settled D p) (hP : P.Builtin) (operation : Trigger) :
    step D (.submit Codec.json P operation) = admitted D := by
  cases hselects : P.selects p with
  | false => exact step_unselected hP h.metadata h.decode hselects
  | true =>
    have hp := sound_of_decode h.decode
    have hmutate := h.mutate hP hselects
    have hrecovers : (P.mutate p).toJson.Recovers maxDepth := by
      rw [hmutate]
      exact h.recovers
    obtain ⟨patch, touched, hchange, -⟩ := hP.change hp hselects
    obtain ⟨a, b, ha, hb, -, hdiff, heq⟩ :=
      Decision.ofPod_selected "session" hp hselects hchange hrecovers
    -- the texts before and after are the same, so nothing is between what they say
    rw [hmutate] at hb
    obtain rfl := Except.ok.inj (ha.symm.trans hb)
    have hwell := wellFormed_of_read ha
    have hempty : patch = [] :=
      hdiff.symm.trans (Patch.diff_eq_nil_of_same hwell hwell (same_self a))
    refine step_of_patch_eq_none ?_ rfl
    rw [respond_decoded hP h.metadata h.decode, heq, hempty, Decision.ofPatch_nil]

/-- A document is settled after the first step whose policy selects the pod, if the changed pod
comes back from its text. -/
theorem step_selected (hP : P.Builtin) (hD : D.WellFormed) (hmetadata : HasMetadata D)
    (hdecode : Pod.decode D.write = .ok p) (hselects : P.selects p = true)
    (hrecovers : (P.mutate p).toJson.Recovers maxDepth) :
    ∃ D' response, step D (.submit Codec.json P operation) = (D', .admitted response none) ∧
      response.allowed = true ∧ Settled D' (P.mutate p) := by
  have hp := sound_of_decode hdecode
  obtain ⟨patch, touched, hchange, -⟩ := hP.change hp hselects
  obtain ⟨a, b, -, -, -, -, heq⟩ :=
    Decision.ofPod_selected "session" hp hselects hchange hrecovers
  obtain ⟨D', hrun, hD', hmetadata', hread, -⟩ :=
    hchange.submitted D hD hmetadata ((decode_write_eq_ok_iff hD).1 hdecode)
  have hsettled : Settled D' (P.mutate p) :=
    ⟨hmetadata', (decode_write_eq_ok_iff hD').2 hread, hrecovers,
      fun hQ h => hP.mutate_mutate hselects hQ h⟩
  have hrespond : P.respond (request D operation) =
      (Decision.ofPatch P "session" p patch).response := by
    rw [respond_decoded hP hmetadata hdecode, heq]
  by_cases hpatch : patch = []
  · subst hpatch
    obtain rfl := Option.some.inj hrun
    exact ⟨D, .allow "session", step_of_patch_eq_none hrespond rfl, rfl, hsettled⟩
  · rw [Decision.ofPatch_ne_nil P "session" p hpatch] at hrespond
    exact ⟨D', _, step_of_patch hrespond rfl hchange.plain hrun, rfl, hsettled⟩

/-! ### Runs -/

/-- The steps that submit a document to one policy after the other. -/
def admissions (steps : List (Policy × Trigger)) : List SessionStep :=
  steps.map fun s => .submit Codec.json s.1 s.2

lemma run_cons {s : Policy × Trigger} {D' : Json} {outcome : SessionOutcome}
    (h : step D (.submit Codec.json s.1 s.2) = (D', outcome)) (steps : List (Policy × Trigger)) :
    run D (admissions (s :: steps)) = (D', outcome) :: run D' (admissions steps) := by
  simp only [admissions, List.map_cons, run, h]

/-- Steps that leave the document as it is come first in a run with their answers. -/
lemma run_append {outcome : SessionOutcome}
    (h : ∀ s ∈ before, step D (.submit Codec.json s.1 s.2) = (D, outcome))
    (after : List (Policy × Trigger)) :
    run D (admissions (before ++ after)) =
      List.replicate before.length (D, outcome) ++ run D (admissions after) := by
  induction before with
  | nil => rfl
  | cons s rest ih =>
    obtain ⟨hs, hrest⟩ := List.forall_mem_cons.1 h
    rw [List.cons_append, run_cons hs (rest ++ after), ih hrest, List.length_cons,
      List.replicate_succ, List.cons_append]

lemma run_replicate {outcome : SessionOutcome}
    (h : ∀ s ∈ steps, step D (.submit Codec.json s.1 s.2) = (D, outcome)) :
    run D (admissions steps) = List.replicate steps.length (D, outcome) := by
  have hrun := run_append h []
  rw [List.append_nil] at hrun
  exact hrun.trans (List.append_nil _)

/-- Nothing happens to a settled document. -/
theorem Settled.run (h : Settled D p) (hsteps : ∀ s ∈ steps, s.1.Builtin) :
    run D (admissions steps) = List.replicate steps.length (admitted D) :=
  run_replicate fun s hs => h.step (hsteps s hs) s.2

/-- The answer of a step has a patch. -/
def PatchedAt (answers : List (Json × SessionOutcome)) (i : Nat) : Prop :=
  ∃ D response failure, answers[i]? = some (D, .admitted response failure) ∧
    response.patch.isSome = true

lemma not_patchedAt_replicate {response : AdmissionResponse} (h : response.patch = none)
    (n i : Nat) : ¬ PatchedAt (List.replicate n (D, .admitted response none)) i := by
  rintro ⟨D', response', failure, hget, hpatch⟩
  cases List.eq_of_mem_replicate (List.mem_of_getElem? hget)
  rw [h] at hpatch
  cases hpatch

/-- If all answers but one are without a patch, no other one has a patch. -/
lemma eq_of_patchedAt {D' : Json} {answer : Json × SessionOutcome} {n k i : Nat}
    (h : PatchedAt (List.replicate n (admitted D) ++
      answer :: List.replicate k (admitted D')) i) : i = n := by
  obtain ⟨E, response, failure, hget, hpatch⟩ := h
  by_contra hne
  rcases Nat.lt_or_gt_of_ne hne with hlt | hgt
  · rw [List.getElem?_append_left (by rwa [List.length_replicate])] at hget
    exact not_patchedAt_replicate rfl n i ⟨E, response, failure, hget, hpatch⟩
  · obtain ⟨j, rfl⟩ := Nat.exists_eq_add_of_lt hgt
    rw [List.getElem?_append_right (by rw [List.length_replicate]; omega),
      List.length_replicate, Nat.add_assoc, Nat.add_sub_cancel_left,
      List.getElem?_cons_succ] at hget
    exact not_patchedAt_replicate rfl k j ⟨E, response, failure, hget, hpatch⟩

/-- All steps of a run are answered alike: they are allowed if the document holds a pod, and else
rejected with the document left as it is. All patches can be carried out. At most one step has
one, and that step is the first of its kind. -/
structure Converges (D : Json) (steps : List (Policy × Trigger)) : Prop where
  answered : ∀ answer ∈ run D (admissions steps), ∃ response,
    answer.2 = .admitted response none ∧
      (response.allowed = true ↔ ∃ p, Pod.decode D.write = .ok p)
  undecoded : (¬ ∃ p, Pod.decode D.write = .ok p) → ∀ answer ∈ run D (admissions steps),
    ∃ response, answer = (D, .admitted response none) ∧
      response.reason? = some Reason.badRequest.name
  once : ∀ i j, PatchedAt (run D (admissions steps)) i → PatchedAt (run D (admissions steps)) j →
    i = j
  first : ∀ i j s t, PatchedAt (run D (admissions steps)) i → steps[i]? = some s → j < i →
    steps[j]? = some t → t.1.name ≠ s.1.name

lemma converges_replicate {response : AdmissionResponse}
    (h : ∀ s ∈ steps, step D (.submit Codec.json s.1 s.2) = (D, .admitted response none))
    (hpatch : response.patch = none)
    (hallowed : response.allowed = true ↔ ∃ p, Pod.decode D.write = .ok p)
    (hreason : (¬ ∃ p, Pod.decode D.write = .ok p) →
      response.reason? = some Reason.badRequest.name) : Converges D steps := by
  have hrun := run_replicate h
  have hunpatched (i : Nat) : ¬ PatchedAt (run D (admissions steps)) i := by
    rw [hrun]
    exact not_patchedAt_replicate hpatch steps.length i
  constructor
  · intro answer hmem
    rw [hrun] at hmem
    obtain rfl := List.eq_of_mem_replicate hmem
    exact ⟨response, rfl, hallowed⟩
  · intro hnone answer hmem
    rw [hrun] at hmem
    exact ⟨response, List.eq_of_mem_replicate hmem, hreason hnone⟩
  · intro i j hi
    exact absurd hi (hunpatched i)
  · intro i j s t hi
    exact absurd hi (hunpatched i)

lemma converges_undecoded (hmetadata : HasMetadata D) {e : JsonError}
    (hdecode : Pod.decode D.write = .error e) (hsteps : ∀ s ∈ steps, s.1.Builtin) :
    Converges D steps := by
  have hnone : ¬ ∃ p, Pod.decode D.write = .ok p := by
    rintro ⟨p, hp⟩
    rw [hdecode] at hp
    cases hp
  refine converges_replicate (fun s hs => step_undecoded (hsteps s hs) hmetadata hdecode) rfl ?_
    fun _ => rfl
  exact ⟨fun h => absurd h Bool.false_ne_true, fun h => absurd h hnone⟩

lemma converges_unselected (hmetadata : HasMetadata D) (hdecode : Pod.decode D.write = .ok p)
    (hsteps : ∀ s ∈ steps, s.1.Builtin ∧ s.1.selects p = false) : Converges D steps := by
  refine converges_replicate
    (fun s hs => step_unselected (hsteps s hs).1 hmetadata hdecode (hsteps s hs).2) rfl ?_
    fun h => absurd ⟨p, hdecode⟩ h
  exact ⟨fun _ => ⟨p, hdecode⟩, fun _ => rfl⟩

/-- A run converges if the change of the first policy that selects the pod comes back. -/
lemma converges_selected {s : Policy × Trigger} (hD : D.WellFormed) (hmetadata : HasMetadata D)
    (hdecode : Pod.decode D.write = .ok p)
    (hbefore : ∀ t ∈ before, t.1.Builtin ∧ t.1.selects p = false) (hs : s.1.Builtin)
    (hafter : ∀ t ∈ after, t.1.Builtin) (hselects : s.1.selects p = true)
    (hrecovers : (s.1.mutate p).toJson.Recovers maxDepth) :
    Converges D (before ++ s :: after) := by
  obtain ⟨D', response, hstep, hallowed, hsettled⟩ :=
    step_selected hs hD hmetadata hdecode hselects hrecovers
  have hunselected (t : Policy × Trigger) (ht : t ∈ before) :
      step D (.submit Codec.json t.1 t.2) = admitted D :=
    step_unselected (hbefore t ht).1 hmetadata hdecode (hbefore t ht).2
  have hrun : run D (admissions (before ++ s :: after)) =
      List.replicate before.length (admitted D) ++
        (D', .admitted response none) :: List.replicate after.length (admitted D') := by
    rw [run_append hunselected (s :: after), run_cons hstep after, hsettled.run hafter]
    rfl
  have hindex {i : Nat} (hi : PatchedAt (run D (admissions (before ++ s :: after))) i) :
      i = before.length := by
    rw [hrun] at hi
    exact eq_of_patchedAt hi
  constructor
  · intro answer h
    rw [hrun, List.mem_append, List.mem_cons] at h
    rcases h with h | rfl | h
    · obtain rfl := List.eq_of_mem_replicate h
      exact ⟨_, rfl, fun _ => ⟨p, hdecode⟩, fun _ => rfl⟩
    · exact ⟨response, rfl, fun _ => ⟨p, hdecode⟩, fun _ => hallowed⟩
    · obtain rfl := List.eq_of_mem_replicate h
      exact ⟨_, rfl, fun _ => ⟨p, hdecode⟩, fun _ => rfl⟩
  · intro hnone
    exact absurd ⟨p, hdecode⟩ hnone
  · intro i j hi hj
    exact (hindex hi).trans (hindex hj).symm
  · intro i j s' t hi hget hlt hget'
    obtain rfl := hindex hi
    rw [List.getElem?_append_right le_rfl, Nat.sub_self] at hget
    obtain rfl := Option.some.inj hget
    rw [List.getElem?_append_left hlt] at hget'
    obtain ⟨ht, hother⟩ := hbefore t (List.mem_of_getElem? hget')
    exact (hs.name_ne ht hselects hother).symm

/-- A run of admissions converges just if the change of the first policy that selects the pod comes
back from its text. -/
theorem converges_iff_recovers (hD : D.WellFormed) (hmetadata : HasMetadata D)
    (hsteps : ∀ s ∈ steps, s.1.Builtin) :
    Converges D steps ↔ ∀ p s, Pod.decode D.write = .ok p →
      steps.find? (fun s => s.1.selects p) = some s → (s.1.mutate p).toJson.Recovers maxDepth := by
  constructor
  · intro h p s hdecode hfind
    by_contra hrecovers
    obtain ⟨hselects, before, after, rfl, hbefore⟩ := List.find?_eq_some_iff_append.1 hfind
    have hs := hsteps s (List.mem_append_right before List.mem_cons_self)
    obtain ⟨why, hstep⟩ := step_unrecovered hs hmetadata hdecode hselects hrecovers
    have hunselected (t : Policy × Trigger) (ht : t ∈ before) :
        step D (.submit Codec.json t.1 t.2) = admitted D :=
      step_unselected (hsteps t (List.mem_append_left _ ht)) hmetadata hdecode
        (by simpa using hbefore t ht)
    have hrun := run_append hunselected (s :: after)
    rw [run_cons hstep after] at hrun
    obtain ⟨response, heq, hallowed⟩ := h.answered _
      (hrun ▸ List.mem_append_right _ List.mem_cons_self)
    cases heq
    cases hallowed.2 ⟨p, hdecode⟩
  · intro h
    cases hdecode : Pod.decode D.write with
    | error e => exact converges_undecoded hmetadata hdecode hsteps
    | ok p =>
      cases hfind : steps.find? (fun s => s.1.selects p) with
      | none =>
        rw [List.find?_eq_none] at hfind
        exact converges_unselected hmetadata hdecode fun s hs =>
          ⟨hsteps s hs, Bool.eq_false_iff.2 (hfind s hs)⟩
      | some s =>
        have hrecovers := h p s hdecode hfind
        obtain ⟨hselects, before, after, rfl, hbefore⟩ := List.find?_eq_some_iff_append.1 hfind
        rw [List.forall_mem_append, List.forall_mem_cons] at hsteps
        obtain ⟨hstepsBefore, hs, hafter⟩ := hsteps
        exact converges_selected hD hmetadata hdecode
          (fun t ht => ⟨hstepsBefore t ht, by simpa using hbefore t ht⟩) hs hafter hselects
          hrecovers

/-- A run of both policies, under more than one name. -/
def mixedSteps : List (Policy × Trigger) :=
  [(RuntimeClass.policy "first", .create), (HostProcess.policy, .create),
    (RuntimeClass.policy "second", .update), (HostProcess.policy, .update)]

lemma find?_mixedSteps :
    mixedSteps.find? (fun s => s.1.selects agnhostPod) = some (HostProcess.policy, .create) := rfl

/-- A run on the pod in `agnhostDocument` converges. -/
theorem converges_agnhostDocument : Converges agnhostDocument mixedSteps := by
  have hsteps : ∀ s ∈ mixedSteps, s.1.Builtin := by
    simp only [mixedSteps, List.forall_mem_cons]
    exact ⟨.runtimeClass _, .hostProcess, .runtimeClass _, .hostProcess,
      fun s hs => absurd hs List.not_mem_nil⟩
  refine (converges_iff_recovers wellFormed_agnhostDocument ⟨[], rfl⟩ hsteps).2 ?_
  intro p s hdecode hfind
  obtain rfl := Except.ok.inj (decode_agnhostDocument.symm.trans hdecode)
  obtain rfl := Option.some.inj (find?_mixedSteps.symm.trans hfind)
  exact recovers_agnhostPod

/-- A run on the pod in `reservedDocument` does not converge, for it is rejected. -/
theorem not_converges_reservedDocument :
    ¬ Converges reservedDocument [(RuntimeClass.policy RuntimeClass.defaultName, .create)] := by
  intro h
  obtain ⟨why, hrespond⟩ := respond_reservedDocument
  have hrun := run_cons (s := (RuntimeClass.policy RuntimeClass.defaultName, .create))
    (step_of_patch_eq_none hrespond rfl) []
  obtain ⟨response, heq, hallowed⟩ := h.answered _ (hrun ▸ List.mem_cons_self)
  cases heq
  cases hallowed.2 ⟨reservedPod, decode_reservedDocument⟩

end Session

end PodAdmission
