import PodAdmission.Proofs.Pod.Frame
import PodAdmission.Proofs.Policy.Script
import PodAdmission.Proofs.Policy.Selection

/-!
# What the policies make of a pod

Field by field, for every pod that belongs to its shape: what is set to what, and that nothing else
is changed. Either description holds of the changed pod and of no other pod of the shape.
-/

namespace PodAdmission

open Shape Pod

variable {p q : Pod}

/-! ### Host processes -/

namespace HostProcess

variable {c d e : Container}

/-- The container runs a script of what is left of the tokens of its command, and of its
arguments. Its other fields are as they were. -/
structure Wrapped (c d : Container) : Prop where
  command : Entries.get? "command" d.fields = some (texts ["powershell", "-Command"])
  args : ∃ left, Behind (c.command?.getD []) left ∧ Entries.get? "args" d.fields =
    some (texts [scriptPrefix ++ " ".intercalate (left ++ c.args?.getD [])])
  others : ∀ k, k ≠ "command" → k ≠ "args" → Entries.get? k d.fields = Entries.get? k c.fields

/-- What becomes of a container. -/
inductive Becomes (c : Container) : Container → Prop where
  | same (h : runsProgram c = false) : Becomes c c
  | wrapped {d : Container} (h : runsProgram c = true) (hd : Wrapped c d) : Becomes c d

/-- What becomes of a pod: all containers that run the program are wrapped and, if there is one, the
annotation is set. Without one the pod stays as it is. -/
structure Effect (p q : Pod) : Prop where
  frame : Frame annotationKey "containers" p q
  containers : List.Forall₂ Becomes p.containers q.containers
  initContainers : q.initContainers = p.initContainers
  mark : (∃ c ∈ p.containers, runsProgram c = true) →
    Entries.get? annotationKey q.annotations = some (.text "true")
  unchanged : (∀ c ∈ p.containers, runsProgram c = false) → q = p

/-- A container that runs the program has no command or one that starts it. -/
lemma matchesProgram_of_runsProgram (h : runsProgram c = true) :
    ∀ first ∈ (c.command?.getD []).head?, matchesProgram first = true := by
  rw [runsProgram] at h
  cases himage : c.image? with
  | none =>
    rw [himage] at h
    cases h
  | some image =>
    rw [himage] at h
    obtain ⟨-, hcommand⟩ := Bool.and_eq_true_iff.1 h
    cases hc : c.command? with
    | none => simp
    | some tokens =>
      rw [hc] at hcommand
      cases tokens with
      | nil => simp
      | cons first rest => simpa using hcommand

lemma wrapped_wrapContainer (h : runsProgram c = true) : Wrapped c (wrapContainer c) := by
  constructor
  · exact (Entries.get?_insert_of_ne (by decide) _ _).trans (Entries.get?_insert_self _ _ _)
  · obtain ⟨left, hleft, hparts⟩ := exists_behind (matchesProgram_of_runsProgram h) c.args?
    refine ⟨left, hleft, ?_⟩
    rw [← hparts]
    exact Entries.get?_insert_self _ _ _
  · intro k hcommand hargs
    exact get?_wrapContainer hargs hcommand c

lemma becomes_seen (c : Container) : Becomes c (seen c) := by
  rw [seen]
  split_ifs with hruns
  · exact .wrapped hruns (wrapped_wrapContainer hruns)
  · exact .same (Bool.eq_false_iff.2 hruns)

lemma Wrapped.ext (hd : Wrapped c d) (he : Wrapped c e) (hdAsc : Entries.Ascending d.fields)
    (heAsc : Entries.Ascending e.fields) : d = e := by
  have hfields : d.fields = e.fields := by
    refine Entries.ext hdAsc heAsc fun k => ?_
    by_cases hcommand : k = "command"
    · rw [hcommand, hd.command, he.command]
    · by_cases hargs : k = "args"
      · obtain ⟨left, hleft, hdArgs⟩ := hd.args
        obtain ⟨left', hleft', heArgs⟩ := he.args
        rw [hargs, hdArgs, heArgs, hleft.unique hleft']
      · rw [hd.others k hcommand hargs, he.others k hcommand hargs]
  exact congrArg Container.mk hfields

lemma Becomes.unique (hd : Becomes c d) (he : Becomes c e) (hdAsc : Entries.Ascending d.fields)
    (heAsc : Entries.Ascending e.fields) : d = e := by
  cases hd with
  | same h =>
    cases he with
    | same _ => rfl
    | wrapped h' _ => cases h.symm.trans h'
  | wrapped h hd =>
    cases he with
    | same h' => cases h.symm.trans h'
    | wrapped _ he => exact hd.ext he hdAsc heAsc

lemma becomes_unique {cs ds es : List Container} (hd : List.Forall₂ Becomes cs ds)
    (he : List.Forall₂ Becomes cs es) (hdAsc : ∀ d ∈ ds, Entries.Ascending d.fields)
    (heAsc : ∀ e ∈ es, Entries.Ascending e.fields) : ds = es := by
  induction hd generalizing es with
  | nil =>
    cases he
    rfl
  | cons hd hds ih =>
    cases he with
    | cons he hes =>
      obtain ⟨hdFirst, hdRest⟩ := List.forall_mem_cons.1 hdAsc
      obtain ⟨heFirst, heRest⟩ := List.forall_mem_cons.1 heAsc
      rw [hd.unique he hdFirst heFirst, ih hes hdRest heRest]

/-! #### The changed pod belongs to its shape -/

lemma fits_seen (h : container.Fits (.record c.fields)) :
    container.Fits (.record (seen c).fields) := by
  rw [seen]
  split_ifs
  · have hcommand := Fits.insert (s := .list .text) ordered_container h "command" rfl
      (fits_texts wrapperCommand)
    exact Fits.insert (s := .list .text) ordered_container hcommand "args" rfl
      (fits_texts [script c.command? c.args?])
  · exact h

lemma conforms_mutate (hp : p.Conforms) : (mutate p).Conforms := by
  cases h : p.containers.any runsProgram with
  | false =>
    rw [mutate_of_not_any h]
    exact hp
  | true =>
    rw [mutate_of_any h]
    refine (hp.modifySpec fun s hs => ?_).annotate _ _
    obtain ⟨hget, hcontainers⟩ := hp.containers hs
    rw [wrapped, Entries.modify_eq_insert _ (hp.spec hs).2.1 hget]
    refine Fits.insert (s := .list container) ordered_podSpec (hp.spec hs).2 "containers" rfl ?_
    rw [Datum.mapItems, Fits, List.map_map]
    intro d hd
    obtain ⟨c, hc, rfl⟩ := List.mem_map.1 hd
    exact fits_seen (hcontainers c hc)

/-! #### The effect is that of the policy -/

lemma effect_mutate (p : Pod) : Effect p (mutate p) := by
  have hcontainers : List.Forall₂ Becomes p.containers (mutate p).containers := by
    rw [containers_mutate, List.forall₂_map_right_iff, List.forall₂_same]
    exact fun c _ => becomes_seen c
  cases h : p.containers.any runsProgram with
  | false =>
    rw [mutate_of_not_any h] at hcontainers ⊢
    refine ⟨.refl _ _ p, hcontainers, rfl, ?_, fun _ => rfl⟩
    rintro ⟨c, hc, hruns⟩
    exact absurd hruns (List.any_eq_false.1 h c hc)
  | true =>
    have hframe : Frame annotationKey "containers" p (mutate p) := by
      rw [mutate_of_any h]
      exact frame_annotate_modifySpec (fun k hk => keeps_wrapped hk) _ _ p
    refine ⟨hframe, hcontainers, hframe.containersIn_eq (by decide), fun _ => ?_, fun hnone => ?_⟩
    · rw [mutate_of_any h, annotations_annotate, Entries.get?_insert_self]
    · obtain ⟨c, hc, hruns⟩ := List.any_eq_true.1 h
      cases (hnone c hc).symm.trans hruns

/-- A pod of the shape is the changed pod just if containers that run the program are wrapped in it,
the annotation is set if there is one, and all else is as it was. -/
theorem mutate_iff_effect (hp : p.Conforms) :
    q.Conforms ∧ Effect p q ↔ q = policy.mutate p := by
  constructor
  · rintro ⟨hq, heffect⟩
    have hmutated := conforms_mutate hp
    have hmutate := effect_mutate p
    cases h : p.containers.any runsProgram with
    | false =>
      have hsame : policy.mutate p = p := mutate_of_not_any h
      rw [hsame]
      exact heffect.unchanged fun c hc => Bool.eq_false_iff.2 (List.any_eq_false.1 h c hc)
    | true =>
      have hruns := List.any_eq_true.1 h
      refine Frame.ext hq hmutated heffect.frame hmutate.frame (heffect.mark hruns)
        (hmutate.mark hruns) fun s s' hs hs' => ?_
      obtain ⟨hget, hall⟩ := hq.containers hs
      obtain ⟨hget', hall'⟩ := hmutated.containers hs'
      rw [hget, hget', becomes_unique heffect.containers hmutate.containers
        (fun d hd => (hall d hd).1) fun e he => (hall' e he).1]
  · rintro rfl
    exact ⟨conforms_mutate hp, effect_mutate p⟩

/-- A pod with an annotation, one container that runs the program, one that does not, and one of the
same image that runs before them. -/
def mixedPod : Pod :=
  ⟨[("metadata", .record [("annotations", .record [("team", .text "net")])]),
    ("spec", .record [
      ("containers", .list [
        .record [("args", texts ["--port", "80"]),
          ("command", texts ["agnhost\u00a0netexec", "--udp"]),
          ("image", .text "e2e/agnhost:2"), ("name", .text "web")],
        .record [("args", texts ["60"]), ("command", texts ["sleep"]),
          ("image", .text "pause"), ("name", .text "idle")]]),
      ("initContainers", .list [
        .record [("image", .text "e2e/agnhost:2"), ("name", .text "setup")]])])]⟩

lemma conforms_mixedPod : mixedPod.Conforms := by
  have hwf : mixedPod.toJson.WellFormed := by
    simp +decide [mixedPod, Pod.toJson, Datum.toJson, Datum.fieldsToJson, Datum.itemsToJson,
      texts, header, Entries.Ascending]
  exact (sound_of_decode ((decode_write_eq_ok_iff hwf).2 rfl)).conforms

/-- Of its containers the first one is changed. -/
theorem mutate_mixedPod : (policy.mutate mixedPod).Conforms ∧
    Effect mixedPod (policy.mutate mixedPod) ∧
    (policy.mutate mixedPod).containers.map Container.args? =
      [some [scriptPrefix ++ "netexec --udp --port 80"], some ["60"]] := by
  obtain ⟨hconforms, heffect⟩ := (mutate_iff_effect conforms_mixedPod).2 rfl
  exact ⟨hconforms, heffect, by decide +kernel⟩

/-! #### The effect shows -/

/-- The command of a container that runs the program is not that of a wrapped container. -/
lemma command_differs (hc : container.Fits (.record c.fields)) (hruns : runsProgram c = true)
    {command : Datum} (hcommand : Entries.get? "command" c.fields = some command) :
    command.toJson.same (texts wrapperCommand).toJson = false := by
  have hfits : Fits (.list .text) command := Fits.field hc rfl hcommand
  obtain ⟨tokens, rfl⟩ := hfits.texts
  rw [← Bool.not_eq_true, same_texts_iff]
  rintro rfl
  have htokens : c.command? = some wrapperCommand := by
    rw [Container.command?, Record.texts?, Record.list?_eq_some_iff.2 hcommand]
    rfl
  have hmatches := matchesProgram_of_runsProgram hruns "powershell" (by rw [htokens]; rfl)
  exact absurd hmatches (by decide)

lemma wrapPatch_ne_nil (hc : Holds container (.record c.fields)) (hruns : runsProgram c = true) :
    wrapPatch c ≠ [] := by
  intro hnil
  obtain ⟨-, hcommand⟩ := List.append_eq_nil_iff.1 hnil
  have hholds (d : Datum) (hd : Entries.get? "command" c.fields = some d) :
      Holds (.list .text) d := hc.field rfl hd
  obtain ⟨d, hd, hsame⟩ := (setPatch_eq_nil_iff (fun d hd => (hholds d hd).2)
    (rigid_texts 0 wrapperCommand).plain.wellFormed).1 hcommand
  cases (command_differs hc.1 hruns hd).symm.trans hsame

/-- There is something to do to a pod with a container that runs the program. -/
lemma patch_ne_nil (hp : p.Sound) (h : p.containers.any runsProgram = true) : patch p ≠ [] := by
  obtain ⟨c, hc, hruns⟩ := List.any_eq_true.1 h
  obtain ⟨spec, hspec⟩ := spec_of_any hp h
  obtain ⟨rs, -, hcontainers, hrs⟩ := hp.containers hspec
  rw [hcontainers] at hc
  obtain ⟨r, hr, rfl⟩ := List.mem_map.1 hc
  rw [patch, Ne, List.append_eq_nil_iff, Patch.under_eq_nil_iff, Patch.under_eq_nil_iff,
    Patch.under_eq_nil_iff, containersPatch, itemsPatch_eq_nil_iff, hcontainers]
  rintro ⟨-, hitems⟩
  have hitem := hitems _ (List.mem_map_of_mem hc)
  rw [itemPatch, if_pos hruns] at hitem
  exact wrapPatch_ne_nil (hrs r hr) hruns hitem

/-- A pod with a container that runs the program is written otherwise once the policy has seen
it. -/
lemma same_mutate (hp : p.Conforms) (h : p.containers.any runsProgram = true) :
    p.toJson.same (mutate p).toJson = false := by
  obtain ⟨c, hc, hruns⟩ := List.any_eq_true.1 h
  obtain ⟨s, hs⟩ := exists_spec_of_mem hc
  have hs' : (mutate p).spec? = some (wrapped s) := by rw [spec?_mutate h, hs, Option.map_some]
  have hq := conforms_mutate hp
  rw [← Bool.not_eq_true]
  intro hsame
  obtain ⟨spec, hspec, hsame⟩ := get?_of_same_toJson (by decide) hsame (hq.spec hs').1
  obtain rfl := Option.some.inj ((hp.spec hs).1.symm.trans hspec)
  obtain ⟨items, hitems, hsame⟩ := get?_of_same hsame (hq.containers hs').1
  obtain rfl := Option.some.inj ((hp.containers hs).1.symm.trans hitems)
  rw [containers_mutate] at hsame
  have hall := forall₂_of_same hsame
  rw [List.map_map, List.forall₂_map_left_iff, List.forall₂_map_right_iff,
    List.forall₂_same] at hall
  have hcontainer := hall c hc
  rw [Function.comp_apply, seen, if_pos hruns] at hcontainer
  obtain ⟨command, hcommand, hsame⟩ := get?_of_same hcontainer (wrapped_wrapContainer hruns).command
  cases (command_differs ((hp.containers hs).2 c hc) hruns hcommand).symm.trans hsame

end HostProcess

/-! ### Runtime classes -/

namespace RuntimeClass

variable {name : String}

/-- What becomes of a pod: the annotation is set and, if the specification has no runtime class, the
runtime class. -/
structure Effect (name : String) (p q : Pod) : Prop where
  frame : Frame annotationKey "runtimeClassName" p q
  note : Entries.get? annotationKey q.annotations = some (.text "mutated")
  runtimeClass : ∀ s t, p.spec? = some s → q.spec? = some t → Entries.get? "runtimeClassName" t =
    some ((Entries.get? "runtimeClassName" s).getD (.text name))

lemma get?_assigned (name : String) (s : Record) :
    Entries.get? "runtimeClassName" (assigned name s) =
      some ((Entries.get? "runtimeClassName" s).getD (.text name)) := by
  rw [assigned]
  cases hget : Entries.get? "runtimeClassName" s with
  | none => exact Entries.get?_insert_self _ _ _
  | some d => exact hget

lemma fits_assigned {s : Record} (h : podSpec.Fits (.record s)) (name : String) :
    podSpec.Fits (.record (assigned name s)) := by
  rw [assigned]
  cases Entries.get? "runtimeClassName" s with
  | none => exact Fits.insert (s := .text) ordered_podSpec h "runtimeClassName" rfl trivial
  | some d => exact h

lemma conforms_mutate (hp : p.Conforms) (name : String) : (mutate name p).Conforms := by
  rw [mutate_eq]
  exact (hp.modifySpec fun s hs => fits_assigned (hp.spec hs).2 name).annotate _ _

lemma effect_mutate (name : String) (p : Pod) : Effect name p (mutate name p) := by
  constructor
  · rw [mutate_eq]
    exact frame_annotate_modifySpec (fun k hk => keeps_assigned name hk) _ _ p
  · rw [mutate_eq, annotations_annotate, Entries.get?_insert_self]
    rfl
  · intro s t hs ht
    rw [spec?_mutate, hs, Option.map_some] at ht
    rw [← Option.some.inj ht, get?_assigned]

/-- A pod of the shape is the changed pod just if the annotation is set in it, and the runtime class
if there was none, and all else is as it was. -/
theorem effect_iff (hp : p.Conforms) : q.Conforms ∧ Effect name p q ↔ q = mutate name p := by
  constructor
  · rintro ⟨hq, heffect⟩
    have hmutate := effect_mutate name p
    refine Frame.ext hq (conforms_mutate hp name) heffect.frame hmutate.frame heffect.note
      hmutate.note fun t t' ht ht' => ?_
    rcases heffect.frame.spec_cases with ⟨-, hnone⟩ | ⟨s, -, hs, -, -⟩
    · cases ht.symm.trans hnone
    · rw [heffect.runtimeClass s t hs ht, hmutate.runtimeClass s t' hs ht']
  · rintro rfl
    exact ⟨conforms_mutate hp name, effect_mutate name p⟩

end RuntimeClass

end PodAdmission
