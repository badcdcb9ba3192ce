import PodAdmission.Proofs.Startup.Settings
import PodAdmission.Startup.Program

/-!
# Configuration of the programs

A program that is given proper groups starts just if its log filter can be read and everything
it is set to is acceptable, and then every part of its configuration comes from one flag
(`Program.Started`). Neither the order of the groups nor the variable of a flag that is given makes
a difference (`Program.Configured`).
-/

namespace PodAdmission

open Flags

/-- The flag for the certificate. -/
def certificateFlag : Flag := ⟨"tls-cert-file", "TLS_CERT_FILE", .path, true⟩

/-- The flag for the key. -/
def keyFlag : Flag := ⟨"tls-private-key-file", "TLS_PRIVATE_KEY_FILE", .path, true⟩

/-- The flag for the port. -/
def portFlag : Flag := ⟨"port", "PORT", .port, false⟩

/-- The port that a text gives, or else the default one. -/
inductive PortOf : Option String → Nat → Prop
  | default : PortOf none defaultPort
  | chosen {text : String} {n : Nat} (h : Setting.Denotes text n) (hle : n ≤ 65535) :
    PortOf (some text) n

variable {flags : List Flag} {flag : Flag} {groups groups' : List FlagGroup} {s s' : Settings}
  {texts : Flag → Option String} {environment environment' : String → Option String}
  {p : Program} {service : Service}

/-! ### The settings of a listener -/

namespace Settings.Hold

lemma textOf (h : Hold flags texts s) (hflag : flag ∈ flags) (hkind : flag.kind = .path)
    (hsome : (texts flag).isSome = true) : texts flag = some (s.textOf flag.name) := by
  obtain ⟨htext, -⟩ | ⟨text, x, htext, hread, hget⟩ := h.cases hflag
  · rw [htext] at hsome
    cases hsome
  · obtain ⟨-, rfl⟩ := (Flag.read_path_eq_ok_iff hkind).1 hread
    rw [htext, Settings.textOf, hget]

lemma portOf (h : Hold flags texts s) (hflag : flag ∈ flags) (hkind : flag.kind = .port) :
    PortOf (texts flag) (s.portOf flag.name) := by
  obtain ⟨htext, hget⟩ | ⟨text, x, htext, hread, hget⟩ := h.cases hflag
  · rw [htext, Settings.portOf, hget]
    exact .default
  · obtain ⟨n, hle, hn, rfl⟩ := (Flag.read_port_eq_ok_iff hkind).1 hread
    rw [htext, Settings.portOf, hget]
    exact .chosen hn hle

/-- The runtime class comes from the chosen text or else from the default one. -/
lemma runtimeClassOf (h : Hold flags texts s) (hflag : Program.runtimeClassFlag ∈ flags) :
    Program.runtimeClassOf s = RuntimeClass.resolve
      (some ((texts Program.runtimeClassFlag).getD RuntimeClass.defaultName)) := by
  obtain ⟨htext, hget⟩ | ⟨text, x, htext, hread, hget⟩ := h.cases hflag
  · rw [htext, Program.runtimeClassOf, hget, Option.getD_none]
  · obtain rfl := (Flag.read_text_eq_ok_iff rfl).1 hread
    rw [htext, Program.runtimeClassOf, hget, Option.getD_some]

end Settings.Hold

namespace Program

/-! ### The flags of programs -/

lemma mem_all : p ∈ all ↔ p = hostProcess ∨ p = runtimeClass := by simp [all]

lemma distinct_flags (hp : p ∈ all) : Distinct p.flags := by
  rcases mem_all.1 hp with rfl | rfl <;> decide

lemma mem_flags (hflag : flag ∈ listenerFlags) (hp : p ∈ all) : flag ∈ p.flags := by
  rcases mem_all.1 hp with rfl | rfl
  · exact hflag
  · exact List.mem_append_left _ hflag

/-- No flag has the variable of the log filter or one for the styles of messages. -/
lemma envName_ne (hp : p ∈ all) : ∀ flag ∈ p.flags, flag.envName ≠ filterName ∧
    flag.envName ≠ Terminal.plainName ∧ flag.envName ≠ Terminal.styledName := by
  rcases mem_all.1 hp with rfl | rfl <;> decide

/-- Every flag has a variable of its own. -/
lemma eq_of_envName (hp : p ∈ all) : ∀ flag ∈ p.flags, ∀ flag' ∈ p.flags,
    flag.envName = flag'.envName → flag = flag' := by
  rcases mem_all.1 hp with rfl | rfl <;> decide

/-! ### Services -/

/-- The service of settings. -/
def serviceOf (p : Program) (filter : LogFilter) (s : Settings) : Service :=
  let line := p.startLine s.listener (p.configure s).2.1 (p.configure s).2.2
  ⟨s.listener, (p.configure s).1,
    if filter.admits line.target (line.fields.map Prod.fst) line.level then [line] else []⟩

lemma prepare_eq_ok_iff {arguments : List String} :
    p.prepare environment arguments = .ok service ↔ ∃ filter s,
      LogFilter.resolve (environment filterName) = .ok filter ∧
        resolve p.flags true environment arguments = .ok s ∧ p.serviceOf filter s = service := by
  rw [prepare]
  cases LogFilter.resolve (environment filterName) with
  | error fault => simp
  | ok filter =>
    cases resolve p.flags true environment arguments with
    | error fault => simp
    | ok s => simp [serviceOf]

/-- The service depends on what the flags of the program are set to. -/
lemma serviceOf_congr (hp : p ∈ all) (filter : LogFilter)
    (h : ∀ flag ∈ p.flags, s.get? flag.name = s'.get? flag.name) :
    p.serviceOf filter s = p.serviceOf filter s' := by
  have hlistener : s.listener = s'.listener := by
    have hcertificate := h certificateFlag (mem_flags (by decide) hp)
    have hkey := h keyFlag (mem_flags (by decide) hp)
    have hport := h portFlag (mem_flags (by decide) hp)
    simp only [certificateFlag, keyFlag, portFlag] at hcertificate hkey hport
    simp only [Settings.listener, Settings.textOf, Settings.portOf, hcertificate, hkey, hport]
  have hconfigure : p.configure s = p.configure s' := by
    rcases mem_all.1 hp with rfl | rfl
    · rfl
    · have hclass := h runtimeClassFlag (by decide)
      simp only [runtimeClass, runtimeClassOf, hclass]
  rw [serviceOf, serviceOf, hlistener, hconfigure]

/-- Every part of the configuration comes from one flag. -/
structure Started (p : Program) (groups : List FlagGroup) (environment : String → Option String)
    (service : Service) : Prop where
  certificate : certificateFlag.text? groups environment = some service.config.certificate
  key : keyFlag.text? groups environment = some service.config.key
  address : ∃ port, PortOf (portFlag.text? groups environment) port ∧
    service.config.address = "0.0.0.0:" ++ toString port
  hostPolicy : p = hostProcess → service.policy = HostProcess.policy
  classPolicy : p = runtimeClass → ∃ name, service.policy = RuntimeClass.policy name ∧
    RuntimeClass.Resolves
      ((runtimeClassFlag.text? groups environment).getD RuntimeClass.defaultName) name

lemma started_serviceOf (hp : p ∈ all) (filter : LogFilter)
    (hhold : Settings.Hold p.flags (Flag.text? groups environment) s)
    (haccept : Acceptable p.flags groups environment) :
    p.Started groups environment (p.serviceOf filter s) := by
  have hcertificate : certificateFlag ∈ p.flags := mem_flags (by decide) hp
  have hkey : keyFlag ∈ p.flags := mem_flags (by decide) hp
  refine ⟨hhold.textOf hcertificate rfl (haccept.complete _ hcertificate rfl),
    hhold.textOf hkey rfl (haccept.complete _ hkey rfl),
    ⟨_, hhold.portOf (mem_flags (by decide) hp) rfl, rfl⟩, ?_, ?_⟩
  · rintro rfl
    rfl
  · rintro rfl
    refine ⟨runtimeClassOf s, rfl, ?_⟩
    rw [hhold.runtimeClassOf (by decide)]
    exact RuntimeClass.resolves_resolve _

/-! ### Configurations -/

/-- How a program is configured by groups and an environment. -/
structure Configured (p : Program) (groups : List FlagGroup)
    (environment : String → Option String) : Prop where
  started : ∀ service, p.prepare environment (groups.flatMap FlagGroup.arguments) = .ok service →
    p.Started groups environment service
  accepted : (∃ service, p.prepare environment (groups.flatMap FlagGroup.arguments) = .ok service) ↔
    (∃ filter, LogFilter.resolve (environment filterName) = .ok filter) ∧
      Acceptable p.flags groups environment
  reordered : ∀ groups', groups.Perm groups' → ∀ service,
    p.prepare environment (groups.flatMap FlagGroup.arguments) = .ok service ↔
      p.prepare environment (groups'.flatMap FlagGroup.arguments) = .ok service
  overridden : ∀ environment' : String → Option String,
    (∀ name, environment' name = environment name ∨ ∃ flag ∈ p.flags, flag.envName = name ∧
      (FlagGroup.given? flag.name groups).isSome = true) →
    p.prepare environment' (groups.flatMap FlagGroup.arguments) =
      p.prepare environment (groups.flatMap FlagGroup.arguments)

lemma prepare_perm (hp : p ∈ all) (hgroups : Proper p.flags groups) (hperm : groups.Perm groups')
    (h : p.prepare environment (groups.flatMap FlagGroup.arguments) = .ok service) :
    p.prepare environment (groups'.flatMap FlagGroup.arguments) = .ok service := by
  obtain ⟨filter, s, hfilter, hs, rfl⟩ := prepare_eq_ok_iff.1 h
  obtain ⟨s', hs', hsame⟩ := resolve_perm (distinct_flags hp) hgroups hperm true hs
  exact prepare_eq_ok_iff.2 ⟨filter, s', hfilter, hs', (serviceOf_congr hp filter hsame).symm⟩

/-- Besides its settings a program asks the environment only how messages are styled. -/
lemma exitFor_congr (fault : FlagFault)
    (hplain : environment' Terminal.plainName = environment Terminal.plainName)
    (hstyled : environment' Terminal.styledName = environment Terminal.styledName) :
    p.exitFor environment' fault = p.exitFor environment fault := by
  have hstyles : Terminal.wantsStyles environment' = Terminal.wantsStyles environment := by
    rw [Terminal.wantsStyles, Terminal.wantsStyles, hplain, hstyled]
  simp only [exitFor, hstyles]

/-- The variable of a flag that is given makes no difference. -/
lemma prepare_congr (hp : p ∈ all) (hgroups : Proper p.flags groups)
    (h : ∀ name, environment' name = environment name ∨ ∃ flag ∈ p.flags, flag.envName = name ∧
      (FlagGroup.given? flag.name groups).isSome = true) :
    p.prepare environment' (groups.flatMap FlagGroup.arguments) =
      p.prepare environment (groups.flatMap FlagGroup.arguments) := by
  have hother (name : String) (hname : ∀ flag ∈ p.flags, flag.envName ≠ name) :
      environment' name = environment name :=
    (h name).resolve_right fun ⟨flag, hflag, heq, _⟩ => hname flag hflag heq
  have hfilter := hother filterName fun flag hflag => (envName_ne hp flag hflag).1
  have hplain := hother Terminal.plainName fun flag hflag => (envName_ne hp flag hflag).2.1
  have hstyled := hother Terminal.styledName fun flag hflag => (envName_ne hp flag hflag).2.2
  have hmissing (flag : Flag) (hflag : flag ∈ p.flags)
      (hnone : FlagGroup.given? flag.name groups = none) :
      environment' flag.envName = environment flag.envName := by
    refine (h flag.envName).resolve_right ?_
    rintro ⟨flag', hflag', heq, hsome⟩
    rw [eq_of_envName hp flag' hflag' flag hflag heq, hnone] at hsome
    cases hsome
  rw [prepare, prepare, hfilter, resolve_congr (distinct_flags hp) hgroups true hmissing]
  simp only [exitFor_congr _ hplain hstyled]

/-- What a program is configured with comes from the value of a flag, or else from its variable, or
else from its default, whatever the order of the flags. -/
theorem configured_of_proper (hp : p ∈ all) (hgroups : Proper p.flags groups)
    (environment : String → Option String) : p.Configured groups environment where
  started service h := by
    obtain ⟨filter, s, -, hs, rfl⟩ := prepare_eq_ok_iff.1 h
    obtain ⟨s', hs', hhold, haccept⟩ | ⟨hnone, -⟩ :=
      resolve_cases (distinct_flags hp) hgroups true environment
    · obtain rfl := Except.ok.inj (hs.symm.trans hs')
      exact started_serviceOf hp filter hhold haccept
    · rw [hs] at hnone
      cases hnone
  accepted := by
    obtain ⟨s, hs, -, haccept⟩ | ⟨hnone, hbad⟩ :=
      resolve_cases (distinct_flags hp) hgroups true environment
    · constructor
      · rintro ⟨service, h⟩
        obtain ⟨filter, -, hfilter, -⟩ := prepare_eq_ok_iff.1 h
        exact ⟨⟨filter, hfilter⟩, haccept⟩
      · rintro ⟨⟨filter, hfilter⟩, -⟩
        exact ⟨_, prepare_eq_ok_iff.2 ⟨filter, s, hfilter, hs, rfl⟩⟩
    · constructor
      · rintro ⟨service, h⟩
        obtain ⟨-, s, -, hs, -⟩ := prepare_eq_ok_iff.1 h
        rw [hs] at hnone
        cases hnone
      · exact fun h => absurd h.2 hbad
  reordered groups' hperm service :=
    ⟨prepare_perm hp hgroups hperm, prepare_perm hp (hgroups.perm hperm) hperm.symm⟩
  overridden environment' h := prepare_congr hp hgroups h

/-- A port and two paths. -/
def portAndPaths : List FlagGroup :=
  [⟨"port", "8443", true⟩, ⟨"tls-cert-file", "/tls/tls.crt", false⟩,
    ⟨"tls-private-key-file", "/tls/tls.key", false⟩]

/-- An environment with an empty log filter, a port that is no number and a runtime class between
blanks. -/
def portlessEnvironment (name : String) : Option String :=
  if name = "RUST_LOG" then some ""
  else if name = "PORT" then some "none"
  else if name = "RUNTIME_CLASS_NAME" then some "  kata "
  else none

/-- The port of a flag is taken though that of the environment is no number, and the runtime class
loses the blanks around it. -/
theorem configured_of_proper_portAndPaths :
    runtimeClass.Configured portAndPaths portlessEnvironment ∧
      ∃ service, runtimeClass.prepare portlessEnvironment
          (portAndPaths.flatMap FlagGroup.arguments) = .ok service ∧
        service.config = ⟨"0.0.0.0:8443", "/tls/tls.crt", "/tls/tls.key"⟩ ∧
        service.policy = RuntimeClass.policy "kata" := by
  let filter : LogFilter := [⟨"", [], some .error⟩]
  let settings : Settings :=
    [("port", .port 8443), ("tls-cert-file", .text "/tls/tls.crt"),
      ("tls-private-key-file", .text "/tls/tls.key"), ("runtime-class-name", .text "  kata ")]
  have hwellFormed : ∀ g ∈ portAndPaths, g.WellFormed := by
    intro g hg
    simp only [portAndPaths, List.mem_cons, List.not_mem_nil, or_false] at hg
    rcases hg with rfl | rfl | rfl <;> exact ⟨by decide, by decide, by decide⟩
  have hfilter : (LogFilter.resolve (portlessEnvironment filterName)).toOption = some filter := by
    have hset : portlessEnvironment filterName = some "" := rfl
    have hparts : "".splitOn "," = [""] := by
      rw [String.splitOn, if_neg (by decide), String.splitOnAux, if_pos (by decide +kernel)]
      decide +kernel
    rw [hset, LogFilter.resolve, LogFilter.read, hparts]
    decide +kernel
  have hresolve : (resolve runtimeClass.flags true portlessEnvironment
      (portAndPaths.flatMap FlagGroup.arguments)).toOption = some settings := by
    decide +kernel
  refine ⟨configured_of_proper (mem_all.2 (.inr rfl)) ⟨hwellFormed, by decide⟩ portlessEnvironment,
    runtimeClass.serviceOf filter settings, ?_, ?_, ?_⟩
  · exact prepare_eq_ok_iff.2 ⟨filter, settings, toOption_eq_some_iff.1 hfilter,
      toOption_eq_some_iff.1 hresolve, rfl⟩
  · decide +kernel
  · exact congrArg RuntimeClass.policy (by decide +kernel : runtimeClassOf settings = "kata")

end Program

end PodAdmission
