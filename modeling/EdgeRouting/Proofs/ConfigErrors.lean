import EdgeRouting.Config.Check
import EdgeRouting.Emulator
import EdgeRouting.Proofs.CompiledBundle

/-!
# The errors of a configuration and the error of its build

A check goes through every rule, a build stops at the first that does not compile. Both go through
the sections in the same order, so the error of a build is the first that a check reports of a rule,
and a configuration without errors is built and can be run.
-/

namespace EdgeRouting

open Accepted

structure RuleFault where
  kind : RuleKind
  index : Nat
  reason : CompileError
  deriving DecidableEq

def RuleKind.rank : RuleKind → Nat
  | .redirects => 0
  | .rewrites => 1
  | .headers => 2

namespace RuleFault

def Before (fault other : RuleFault) : Prop :=
  fault.kind.rank < other.kind.rank ∨ fault.kind = other.kind ∧ fault.index < other.index

def ofSection {α β : Type} (kind : RuleKind) (compile : α → Except CompileError β)
    (entries : List α) : List RuleFault :=
  entries.zipIdx.filterMap fun (entry, index) => (error? (compile entry)).map (⟨kind, index, ·⟩)

end RuleFault

def ConfigError.fault? : ConfigError → Option RuleFault
  | .rule kind index reason => some ⟨kind, index, reason⟩
  | .setting .. => none

namespace Config

def faults (config : Config) : List RuleFault :=
  config.errors.filterMap ConfigError.fault?

/-- There is such a rule in a configuration, and by itself it fails to compile for this reason. -/
def Fails (config : Config) (fault : RuleFault) : Prop :=
  match fault.kind with
  | .redirects =>
    ∃ entry, config.redirects[fault.index]? = some entry ∧ entry.compile = .error fault.reason
  | .rewrites =>
    ∃ entry, config.rewrites[fault.index]? = some entry ∧ entry.compile = .error fault.reason
  | .headers => ∃ entry, config.headers[fault.index]? = some entry ∧
      HeaderRule.ofEntry entry = .error fault.reason

/-- The hooks of a bundle have the rules of a configuration, each of them compiled by itself. -/
structure IsBuiltAs (config : Config) (bundle : Bundle) : Prop where
  version : bundle.version = Bundle.currentVersion
  redirects : List.Forall₂ (fun entry rule => RuleEntry.compile entry = .ok rule)
    config.redirects bundle.request.redirects
  rewrites : List.Forall₂ (fun entry rule => RuleEntry.compile entry = .ok rule)
    config.rewrites bundle.request.rewrites
  spaFallback : bundle.request.spaFallback = config.defaults.spaFallback
  headers : ∃ configured,
    List.Forall₂ (fun entry rule => HeaderRule.ofEntry entry = .ok rule) config.headers configured ∧
    bundle.response.rules = HeaderRule.builtIn config.defaults ++ configured
  cachePolicy : bundle.cachePolicy = config.cachePolicy.descriptor

end Config

section

variable {α β : Type} {kind : RuleKind} {compile : α → Except CompileError β} {entries : List α}

theorem Config.filterMap_ruleErrors :
    (ruleErrors kind compile entries).filterMap ConfigError.fault? =
      RuleFault.ofSection kind compile entries := by
  rw [ruleErrors, RuleFault.ofSection, List.filterMap_filterMap]
  refine List.filterMap_congr fun ⟨entry, index⟩ _ => ?_
  cases hcompile : compile entry with
  | ok rule => simp [hcompile, error?]
  | error reason => simp [hcompile, error?, ConfigError.fault?]

namespace RuleFault

theorem mem_ofSection_iff {fault : RuleFault} :
    fault ∈ ofSection kind compile entries ↔
      fault.kind = kind ∧
      ∃ entry, entries[fault.index]? = some entry ∧ compile entry = .error fault.reason := by
  simp only [ofSection, List.mem_filterMap, Option.map_eq_some_iff, error?_eq_some_iff]
  constructor
  · rintro ⟨⟨entry, index⟩, hmem, reason, hcompile, rfl⟩
    exact ⟨rfl, entry, List.mem_zipIdx_iff_getElem?.1 hmem, hcompile⟩
  · rintro ⟨rfl, entry, hentry, hcompile⟩
    exact ⟨(entry, fault.index), List.mem_zipIdx_iff_getElem?.2 hentry, fault.reason, hcompile, rfl⟩

theorem pairwise_ofSection : (ofSection kind compile entries).Pairwise Before := by
  -- Positions ascend in the section, and leaving out the rules that compile keeps the order of the
  -- others.
  have hindices : entries.zipIdx.Pairwise fun entry other => entry.2 < other.2 := by
    apply List.pairwise_map.1
    rw [List.zipIdx_map_snd]
    exact List.pairwise_lt_range'
  refine hindices.filterMap _ ?_
  rintro ⟨entry, index⟩ ⟨other, later⟩ hlt fault hfault otherFault hother
  obtain ⟨reason, -, rfl⟩ := Option.map_eq_some_iff.1 hfault
  obtain ⟨otherReason, -, rfl⟩ := Option.map_eq_some_iff.1 hother
  exact .inr ⟨rfl, hlt⟩

/-- The first reason of a section is the error at which its compilation stops. -/
theorem error?_mapM_eq (kind : RuleKind) :
    error? (entries.mapM compile) = ((ofSection kind compile entries).map (·.reason)).head? := by
  have hreasons : (ofSection kind compile entries).map (·.reason) =
      entries.filterMap fun entry => error? (compile entry) := by
    conv_rhs => rw [← List.zipIdx_map_fst 0 entries, List.filterMap_map]
    rw [ofSection, List.map_filterMap]
    refine List.filterMap_congr fun ⟨entry, index⟩ _ => ?_
    simp [Option.map_map, Function.comp_def]
  rw [error?_mapM, hreasons]

end RuleFault

end

/-- The built-in rules are what their texts compile to, so they never stop a build. -/
theorem HeaderRule.compile_of_mem_builtIn {defaults : Defaults} {rule : HeaderRule}
    (h : rule ∈ HeaderRule.builtIn defaults) :
    HeaderRule.compile "**" rule.name.text rule.text = .ok rule := by
  rw [HeaderRule.compile, HeaderRule.compile_matchAll, ok_bind, ← HeaderRule.glob_of_mem_builtIn h]
  exact rule.ofParts_self

namespace Config

variable {config : Config}

theorem fault?_of_mem_settingErrors {error : ConfigError} (h : error ∈ config.settingErrors) :
    error.fault? = none := by
  have hrequire {holds : Bool} {which : Setting} {value : String}
      (h : error ∈ require holds which value) :
      error.fault? = none := by
    rw [require] at h
    split at h
    · cases h
    · rw [List.mem_singleton.1 h]
      rfl
  simp only [settingErrors, List.mem_append, List.mem_flatMap] at h
  obtain ((((⟨name, -, h⟩ | h) | h) | h) | h) | h := h
  all_goals exact hrequire h

theorem faults_eq (config : Config) : config.faults =
    RuleFault.ofSection .redirects RuleEntry.compile config.redirects ++
      RuleFault.ofSection .rewrites RuleEntry.compile config.rewrites ++
      RuleFault.ofSection .headers HeaderRule.ofEntry config.headers := by
  have hsettings : config.settingErrors.filterMap ConfigError.fault? = [] :=
    List.filterMap_eq_nil_iff.2 fun error herror => fault?_of_mem_settingErrors herror
  simp only [faults, errors, List.filterMap_append, filterMap_ruleErrors, hsettings,
    List.append_nil]

theorem mem_faults_iff {fault : RuleFault} : fault ∈ config.faults ↔ config.Fails fault := by
  simp only [faults_eq, List.mem_append, RuleFault.mem_ofSection_iff, Fails]
  cases fault.kind <;> simp

theorem pairwise_faults (config : Config) : config.faults.Pairwise RuleFault.Before := by
  have hbefore {α β α' β' : Type} {kind kind' : RuleKind} {compile : α → Except CompileError β}
      {entries : List α}
      {compile' : α' → Except CompileError β'} {entries' : List α'}
      (hrank : kind.rank < kind'.rank) :
      ∀ fault ∈ RuleFault.ofSection kind compile entries,
        ∀ other ∈ RuleFault.ofSection kind' compile' entries',
        fault.Before other := by
    intro fault hfault other hother
    rw [RuleFault.Before, (RuleFault.mem_ofSection_iff.1 hfault).1,
      (RuleFault.mem_ofSection_iff.1 hother).1]
    exact .inl hrank
  rw [faults_eq, List.append_assoc, List.pairwise_append, List.pairwise_append]
  refine ⟨RuleFault.pairwise_ofSection,
    ⟨RuleFault.pairwise_ofSection, RuleFault.pairwise_ofSection, ?_⟩, ?_⟩
  · exact hbefore (by decide)
  · intro fault hfault other hother
    rcases List.mem_append.1 hother with hother | hother
    · exact hbefore (by decide) fault hfault other hother
    · exact hbefore (by decide) fault hfault other hother

/-- A build stops at the first rule that is reported. -/
theorem error?_build (config : Config) :
    error? config.build = (config.faults.map (·.reason)).head? := by
  -- No step of a build looks at the rules that earlier steps gave, so the errors of the sections
  -- come one after another.
  have hrequest : error? (RequestHook.compile config) =
      (error? (config.redirects.mapM RuleEntry.compile)).or
        (error? (config.rewrites.mapM RuleEntry.compile)) :=
    error?_bind fun redirects => error?_bind_pure
  have hresponse : error? (ResponseHook.compile config) =
      error? (config.headers.mapM HeaderRule.ofEntry) :=
    error?_bind_pure.trans error?_bind_pure
  have hbuild : error? config.build =
      (error? (RequestHook.compile config)).or (error? (ResponseHook.compile config)) :=
    error?_bind fun request => error?_bind_pure
  rw [hbuild, hrequest, hresponse, faults_eq, RuleFault.error?_mapM_eq .redirects,
    RuleFault.error?_mapM_eq .rewrites, RuleFault.error?_mapM_eq .headers, List.map_append,
    List.map_append, List.head?_append, List.head?_append]

theorem build_eq_error_iff {reason : CompileError} :
    config.build = .error reason ↔ ∃ fault ∈ config.faults.head?, fault.reason = reason := by
  rw [← error?_eq_some_iff, error?_build, List.head?_map, Option.map_eq_some_iff]
  rfl

theorem isBuiltAs_of_build {build : Build} (h : config.build = .ok build) :
    config.IsBuiltAs build.bundle := by
  simp only [Config.build, RequestHook.compile, ResponseHook.compile, HeaderRule.compileAll,
    bind_eq_ok_iff] at h
  obtain ⟨request, ⟨redirects, hredirects, rewrites, hrewrites, hrequest⟩,
    response, ⟨rules, ⟨configured, hconfigured, hrules⟩, hresponse⟩, hbuild⟩ := h
  cases hrules
  cases hrequest
  cases hresponse
  cases hbuild
  exact ⟨rfl, mapM_eq_ok_iff.1 hredirects, mapM_eq_ok_iff.1 hrewrites, rfl,
    ⟨configured, mapM_eq_ok_iff.1 hconfigured, rfl⟩, rfl⟩

theorem exists_build_iff : (∃ build, config.build = .ok build) ↔ config.faults = [] := by
  rw [← error?_eq_none_iff, error?_build, List.head?_eq_none_iff, List.map_eq_nil_iff]

theorem exists_build_of_errors (h : config.errors = []) : ∃ build, config.build = .ok build := by
  rw [exists_build_iff, faults, h]
  rfl

theorem exists_origin_of_errors (h : config.errors = []) :
    ∃ origin, Authority.ofText? config.preview.origin = some origin := by
  simp only [errors, settingErrors, List.append_eq_nil_iff] at h
  obtain ⟨-, ⟨⟨⟨-, horigin⟩, -⟩, -⟩, -⟩ := h
  rw [require] at horigin
  split at horigin
  case isTrue hsome => exact Option.isSome_iff_exists.1 hsome
  case isFalse => cases horigin

/-- A check reports, in order, exactly the rules that do not compile by themselves, and a build
fails with the first of them. What is built has the compiled rules. A configuration without errors
is built, and the emulator takes what is built. -/
theorem first_fault_stops_build (config : Config) :
    (∀ fault, fault ∈ config.faults ↔ config.Fails fault) ∧
    config.faults.Pairwise RuleFault.Before ∧
    (∀ rule ∈ HeaderRule.builtIn config.defaults,
      HeaderRule.compile "**" rule.name.text rule.text = .ok rule) ∧
    ((∃ reason, config.build = .error reason) ↔ config.faults ≠ []) ∧
    (∀ reason, config.build = .error reason ↔
      ∃ fault ∈ config.faults.head?, fault.reason = reason) ∧
    (∀ build, config.build = .ok build → config.IsBuiltAs build.bundle) ∧
    (config.errors = [] → ∃ build emulator, config.build = .ok build ∧
      Emulator.ofBundle build.bundle config.preview = .ok emulator ∧
      emulator.bundle = build.bundle ∧ emulator.origin.text = config.preview.origin) := by
  refine ⟨fun fault => mem_faults_iff, pairwise_faults config,
    fun rule => HeaderRule.compile_of_mem_builtIn, ?_, fun reason => build_eq_error_iff,
    fun build => isBuiltAs_of_build, fun herrors => ?_⟩
  · rw [Ne, ← exists_build_iff]
    cases config.build <;> simp
  · obtain ⟨build, hbuild⟩ := exists_build_of_errors herrors
    obtain ⟨origin, horigin⟩ := exists_origin_of_errors herrors
    have htext : origin.text = config.preview.origin := by
      rw [Authority.ofText?] at horigin
      split at horigin
      · cases horigin
        rfl
      · cases horigin
    refine ⟨build, ⟨build.bundle, origin⟩, hbuild, ?_, rfl, htext⟩
    rw [Emulator.ofBundle, horigin]

/-- Of three rules that do not compile the first in the order of the sections stops the build, and a
site without such rules is built and run. -/
theorem later_section_not_reached : ∃ (faulty sound : Config) (build : Build) (emulator : Emulator),
    faulty.faults = [
      ⟨.redirects, 1, .undefinedParameter "/x/:id" "/y/:name" "name"⟩,
      ⟨.headers, 0, .unbalancedBrace "/*.\x7bjs" 3⟩,
      ⟨.headers, 2, .invalidHeaderName "bad name"⟩] ∧
    faulty.build = .error (.undefinedParameter "/x/:id" "/y/:name" "name") ∧
    sound.errors = [] ∧ sound.build = .ok build ∧
    build.bundle.request.redirects.map (·.source) = ["/a/:id"] ∧
    Emulator.ofBundle build.bundle sound.preview = .ok emulator := by
  let faulty : Config := {
    redirects := [⟨"/a/:id", "/b/:id"⟩, ⟨"/x/:id", "/y/:name"⟩]
    rewrites := [⟨"/c/*", "/d/*"⟩]
    headers := [⟨"/*.\x7bjs", "x-a", "1"⟩, ⟨"/**", "x-b", "2"⟩, ⟨"/**", "bad name", "3"⟩] }
  let sound : Config := {
    redirects := [⟨"/a/:id", "/b/:id"⟩]
    headers := [⟨"/**", "x-b", "2"⟩] }
  have hfaults : faulty.faults = [
      ⟨.redirects, 1, .undefinedParameter "/x/:id" "/y/:name" "name"⟩,
      ⟨.headers, 0, .unbalancedBrace "/*.\x7bjs" 3⟩,
      ⟨.headers, 2, .invalidHeaderName "bad name"⟩] := by
    rw [faults_eq]
    decide +kernel
  have hsound : sound.errors = [] := by decide +kernel
  obtain ⟨-, -, -, -, hreason, -⟩ := first_fault_stops_build faulty
  obtain ⟨-, -, -, -, -, hbuiltAs, haccepted⟩ := first_fault_stops_build sound
  obtain ⟨build, emulator, hbuild, hemulator, -⟩ := haccepted hsound
  have hredirects : build.bundle.request.redirects.map (·.source) = ["/a/:id"] := by
    obtain ⟨rule, rest, hrule, hrest, heq⟩ :=
      List.forall₂_cons_left_iff.1 (hbuiltAs build hbuild).redirects
    rw [heq, List.forall₂_nil_left_iff.1 hrest, List.map_singleton,
      (Rule.compile_eq_ok_iff.1 hrule).source_eq]
  refine ⟨faulty, sound, build, emulator, hfaults, (hreason _).2 ?_, hsound, hbuild, hredirects,
    hemulator⟩
  rw [hfaults]
  exact ⟨_, rfl, rfl⟩

end Config

end EdgeRouting
