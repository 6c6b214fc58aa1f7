import EdgeRouting.Bundle.Decode
import EdgeRouting.Proofs.Decoding
import EdgeRouting.Proofs.GlobReading
import EdgeRouting.Proofs.RuleCompile

/-!
# Bundles that hold nothing but compiled values

A rule is compiled if its own texts compile to it. A bundle that is built and a bundle that is
loaded hold compiled rules only, and the texts of the rules are a configuration that builds them
again.
-/

namespace EdgeRouting

open Accepted
open Json (Value read_of_once required_eq_ok_iff)

def Rule.IsCompiled (rule : Rule) : Prop :=
  Rule.compile rule.source rule.destination = .ok rule

theorem Rule.isCompiled_of_compile {source destination : String} {rule : Rule}
    (h : Rule.compile source destination = .ok rule) : rule.IsCompiled := by
  have hpassed := Rule.compile_eq_ok_iff.1 h
  rw [Rule.IsCompiled, hpassed.source_eq, hpassed.destination_eq]
  exact h

theorem Rule.ofStored_eq_ok_iff {source destination pattern : String} {order : List CaptureSlot}
    {template : List TemplatePart} {rule : Rule} :
    Rule.ofStored source destination pattern order template = .ok rule ↔
      Rule.compile source destination = .ok rule ∧
        rule.pattern = pattern ∧ rule.captureOrder = order ∧ rule.template = template := by
  rw [Rule.ofStored, bind_eq_ok_iff]
  simp only [Reading.ofCompile, mapError_eq_ok_iff]
  constructor
  · rintro ⟨compiled, hcompile, hrest⟩
    split at hrest
    · cases hrest
    rename_i hpattern
    split at hrest
    · cases hrest
    rename_i horder
    split at hrest
    · cases hrest
    rename_i htemplate
    cases hrest
    exact ⟨hcompile, not_not.1 hpattern, not_not.1 horder, not_not.1 htemplate⟩
  · rintro ⟨hcompile, rfl, rfl, rfl⟩
    refine ⟨rule, hcompile, ?_⟩
    rw [if_neg (not_not.2 rfl), if_neg (not_not.2 rfl), if_neg (not_not.2 rfl)]
    rfl

/-- However a stored rule was edited, what is accepted of it compiles from its own texts. -/
theorem Rule.isCompiled_of_ofJson {value : Value} {rule : Rule} (h : Rule.ofJson value = .ok rule) :
    rule.IsCompiled := by
  simp only [Rule.ofJson, bind_eq_ok_iff] at h
  obtain ⟨d, -, source, -, destination, -, pattern, -, order, -, template, -, hstored⟩ := h
  exact Rule.isCompiled_of_compile (Rule.ofStored_eq_ok_iff.1 hstored).1

theorem Glob.ofStored_eq_ok_iff {text pattern : String} {glob : Glob} :
    Glob.ofStored text pattern = .ok glob ↔
      Glob.compile text = .ok glob ∧ glob.pattern = pattern := by
  rw [Glob.ofStored, bind_eq_ok_iff]
  simp only [Reading.ofCompile, mapError_eq_ok_iff]
  constructor
  · rintro ⟨compiled, hcompile, hrest⟩
    split at hrest
    · cases hrest
    rename_i hpattern
    cases hrest
    exact ⟨hcompile, not_not.1 hpattern⟩
  · rintro ⟨hcompile, rfl⟩
    refine ⟨glob, hcompile, ?_⟩
    rw [if_neg (not_not.2 rfl)]
    rfl

theorem Glob.exists_compile_of_ofJson {value : Value} {glob : Glob}
    (h : Glob.ofJson value = .ok glob) : ∃ text, Glob.compile text = .ok glob := by
  simp only [Glob.ofJson, bind_eq_ok_iff] at h
  obtain ⟨d, -, text, -, pattern, -, hstored⟩ := h
  exact ⟨text, (Glob.ofStored_eq_ok_iff.1 hstored).1⟩

theorem HeaderName.toLower_of_not_isUpper {c : Char} (h : c.isUpper = false) : c.toLower = c := by
  refine dif_neg fun hrange => ?_
  have hupper : c.isUpper = true := decide_eq_true hrange
  rw [hupper] at h
  cases h

theorem HeaderName.ofText?_text (name : HeaderName) : HeaderName.ofText? name.text = some name := by
  have hlegal := name.legal
  have hlower : String.ofList (name.text.toList.map Char.toLower) = name.text := by
    simp only [isHeaderName, Bool.and_eq_true, List.all_eq_true, Bool.not_eq_true'] at hlegal
    have hmap : name.text.toList.map Char.toLower = name.text.toList.map id :=
      List.map_congr_left fun c hc => toLower_of_not_isUpper (hlegal.2 c hc).2
    rw [hmap, List.map_id, String.ofList_toList]
  simp [HeaderName.ofText?, hlower, hlegal]

def HeaderRule.IsCompiled (rule : HeaderRule) : Prop :=
  HeaderRule.compile rule.glob.text rule.name.text rule.text = .ok rule

theorem HeaderRule.ofParts_self (rule : HeaderRule) :
    HeaderRule.ofParts rule.glob rule.name.text rule.text = .ok rule := by
  rw [HeaderRule.ofParts, HeaderName.ofText?_text]
  exact dif_pos rule.legal

theorem HeaderRule.glob_of_ofParts {glob : Glob} {name text : String} {rule : HeaderRule}
    (h : HeaderRule.ofParts glob name text = .ok rule) : rule.glob = glob := by
  rw [HeaderRule.ofParts] at h
  split at h
  · cases h
  · split at h
    · cases h
      rfl
    · cases h

theorem HeaderRule.IsCompiled.glob {rule : HeaderRule} (h : rule.IsCompiled) :
    Glob.compile rule.glob.text = .ok rule.glob := by
  rw [HeaderRule.IsCompiled, HeaderRule.compile, bind_eq_ok_iff] at h
  obtain ⟨glob, hglob, hparts⟩ := h
  rw [HeaderRule.glob_of_ofParts hparts] at hglob ⊢
  exact hglob

/-- A rule is compiled as soon as its glob is: its name and its value have been checked by their
types. -/
theorem HeaderRule.isCompiled_of_glob {rule : HeaderRule} {text : String}
    (h : Glob.compile text = .ok rule.glob) : rule.IsCompiled := by
  rw [HeaderRule.IsCompiled, HeaderRule.compile, bind_eq_ok_iff]
  refine ⟨rule.glob, ?_, rule.ofParts_self⟩
  rw [Glob.text_of_compile h]
  exact h

theorem HeaderRule.isCompiled_of_compile {path name text : String} {rule : HeaderRule}
    (h : HeaderRule.compile path name text = .ok rule) : rule.IsCompiled := by
  rw [HeaderRule.compile, bind_eq_ok_iff] at h
  obtain ⟨glob, hglob, hparts⟩ := h
  rw [← HeaderRule.glob_of_ofParts hparts] at hglob
  exact HeaderRule.isCompiled_of_glob hglob

def HeaderRule.Draft.IsCompiled (d : HeaderRule.Draft) : Prop :=
  ∀ glob ∈ d.glob, ∃ text, Glob.compile text = .ok glob

theorem HeaderRule.Draft.IsCompiled.step {d d' : HeaderRule.Draft} (h : d.IsCompiled)
    {name : String} {value : Value} (hstep : d.step name value = .ok d') : d'.IsCompiled := by
  rw [Draft.step] at hstep
  repeat' split at hstep
  all_goals
    obtain ⟨filled, hfilled, heq⟩ := bind_eq_ok_iff.1 hstep
    cases heq
  · exact fun glob hglob => Glob.exists_compile_of_ofJson (read_of_once hfilled hglob)
  · exact h
  · exact h

theorem HeaderRule.isCompiled_of_ofJson {value : Value} {rule : HeaderRule}
    (h : HeaderRule.ofJson value = .ok rule) : rule.IsCompiled := by
  simp only [HeaderRule.ofJson, Reading.ofCompile, bind_eq_ok_iff, required_eq_ok_iff,
    mapError_eq_ok_iff] at h
  obtain ⟨d, hd, glob, hglob, name, -, text, -, hparts⟩ := h
  have hempty : Draft.IsCompiled {} := fun glob hglob => nomatch hglob
  have hdraft :=
    Value.foldRecord_invariant
      (fun d name value d' hd hstep => Draft.IsCompiled.step hd hstep) hempty hd
  obtain ⟨path, hpath⟩ := hdraft glob hglob
  rw [← HeaderRule.glob_of_ofParts hparts] at hpath
  exact HeaderRule.isCompiled_of_glob hpath

structure RequestHook.IsCompiled (hook : RequestHook) : Prop where
  redirects : ∀ rule ∈ hook.redirects, rule.IsCompiled
  rewrites : ∀ rule ∈ hook.rewrites, rule.IsCompiled

def ResponseHook.IsCompiled (hook : ResponseHook) : Prop :=
  ∀ rule ∈ hook.rules, rule.IsCompiled

theorem Rule.isCompiled_of_asList {value : Value} {rules : List Rule}
    (h : value.asList Rule.ofJson = .ok rules) : ∀ rule ∈ rules, rule.IsCompiled := by
  intro rule hrule
  obtain ⟨item, hitem⟩ := Value.asList_eq_ok h hrule
  exact Rule.isCompiled_of_ofJson hitem

structure RequestHook.Draft.IsCompiled (d : RequestHook.Draft) : Prop where
  redirects : ∀ rules ∈ d.redirects, ∀ rule ∈ rules, rule.IsCompiled
  rewrites : ∀ rules ∈ d.rewrites, ∀ rule ∈ rules, rule.IsCompiled

theorem RequestHook.Draft.IsCompiled.step {d d' : RequestHook.Draft} (h : d.IsCompiled)
    {name : String} {value : Value} (hstep : d.step name value = .ok d') : d'.IsCompiled := by
  rw [Draft.step] at hstep
  repeat' split at hstep
  all_goals
    obtain ⟨filled, hfilled, heq⟩ := bind_eq_ok_iff.1 hstep
    cases heq
  · exact ⟨fun rules hrules => Rule.isCompiled_of_asList (read_of_once hfilled hrules), h.rewrites⟩
  · exact ⟨h.redirects, fun rules hrules => Rule.isCompiled_of_asList (read_of_once hfilled hrules)⟩
  · exact ⟨h.redirects, h.rewrites⟩

theorem RequestHook.isCompiled_of_ofJson {value : Value} {hook : RequestHook}
    (h : RequestHook.ofJson value = .ok hook) : hook.IsCompiled := by
  simp only [RequestHook.ofJson, bind_eq_ok_iff, required_eq_ok_iff] at h
  obtain ⟨d, hd, redirects, hredirects, rewrites, hrewrites, spaFallback, -, heq⟩ := h
  cases heq
  have hempty : Draft.IsCompiled {} := ⟨fun _ h => (nomatch h), fun _ h => (nomatch h)⟩
  have hdraft :=
    Value.foldRecord_invariant
      (fun d name value d' hd hstep => Draft.IsCompiled.step hd hstep) hempty hd
  exact ⟨hdraft.redirects redirects hredirects, hdraft.rewrites rewrites hrewrites⟩

theorem ResponseHook.isCompiled_of_ofJson {value : Value} {hook : ResponseHook}
    (h : ResponseHook.ofJson value = .ok hook) : hook.IsCompiled := by
  rw [ResponseHook.ofJson, bind_eq_ok_iff] at h
  obtain ⟨rules, hrules, heq⟩ := h
  cases heq
  intro rule hrule
  obtain ⟨item, hitem⟩ := Value.asList_eq_ok hrules hrule
  exact HeaderRule.isCompiled_of_ofJson hitem

structure Bundle.IsCompiled (bundle : Bundle) : Prop where
  version : bundle.version = Bundle.currentVersion
  request : bundle.request.IsCompiled
  response : bundle.response.IsCompiled

structure Bundle.Draft.IsCompiled (d : Bundle.Draft) : Prop where
  request : ∀ hook ∈ d.request, hook.IsCompiled
  response : ∀ hook ∈ d.response, hook.IsCompiled

theorem Bundle.Draft.IsCompiled.step {d d' : Bundle.Draft} (h : d.IsCompiled) {name : String}
    {value : Value} (hstep : d.step name value = .ok d') : d'.IsCompiled := by
  rw [Draft.step] at hstep
  repeat' split at hstep
  all_goals
    obtain ⟨filled, hfilled, heq⟩ := bind_eq_ok_iff.1 hstep
    cases heq
  · exact ⟨h.request, h.response⟩
  · exact ⟨fun hook hhook => RequestHook.isCompiled_of_ofJson (read_of_once hfilled hhook),
      h.response⟩
  · exact ⟨h.request,
      fun hook hhook => ResponseHook.isCompiled_of_ofJson (read_of_once hfilled hhook)⟩
  · exact ⟨h.request, h.response⟩

theorem Bundle.hooks_isCompiled_of_ofJson {value : Value} {bundle : Bundle}
    (h : Bundle.ofJson value = .ok bundle) :
    bundle.request.IsCompiled ∧ bundle.response.IsCompiled := by
  simp only [Bundle.ofJson, bind_eq_ok_iff, required_eq_ok_iff] at h
  obtain ⟨d, hd, version, -, request, hrequest, response, hresponse, cachePolicy, -, heq⟩ := h
  cases heq
  have hempty : Draft.IsCompiled {} := ⟨fun _ h => (nomatch h), fun _ h => (nomatch h)⟩
  have hdraft :=
    Value.foldRecord_invariant
      (fun d name value d' hd hstep => Draft.IsCompiled.step hd hstep) hempty hd
  exact ⟨hdraft.request request hrequest, hdraft.response response hresponse⟩

theorem Reading.read_of_ofText {α : Type} {read : Value → Reading α} {text : String} {a : α}
    (h : Reading.ofText read text = .ok a) : read (Json.Document.read text).value = .ok a := by
  rw [Reading.ofText, bind_eq_ok_iff] at h
  obtain ⟨b, hb, hwhole⟩ := h
  split at hwhole
  · cases hwhole
    exact hb
  · cases hwhole

/-- Every check that was made when the rules were compiled is made again when they are loaded. -/
theorem Bundle.isCompiled_of_load {text : String} {bundle : Bundle}
    (h : Bundle.load text = .ok bundle) : bundle.IsCompiled := by
  rw [Bundle.load, bind_eq_ok_iff] at h
  obtain ⟨loaded, hloaded, hversion⟩ := h
  split at hversion
  · cases hversion
  rename_i hcurrent
  cases hversion
  rw [mapError_eq_ok_iff] at hloaded
  obtain ⟨hrequest, hresponse⟩ := Bundle.hooks_isCompiled_of_ofJson (Reading.read_of_ofText hloaded)
  exact ⟨not_not.1 hcurrent, hrequest, hresponse⟩

theorem HeaderRule.compile_matchAll : Glob.compile "**" = .ok HeaderRule.matchAll := by
  decide +kernel

theorem HeaderRule.glob_of_mem_builtIn {defaults : Defaults} {rule : HeaderRule}
    (h : rule ∈ HeaderRule.builtIn defaults) : rule.glob = HeaderRule.matchAll := by
  have hsecurity : ∀ rule ∈ security, rule.glob = matchAll := by
    simp [security, everywhere]
  have hcrossOrigin : ∀ rule ∈ crossOrigin, rule.glob = matchAll := by
    simp [crossOrigin, everywhere]
  rcases List.mem_append.1 h with h | h
  · split at h
    · exact hsecurity rule h
    · cases h
  · split at h
    · exact hcrossOrigin rule h
    · cases h

theorem RequestHook.isCompiled_of_compile {config : Config} {hook : RequestHook}
    (h : RequestHook.compile config = .ok hook) : hook.IsCompiled := by
  simp only [RequestHook.compile, bind_eq_ok_iff] at h
  obtain ⟨redirects, hredirects, rewrites, hrewrites, heq⟩ := h
  cases heq
  constructor
  · intro rule hrule
    obtain ⟨entry, hentry⟩ := exists_of_mem_mapM hredirects hrule
    exact Rule.isCompiled_of_compile hentry
  · intro rule hrule
    obtain ⟨entry, hentry⟩ := exists_of_mem_mapM hrewrites hrule
    exact Rule.isCompiled_of_compile hentry

theorem ResponseHook.isCompiled_of_compile {config : Config} {hook : ResponseHook}
    (h : ResponseHook.compile config = .ok hook) : hook.IsCompiled := by
  simp only [ResponseHook.compile, HeaderRule.compileAll, bind_eq_ok_iff] at h
  obtain ⟨rules, ⟨configured, hconfigured, hrules⟩, heq⟩ := h
  cases hrules
  cases heq
  intro rule hrule
  rcases List.mem_append.1 hrule with hrule | hrule
  · have hglob := HeaderRule.glob_of_mem_builtIn hrule
    exact HeaderRule.isCompiled_of_glob (hglob ▸ HeaderRule.compile_matchAll)
  · obtain ⟨entry, hentry⟩ := exists_of_mem_mapM hconfigured hrule
    exact HeaderRule.isCompiled_of_compile hentry

theorem Bundle.isCompiled_of_build {config : Config} {build : Build}
    (h : config.build = .ok build) : build.bundle.IsCompiled := by
  simp only [Config.build, bind_eq_ok_iff] at h
  obtain ⟨request, hrequest, response, hresponse, heq⟩ := h
  cases heq
  exact ⟨rfl, RequestHook.isCompiled_of_compile hrequest,
    ResponseHook.isCompiled_of_compile hresponse⟩

/-- The configuration that says no more than the rules of a bundle do. The built-in rules count as
configured. -/
def Bundle.config (bundle : Bundle) : Config where
  redirects := bundle.request.redirects.map fun rule => ⟨rule.source, rule.destination⟩
  rewrites := bundle.request.rewrites.map fun rule => ⟨rule.source, rule.destination⟩
  headers := bundle.response.rules.map fun rule => ⟨rule.glob.text, rule.name.text, rule.text⟩
  defaults := { securityHeaders := false, cors := false, spaFallback := bundle.request.spaFallback }

theorem RequestHook.IsCompiled.compile_config {bundle : Bundle} (h : bundle.request.IsCompiled) :
    RequestHook.compile bundle.config = .ok bundle.request := by
  have hredirects : bundle.config.redirects.mapM RuleEntry.compile = .ok bundle.request.redirects :=
    mapM_map_eq_ok h.redirects
  have hrewrites : bundle.config.rewrites.mapM RuleEntry.compile = .ok bundle.request.rewrites :=
    mapM_map_eq_ok h.rewrites
  rw [RequestHook.compile, hredirects, hrewrites]
  rfl

theorem ResponseHook.IsCompiled.compile_config {bundle : Bundle} (h : bundle.response.IsCompiled) :
    ResponseHook.compile bundle.config = .ok bundle.response := by
  have hrules : bundle.config.headers.mapM HeaderRule.ofEntry = .ok bundle.response.rules :=
    mapM_map_eq_ok h
  rw [ResponseHook.compile, HeaderRule.compileAll, hrules]
  rfl

theorem Bundle.IsCompiled.build_config {bundle : Bundle} (h : bundle.IsCompiled) :
    bundle.config.build = .ok {
      bundle := { bundle with cachePolicy := bundle.config.cachePolicy.descriptor }
      diagnostics := bundle.config.cachePolicy.diagnostics } := by
  rw [Config.build, h.request.compile_config, h.response.compile_config, ← h.version]
  rfl

/-- No text, however it was edited, loads as hooks that could not have been built. -/
theorem Bundle.loads_only_what_builds {text : String} {bundle : Bundle}
    (h : Bundle.load text = .ok bundle) :
    bundle.version = Bundle.currentVersion ∧ ∃ config build, Config.build config = .ok build ∧
      build.bundle.request = bundle.request ∧ build.bundle.response = bundle.response := by
  have hcompiled := Bundle.isCompiled_of_load h
  exact ⟨hcompiled.version, bundle.config, _, hcompiled.build_config, rfl, rfl⟩

/-- A text that no bundle is written as: its records are arrays. -/
theorem Bundle.loads_array_text : ∃ bundle,
    Bundle.load ("[1,[[],[[\"/a/*\",\"/b/*\",\"^/a/(.*)$\",[\x7b\"wildcard\":0\x7d]," ++
      "[\x7b\"literal\":\"/b/\"\x7d,\x7b\"capture\":0\x7d]]],false],[]," ++
      "[[\"none\",null],[\"none\",null],[\"none\",null]]]") = .ok bundle ∧
    bundle.request.rewrites.map (·.source) = ["/a/*"] ∧
    ∃ config build, Config.build config = .ok build ∧
      build.bundle.request = bundle.request ∧ build.bundle.response = bundle.response := by
  have hload : Bundle.load ("[1,[[],[[\"/a/*\",\"/b/*\",\"^/a/(.*)$\",[\x7b\"wildcard\":0\x7d]," ++
      "[\x7b\"literal\":\"/b/\"\x7d,\x7b\"capture\":0\x7d]]],false],[]," ++
      "[[\"none\",null],[\"none\",null],[\"none\",null]]]") = .ok {
          version := 1
          request := {
            rewrites := [{
              source := "/a/*"
              destination := "/b/*"
              expression := [.literal "/a/".toList, .wildcard]
              captureOrder := [.wildcard 0]
              template := [.literal "/b/", .capture 0] }]
            spaFallback := false }
          response := {}
          cachePolicy := { headers := .none, cookies := .none, queryStrings := .none } } := by
    decide +kernel
  exact ⟨_, hload, rfl, (Bundle.loads_only_what_builds hload).2⟩

end EdgeRouting
