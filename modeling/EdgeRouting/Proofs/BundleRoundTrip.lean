import EdgeRouting.Bundle.Encode
import EdgeRouting.Proofs.CompiledBundle
import EdgeRouting.Proofs.JsonText
import EdgeRouting.Proofs.Utf8RoundTrip

/-!
# Bundles are loaded as they were written

A bundle of compiled values survives being written and loaded. Its numbers fit into machine words,
since every capture takes room in an expression whose size is limited.
-/

namespace EdgeRouting

open Accepted
open Json (Value Fault)

theorem Rule.index_lt_of_mem_captureOrderFrom {k index : Nat} {tokens : List Pattern.Token}
    (h : .wildcard index ∈ Rule.captureOrderFrom k tokens) :
    index < k + (Rule.captureOrderFrom k tokens).length := by
  induction tokens generalizing k with
  | nil => cases h
  | cons token tokens ih =>
    cases token with
    | literal text => exact ih h
    | parameter name =>
      have hlt := ih (List.mem_of_ne_of_mem (by simp) h)
      rw [Rule.captureOrderFrom, List.length_cons]
      omega
    | wildcard =>
      rw [Rule.captureOrderFrom, List.length_cons]
      rcases List.mem_cons.1 h with heq | h
      · cases heq
        omega
      · have hlt := ih h
        omega

theorem Rule.length_captureOrderFrom_le (k : Nat) (tokens : List Pattern.Token) :
    (Rule.captureOrderFrom k tokens).length ≤
      Expression.weight (tokens.map Pattern.Token.part) := by
  induction tokens generalizing k with
  | nil => exact Nat.zero_le _
  | cons token tokens ih =>
    have hweight : Expression.weight ((token :: tokens).map Pattern.Token.part) =
        token.part.weight + Expression.weight (tokens.map Pattern.Token.part) := rfl
    rw [hweight]
    cases token with
    | literal text => exact Nat.le_add_left_of_le (ih k)
    | parameter name =>
      have hpart : (Pattern.Token.parameter name).part.weight = 1040 := rfl
      have hle := ih k
      rw [Rule.captureOrderFrom, List.length_cons, hpart]
      omega
    | wildcard =>
      have hpart : Pattern.Token.wildcard.part.weight = 1040 := rfl
      have hle := ih (k + 1)
      rw [Rule.captureOrderFrom, List.length_cons, hpart]
      omega

/-- Every capture takes room in the expression, so there are fewer of them than words can count. -/
theorem Rule.IsCompiled.length_captureOrder_lt {rule : Rule} (h : rule.IsCompiled) :
    rule.captureOrder.length < Reading.wordLimit := by
  have hpassed := Rule.compile_eq_ok_iff.1 h
  have hle := Rule.length_captureOrderFrom_le 0 (Pattern.scan rule.source.toList)
  have hsize := hpassed.sizeAllowed
  rw [← hpassed.captureOrder_eq, ← hpassed.expression_eq] at hle
  have hlimit : Expression.sizeLimit < Reading.wordLimit := by decide
  omega

theorem CaptureSlot.ofJson_toJson {slot : CaptureSlot}
    (h : ∀ index, slot = .wildcard index → index < Reading.wordLimit) :
    CaptureSlot.ofJson slot.toJson = .ok slot := by
  cases slot with
  | parameter name => rfl
  | wildcard index =>
    change (do
      let slot ← (Value.natural index).asNatural Reading.wordLimit
      return CaptureSlot.wildcard slot) = _
    rw [Value.asNatural_natural (h index rfl)]
    rfl

theorem TemplatePart.ofJson_toJson {part : TemplatePart}
    (h : ∀ slot, part = .capture slot → slot < Reading.wordLimit) :
    TemplatePart.ofJson part.toJson = .ok part := by
  cases part with
  | literal text => rfl
  | capture slot =>
    change (do return TemplatePart.capture (← (Value.natural slot).asNatural Reading.wordLimit)) = _
    rw [Value.asNatural_natural (h slot rfl)]
    rfl

theorem Rule.ofJson_toJson {rule : Rule} (h : rule.IsCompiled) :
    Rule.ofJson rule.toJson = .ok rule := by
  have hpassed := Rule.compile_eq_ok_iff.1 h
  have hwords := h.length_captureOrder_lt
  have horder : (Value.array (rule.captureOrder.map CaptureSlot.toJson)).asList CaptureSlot.ofJson =
      .ok rule.captureOrder := by
    refine Value.asList_array fun slot hslot => CaptureSlot.ofJson_toJson fun index hindex => ?_
    rw [hpassed.captureOrder_eq] at hslot hwords
    have hlt := Rule.index_lt_of_mem_captureOrderFrom (hindex ▸ hslot)
    omega
  have htemplate :
      (Value.array (rule.template.map TemplatePart.toJson)).asList TemplatePart.ofJson =
      .ok rule.template := by
    refine Value.asList_array fun part hpart => TemplatePart.ofJson_toJson fun slot hslot => ?_
    have hlt := hpassed.slot_lt (hslot ▸ hpart)
    omega
  have hdraft : rule.toJson.foldRecord fieldNames Draft.step {} =
      .ok ⟨rule.source, rule.destination, rule.pattern, rule.captureOrder, rule.template⟩ := by
    rw [Rule.toJson, Value.foldRecord_record (by simp [fieldNames])]
    simp [Draft.step, horder, htemplate]
  rw [Rule.ofJson, hdraft]
  exact Rule.ofStored_eq_ok_iff.2 ⟨h, rfl, rfl, rfl⟩

theorem Glob.ofJson_toJson {glob : Glob} (h : Glob.compile glob.text = .ok glob) :
    Glob.ofJson glob.toJson = .ok glob := by
  have hdraft : glob.toJson.foldRecord ["glob", "pattern"] Draft.step {} =
      .ok ⟨glob.text, glob.pattern⟩ := by
    rw [Glob.toJson, Value.foldRecord_record (by simp)]
    simp [Draft.step]
  rw [Glob.ofJson, hdraft]
  exact Glob.ofStored_eq_ok_iff.2 ⟨h, rfl⟩

theorem HeaderRule.ofJson_toJson {rule : HeaderRule} (h : rule.IsCompiled) :
    HeaderRule.ofJson rule.toJson = .ok rule := by
  have hglob := Glob.ofJson_toJson h.glob
  have hdraft : rule.toJson.foldRecord ["glob", "name", "value"] Draft.step {} =
      .ok ⟨rule.glob, rule.name.text, rule.text⟩ := by
    rw [HeaderRule.toJson, Value.foldRecord_record (by simp)]
    simp [Draft.step, hglob]
  rw [HeaderRule.ofJson, hdraft]
  exact mapError_eq_ok_iff.2 rule.ofParts_self

theorem RequestHook.ofJson_toJson {hook : RequestHook} (h : hook.IsCompiled) :
    RequestHook.ofJson hook.toJson = .ok hook := by
  have hredirects : (Value.array (hook.redirects.map Rule.toJson)).asList Rule.ofJson =
      .ok hook.redirects :=
    Value.asList_array fun rule hrule => Rule.ofJson_toJson (h.redirects rule hrule)
  have hrewrites : (Value.array (hook.rewrites.map Rule.toJson)).asList Rule.ofJson =
      .ok hook.rewrites :=
    Value.asList_array fun rule hrule => Rule.ofJson_toJson (h.rewrites rule hrule)
  have hdraft : hook.toJson.foldRecord ["redirects", "rewrites", "spa_fallback"] Draft.step {} =
      .ok ⟨hook.redirects, hook.rewrites, hook.spaFallback⟩ := by
    rw [RequestHook.toJson, Value.foldRecord_record (by simp)]
    simp [Draft.step, hredirects, hrewrites]
  rw [RequestHook.ofJson, hdraft]
  rfl

theorem ResponseHook.ofJson_toJson {hook : ResponseHook} (h : hook.IsCompiled) :
    ResponseHook.ofJson hook.toJson = .ok hook := by
  have hrules : (Value.array (hook.rules.map HeaderRule.toJson)).asList HeaderRule.ofJson =
      .ok hook.rules :=
    Value.asList_array fun rule hrule => HeaderRule.ofJson_toJson (h rule hrule)
  rw [ResponseHook.ofJson, ResponseHook.toJson, hrules]
  rfl

theorem isIntact_texts (names : List String) :
    (Value.array (names.map Value.text)).isIntact = true := by
  rw [Value.isIntact]
  induction names with
  | nil => rfl
  | cons name names ih => rw [List.map_cons, Value.areIntact, ih]; rfl

theorem SelectorDraft.read_selectorJson (behavior : String) (names : List String) :
    SelectorDraft.read (selectorJson behavior names) =
      .ok ⟨behavior, Value.array (names.map Value.text)⟩ := by
  have hdraft : (selectorJson behavior names).foldRecord ["behavior", "items"] step {} =
      .ok ⟨behavior, Value.array (names.map Value.text)⟩ := by
    rw [selectorJson, Value.foldRecord_record (by simp)]
    simp [step, isIntact_texts]
  rw [SelectorDraft.read, hdraft]
  rfl

theorem SelectorDraft.names_eq (behavior : Option String) (names : List String) :
    SelectorDraft.names ⟨behavior, Value.array (names.map Value.text)⟩ = .ok names :=
  Value.asList_array fun _ _ => rfl

theorem Selector.ofJson_toJson (selector : Selector) :
    Selector.ofJson selector.toJson = .ok selector := by
  cases selector with
  | none => rfl
  | allowList names =>
    rw [Selector.ofJson, Selector.toJson, SelectorDraft.read_selectorJson]
    simp [Json.required, SelectorDraft.names_eq]

theorem QuerySelector.ofJson_toJson (selector : QuerySelector) :
    QuerySelector.ofJson selector.toJson = .ok selector := by
  cases selector with
  | none => rfl
  | allowList names =>
    rw [QuerySelector.ofJson, QuerySelector.toJson, SelectorDraft.read_selectorJson]
    simp [Json.required, SelectorDraft.names_eq]
  | allExcept names =>
    rw [QuerySelector.ofJson, QuerySelector.toJson, SelectorDraft.read_selectorJson]
    simp [Json.required, SelectorDraft.names_eq]

theorem CacheDescriptor.ofJson_toJson (d : CacheDescriptor) :
    CacheDescriptor.ofJson d.toJson = .ok d := by
  have hdraft : d.toJson.foldRecord ["headers", "cookies", "query_strings"] Draft.step {} =
      .ok ⟨d.headers, d.cookies, d.queryStrings⟩ := by
    rw [CacheDescriptor.toJson, Value.foldRecord_record (by simp)]
    simp [Draft.step, Selector.ofJson_toJson, QuerySelector.ofJson_toJson]
  rw [CacheDescriptor.ofJson, hdraft]
  rfl

theorem Bundle.ofJson_toJson {bundle : Bundle} (h : bundle.IsCompiled) :
    Bundle.ofJson bundle.toJson = .ok bundle := by
  have hversion : (Value.natural bundle.version).asNatural Reading.versionLimit =
      (.ok bundle.version : Reading Nat) :=
    Value.asNatural_natural (by rw [h.version]; decide)
  have hdraft :
      bundle.toJson.foldRecord ["version", "request", "response", "cache_policy"] Draft.step {} =
      .ok ⟨bundle.version, bundle.request, bundle.response, bundle.cachePolicy⟩ := by
    rw [Bundle.toJson, Value.foldRecord_record (by simp)]
    simp [Draft.step, hversion, RequestHook.ofJson_toJson h.request,
      ResponseHook.ofJson_toJson h.response, CacheDescriptor.ofJson_toJson]
  rw [Bundle.ofJson, hdraft]
  rfl

theorem Rule.written_toJson (rule : Rule) : rule.toJson.Written := by
  have horder : (Value.array (rule.captureOrder.map CaptureSlot.toJson)).Written :=
    Value.written_list fun slot _ => by cases slot <;> exact Value.written_record (by simp)
  have htemplate : (Value.array (rule.template.map TemplatePart.toJson)).Written :=
    Value.written_list fun part _ => by cases part <;> exact Value.written_record (by simp)
  exact Value.written_record (by simp [horder, htemplate])

theorem HeaderRule.written_toJson (rule : HeaderRule) : rule.toJson.Written := by
  have hglob : rule.glob.toJson.Written := Value.written_record (by simp)
  exact Value.written_record (by simp [hglob])

theorem RequestHook.written_toJson (hook : RequestHook) : hook.toJson.Written := by
  have hredirects := Value.written_list fun rule (_ : rule ∈ hook.redirects) => rule.written_toJson
  have hrewrites := Value.written_list fun rule (_ : rule ∈ hook.rewrites) => rule.written_toJson
  exact Value.written_record (by simp [hredirects, hrewrites])

theorem ResponseHook.written_toJson (hook : ResponseHook) : hook.toJson.Written :=
  Value.written_list fun rule _ => rule.written_toJson

theorem written_selectorJson (behavior : String) (names : List String) :
    (selectorJson behavior names).Written := by
  have hnames := Value.written_list fun name (_ : name ∈ names) => Value.written_text name
  exact Value.written_record (by simp [hnames])

theorem CacheDescriptor.written_toJson (d : CacheDescriptor) : d.toJson.Written := by
  have hselector (selector : Selector) : selector.toJson.Written := by
    cases selector with
    | none => exact Value.written_record (by simp)
    | allowList names => exact written_selectorJson _ names
  have hquery (selector : QuerySelector) : selector.toJson.Written := by
    cases selector with
    | none => exact Value.written_record (by simp)
    | allowList names => exact written_selectorJson _ names
    | allExcept names => exact written_selectorJson _ names
  exact Value.written_record (by simp [hselector, hquery])

theorem Bundle.written_toJson (bundle : Bundle) : bundle.toJson.Written :=
  Value.written_record (by
    simp [RequestHook.written_toJson, ResponseHook.written_toJson, CacheDescriptor.written_toJson])

theorem Bundle.IsCompiled.load_write {bundle : Bundle} (h : bundle.IsCompiled) :
    Bundle.load bundle.write = .ok bundle := by
  have htext : Reading.ofText Bundle.ofJson bundle.write = .ok bundle := by
    rw [Reading.ofText, Bundle.write, Json.Document.read_pretty bundle.written_toJson]
    dsimp only
    rw [Bundle.ofJson_toJson h]
    rfl
  rw [Bundle.load, bind_eq_ok_iff]
  refine ⟨bundle, mapError_eq_ok_iff.2 htext, ?_⟩
  rw [if_neg (not_not.2 h.version)]
  rfl

/-- Whether it was built or loaded, a bundle is loaded from its text as it is. So it resolves paths
and sets headers as before, and it is written the same again. The text of a header is what its bytes
are read as. -/
theorem Bundle.load_write_same {bundle : Bundle}
    (h : (∃ config build, Config.build config = .ok build ∧ build.bundle = bundle) ∨
      ∃ text, Bundle.load text = .ok bundle) :
    (∀ rule ∈ bundle.response.rules, Utf8.decodeLossy rule.value.bytes = rule.text) ∧
    ∃ loaded, Bundle.load bundle.write = .ok loaded ∧ loaded = bundle ∧
      (∀ path, loaded.request.resolve path = bundle.request.resolve path) ∧
      (∀ path headers, HeaderRule.inject loaded.response.rules path headers =
        HeaderRule.inject bundle.response.rules path headers) ∧
      loaded.write = bundle.write := by
  have hcompiled : bundle.IsCompiled := by
    rcases h with ⟨config, build, hbuild, rfl⟩ | ⟨text, hload⟩
    · exact Bundle.isCompiled_of_build hbuild
    · exact Bundle.isCompiled_of_load hload
  refine ⟨fun rule _ => Utf8.decodeLossy_encode rule.text, bundle, hcompiled.load_write, rfl,
    ?_, ?_, rfl⟩
  · exact fun path => rfl
  · exact fun path headers => rfl

/-- A rule and a header with a quote, a tab and a character beyond ASCII. -/
theorem Bundle.load_write_accents : ∃ build loaded,
    Config.build {
      rewrites := [⟨"/:lang/*", "/*/\"\u00e9/:lang"⟩]
      headers := [⟨"/*", "X-Edge", "\u00e9\t1"⟩]
      cachePolicy := { denyQueryParams := ["utm_source"] }
      defaults := { securityHeaders := false, cors := false } } = .ok build ∧
    Bundle.load build.bundle.write = .ok loaded ∧ loaded = build.bundle := by
  have hbuild : Config.build {
      rewrites := [⟨"/:lang/*", "/*/\"\u00e9/:lang"⟩]
      headers := [⟨"/*", "X-Edge", "\u00e9\t1"⟩]
      cachePolicy := { denyQueryParams := ["utm_source"] }
      defaults := { securityHeaders := false, cors := false } } = .ok {
    bundle := {
      version := 1
      request := {
        rewrites := [{
          source := "/:lang/*"
          destination := "/*/\"\u00e9/:lang"
          expression := [.literal ['/'], .parameter, .literal ['/'], .wildcard]
          captureOrder := [.parameter "lang", .wildcard 0]
          template := [.literal "/", .capture 1, .literal "/\"\u00e9/", .capture 0] }] }
      response := {
        rules := [{
          glob := ⟨"/*", [.literal ['/'], .withinSegment]⟩
          name := ⟨"x-edge", by decide +kernel⟩
          text := "\u00e9\t1"
          legal := by decide +kernel }] }
      cachePolicy := { queryStrings := .allExcept ["utm_source"] } }
    diagnostics := [] } := by
    decide +kernel
  obtain ⟨-, loaded, hload, heq, -⟩ := Bundle.load_write_same (.inl ⟨_, _, hbuild, rfl⟩)
  exact ⟨_, loaded, hbuild, hload, heq⟩

end EdgeRouting
