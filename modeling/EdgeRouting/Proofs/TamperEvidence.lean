import EdgeRouting.Proofs.BundleRoundTrip
import EdgeRouting.Proofs.PatternText
import EdgeRouting.Proofs.RuleMeaning

/-!
# Rules that cannot be altered unnoticed

An expression and a template tell apart all that they were compiled from. Where every group of an
expression is replaced by the mark of its capture, the source stands there again, and a template
with the same marks put in is the destination. So no field of a stored rule can be replaced, nor its
two texts together, without the loader noticing.
-/

namespace EdgeRouting

open Accepted
open Json (Value required_eq_ok_iff)
open Pattern (Token)

def CaptureSlot.mark : CaptureSlot → List Char
  | .parameter name => ':' :: name.toList
  | .wildcard _ => ['*']

theorem Regex.sequence_injective : Function.Injective Regex.sequence := by
  intro items others h
  induction items generalizing others with
  | nil =>
    cases others with
    | nil => rfl
    | cons other others => cases h
  | cons item items ih =>
    cases others with
    | nil => cases h
    | cons other others =>
      have hparts : item = other ∧ sequence items = sequence others := by
        simpa only [sequence, List.foldr_cons, Regex.seq.injEq] using h
      rw [hparts.1, ih hparts.2]

theorem Expression.items_eq_of_text {e e' : Expression} (h : e.text = e'.text) :
    items 1 e = items 1 e' := by
  have hread : some e.regex = some e'.regex := by
    rw [← e.read?_text, h, e'.read?_text]
  have hitems := Regex.sequence_injective (Option.some.inj hread)
  rw [List.cons.injEq] at hitems
  exact List.append_cancel_right hitems.2

namespace Rule

/-- The items of an expression with the mark of the next capture for each group. -/
def unmatch : List Regex → List CaptureSlot → List Char
  | .char c :: items, order => c :: unmatch items order
  | .group _ _ :: items, slot :: order => slot.mark ++ unmatch items order
  | _, _ => []

theorem unmatch_chars (text : List Char) (items : List Regex) (order : List CaptureSlot) :
    unmatch (text.map .char ++ items) order = text ++ unmatch items order := by
  induction text with
  | nil => rfl
  | cons c text ih => rw [List.map_cons, List.cons_append, unmatch, ih, List.cons_append]

theorem unmatch_items (tokens : List Token) (index wildcards : Nat) :
    unmatch (Expression.items index (tokens.map Token.part)) (captureOrderFrom wildcards tokens) =
      tokens.flatMap Token.text := by
  induction tokens generalizing index wildcards with
  | nil => rfl
  | cons token tokens ih =>
    rw [List.map_cons, Expression.items, List.flatMap_cons]
    cases token with
    | literal text =>
      rw [Token.part, Part.items, captureOrderFrom, unmatch_chars, ih]
      rfl
    | parameter name =>
      rw [Token.part, Part.items, captureOrderFrom, List.singleton_append, unmatch, ih,
        CaptureSlot.mark, String.toList_ofList]
      rfl
    | wildcard =>
      rw [Token.part, Part.items, captureOrderFrom, List.singleton_append, unmatch, ih]
      rfl

theorem mark_of_mem_wildcardSlots (earlier : List CaptureSlot) {order : List CaptureSlot}
    {slot : Nat} (h : slot ∈ wildcardSlots earlier.length order) :
    ((earlier ++ order).map CaptureSlot.mark).getD slot [] = ['*'] := by
  induction order generalizing earlier with
  | nil => cases h
  | cons capture order ih =>
    have hlength : (earlier ++ [capture]).length = earlier.length + 1 := by simp
    rw [List.append_cons]
    cases capture with
    | parameter name =>
      apply ih
      rw [hlength]
      exact h
    | wildcard index =>
      rcases List.mem_cons.1 h with rfl | h
      · simp [CaptureSlot.mark]
      · apply ih
        rw [hlength]
        exact h

/-- A bound template, with the marks put in, is what it was bound from. -/
theorem substitute_marks {order : List CaptureSlot} {undefined : String → CompileError}
    {excess : CompileError} {free : List Nat}
    (hfree : ∀ slot ∈ free, (order.map CaptureSlot.mark).getD slot [] = ['*']) {tokens : List Token}
    {template : List TemplatePart}
    (h : bindTokens order undefined excess free tokens = .ok template) :
    substitute (order.map CaptureSlot.mark) template = tokens.flatMap Token.text := by
  induction tokens generalizing free template with
  | nil =>
    cases h
    rfl
  | cons token tokens ih =>
    rw [List.flatMap_cons]
    cases token with
    | literal text =>
      obtain ⟨rest, hrest, rfl⟩ := bindTokens_literal_iff.1 h
      rw [substitute_literal, ih hfree hrest]
      rfl
    | parameter name =>
      obtain ⟨slot, rest, hslot, hrest, rfl⟩ := bindTokens_parameter_iff.1 h
      have hmark : (order.map CaptureSlot.mark).getD slot [] = ':' :: name := by
        obtain ⟨hlt, hget, -⟩ := List.idxOf?_eq_some_iff.1 hslot
        rw [List.getD_eq_getElem?_getD, List.getElem?_map, List.getElem?_eq_getElem hlt, hget]
        simp [CaptureSlot.mark]
      rw [substitute_capture, ih hfree hrest, hmark]
      rfl
    | wildcard =>
      obtain ⟨slot, later, rest, rfl, hrest, rfl⟩ := bindTokens_wildcard_iff.1 h
      have hlater : ∀ slot ∈ later, (order.map CaptureSlot.mark).getD slot [] = ['*'] :=
        fun slot hslot => hfree slot (List.mem_cons_of_mem _ hslot)
      rw [substitute_capture, ih hlater hrest, hfree slot List.mem_cons_self]
      rfl

namespace Passed

variable {source destination : String} {rule : Rule}

theorem unmatch_eq (h : Passed source destination rule) :
    unmatch (Expression.items 1 rule.expression) rule.captureOrder = source.toList := by
  rw [h.expression_eq, h.captureOrder_eq, unmatch_items, Pattern.text_scan]

theorem substitute_eq (h : Passed source destination rule) :
    substitute (rule.captureOrder.map CaptureSlot.mark) rule.template = destination.toList := by
  have hfree : ∀ slot ∈ wildcardSlots 0 rule.captureOrder,
      (rule.captureOrder.map CaptureSlot.mark).getD slot [] = ['*'] :=
    fun slot hslot => mark_of_mem_wildcardSlots [] hslot
  rw [h.captureOrder_eq] at hfree ⊢
  rw [substitute_marks hfree (compileTemplate_eq_ok_iff.1 h.templateBound).2, Pattern.text_scan]

end Passed

variable {source destination pattern source' destination' pattern' : String}
  {order : List CaptureSlot} {template template' : List TemplatePart} {rule rule' : Rule}

theorem source_eq_of_ofStored (h : ofStored source destination pattern order template = .ok rule)
    (h' : ofStored source' destination' pattern order template' = .ok rule') :
    source = source' := by
  obtain ⟨hcompile, hpattern, horder, -⟩ := ofStored_eq_ok_iff.1 h
  obtain ⟨hcompile', hpattern', horder', -⟩ := ofStored_eq_ok_iff.1 h'
  have hitems := Expression.items_eq_of_text (hpattern.trans hpattern'.symm)
  rw [← String.toList_inj, ← (compile_eq_ok_iff.1 hcompile).unmatch_eq,
    ← (compile_eq_ok_iff.1 hcompile').unmatch_eq, hitems, horder, horder']

theorem destination_eq_of_ofStored
    (h : ofStored source destination pattern order template = .ok rule)
    (h' : ofStored source' destination' pattern' order template = .ok rule') :
    destination = destination' := by
  obtain ⟨hcompile, -, horder, htemplate⟩ := ofStored_eq_ok_iff.1 h
  obtain ⟨hcompile', -, horder', htemplate'⟩ := ofStored_eq_ok_iff.1 h'
  rw [← String.toList_inj, ← (compile_eq_ok_iff.1 hcompile).substitute_eq,
    ← (compile_eq_ok_iff.1 hcompile').substitute_eq, horder, horder', htemplate, htemplate']

theorem IsCompiled.ofStored (h : rule.IsCompiled) :
    ofStored rule.source rule.destination rule.pattern rule.captureOrder rule.template = .ok rule :=
  ofStored_eq_ok_iff.2 ⟨h, rfl, rfl, rfl⟩

theorem IsCompiled.eq_of_texts (h : rule.IsCompiled) (h' : rule'.IsCompiled)
    (hsource : rule'.source = rule.source) (hdestination : rule'.destination = rule.destination) :
    rule' = rule := by
  rw [IsCompiled, hsource, hdestination, h] at h'
  exact (Except.ok.inj h').symm

theorem IsCompiled.eq_of_compiled_form (h : rule.IsCompiled) (h' : rule'.IsCompiled)
    (hpattern : rule'.pattern = rule.pattern) (horder : rule'.captureOrder = rule.captureOrder)
    (htemplate : rule'.template = rule.template) : rule' = rule := by
  have hstored := h.ofStored
  have hstored' := h'.ofStored
  rw [hpattern, horder, htemplate] at hstored'
  exact h.eq_of_texts h' (source_eq_of_ofStored hstored' hstored)
    (destination_eq_of_ofStored hstored' hstored)

end Rule

def Json.Value.replace (value : Value) (name : String) (new : Value) : Value :=
  match value with
  | .object members =>
    .object (members.map fun (key, old) => (key, if key = some name then new else old))
  | value => value

theorem CaptureSlot.eq_toJson_of_ofJson {value : Value} {slot : CaptureSlot}
    (h : ofJson value = .ok slot) : value = slot.toJson := by
  unfold ofJson at h
  obtain ⟨name, rfl, rfl⟩ | ⟨index, rfl, rfl⟩ := Value.eq_record_of_tagged h <;> rfl

theorem TemplatePart.eq_toJson_of_ofJson {value : Value} {part : TemplatePart}
    (h : ofJson value = .ok part) : value = part.toJson := by
  unfold ofJson at h
  obtain ⟨text, rfl, rfl⟩ | ⟨slot, rfl, rfl⟩ := Value.eq_record_of_tagged h <;> rfl

theorem CaptureSlot.toJson_injective : Function.Injective CaptureSlot.toJson := by
  intro slot other h
  cases slot <;> cases other <;> simp_all [toJson, Value.record, Value.text]

theorem TemplatePart.toJson_injective : Function.Injective TemplatePart.toJson := by
  intro part other h
  cases part <;> cases other <;> simp_all [toJson, Value.record, Value.text]

namespace Rule

def storedRecord (source destination pattern order template : Value) : Value :=
  .record [("source", source), ("destination", destination), ("pattern", pattern),
    ("capture_order", order), ("template", template)]

/-- What is accepted of a record of the five fields is what the loaded rule is written as. -/
theorem fields_of_ofJson {source destination pattern order template : Value} {rule : Rule}
    (h : ofJson (storedRecord source destination pattern order template) = .ok rule) :
    source = .text rule.source ∧ destination = .text rule.destination ∧
    pattern = .text rule.pattern ∧
      order = .array (rule.captureOrder.map CaptureSlot.toJson) ∧
      template = .array (rule.template.map TemplatePart.toJson) := by
  have hread : ∃ s, source.asText = (.ok s : Reading String) ∧ ∃ d,
      destination.asText = (.ok d : Reading String) ∧
      ∃ p, pattern.asText = (.ok p : Reading String) ∧ ∃ o,
        order.asList CaptureSlot.ofJson = .ok o ∧
      ∃ t, template.asList TemplatePart.ofJson = .ok t ∧ ofStored s d p o t = .ok rule := by
    rw [ofJson, storedRecord, Value.foldRecord_record (by simp [fieldNames])] at h
    simpa [Draft.step, bind_eq_ok_iff, map_eq_ok_iff, required_eq_ok_iff] using h
  obtain ⟨s, hs, d, hd, p, hp, o, ho, t, ht, hstored⟩ := hread
  obtain ⟨hcompile, rfl, rfl, rfl⟩ := ofStored_eq_ok_iff.1 hstored
  have hpassed := compile_eq_ok_iff.1 hcompile
  rw [hpassed.source_eq, hpassed.destination_eq]
  exact ⟨Value.eq_text_of_asText hs, Value.eq_text_of_asText hd, Value.eq_text_of_asText hp,
    Value.eq_array_of_asList (fun _ _ => CaptureSlot.eq_toJson_of_ofJson) ho,
    Value.eq_array_of_asList (fun _ _ => TemplatePart.eq_toJson_of_ofJson) ht⟩

theorem toJson_eq_storedRecord (rule : Rule) : rule.toJson =
    storedRecord (.text rule.source) (.text rule.destination) (.text rule.pattern)
      (.array (rule.captureOrder.map CaptureSlot.toJson))
      (.array (rule.template.map TemplatePart.toJson)) := rfl

theorem replace_storedRecord (source destination pattern order template : Value) (name : String)
    (value : Value) :
    (storedRecord source destination pattern order template).replace name value =
      storedRecord (if name = "source" then value else source)
        (if name = "destination" then value else destination)
        (if name = "pattern" then value else pattern)
        (if name = "capture_order" then value else order)
        (if name = "template" then value else template) := by
  simp [storedRecord, Value.record, Value.replace, eq_comm]

namespace IsCompiled

variable {rule rule' : Rule}

/-- Whatever stands for the two texts next to the compiled form of a rule, only its own texts are
accepted. -/
theorem eq_of_texts_replaced (h : rule.IsCompiled) {source destination : Value}
    (hload : ofJson (storedRecord source destination (.text rule.pattern)
      (.array (rule.captureOrder.map CaptureSlot.toJson))
      (.array (rule.template.map TemplatePart.toJson))) = .ok rule') :
    source = .text rule.source ∧ destination = .text rule.destination := by
  obtain ⟨hsource, hdestination, hpattern, horder, htemplate⟩ := fields_of_ofJson hload
  have hsame : rule' = rule := by
    apply h.eq_of_compiled_form (isCompiled_of_ofJson hload)
    · exact (Value.text_injective hpattern).symm
    · exact (List.map_injective_iff.2 CaptureSlot.toJson_injective (Value.array.inj horder)).symm
    · exact (List.map_injective_iff.2 TemplatePart.toJson_injective
        (Value.array.inj htemplate)).symm
  rw [hsource, hdestination, hsame]
  exact ⟨rfl, rfl⟩

/-- Whatever stands for the compiled form of a rule next to its two texts, only its own is
accepted. -/
theorem eq_of_compiled_form_replaced (h : rule.IsCompiled) {pattern order template : Value}
    (hload : ofJson (storedRecord (.text rule.source) (.text rule.destination) pattern order
      template) = .ok rule') :
    pattern = .text rule.pattern ∧ order = .array (rule.captureOrder.map CaptureSlot.toJson) ∧
      template = .array (rule.template.map TemplatePart.toJson) := by
  obtain ⟨hsource, hdestination, hpattern, horder, htemplate⟩ := fields_of_ofJson hload
  have hsame : rule' = rule :=
    h.eq_of_texts (isCompiled_of_ofJson hload) (Value.text_injective hsource).symm
      (Value.text_injective hdestination).symm
  rw [hpattern, horder, htemplate, hsame]
  exact ⟨rfl, rfl, rfl⟩

theorem replace_eq_of_ofJson (h : rule.IsCompiled) (name : String) (value : Value)
    (hload : ofJson (rule.toJson.replace name value) = .ok rule') :
    rule.toJson.replace name value = rule.toJson := by
  rw [toJson_eq_storedRecord, replace_storedRecord] at hload ⊢
  by_cases htext : name = "source" ∨ name = "destination"
  -- One of the texts was replaced, and the compiled form stands as it was.
  · have hkept : name ≠ "pattern" ∧ name ≠ "capture_order" ∧ name ≠ "template" := by
      rcases htext with rfl | rfl <;> decide
    rw [if_neg hkept.1, if_neg hkept.2.1, if_neg hkept.2.2] at hload ⊢
    obtain ⟨hsource, hdestination⟩ := h.eq_of_texts_replaced hload
    rw [hsource, hdestination]
  · rw [not_or] at htext
    rw [if_neg htext.1, if_neg htext.2] at hload ⊢
    obtain ⟨hpattern, horder, htemplate⟩ := h.eq_of_compiled_form_replaced hload
    rw [hpattern, horder, htemplate]

theorem replace_texts_eq_of_ofJson (h : rule.IsCompiled) (source destination : Value)
    (hload : ofJson ((rule.toJson.replace "source" source).replace "destination" destination) =
      .ok rule') :
    (rule.toJson.replace "source" source).replace "destination" destination = rule.toJson := by
  rw [toJson_eq_storedRecord, replace_storedRecord, replace_storedRecord] at hload ⊢
  obtain ⟨hsource, hdestination⟩ := h.eq_of_texts_replaced hload
  rw [hsource, hdestination]
  rfl

end IsCompiled

/-- Records that are accepted with the same capture order have different expressions if their
sources differ, and different templates if their destinations differ. So a rule is no longer
loaded once a value has taken the place of one of its fields, or two have taken the places of both
texts. -/
theorem tamper_evident :
    (∀ {source destination pattern source' destination' pattern' : String}
      {order : List CaptureSlot}
      {template template' : List TemplatePart} {rule rule' : Rule},
      ofStored source destination pattern order template = .ok rule →
      ofStored source' destination' pattern' order template' = .ok rule' →
        (pattern = pattern' → source = source') ∧
        (template = template' → destination = destination')) ∧
    ∀ rule : Rule, rule.IsCompiled →
      ofJson rule.toJson = .ok rule ∧
      (∀ name ∈ fieldNames, ∀ value, rule.toJson.replace name value ≠ rule.toJson →
        ∃ fault, ofJson (rule.toJson.replace name value) = .error fault) ∧
      ∀ source destination,
        (rule.toJson.replace "source" source).replace "destination" destination ≠ rule.toJson →
        ∃ fault, ofJson ((rule.toJson.replace "source" source).replace "destination" destination) =
          .error fault := by
  refine ⟨fun h h' => ⟨?_, ?_⟩, fun rule hrule => ⟨ofJson_toJson hrule, ?_, ?_⟩⟩
  · rintro rfl
    exact source_eq_of_ofStored h h'
  · rintro rfl
    exact destination_eq_of_ofStored h h'
  · intro name _ value hchanged
    exact exists_error fun rule' hload => hchanged (hrule.replace_eq_of_ofJson name value hload)
  · intro source destination hchanged
    exact exists_error
      fun rule' hload => hchanged (hrule.replace_texts_eq_of_ofJson source destination hload)

/-- A colon without a name, an operator in literal text, and a wildcard in front of a name. -/
theorem tampered_texts_refused : ∃ (rule other : Rule) (order : List CaptureSlot),
    Rule.compile "/:lang/a+b/*" "/x/:/*/:lang" = .ok rule ∧
    Rule.compile "/:lang/a.b/*" "/x/:/*/:lang" = .ok other ∧
    ofStored "/:lang/a+b/*" "/x/:/*/:lang" rule.pattern order rule.template = .ok rule ∧
    ofStored "/:lang/a.b/*" "/x/:/*/:lang" other.pattern order other.template = .ok other ∧
    rule.pattern ≠ other.pattern ∧
    (∃ fault, ofJson (rule.toJson.replace "destination" (.text "/x/:/*/:/lang")) = .error fault) ∧
    ∃ fault, ofJson ((rule.toJson.replace "source" (.text "/:a/a+b/*")).replace "destination"
      (.text "/x/:/*/:a")) = .error fault := by
  let rule : Rule := {
    source := "/:lang/a+b/*"
    destination := "/x/:/*/:lang"
    expression := [.literal "/".toList, .parameter, .literal "/a+b/".toList, .wildcard]
    captureOrder := [.parameter "lang", .wildcard 0]
    template := [.literal "/x/:/", .capture 1, .literal "/", .capture 0] }
  let other : Rule := {
    rule with
    source := "/:lang/a.b/*"
    expression := [.literal "/".toList, .parameter, .literal "/a.b/".toList, .wildcard] }
  have hcompile : Rule.compile "/:lang/a+b/*" "/x/:/*/:lang" = .ok rule := by decide +kernel
  have hother : Rule.compile "/:lang/a.b/*" "/x/:/*/:lang" = .ok other := by decide +kernel
  have hstored := ofStored_eq_ok_iff.2 ⟨hcompile, rfl, rfl, rfl⟩
  have hstoredOther := ofStored_eq_ok_iff.2 ⟨hother, rfl, rfl, rfl⟩
  obtain ⟨hrecords, hreplaced⟩ := tamper_evident
  obtain ⟨-, hfield, htexts⟩ := hreplaced rule hcompile
  refine ⟨rule, other, rule.captureOrder, hcompile, hother, hstored, hstoredOther, ?_, ?_, ?_⟩
  · intro hpattern
    exact absurd ((hrecords hstored hstoredOther).1 hpattern) (by decide)
  · apply hfield "destination" (by decide)
    simp [rule, toJson, Value.record, Value.replace, Value.text]
  · apply htexts
    simp [rule, toJson, Value.record, Value.replace, Value.text]

end Rule

end EdgeRouting
