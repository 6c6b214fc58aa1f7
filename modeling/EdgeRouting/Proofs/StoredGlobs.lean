import EdgeRouting.Proofs.GlobMeaning
import EdgeRouting.Proofs.TamperEvidence

/-!
# Globs that cannot be altered unnoticed

A glob can be read back from its expression: every item of the expression is made by tokens of one
kind only, and the alternatives of a group stand apart in it. So the pattern of a glob is the
pattern of no other glob, and a stored glob is no longer loaded once its text or its pattern is
another one.
-/

namespace EdgeRouting

open Accepted
open Json (Value required_eq_ok_iff)

namespace Regex

def characters : Regex → List Char
  | .seq (.char c) later => c :: characters later
  | _ => []

def branches : Regex → List Regex
  | .either first second => branches first ++ [second]
  | r => [r]

def globText : Regex → List Char
  | .char c => [c]
  | .star (.anyBut stop) => if stop = '/' then ['*'] else ['*', '*']
  | .optional _ => ['*', '*', '/']
  | .group _ body => '\x7b' :: [','].intercalate (body.branches.map characters) ++ ['\x7d']
  | _ => []

theorem characters_literal (text : List Char) : (literal text).characters = text := by
  induction text with
  | nil => rfl
  | cons c text ih =>
    change c :: (literal text).characters = c :: text
    rw [ih]

theorem branches_literal (text : List Char) : (literal text).branches = [literal text] := by
  cases text with
  | nil => rfl
  | cons c text => rfl

theorem branches_foldl_either (first : Regex) (later : List Regex) :
    (later.foldl either first).branches = first.branches ++ later := by
  induction later generalizing first with
  | nil => rw [List.foldl_nil, List.append_nil]
  | cons next later ih =>
    rw [List.foldl_cons, ih, branches, List.append_assoc, List.singleton_append]

theorem branches_choice {alternatives : List (List Char)} (h : alternatives ≠ []) :
    (choice (alternatives.map literal)).branches = alternatives.map literal := by
  obtain ⟨first, later, rfl⟩ := List.exists_cons_of_ne_nil h
  rw [List.map_cons, choice, branches_foldl_either, branches_literal, List.singleton_append]

theorem map_characters_literal (alternatives : List (List Char)) :
    (alternatives.map literal).map characters = alternatives := by
  have hcharacters : characters ∘ literal = id := funext characters_literal
  rw [List.map_map, hcharacters, List.map_id]

end Regex

namespace Glob

variable {text text' : String} {glob glob' : Glob}

theorem globText_items {token : Token} (h : token ≠ .group []) :
    token.items.flatMap Regex.globText = token.text := by
  cases token with
  | literal text =>
    rw [Token.items, List.flatMap_map, Token.text]
    exact List.flatMap_singleton' text
  | star | doubleStar | directories => rfl
  | group alternatives =>
    have hne : alternatives ≠ [] := by
      rintro rfl
      exact h rfl
    rw [Token.items, List.flatMap_singleton, Regex.globText, Regex.branches_choice hne,
      Regex.map_characters_literal, Token.text]

theorem Reads.globText_items {text : List Char} {tokens : List Token} (h : Reads text tokens) :
    (tokens.flatMap Token.items).flatMap Regex.globText = text := by
  have hgroups : ∀ token ∈ tokens, token ≠ .group [] := by
    rintro token htoken rfl
    apply h.hasAlternatives
    exact List.mem_map_of_mem htoken
  rw [List.flatMap_assoc, ← h.written_eq, written]
  exact List.flatMap_congr fun token htoken => Glob.globText_items (hgroups token htoken)

theorem eq_of_pattern (h : compile text = .ok glob) (h' : compile text' = .ok glob')
    (hpattern : glob.pattern = glob'.pattern) : glob = glob' := by
  obtain ⟨tokens, hreads, -, hglob⟩ := compile_eq_ok_iff.1 h
  obtain ⟨tokens', hreads', -, hglob'⟩ := compile_eq_ok_iff.1 h'
  rw [pattern, pattern, hglob, hglob'] at hpattern
  have hitems := Expression.items_eq_of_text hpattern
  rw [items_parts, items_parts] at hitems
  have htext : text = text' := by
    rw [← String.toList_inj, ← hreads.globText_items, ← hreads'.globText_items, hitems]
  rw [← htext, h] at h'
  exact Except.ok.inj h'

def storedRecord (text pattern : Value) : Value :=
  .record [("glob", text), ("pattern", pattern)]

theorem replace_storedRecord (text pattern : Value) (name : String) (value : Value) :
    (storedRecord text pattern).replace name value =
      storedRecord (if name = "glob" then value else text)
        (if name = "pattern" then value else pattern) := by
  simp [storedRecord, Value.record, Value.replace, eq_comm]

theorem fields_of_ofJson {text pattern : Value}
    (h : ofJson (storedRecord text pattern) = .ok glob) :
    text = .text glob.text ∧ pattern = .text glob.pattern ∧ compile glob.text = .ok glob := by
  have hread : ∃ t, text.asText = (.ok t : Reading String) ∧ ∃ p,
      pattern.asText = (.ok p : Reading String) ∧
      ofStored t p = .ok glob := by
    rw [ofJson, storedRecord, Value.foldRecord_record (by simp)] at h
    simpa [Draft.step, bind_eq_ok_iff, map_eq_ok_iff, required_eq_ok_iff] using h
  obtain ⟨t, ht, p, hp, hstored⟩ := hread
  obtain ⟨hcompile, rfl⟩ := ofStored_eq_ok_iff.1 hstored
  obtain rfl := text_of_compile hcompile
  exact ⟨Value.eq_text_of_asText ht, Value.eq_text_of_asText hp, hcompile⟩

theorem replace_eq_of_ofJson (h : compile glob.text = .ok glob) (name : String) (value : Value)
    (hload : ofJson (glob.toJson.replace name value) = .ok glob') :
    glob.toJson.replace name value = glob.toJson := by
  have hwritten : glob.toJson = storedRecord (.text glob.text) (.text glob.pattern) := rfl
  rw [hwritten, replace_storedRecord] at hload ⊢
  obtain ⟨htext, hpattern, h'⟩ := fields_of_ofJson hload
  -- One of the two fields stands as it was, and either of them tells which glob was loaded.
  have hsame : glob' = glob := by
    by_cases hname : name = "glob"
    · have hother : name ≠ "pattern" := by simp [hname]
      rw [if_neg hother] at hpattern
      exact (eq_of_pattern h h' (Value.text_injective hpattern)).symm
    · rw [if_neg hname] at htext
      rw [← Value.text_injective htext, h] at h'
      exact (Except.ok.inj h').symm
  rw [htext, hpattern, hsame]

/-- Accepted globs with the same pattern are the same glob. So an accepted glob is loaded from what
it is written as, and no longer once another value has taken the place of its text or of its
pattern. -/
theorem pattern_tells_apart :
    (∀ {text text' : String} {glob glob' : Glob}, compile text = .ok glob →
      compile text' = .ok glob' →
      glob.pattern = glob'.pattern → glob = glob' ∧ text = text') ∧
    ∀ {text : String} {glob : Glob}, compile text = .ok glob → ofJson glob.toJson = .ok glob ∧
      ∀ name ∈ ["glob", "pattern"], ∀ value, glob.toJson.replace name value ≠ glob.toJson →
        ∃ fault, ofJson (glob.toJson.replace name value) = .error fault := by
  constructor
  · intro text text' glob glob' h h' hpattern
    have hglob := eq_of_pattern h h' hpattern
    refine ⟨hglob, ?_⟩
    rw [← text_of_compile h, ← text_of_compile h', hglob]
  · intro text glob h
    rw [← text_of_compile h] at h
    refine ⟨ofJson_toJson h, ?_⟩
    intro name _ value hchanged
    apply exists_error
    intro glob' hload
    exact hchanged (replace_eq_of_ofJson h name value hload)

/-- A group with a single alternative and the plain text have different patterns, and neither takes
the place of the other. -/
theorem single_alternative_apart : ∃ glob plain,
    compile "/**/\x7ba.\x7d*" = .ok glob ∧ compile "/**/a.*" = .ok plain ∧
    glob.pattern ≠ plain.pattern ∧
    ofJson glob.toJson = .ok glob ∧
    (∃ fault, ofJson (glob.toJson.replace "glob" (.text "/**/a.*")) = .error fault) ∧
    ∃ fault, ofJson (glob.toJson.replace "pattern" (.text plain.pattern)) = .error fault := by
  have hglob : compile "/**/\x7ba.\x7d*" = .ok {
      text := "/**/\x7ba.\x7d*"
      expression := [.literal ['/'], .directories, .oneOf [['a', '.']], .withinSegment] } := by
    decide +kernel
  have hplain : compile "/**/a.*" = .ok {
      text := "/**/a.*"
      expression := [.literal ['/'], .directories, .literal ['a', '.'], .withinSegment] } := by
    decide +kernel
  obtain ⟨happart, hstored⟩ := pattern_tells_apart
  obtain ⟨hload, hreplaced⟩ := hstored hglob
  have htexts : "/**/\x7ba.\x7d*" ≠ "/**/a.*" := by simp
  have hpattern := mt (fun heq => (happart hglob hplain heq).2) htexts
  refine ⟨_, _, hglob, hplain, hpattern, hload, hreplaced "glob" (by simp) _ ?_,
    hreplaced "pattern" (by simp) _ ?_⟩
  · simp [toJson, Value.record, Value.replace, Value.text]
  · simpa [toJson, Value.record, Value.replace, Value.text] using Ne.symm hpattern

end Glob

end EdgeRouting
