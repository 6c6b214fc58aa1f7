import EdgeRouting.Json.Printer
import EdgeRouting.Json.Reader
import Mathlib.Data.List.DropRight

/-!
# Reading what was written

A written value is read again from the front of any text that does not go on with its number. It
takes two steps of fuel for each of its characters.
-/

namespace EdgeRouting.Json

theorem number?_hexPair {n : Nat} (h : n < 0x20) :
    Digits.number? 16 ('0' :: '0' :: hexPair n) = some n := by
  revert n
  decide

theorem unitOf_toNat {c : Char} (h : c.toNat < 0x20) : unitOf c.toNat = .char c := by
  rw [unitOf, if_neg (by omega), Char.ofNat_toNat]

theorem readUnits_plain {c : Char} (hquote : c ≠ '"') (hslash : c ≠ '\\')
    (hcontrol : ¬ c.toNat < 0x20) (rest : List Char) :
    readUnits (c :: rest) = (readUnits rest).map fun (units, rest) => (.char c :: units, rest) := by
  rw [readUnits]
  · rw [if_neg (not_or.2 ⟨hslash, hcontrol⟩)]
    cases readUnits rest <;> rfl
  all_goals
    intros
    contradiction

theorem readUnits_letter {letter c : Char} (h : escaped? letter = some c) (rest : List Char) :
    readUnits ('\\' :: letter :: rest) =
      (readUnits rest).map fun (units, rest) => (.char c :: units, rest) := by
  rw [readUnits]
  · rw [h]
    cases readUnits rest <;> rfl
  · rintro _ _ _ _ _ rfl
    cases h

theorem readUnits_hexPair {c : Char} (h : c.toNat < 0x20) (rest : List Char) :
    readUnits ('\\' :: 'u' :: '0' :: '0' :: (hexPair c.toNat ++ rest)) =
      (readUnits rest).map fun (units, rest) => (.char c :: units, rest) := by
  have hnumber := number?_hexPair h
  rw [hexPair] at hnumber ⊢
  simp only [List.cons_append, List.nil_append]
  rw [readUnits, hnumber]
  simp only [Option.bind_eq_bind, Option.bind_some, unitOf_toNat h]
  cases readUnits rest <;> rfl

/-- Every character of a string is read as itself, in whichever way it was written. -/
theorem readUnits_escape (c : Char) (rest : List Char) :
    readUnits (escape c ++ rest) =
      (readUnits rest).map fun (units, rest) => (.char c :: units, rest) := by
  rw [escape]
  split_ifs with hquote hslash hb hf hn hr ht hcontrol
  · subst hquote
    exact readUnits_letter rfl rest
  · subst hslash
    exact readUnits_letter rfl rest
  · subst hb
    exact readUnits_letter rfl rest
  · subst hf
    exact readUnits_letter rfl rest
  · subst hn
    exact readUnits_letter rfl rest
  · subst hr
    exact readUnits_letter rfl rest
  · subst ht
    exact readUnits_letter rfl rest
  · exact readUnits_hexPair hcontrol rest
  · exact readUnits_plain hquote hslash hcontrol rest

theorem pair?_map_char (s : List Char) : pair? (s.map .char) = some s := by
  induction s with
  | nil => rfl
  | cons c s ih => rw [List.map_cons, pair?, ih, Option.map_some]

/-- A quoted text is read to its last quote. -/
theorem readString_escape (s rest : List Char) :
    readString (s.flatMap escape ++ '"' :: rest) = some (some (String.ofList s), rest) := by
  have hunits : readUnits (s.flatMap escape ++ '"' :: rest) = some (s.map .char, rest) := by
    induction s with
    | nil => rw [List.flatMap_nil, List.nil_append, readUnits, List.map_nil]
    | cons c s ih =>
      rw [List.flatMap_cons, List.append_assoc, readUnits_escape, ih, Option.map_some,
        List.map_cons]
  simp only [readString, hunits, Option.map_some, pair?_map_char]

def EndsNumber (rest : List Char) : Prop :=
  ∀ c ∈ rest.head?, c.isDigit = false ∧ c ≠ '.' ∧ c ≠ 'e' ∧ c ≠ 'E'

/-- No number but zero is written with a zero in front. -/
theorem head?_toDigits {n : Nat} (h : n ≠ 0) : (Nat.toDigits 10 n).head? ≠ some '0' := by
  induction n using Nat.strongRecOn with
  | _ n ih =>
    rw [Nat.toDigits_eq_if (by decide)]
    split_ifs with hlt
    · rw [List.head?_cons, ne_eq, Option.some.injEq, Nat.digitChar_eq_zero]
      exact h
    · rw [List.head?_append_of_ne_nil _ Nat.toDigits_ne_nil]
      exact ih (n / 10) (by omega) (by omega)

theorem EndsNumber.takeWhile_isDigit {rest : List Char} (h : EndsNumber rest) :
    rest.takeWhile Char.isDigit = [] := by
  cases rest with
  | nil => rfl
  | cons c rest => exact List.takeWhile_cons_of_neg (by simp [(h c rfl).1])

theorem EndsNumber.dropWhile_isDigit {rest : List Char} (h : EndsNumber rest) :
    rest.dropWhile Char.isDigit = rest := by
  cases rest with
  | nil => rfl
  | cons c rest => exact List.dropWhile_cons_of_neg (by simp [(h c rfl).1])

theorem EndsNumber.readFraction_eq {rest : List Char} (h : EndsNumber rest) :
    readFraction rest = some (false, rest) := by
  rw [readFraction]
  rintro tail rfl
  exact (h '.' rfl).2.1 rfl

theorem EndsNumber.readExponent_eq {rest : List Char} (h : EndsNumber rest) :
    readExponent rest = some (false, rest) := by
  rw [readExponent]
  · rintro tail rfl
    exact (h 'e' rfl).2.2.1 rfl
  · rintro tail rfl
    exact (h 'E' rfl).2.2.2 rfl

theorem readNumber_toDigits (n : Nat) {rest : List Char} (h : EndsNumber rest) :
    readNumber false (Nat.toDigits 10 n ++ rest) = (.natural n, some rest) := by
  have hdigits : ∀ c ∈ Nat.toDigits 10 n, c.isDigit = true := fun c hc =>
    Nat.isDigit_of_mem_toDigits (by decide) (by decide) hc
  have htake : (Nat.toDigits 10 n ++ rest).takeWhile Char.isDigit = Nat.toDigits 10 n := by
    rw [List.takeWhile_append_of_pos hdigits, h.takeWhile_isDigit, List.append_nil]
  have hdrop : (Nat.toDigits 10 n ++ rest).dropWhile Char.isDigit = rest := by
    rw [List.dropWhile_append_of_pos hdigits, h.dropWhile_isDigit]
  have hzero :
      ¬ (Nat.toDigits 10 n = [] ∨
        (Nat.toDigits 10 n).head? = some '0' ∧ Nat.toDigits 10 n ≠ ['0']) := by
    rintro (hnil | ⟨hhead, hne⟩)
    · exact Nat.toDigits_ne_nil hnil
    · rcases eq_or_ne n 0 with rfl | hn
      · exact hne (Nat.toDigits_zero 10)
      · exact head?_toDigits hn hhead
  rw [readNumber]
  simp only [htake, hdrop, if_neg hzero, h.readFraction_eq, Option.bind_eq_bind, Option.bind_some,
    h.readExponent_eq, Nat.ofDigitChars_ten_toDigits]
  rfl

theorem skipBlanks_newline (depth : Nat) (text : List Char) :
    skipBlanks (newline depth ++ text) = skipBlanks text := by
  have hblank : ∀ c ∈ newline depth, isBlank c = true := by
    intro c hc
    rcases List.mem_cons.1 hc with rfl | hc
    · rfl
    · rw [List.eq_of_mem_replicate hc]
      rfl
  exact List.dropWhile_append_of_pos hblank

theorem skipBlanks_of_not_isBlank {c : Char} (h : isBlank c = false) (text : List Char) :
    skipBlanks (c :: text) = c :: text :=
  List.dropWhile_cons_of_neg (by simp [h])

theorem skipBlanks_skipBlanks (text : List Char) : skipBlanks (skipBlanks text) = skipBlanks text :=
  List.dropWhile_idempotent ..

theorem readValue_skipBlanks (fuel : Nat) (text : List Char) :
    readValue fuel (skipBlanks text) = readValue fuel text := by
  cases fuel with
  | zero => rfl
  | succ fuel => rw [readValue, readValue, skipBlanks_skipBlanks]

theorem readItems_skipBlanks (fuel : Nat) (text : List Char) :
    readItems fuel (skipBlanks text) = readItems fuel text := by
  cases fuel with
  | zero => rfl
  | succ fuel => rw [readItems, readItems, readValue_skipBlanks]

theorem readMembers_skipBlanks (fuel : Nat) (text : List Char) :
    readMembers fuel (skipBlanks text) = readMembers fuel text := by
  cases fuel with
  | zero => rfl
  | succ fuel => rw [readMembers, readMembers, skipBlanks_skipBlanks]

/-- Values that can be told from their text: every number is natural and every string is whole. -/
inductive Value.Written : Value → Prop
  | null : Written .null
  | bool (b : Bool) : Written (.bool b)
  | natural (n : Nat) : Written (.natural n)
  | text (s : String) : Written (.string (some s))
  | array {items : List Value} (hitems : ∀ item ∈ items, Written item) : Written (.array items)
  | object {members : List (Text × Value)} (hkeys : ∀ member ∈ members, member.1.isSome = true)
      (hvalues : ∀ member ∈ members, Written member.2) : Written (.object members)

attribute [simp] Value.Written.bool Value.Written.natural

@[simp] theorem Value.written_text (s : String) : (Value.text s).Written := .text s

theorem Value.written_list {α : Type} {write : α → Value} {as : List α}
    (h : ∀ a ∈ as, (write a).Written) : (Value.array (as.map write)).Written := by
  refine .array fun item hitem => ?_
  obtain ⟨a, ha, rfl⟩ := List.mem_map.1 hitem
  exact h a ha

theorem Value.written_record {fields : List (String × Value)}
    (h : ∀ field ∈ fields, field.2.Written) : (Value.record fields).Written := by
  refine .object (fun member hmember => ?_) fun member hmember => ?_
  · obtain ⟨field, -, rfl⟩ := List.mem_map.1 hmember
    rfl
  · obtain ⟨field, hfield, rfl⟩ := List.mem_map.1 hmember
    exact h field hfield

theorem isBlank_of_isDigit {c : Char} (h : c.isDigit = true) : isBlank c = false := by
  rw [isBlank]
  refine Bool.eq_false_iff.2 fun hblank => ?_
  simp only [Bool.or_eq_true, beq_iff_eq] at hblank
  rcases hblank with ((rfl | rfl) | rfl) | rfl <;> cases h

/-- A written value begins with neither a blank nor a closing bracket. -/
theorem Value.Written.render_eq_cons {v : Value} (h : v.Written) (depth : Nat) :
    ∃ c text, render depth v = c :: text ∧ isBlank c = false ∧ c ≠ ']' := by
  cases h with
  | null => exact ⟨'n', "ull".toList, by rw [render]; rfl, rfl, by decide⟩
  | bool b =>
    cases b with
    | false => exact ⟨'f', "alse".toList, by rw [render]; rfl, rfl, by decide⟩
    | true => exact ⟨'t', "rue".toList, by rw [render]; rfl, rfl, by decide⟩
  | natural n =>
    obtain ⟨c, digits, hdigits⟩ := List.exists_cons_of_ne_nil (@Nat.toDigits_ne_nil n 10)
    have hc : c.isDigit = true :=
      Nat.isDigit_of_mem_toDigits (by decide) (by decide) (hdigits ▸ List.mem_cons_self)
    refine ⟨c, digits, by rw [render, hdigits], isBlank_of_isDigit hc, ?_⟩
    rintro rfl
    cases hc
  | text s => exact ⟨'"', _, by rw [render]; rfl, rfl, by decide⟩
  | array _ =>
    rename_i items _
    cases items with
    | nil => exact ⟨'[', _, by rw [render], rfl, by decide⟩
    | cons item items => exact ⟨'[', _, by rw [render]; rfl, rfl, by decide⟩
  | object _ _ =>
    rename_i members _ _
    cases members with
    | nil => exact ⟨'\x7b', _, by rw [render], rfl, by decide⟩
    | cons member members => exact ⟨'\x7b', _, by rw [render]; rfl, rfl, by decide⟩

/-- A value is read again from what is written, whatever follows it. -/
def Value.IsReadBack (v : Value) : Prop :=
  ∀ depth fuel rest, 2 * (render depth v).length < fuel → EndsNumber rest →
    readValue fuel (render depth v ++ rest) = (v, some rest)

theorem readValue_digits {c : Char} (h : c.isDigit = true) (fuel : Nat) (text : List Char) :
    readValue (fuel + 1) (c :: text) = readNumber false (c :: text) := by
  rw [readValue, skipBlanks_of_not_isBlank (isBlank_of_isDigit h)]
  split
  case h_8 => rfl
  all_goals
    rename_i heq
    cases heq
    cases h

theorem readValue_items {text : List Char} (h : ∀ rest, skipBlanks text ≠ ']' :: rest)
    (fuel : Nat) :
    readValue (fuel + 1) ('[' :: text) =
      (.array (readItems fuel text).1, (readItems fuel text).2) := by
  have hopen : skipBlanks ('[' :: text) = '[' :: text := skipBlanks_of_not_isBlank rfl text
  simp only [readValue, hopen, readItems_skipBlanks]

theorem readValue_members {text : List Char} (h : ∀ rest, skipBlanks text ≠ '\x7d' :: rest)
    (fuel : Nat) :
    readValue (fuel + 1) ('\x7b' :: text) =
      (.object (readMembers fuel text).1, (readMembers fuel text).2) := by
  have hopen : skipBlanks ('\x7b' :: text) = '\x7b' :: text := skipBlanks_of_not_isBlank rfl text
  simp only [readValue, hopen, readMembers_skipBlanks]

theorem length_newline (depth : Nat) : (newline depth).length = 2 * depth + 1 := by
  simp [newline]

theorem endsNumber_newline (depth : Nat) (rest : List Char) :
    EndsNumber (newline depth ++ rest) := by
  intro c hc
  cases hc
  decide

theorem endsNumber_renderItems (depth closing : Nat) (items : List Value) (rest : List Char) :
    EndsNumber (renderItems depth items ++ (newline closing ++ rest)) := by
  cases items with
  | nil =>
    rw [renderItems]
    exact endsNumber_newline closing rest
  | cons item items =>
    intro c hc
    rw [renderItems] at hc
    cases hc
    decide

theorem readItems_close {fuel : Nat} {text rest after : List Char} {item : Value}
    (h : readValue fuel text = (item, some rest)) (hclose : skipBlanks rest = ']' :: after) :
    readItems (fuel + 1) text = ([item], some after) := by
  simp only [readItems, h, hclose]

theorem readItems_comma {fuel : Nat} {text rest after : List Char} {item : Value}
    (h : readValue fuel text = (item, some rest)) (hcomma : skipBlanks rest = ',' :: after) :
    readItems (fuel + 1) text = (item :: (readItems fuel after).1, (readItems fuel after).2) := by
  simp only [readItems, h, hcomma]

/-- The items of an array are read one after another. Each of them takes a step more than its own
value. -/
theorem readItems_render {item : Value} {items : List Value} (hitem : item.IsReadBack)
    (hitems : ∀ v ∈ items, v.IsReadBack) (depth closing fuel : Nat) (rest : List Char)
    (hfuel : 2 * ((render depth item).length + (renderItems depth items).length +
      (newline closing).length) + 1 < fuel) :
    readItems fuel
      (render depth item ++ (renderItems depth items ++ (newline closing ++ ']' :: rest))) =
      (item :: items, some rest) := by
  obtain ⟨fuel, rfl⟩ := Nat.exists_eq_add_one_of_ne_zero (Nat.ne_zero_of_lt hfuel)
  have hvalue :=
    hitem depth fuel _ (by omega) (endsNumber_renderItems depth closing items (']' :: rest))
  induction items generalizing item fuel with
  | nil =>
    refine readItems_close hvalue ?_
    rw [renderItems, List.nil_append, skipBlanks_newline]
    exact skipBlanks_of_not_isBlank rfl rest
  | cons next items ih =>
    rw [renderItems] at hfuel hvalue ⊢
    simp only [List.length_append, List.length_cons, length_newline, List.cons_append,
      List.append_assoc] at hfuel hvalue ⊢
    have hnext := hitems next List.mem_cons_self
    -- The comma in front of the next item pays for the step that the items take beyond its value.
    obtain ⟨fuel, rfl⟩ := Nat.exists_eq_add_one_of_ne_zero (show fuel ≠ 0 by omega)
    have hrest := ih hnext (fun v hv => hitems v (List.mem_cons_of_mem next hv)) fuel
      (by rw [length_newline]; omega)
      (hnext depth fuel _ (by omega) (endsNumber_renderItems depth closing items (']' :: rest)))
    rw [readItems_comma hvalue (skipBlanks_of_not_isBlank rfl _), ← readItems_skipBlanks,
      skipBlanks_newline, readItems_skipBlanks, hrest]

theorem endsNumber_renderMembers (depth closing : Nat) (members : List (Text × Value))
    (rest : List Char) : EndsNumber (renderMembers depth members ++ (newline closing ++ rest)) := by
  cases members with
  | nil =>
    rw [renderMembers]
    exact endsNumber_newline closing rest
  | cons member members =>
    intro c hc
    rw [renderMembers] at hc
    cases hc
    decide

theorem renderText_append (s : String) (rest : List Char) :
    renderText (some s) ++ rest = '"' :: (s.toList.flatMap escape ++ '"' :: rest) := by
  simp [renderText, quote]

theorem readValue_blank (fuel : Nat) (text : List Char) :
    readValue fuel (' ' :: text) = readValue fuel text := by
  rw [← readValue_skipBlanks, ← readValue_skipBlanks fuel text]
  rfl

theorem readMembers_close {fuel : Nat} {name : String} {value : Value} {text rest after : List Char}
    (h : readValue fuel text = (value, some rest)) (hclose : skipBlanks rest = '\x7d' :: after) :
    readMembers (fuel + 1) (renderText (some name) ++ ':' :: ' ' :: text) =
      ([(some name, value)], some after) := by
  have hcolon : skipBlanks (':' :: ' ' :: text) = ':' :: ' ' :: text :=
    skipBlanks_of_not_isBlank rfl _
  rw [renderText_append, readMembers, skipBlanks_of_not_isBlank rfl]
  simp only [readString_escape, String.ofList_toList, hcolon, readValue_blank, h, hclose]

theorem readMembers_comma {fuel : Nat} {name : String} {value : Value} {text rest after : List Char}
    (h : readValue fuel text = (value, some rest)) (hcomma : skipBlanks rest = ',' :: after) :
    readMembers (fuel + 1) (renderText (some name) ++ ':' :: ' ' :: text) =
      ((some name, value) :: (readMembers fuel after).1, (readMembers fuel after).2) := by
  have hcolon : skipBlanks (':' :: ' ' :: text) = ':' :: ' ' :: text :=
    skipBlanks_of_not_isBlank rfl _
  rw [renderText_append, readMembers, skipBlanks_of_not_isBlank rfl]
  simp only [readString_escape, String.ofList_toList, hcolon, readValue_blank, h, hcomma]

/-- The members of an object are read one after another, as the items of an array are. -/
theorem readMembers_render {name : String} {value : Value} {members : List (Text × Value)}
    (hvalue : value.IsReadBack) (hkeys : ∀ member ∈ members, member.1.isSome = true)
    (hvalues : ∀ member ∈ members, member.2.IsReadBack) (depth closing fuel : Nat)
    (rest : List Char) (hfuel : 2 * ((renderText (some name)).length + (render depth value).length +
      (renderMembers depth members).length + (newline closing).length) + 1 < fuel) :
    readMembers fuel (renderText (some name) ++ ':' :: ' ' :: (render depth value ++
      (renderMembers depth members ++ (newline closing ++ '\x7d' :: rest)))) =
        ((some name, value) :: members, some rest) := by
  obtain ⟨fuel, rfl⟩ := Nat.exists_eq_add_one_of_ne_zero (Nat.ne_zero_of_lt hfuel)
  have hread :=
    hvalue depth fuel _ (by omega) (endsNumber_renderMembers depth closing members ('\x7d' :: rest))
  induction members generalizing name value fuel with
  | nil =>
    refine readMembers_close hread ?_
    rw [renderMembers, List.nil_append, skipBlanks_newline]
    exact skipBlanks_of_not_isBlank rfl rest
  | cons member members ih =>
    obtain ⟨key, next⟩ := member
    obtain ⟨key, rfl⟩ := Option.isSome_iff_exists.1 (hkeys _ List.mem_cons_self)
    rw [renderMembers] at hfuel hread ⊢
    simp only [List.length_append, List.length_cons, length_newline, List.cons_append,
      List.nil_append, List.append_assoc] at hfuel hread ⊢
    have hnext : next.IsReadBack := hvalues _ List.mem_cons_self
    obtain ⟨fuel, rfl⟩ := Nat.exists_eq_add_one_of_ne_zero (show fuel ≠ 0 by omega)
    have hrest := @ih key next hnext (fun v hv => hkeys v (List.mem_cons_of_mem _ hv))
      (fun v hv => hvalues v (List.mem_cons_of_mem _ hv)) fuel (by rw [length_newline]; omega)
      (hnext depth fuel _ (by omega)
        (endsNumber_renderMembers depth closing members ('\x7d' :: rest)))
    rw [readMembers_comma hread (skipBlanks_of_not_isBlank rfl _), ← readMembers_skipBlanks,
      skipBlanks_newline, readMembers_skipBlanks, hrest]

namespace Value

theorem isReadBack_null : IsReadBack .null := by
  intro depth fuel rest hfuel _
  obtain ⟨fuel, rfl⟩ := Nat.exists_eq_add_one_of_ne_zero (Nat.ne_zero_of_lt hfuel)
  rw [render, readValue]
  rfl

theorem isReadBack_bool (b : Bool) : IsReadBack (.bool b) := by
  intro depth fuel rest hfuel _
  obtain ⟨fuel, rfl⟩ := Nat.exists_eq_add_one_of_ne_zero (Nat.ne_zero_of_lt hfuel)
  rw [render, readValue]
  cases b <;> rfl

theorem isReadBack_natural (n : Nat) : IsReadBack (.natural n) := by
  intro depth fuel rest hfuel hrest
  obtain ⟨fuel, rfl⟩ := Nat.exists_eq_add_one_of_ne_zero (Nat.ne_zero_of_lt hfuel)
  obtain ⟨c, digits, hdigits⟩ := List.exists_cons_of_ne_nil (@Nat.toDigits_ne_nil n 10)
  have hc : c.isDigit = true :=
    Nat.isDigit_of_mem_toDigits (by decide) (by decide) (hdigits ▸ List.mem_cons_self)
  rw [render, hdigits, List.cons_append, readValue_digits hc, ← List.cons_append, ← hdigits]
  exact readNumber_toDigits n hrest

theorem isReadBack_text (s : String) : IsReadBack (.string (some s)) := by
  intro depth fuel rest hfuel _
  obtain ⟨fuel, rfl⟩ := Nat.exists_eq_add_one_of_ne_zero (Nat.ne_zero_of_lt hfuel)
  rw [render, renderText_append, readValue, skipBlanks_of_not_isBlank rfl]
  simp only [readString_escape, String.ofList_toList]

theorem isReadBack_array {items : List Value} (hwritten : ∀ item ∈ items, item.Written)
    (hitems : ∀ item ∈ items, item.IsReadBack) : IsReadBack (.array items) := by
  intro depth fuel rest hfuel _
  obtain ⟨fuel, rfl⟩ := Nat.exists_eq_add_one_of_ne_zero (Nat.ne_zero_of_lt hfuel)
  cases items with
  | nil =>
    rw [render, readValue]
    rfl
  | cons item items =>
    obtain ⟨c, text, hitem, hblank, hclose⟩ :=
      (hwritten item List.mem_cons_self).render_eq_cons (depth + 1)
    have hread := readItems_render (hitems item List.mem_cons_self)
      (fun v hv => hitems v (List.mem_cons_of_mem item hv)) (depth + 1) depth fuel rest (by
        rw [render] at hfuel
        simp only [List.length_append, List.length_cons, length_newline] at hfuel ⊢
        omega)
    rw [render]
    simp only [List.cons_append, List.nil_append, List.append_assoc]
    rw [readValue_items, ← readItems_skipBlanks, skipBlanks_newline, readItems_skipBlanks, hread]
    intro after hafter
    rw [skipBlanks_newline, hitem, List.cons_append, skipBlanks_of_not_isBlank hblank,
      List.cons.injEq] at hafter
    exact hclose hafter.1

theorem isReadBack_object {members : List (Text × Value)}
    (hkeys : ∀ member ∈ members, member.1.isSome = true)
    (hvalues : ∀ member ∈ members, member.2.IsReadBack) : IsReadBack (.object members) := by
  intro depth fuel rest hfuel _
  obtain ⟨fuel, rfl⟩ := Nat.exists_eq_add_one_of_ne_zero (Nat.ne_zero_of_lt hfuel)
  cases members with
  | nil =>
    rw [render, readValue]
    rfl
  | cons member members =>
    obtain ⟨key, value⟩ := member
    obtain ⟨key, rfl⟩ := Option.isSome_iff_exists.1 (hkeys _ List.mem_cons_self)
    have hread := @readMembers_render key value members (hvalues _ List.mem_cons_self)
      (fun v hv => hkeys v (List.mem_cons_of_mem _ hv))
      (fun v hv => hvalues v (List.mem_cons_of_mem _ hv))
      (depth + 1) depth fuel rest (by
        rw [render] at hfuel
        simp only [List.length_append, List.length_cons, length_newline] at hfuel ⊢
        omega)
    rw [render]
    simp only [List.cons_append, List.nil_append, List.append_assoc]
    rw [readValue_members, ← readMembers_skipBlanks, skipBlanks_newline,
      readMembers_skipBlanks, hread]
    intro after hafter
    rw [skipBlanks_newline, renderText_append, skipBlanks_of_not_isBlank rfl] at hafter
    exact absurd (List.cons.inj hafter).1 (by decide)

theorem Written.isReadBack {v : Value} (h : v.Written) : v.IsReadBack := by
  induction h with
  | null => exact isReadBack_null
  | bool b => exact isReadBack_bool b
  | natural n => exact isReadBack_natural n
  | text s => exact isReadBack_text s
  | array hitems ih => exact isReadBack_array hitems ih
  | object hkeys _ ih => exact isReadBack_object hkeys ih

end Value

theorem Document.read_pretty {v : Value} (h : v.Written) : Document.read v.pretty = ⟨v, true⟩ := by
  have hread := h.isReadBack 0 (2 * (render 0 v).length + 2) [] (by omega) (fun c hc => nomatch hc)
  rw [List.append_nil] at hread
  simp only [Document.read, Value.pretty, String.toList_ofList, hread]
  rfl

end EdgeRouting.Json
