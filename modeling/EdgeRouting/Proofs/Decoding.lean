import EdgeRouting.Json.Decoder
import EdgeRouting.Proofs.Accepted

/-!
# Taking decoders apart

What holds of an empty draft and is kept by every field holds of the draft of a whole record, in
whatever order its fields are written and whatever stands between them.
-/

namespace EdgeRouting.Json

open Accepted

variable {ε α β σ : Type} {P : σ → Prop}

@[simp] theorem once_none (read : Except (Fault ε) α) : once none read = read.map some := rfl

theorem once_eq_ok_iff {slot filled : Option α} {read : Except (Fault ε) α} :
    once slot read = .ok filled ↔ slot = none ∧ ∃ a, read = .ok a ∧ filled = some a := by
  cases slot with
  | some a => simp [once]
  | none => cases read <;> simp [once, Except.map, eq_comm]

theorem read_of_once {slot filled : Option α} {read : Except (Fault ε) α}
    (h : once slot read = .ok filled) {a : α} (ha : a ∈ filled) : read = .ok a := by
  obtain ⟨-, b, hread, rfl⟩ := once_eq_ok_iff.1 h
  cases ha
  exact hread

theorem required_eq_ok_iff {slot : Option α} {a : α} :
    (required slot : Except (Fault ε) α) = .ok a ↔ slot = some a := by
  cases slot <;> simp [required]

theorem foldlM_invariant {step : σ → α → Except ε σ}
    (hstep : ∀ s a s', P s → step s a = .ok s' → P s') {items : List α} {s s' : σ} (hs : P s)
    (h : items.foldlM step s = .ok s') : P s' := by
  induction items generalizing s with
  | nil =>
    cases h
    exact hs
  | cons a items ih =>
    rw [List.foldlM_cons, bind_eq_ok_iff] at h
    obtain ⟨t, ht, hrest⟩ := h
    exact ih (hstep s a t hs ht) hrest

namespace Value

theorem asList_eq_ok {item : Value → Except (Fault ε) α} {value : Value} {as : List α}
    (h : value.asList item = .ok as) {a : α} (ha : a ∈ as) : ∃ v, item v = .ok a := by
  cases value with
  | array items => exact exists_of_mem_mapM h ha
  | _ => cases h

/-- A draft of a record keeps what every single field keeps. -/
theorem foldRecord_invariant {names : List String} {step : σ → String → Value → Except (Fault ε) σ}
    (hstep : ∀ d name value d', P d → step d name value = .ok d' → P d') {empty d : σ}
    {value : Value} (hempty : P empty) (h : value.foldRecord names step empty = .ok d) : P d := by
  refine foldlM_invariant (fun d member d' hd hmember => ?_) hempty h
  rcases member with ⟨_ | name, value⟩
  · cases hmember
  · rw [takeMember] at hmember
    split at hmember
    · exact hstep d name value d' hd hmember
    · split at hmember
      · cases hmember
        exact hd
      · cases hmember

theorem text_injective : Function.Injective text := by
  intro s t h
  cases h
  rfl

theorem eq_text_of_asText {value : Value} {s : String}
    (h : (value.asText : Except (Fault ε) String) = .ok s) : value = text s := by
  unfold asText at h
  split at h
  · cases h
    rfl
  · cases h

theorem eq_natural_of_asNatural {value : Value} {limit n : Nat}
    (h : (value.asNatural limit : Except (Fault ε) Nat) = .ok n) : value = natural n := by
  unfold asNatural at h
  split at h
  · split at h
    · cases h
      rfl
    · cases h
  · cases h

theorem eq_array_of_asList {value : Value} {item : Value → Except (Fault ε) α} {write : α → Value}
    (hitem : ∀ v a, item v = .ok a → v = write a) {as : List α} (h : value.asList item = .ok as) :
    value = array (as.map write) := by
  cases value with
  | array items =>
    have hall := mapM_eq_ok_iff.1 h
    have hitems : items = as.map write := by
      clear h
      induction hall with
      | nil => rfl
      | cons hhead _ ih => rw [List.map_cons, ← ih, hitem _ _ hhead]
    rw [hitems]
  | _ => cases h

theorem eq_record_of_tagged {value : Value} {first second : String} {limit : Nat}
    {ofText : String → α} {ofNatural : Nat → α} {a : α}
    (h : (match value with
      | .object [(some name, inner)] =>
        if name = first then return ofText (← inner.asText)
        else if name = second then return ofNatural (← inner.asNatural limit)
        else .error .malformed
      | _ => .error .malformed : Except (Fault ε) α) = .ok a) :
    (∃ s, value = record [(first, text s)] ∧ a = ofText s) ∨
      ∃ n, value = record [(second, natural n)] ∧ a = ofNatural n := by
  split at h
  · split at h
    · rename_i hname
      obtain ⟨s, hvalue, heq⟩ := bind_eq_ok_iff.1 h
      cases heq
      rw [hname, eq_text_of_asText hvalue]
      exact .inl ⟨s, rfl, rfl⟩
    · split at h
      · rename_i hname
        obtain ⟨n, hvalue, heq⟩ := bind_eq_ok_iff.1 h
        cases heq
        rw [hname, eq_natural_of_asNatural hvalue]
        exact .inr ⟨n, rfl, rfl⟩
      · cases h
  · cases h

theorem foldRecord_record {names : List String} {step : σ → String → Value → Except (Fault ε) σ}
    {fields : List (String × Value)} (h : ∀ field ∈ fields, field.1 ∈ names) (empty : σ) :
    (record fields).foldRecord names step empty =
      fields.foldlM (fun d field => step d field.1 field.2) empty := by
  rw [foldRecord, record, members, List.foldlM_map]
  induction fields generalizing empty with
  | nil => rfl
  | cons field fields ih =>
    rw [List.foldlM_cons, List.foldlM_cons]
    have hname := h field List.mem_cons_self
    simp only [takeMember, if_pos hname]
    congr 1
    funext d
    exact ih (fun f hf => h f (List.mem_cons_of_mem field hf)) d

@[simp] theorem asText_text (s : String) :
    (text s).asText = (.ok s : Except (Fault ε) String) := rfl

@[simp] theorem asTag_text (s : String) : (text s).asTag = (.ok s : Except (Fault ε) String) := rfl

@[simp] theorem asBool_bool (b : Bool) :
    (Value.bool b).asBool = (.ok b : Except (Fault ε) Bool) := rfl

theorem asNatural_natural {limit n : Nat} (h : n < limit) :
    (Value.natural n).asNatural limit = (.ok n : Except (Fault ε) Nat) :=
  if_pos h

theorem asList_array {read : Value → Except (Fault ε) α} {write : α → Value} {as : List α}
    (h : ∀ a ∈ as, read (write a) = .ok a) : (Value.array (as.map write)).asList read = .ok as :=
  mapM_map_eq_ok h

end Value

end EdgeRouting.Json
