import EdgeRouting.Header.Basic
import EdgeRouting.Proofs.Utf8RoundTrip
import EdgeRouting.Uri.Basic

/-!
# Texts in headers

A value that was made of a text has the bytes of the text. A text is a legal value if each of its
characters has legal bytes, so values can be judged piece by piece. The characters of a URI path and
those of a value that was read as text are among them; a text of readable characters is read back as
it was.
-/

namespace EdgeRouting

theorem HeaderName.eq_of_text {name name' : HeaderName} (h : name.text = name'.text) :
    name = name' := by
  cases name
  cases name'
  cases h
  rfl

theorem HeaderName.notMem_text {c : Char} (hc : isTokenChar c = false) (name : HeaderName) :
    c ∉ name.text.toList := by
  intro hmem
  have hlegal := name.legal
  simp only [isHeaderName, Bool.and_eq_true, List.all_eq_true] at hlegal
  rw [(hlegal.2 c hmem).1] at hc
  cases hc

theorem HeaderValue.ofText?_eq_some_iff {text : String} {value : HeaderValue} :
    HeaderValue.ofText? text = some value ↔ value.bytes = Utf8.encode text := by
  rw [HeaderValue.ofText?, HeaderValue.ofBytes?]
  constructor
  · intro h
    split at h
    · cases h
      rfl
    · cases h
  · intro h
    rw [dif_pos (h ▸ value.legal)]
    cases value
    cases h
    rfl

/-- A comma in a text is a byte of its own. -/
theorem HeaderValue.comma_mem_bytes {text : String} {value : HeaderValue}
    (h : HeaderValue.ofText? text = some value) (hcomma : ',' ∈ text.toList) :
    0x2C ∈ value.bytes := by
  rw [HeaderValue.ofText?_eq_some_iff.1 h]
  exact List.mem_flatMap.2 ⟨',', hcomma, by decide⟩

def isHeaderChar (c : Char) : Bool :=
  (String.utf8EncodeChar c).all isHeaderByte

theorem HeaderValue.isSome_ofText? (text : String) :
    (ofText? text).isSome = text.toList.all isHeaderChar := by
  have hbytes : (Utf8.encode text).all isHeaderByte = text.toList.all isHeaderChar :=
    List.all_flatMap
  rw [ofText?, ofBytes?, ← hbytes]
  by_cases hlegal : (Utf8.encode text).all isHeaderByte = true
  · rw [dif_pos hlegal, hlegal]
    rfl
  · rw [dif_neg hlegal, Bool.eq_false_iff.2 hlegal]
    rfl

theorem isHeaderByte_ofNat {n : Nat} (hlow : 32 ≤ n) (hhigh : n < 256) (hdelete : n ≠ 127) :
    isHeaderByte (UInt8.ofNat n) = true := by
  have hnat : (UInt8.ofNat n).toNat = n := by
    rw [UInt8.toNat_ofNat', Nat.mod_eq_of_lt hhigh]
  have hne : UInt8.ofNat n ≠ 127 := by
    intro h
    rw [h] at hnat
    exact hdelete hnat.symm
  have hle : 32 ≤ UInt8.ofNat n := by
    rw [UInt8.le_iff_toNat_le, hnat]
    exact hlow
  simp [isHeaderByte, hne, hle]

/-- The control characters are the only ones that have illegal bytes. -/
theorem isHeaderChar_of_toNat {c : Char} (hlow : 32 ≤ c.toNat) (hdelete : c.toNat ≠ 127) :
    isHeaderChar c = true := by
  have hfollowing (n : Nat) : isHeaderByte (Utf8.following n) = true :=
    isHeaderByte_ofNat (by omega) (by omega) (by omega)
  rw [isHeaderChar, Utf8.utf8EncodeChar_eq]
  split_ifs with hone htwo hthree
  · simpa using isHeaderByte_ofNat hlow (by omega) hdelete
  · have hfirst := @isHeaderByte_ofNat (c.toNat / 64 % 32 + 0xC0) (by omega) (by omega) (by omega)
    simp only [List.all_cons, List.all_nil, hfirst, hfollowing, Bool.and_self]
  · have hfirst := @isHeaderByte_ofNat (c.toNat / 4096 % 16 + 0xE0) (by omega) (by omega) (by omega)
    simp only [List.all_cons, List.all_nil, hfirst, hfollowing, Bool.and_self]
  · have hfirst :=
      @isHeaderByte_ofNat (c.toNat / 262144 % 8 + 0xF0) (by omega) (by omega) (by omega)
    simp only [List.all_cons, List.all_nil, hfirst, hfollowing, Bool.and_self]

theorem isHeaderChar_of_isPathChar {c : Char} (h : isPathChar c = true) :
    isHeaderChar c = true := by
  have hsmall : ∀ n < 128, isPathChar (Char.ofNat n) = true → 32 ≤ n ∧ n ≠ 127 := by decide
  by_cases hn : c.toNat < 128
  · rw [← Char.ofNat_toNat c] at h
    obtain ⟨hlow, hdelete⟩ := hsmall c.toNat hn h
    exact isHeaderChar_of_toNat hlow hdelete
  · exact isHeaderChar_of_toNat (by omega) (by omega)

def isReadableChar (c : Char) : Bool :=
  c == '\t' || (' ' ≤ c && c ≤ '~')

theorem utf8EncodeChar_of_readable {c : Char} (h : isReadableChar c = true) :
    String.utf8EncodeChar c = [UInt8.ofNat c.toNat] ∧ isReadableByte (UInt8.ofNat c.toNat) = true ∧
      Char.ofNat (UInt8.ofNat c.toNat).toNat = c := by
  have hsmall : ∀ n < 128, isReadableChar (Char.ofNat n) = true →
      String.utf8EncodeChar (Char.ofNat n) = [UInt8.ofNat n] ∧
      isReadableByte (UInt8.ofNat n) = true ∧
        (UInt8.ofNat n).toNat = n := by
    decide +kernel
  have hn : c.toNat < 128 := by
    rw [isReadableChar, Bool.or_eq_true, Bool.and_eq_true, beq_iff_eq, decide_eq_true_eq,
      decide_eq_true_eq] at h
    rcases h with rfl | ⟨-, hle⟩
    · decide
    · have hle' : c.toNat ≤ 126 := hle
      omega
  rw [← Char.ofNat_toNat c] at h
  obtain ⟨hencode, hbyte, hback⟩ := hsmall c.toNat hn h
  rw [Char.ofNat_toNat] at hencode
  exact ⟨hencode, hbyte, by rw [hback, Char.ofNat_toNat]⟩

theorem isHeaderChar_of_readable {c : Char} (h : isReadableChar c = true) :
    isHeaderChar c = true := by
  obtain ⟨hencode, hbyte, -⟩ := utf8EncodeChar_of_readable h
  rw [isHeaderChar, hencode, List.all_cons, List.all_nil, Bool.and_true]
  rw [isReadableByte, Bool.or_eq_true, Bool.and_eq_true] at hbyte
  rw [isHeaderByte, Bool.or_eq_true, Bool.and_eq_true]
  refine hbyte.imp_right fun h => ⟨h.1, ?_⟩
  have hlt := of_decide_eq_true h.2
  exact bne_iff_ne.2 (UInt8.ne_of_lt hlt)

namespace HeaderValue

theorem all_isReadableChar {value : HeaderValue} {text : String} (h : value.readable? = some text) :
    text.toList.all isReadableChar = true := by
  have hbyte : ∀ n < 256, isReadableByte (UInt8.ofNat n) = true →
      isReadableChar (Char.ofNat n) = true := by
    decide +kernel
  rw [readable?] at h
  split at h
  case isFalse => cases h
  case isTrue hreadable =>
    cases h
    rw [String.toList_ofList, List.all_map, List.all_eq_true]
    intro b hb
    exact hbyte b.toNat b.toNat_lt (by simpa using List.all_eq_true.1 hreadable b hb)

theorem exists_of_readable {text : String} (h : text.toList.all isReadableChar = true) :
    ∃ value, ofText? text = some value := by
  rw [← Option.isSome_iff_exists, isSome_ofText?, List.all_eq_true]
  intro c hc
  exact isHeaderChar_of_readable (List.all_eq_true.1 h c hc)

/-- What was read from a header may stand in one. -/
theorem all_readable? {value : HeaderValue} {text : String} (h : value.readable? = some text) :
    text.toList.all isHeaderChar = true := by
  have hreadable := List.all_eq_true.1 (all_isReadableChar h)
  rw [List.all_eq_true]
  exact fun c hc => isHeaderChar_of_readable (hreadable c hc)

end HeaderValue

end EdgeRouting
