import EdgeRouting.Text.Utf8
import Mathlib.Data.List.Basic

/-!
# Text and its bytes

The bytes of a text are read as that text, and so without any replacement character that it does not
hold itself.
-/

namespace EdgeRouting.Utf8

def following (n : Nat) : UInt8 :=
  UInt8.ofNat (n % 64 + 0x80)

theorem toNat_following (n : Nat) : (following n).toNat = n % 64 + 0x80 := by
  rw [following, UInt8.toNat_ofNat', Nat.mod_eq_of_lt (by omega)]

theorem readFrom_drop {n : Nat} {bytes : List UInt8} (h : bytes.length = n) (rest : List UInt8) :
    readFrom n (bytes ++ rest) = readFrom 0 rest := by
  induction bytes generalizing n with
  | nil =>
    subst h
    rfl
  | cons b bytes ih =>
    subst h
    rw [List.cons_append, List.length_cons, readFrom]
    exact ih rfl

theorem readRest_following {low high n : Nat} (hlow : low ≤ n % 64 + 0x80)
    (hhigh : n % 64 + 0x80 ≤ high) (bits more : Nat) (rest : List UInt8) :
    readRest bits low high (more + 1) (following n :: rest) =
      ((readRest (bits * 64 + n % 64) 0x80 0xBF more rest).1,
        (readRest (bits * 64 + n % 64) 0x80 0xBF more rest).2 + 1) := by
  rw [readRest, toNat_following, if_pos ⟨hlow, hhigh⟩]
  have hbits : (n % 64 + 0x80) % 64 = n % 64 := by omega
  rw [hbits]

theorem readFrom_lead {b : Nat} {l : Lead} (hb : 0x80 ≤ b) (hbyte : b < 256)
    (hlead : lead? b = some l) {c : Char} {bytes : List UInt8} (rest : List UInt8)
    (h : readRest l.bits l.low l.high l.following (bytes ++ rest) = (some c, bytes.length)) :
    readFrom 0 (UInt8.ofNat b :: (bytes ++ rest)) = some c :: readFrom 0 rest := by
  have htoNat : (UInt8.ofNat b).toNat = b := by
    rw [UInt8.toNat_ofNat', Nat.mod_eq_of_lt hbyte]
  rw [readFrom, htoNat, if_neg (Nat.not_lt.2 hb), hlead]
  dsimp only
  rw [h, readFrom_drop rfl]

theorem lead?_two {n : Nat} (hlow : 2 ≤ n) (hhigh : n < 32) :
    lead? (n + 0xC0) = some { bits := n, following := 1 } := by
  rw [lead?, if_neg (by omega), if_pos (by omega), Nat.add_sub_cancel]

/-- After the first byte of three, the second keeps clear of overlong forms and of surrogates. -/
theorem lead?_three {n : Nat} (hlow : 0x800 ≤ n) (hhigh : n ≤ 0xFFFF)
    (hvalid : n < 0xD800 ∨ 0xDFFF < n) :
    ∃ low high, lead? (n / 4096 + 0xE0) = some ⟨n / 4096, 2, low, high⟩ ∧
      low ≤ n / 64 % 64 + 0x80 ∧ n / 64 % 64 + 0x80 ≤ high := by
  rw [lead?, if_neg (by omega), if_neg (by omega)]
  by_cases hfirst : n / 4096 + 0xE0 = 0xE0
  · refine ⟨0xA0, 0xBF, ?_, by omega, by omega⟩
    rw [if_pos hfirst, show n / 4096 = 0 by omega]
  · by_cases hsurrogates : n / 4096 + 0xE0 = 0xED
    · refine ⟨0x80, 0x9F, ?_, by omega, by omega⟩
      rw [if_neg hfirst, if_pos hsurrogates, show n / 4096 = 13 by omega]
    · refine ⟨0x80, 0xBF, ?_, by omega, by omega⟩
      rw [if_neg hfirst, if_neg hsurrogates, if_pos (by omega), Nat.add_sub_cancel]

/-- After the first byte of four, the second keeps clear of overlong forms and of numbers beyond the
last character. -/
theorem lead?_four {n : Nat} (hlow : 0xFFFF < n) (hhigh : n ≤ 0x10FFFF) :
    ∃ low high, lead? (n / 262144 + 0xF0) = some ⟨n / 262144, 3, low, high⟩ ∧
      low ≤ n / 4096 % 64 + 0x80 ∧ n / 4096 % 64 + 0x80 ≤ high := by
  rw [lead?, if_neg (by omega), if_neg (by omega), if_neg (by omega), if_neg (by omega),
    if_neg (by omega)]
  by_cases hfirst : n / 262144 + 0xF0 = 0xF0
  · refine ⟨0x90, 0xBF, ?_, by omega, by omega⟩
    rw [if_pos hfirst, show n / 262144 = 0 by omega]
  · by_cases hlast : n / 262144 + 0xF0 = 0xF4
    · refine ⟨0x80, 0x8F, ?_, by omega, by omega⟩
      rw [if_neg hfirst, if_neg (by omega), if_pos hlast, show n / 262144 = 4 by omega]
    · refine ⟨0x80, 0xBF, ?_, by omega, by omega⟩
      rw [if_neg hfirst, if_pos (by omega), Nat.add_sub_cancel]

theorem utf8EncodeChar_eq (c : Char) : String.utf8EncodeChar c =
    if c.toNat ≤ 0x7F then [UInt8.ofNat c.toNat]
    else if c.toNat ≤ 0x7FF then [UInt8.ofNat (c.toNat / 64 % 32 + 0xC0), following c.toNat]
    else if c.toNat ≤ 0xFFFF then
      [UInt8.ofNat (c.toNat / 4096 % 16 + 0xE0), following (c.toNat / 64), following c.toNat]
    else
      [UInt8.ofNat (c.toNat / 262144 % 8 + 0xF0), following (c.toNat / 4096),
        following (c.toNat / 64), following c.toNat] := rfl

theorem readFrom_utf8EncodeChar (c : Char) (rest : List UInt8) :
    readFrom 0 (String.utf8EncodeChar c ++ rest) = some c :: readFrom 0 rest := by
  have hchar : Char.ofNat c.toNat = c := Char.ofNat_toNat c
  have hvalid : c.toNat < 0xD800 ∨ 0xDFFF < c.toNat ∧ c.toNat < 0x110000 := c.valid
  rw [utf8EncodeChar_eq]
  split_ifs with hone htwo hthree
  · have hbyte : (UInt8.ofNat c.toNat).toNat = c.toNat := by
      rw [UInt8.toNat_ofNat', Nat.mod_eq_of_lt (by omega)]
    rw [List.singleton_append, readFrom, hbyte, if_pos (by omega), hchar]
  · have hlead := @lead?_two (c.toNat / 64) (by omega) (by omega)
    have hbits : c.toNat / 64 * 64 + c.toNat % 64 = c.toNat := by omega
    rw [List.cons_append, show c.toNat / 64 % 32 = c.toNat / 64 by omega]
    refine readFrom_lead (by omega) (by omega) hlead rest ?_
    dsimp only
    rw [List.singleton_append, readRest_following (by omega) (by omega), readRest, hbits, hchar]
    rfl
  · obtain ⟨low, high, hlead, hlow, hhigh⟩ := @lead?_three c.toNat (by omega) hthree (by omega)
    have hbits : (c.toNat / 4096 * 64 + c.toNat / 64 % 64) * 64 + c.toNat % 64 = c.toNat := by omega
    rw [List.cons_append, show c.toNat / 4096 % 16 = c.toNat / 4096 by omega]
    refine readFrom_lead (by omega) (by omega) hlead rest ?_
    rw [List.cons_append, List.singleton_append, readRest_following hlow hhigh,
      readRest_following (by omega) (by omega), readRest, hbits, hchar]
    rfl
  · obtain ⟨low, high, hlead, hlow, hhigh⟩ := @lead?_four c.toNat (by omega) (by omega)
    have hbits : ((c.toNat / 262144 * 64 + c.toNat / 4096 % 64) * 64 + c.toNat / 64 % 64) * 64 +
        c.toNat % 64 =
        c.toNat := by omega
    rw [List.cons_append, show c.toNat / 262144 % 8 = c.toNat / 262144 by omega]
    refine readFrom_lead (by omega) (by omega) hlead rest ?_
    rw [List.cons_append, List.cons_append, List.singleton_append, readRest_following hlow hhigh,
      readRest_following (by omega) (by omega), readRest_following (by omega) (by omega), readRest,
      hbits, hchar]
    rfl

/-- A text is got back from its bytes. -/
theorem decodeLossy_encode (text : String) : decodeLossy (encode text) = text := by
  have hread : ∀ chars : List Char,
      readFrom 0 (chars.flatMap String.utf8EncodeChar) = chars.map some := by
    intro chars
    induction chars with
    | nil => rfl
    | cons c chars ih => rw [List.flatMap_cons, readFrom_utf8EncodeChar, ih, List.map_cons]
  have hsome : (fun c : Option Char => c.getD '\uFFFD') ∘ some = id := rfl
  rw [decodeLossy, read, encode, hread, List.map_map, hsome, List.map_id, String.ofList_toList]

end EdgeRouting.Utf8
