/-!
# Bytes and text

`encode` gives the UTF-8 bytes of a text. `read` goes the other way on any bytes: well-formed
sequences become characters, and each longest beginning of a sequence that does not go on becomes
one `none`.
-/

namespace EdgeRouting.Utf8

def encode (text : String) : List UInt8 :=
  text.toList.flatMap String.utf8EncodeChar

/-- What the first byte of a longer sequence fixes: its own bits, how many bytes follow and the
range of the first of them. The narrow ranges leave out overlong forms, surrogates and values above
the last character. -/
structure Lead where
  bits : Nat
  following : Nat
  low : Nat := 0x80
  high : Nat := 0xBF

def lead? (b : Nat) : Option Lead :=
  if b < 0xC2 then none
  else if b < 0xE0 then some { bits := b - 0xC0, following := 1 }
  else if b = 0xE0 then some { bits := 0, following := 2, low := 0xA0 }
  else if b = 0xED then some { bits := 13, following := 2, high := 0x9F }
  else if b < 0xF0 then some { bits := b - 0xE0, following := 2 }
  else if b = 0xF0 then some { bits := 0, following := 3, low := 0x90 }
  else if b < 0xF4 then some { bits := b - 0xF0, following := 3 }
  else if b = 0xF4 then some { bits := 4, following := 3, high := 0x8F }
  else none

/-- Reads the bytes that follow a first byte, giving the character, if the sequence is complete, and
how many of them belong to it. -/
def readRest (bits low high : Nat) : Nat → List UInt8 → Option Char × Nat
  | 0, _ => (some (Char.ofNat bits), 0)
  | _ + 1, [] => (none, 0)
  | n + 1, b :: rest =>
    if low ≤ b.toNat ∧ b.toNat ≤ high then
      let (c, used) := readRest (bits * 64 + b.toNat % 64) 0x80 0xBF n rest
      (c, used + 1)
    else (none, 0)

/-- The characters and malformed sequences of `bytes`, of which the first `skipped` are passed
over. -/
def readFrom (skipped : Nat) : List UInt8 → List (Option Char)
  | [] => []
  | b :: rest =>
    match skipped with
    | n + 1 => readFrom n rest
    | 0 =>
      if b.toNat < 0x80 then some (Char.ofNat b.toNat) :: readFrom 0 rest
      else match lead? b.toNat with
        | none => none :: readFrom 0 rest
        | some l =>
          let (c, used) := readRest l.bits l.low l.high l.following rest
          c :: readFrom used rest

def read (bytes : List UInt8) : List (Option Char) :=
  readFrom 0 bytes

def decode? (bytes : List UInt8) : Option String :=
  ((read bytes).mapM id).map String.ofList

/-- The text of `bytes` with a replacement character for each malformed sequence. -/
def decodeLossy (bytes : List UInt8) : String :=
  String.ofList ((read bytes).map fun c => c.getD '\uFFFD')

end EdgeRouting.Utf8
