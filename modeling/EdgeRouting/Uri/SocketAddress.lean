import EdgeRouting.Text.Digits
import EdgeRouting.Text.Scan

/-!
# Socket addresses

An address of four octets or eight groups, with a port. Groups stand in brackets, may be followed by
the number of a scope, may leave out one run of zeros, and may end in four octets.
-/

namespace EdgeRouting

inductive IpAddress
  | octets (values : List Nat)
  | groups (values : List Nat) (scope : Nat)
  deriving DecidableEq, Repr

structure SocketAddress where
  ip : IpAddress
  port : Nat
  deriving DecidableEq, Repr

namespace SocketAddress

def skipSeparator? (separator : Char) (isFirst : Bool) (text : List Char) : Option (List Char) :=
  if isFirst then some text else Scan.char? separator text

/-- Up to three digits below 256, without zeros in front. -/
def readOctet? (text : List Char) : Option (Nat × List Char) := do
  let (digits, n, rest) ← Digits.read? 10 text
  if 3 < digits.length || 255 < n || (1 < digits.length && digits.head? = some '0') then none
  return (n, rest)

def readOctets? (text : List Char) : Option (List Nat × List Char) := do
  let (a, rest) ← readOctet? text
  let (b, rest) ← readOctet? (← Scan.char? '.' rest)
  let (c, rest) ← readOctet? (← Scan.char? '.' rest)
  let (d, rest) ← readOctet? (← Scan.char? '.' rest)
  return ([a, b, c, d], rest)

def readOctetGroups? (text : List Char) : Option (List Nat × List Char) := do
  match ← readOctets? text with
  | ([a, b, c, d], rest) => return ([a * 256 + b, c * 256 + d], rest)
  | _ => none

def readGroup? (text : List Char) : Option (Nat × List Char) := do
  let (digits, n, rest) ← Digits.read? 16 text
  if 4 < digits.length then none
  return (n, rest)

/-- Groups as far as they go, with room for so many. Octets take the room of two groups and end
them. -/
def readGroups (isFirst : Bool) : (room : Nat) → List Char → List Nat × Bool × List Char
  | 0, text => ([], false, text)
  | room + 1, text =>
    let embedded :=
      if room = 0 then none else (skipSeparator? ':' isFirst text).bind readOctetGroups?
    match embedded with
    | some (groups, rest) => (groups, true, rest)
    | none =>
      match (skipSeparator? ':' isFirst text).bind readGroup? with
      | none => ([], false, text)
      | some (group, rest) =>
        let (groups, endsInOctets, rest) := readGroups false room rest
        (group :: groups, endsInOctets, rest)

/-- Eight groups, or fewer with two colons for the zeros left out, at least one. -/
def readAllGroups? (text : List Char) : Option (List Nat × List Char) := do
  let (front, endsInOctets, rest) := readGroups true 8 text
  if front.length = 8 then return (front, rest)
  if endsInOctets then none
  let rest ← Scan.char? ':' (← Scan.char? ':' rest)
  let (back, _, rest) := readGroups true (7 - front.length) rest
  return (front ++ List.replicate (8 - front.length - back.length) 0 ++ back, rest)

/-- A number after a percent sign; no such sign stands for zero. -/
def readScope? : List Char → Option (Nat × List Char)
  | '%' :: rest => do
    let (_, n, rest) ← Digits.read? 10 rest
    if n < 4294967296 then return (n, rest) else none
  | rest => some (0, rest)

def readPort? (text : List Char) : Option (Nat × List Char) := do
  let (_, n, rest) ← Digits.read? 10 (← Scan.char? ':' text)
  if n < 65536 then return (n, rest) else none

def read? (text : List Char) : Option (SocketAddress × List Char) :=
  match text with
  | '[' :: rest => do
    let (groups, rest) ← readAllGroups? rest
    let (scope, rest) ← readScope? rest
    let (port, rest) ← readPort? (← Scan.char? ']' rest)
    return (⟨.groups groups scope, port⟩, rest)
  | _ => do
    let (octets, rest) ← readOctets? text
    let (port, rest) ← readPort? rest
    return (⟨.octets octets, port⟩, rest)

def ofText? (text : String) : Option SocketAddress := do
  let (address, rest) ← read? text.toList
  if rest.isEmpty then return address else none

def octetsText (octets : List Nat) : String :=
  ".".intercalate (octets.map toString)

def groupsText (groups : List Nat) : String :=
  ":".intercalate (groups.map fun group => String.ofList (Nat.toDigits 16 group))

def longestZeros (groups : List Nat) : Nat × Nat :=
  (List.range groups.length).foldl (fun (start, length) next =>
    let found := ((groups.drop next).takeWhile (· == 0)).length
    if length < found then (next, found) else (start, length)) (0, 0)

end SocketAddress

/-- Two or more zeros are left out once, and octets that stand for groups are written as octets. -/
def IpAddress.text : IpAddress → String
  | .octets values => SocketAddress.octetsText values
  | .groups [0, 0, 0, 0, 0, 0xFFFF, a, b] _ =>
    "::ffff:" ++ SocketAddress.octetsText [a / 256, a % 256, b / 256, b % 256]
  | .groups values _ =>
    let (start, length) := SocketAddress.longestZeros values
    if 1 < length then
      SocketAddress.groupsText (values.take start) ++ "::" ++
        SocketAddress.groupsText (values.drop (start + length))
    else SocketAddress.groupsText values

def SocketAddress.text (address : SocketAddress) : String :=
  match address.ip with
  | .octets _ => s!"{address.ip.text}:{address.port}"
  | .groups _ 0 => s!"[{address.ip.text}]:{address.port}"
  | .groups _ scope => s!"[{address.ip.text}%{scope}]:{address.port}"

end EdgeRouting
