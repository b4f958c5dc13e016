import PluginGateway.Text.Basic
import PluginGateway.Url.Percent

/-!
# Addresses of hosts

A host may be given by its address on the network instead of a name. Both kinds of addresses are
read and written here.
-/

namespace PluginGateway.Url.Ipv4

/-! ## IPv4 addresses

An address has one to four parts, each a decimal, octal (`0…`) or hexadecimal (`0x…`) number; the
last part fills all bytes that the others leave. `endsInNumber` tells a host that has to be an
address from a domain name.
-/

/-- The value of a text of digits in the base given, none if it holds another character. -/
def valueIn? (base : Nat) (s : List Char) : Option Nat :=
  s.foldl (fun n c => n.bind fun n => (Text.hexValue? c).bind fun d =>
    if d < base then some (n * base + d) else none) (some 0)

/-- The value of a part. -/
def partValue? (s : List Char) : Option Nat :=
  match s with
  | [] => none
  | '0' :: 'x' :: digits => valueIn? 16 digits
  | '0' :: 'X' :: digits => valueIn? 16 digits
  | '0' :: d :: digits => valueIn? 8 (d :: digits)
  | digits => valueIn? 10 digits

/-- The parts between the points; a point at the end is passed over. -/
def parts (host : List Char) : List (List Char) :=
  let ps := Text.split '.' host
  if ps.getLast? = some [] then ps.dropLast else ps

/-- The last part is a number. -/
def endsInNumber (host : List Char) : Bool :=
  match (parts host).getLast? with
  | none => false
  | some last => !last.isEmpty && (last.all Char.isDigit || (partValue? last).isSome)

/-- The address of the values of its parts. -/
def ofValues? (values : List Nat) : Option Nat :=
  match values.reverse with
  | [] => none
  | last :: front =>
    let bound := Nat.pow 256 (4 - front.length)
    if 4 ≤ front.length || front.any (255 < ·) || bound ≤ last then none
    else some (front.reverse.foldl (fun n v => n * 256 + v) 0 * bound + last)

/-- The address that a host spells. -/
def parse? (host : List Char) : Option Nat := ((parts host).mapM partValue?).bind ofValues?

/-- The address with its four bytes in decimal. -/
def written (address : Nat) : List Char :=
  Text.join '.' ([16777216, 65536, 256, 1].map fun u => Nat.toDigits 10 (address / u % 256))

end PluginGateway.Url.Ipv4

namespace PluginGateway.Url.Ipv6

/-! ## IPv6 addresses

An address has eight pieces of 16 bits. In writing a run of zero pieces may be left out once,
between two colons, and the last two pieces may be an IPv4 address. The form written out here leaves
out the first of the longest runs of at least two zero pieces.
-/

/-- A piece: one to four hexadecimal digits. -/
def piece? (s : List Char) : Option Nat :=
  if s.isEmpty || 4 < s.length then none else Ipv4.valueIn? 16 s

/-- A decimal byte without leading zeros. -/
def decimalByte? (s : List Char) : Option Nat :=
  if s.isEmpty || (s.head? = some '0' && 1 < s.length) then none
  else (Ipv4.valueIn? 10 s).bind fun n => if n ≤ 255 then some n else none

/-- The two pieces of an IPv4 address at the end. -/
def embedded? (s : List Char) : Option (List Nat) :=
  match (Text.split '.' s).mapM decimalByte? with
  | some [a, b, c, d] => some [a * 256 + b, c * 256 + d]
  | _ => none

/-- The pieces between colons; `final` says that an IPv4 address may stand at the end. -/
def groups? (final : Bool) : List (List Char) → Option (List Nat)
  | [] => some []
  | [g] =>
    match piece? g with
    | some n => some [n]
    | none => if final then embedded? g else none
  | g :: h :: rest => (piece? g).bind fun n => (groups? final (h :: rest)).map (n :: ·)

/-- The pieces of one side of the gap; an empty side has none. -/
def side? (final : Bool) (s : List Char) : Option (List Nat) :=
  if s.isEmpty then some [] else groups? final (Text.split ':' s)

/-- The texts before and behind the first pair of colons. -/
def splitGap : List Char → Option (List Char × List Char)
  | ':' :: ':' :: rest => some ([], rest)
  | c :: rest => (splitGap rest).map fun p => (c :: p.1, p.2)
  | [] => none

/-- The eight pieces that a text spells. -/
def parse? (s : List Char) : Option (List Nat) :=
  match splitGap s with
  | none => (groups? true (Text.split ':' s)).bind fun ps => if ps.length = 8 then some ps else none
  | some (front, back) =>
    match side? false front, side? true back with
    | some a, some b =>
      if a.length + b.length ≤ 7 then
        some (a ++ List.replicate (8 - a.length - b.length) 0 ++ b)
      else none
    | _, _ => none

/-- How many zero pieces stand at the head. -/
def zerosAtHead (ps : List Nat) : Nat := (ps.takeWhile (· == 0)).length

/-- The first of the longest runs of zero pieces: how many pieces stand before it, and its length.
-/
def longestZeros : List Nat → Nat × Nat
  | [] => (0, 0)
  | p :: rest =>
    let later := longestZeros rest
    if later.2 ≤ zerosAtHead (p :: rest) then (0, zerosAtHead (p :: rest))
    else (later.1 + 1, later.2)

/-- Pieces in hexadecimal, with colons between them. -/
def writtenPieces (ps : List Nat) : List Char := Text.join ':' (ps.map (Nat.toDigits 16))

/-- The address in writing, without its brackets. -/
def written (ps : List Nat) : List Char :=
  let run := longestZeros ps
  if run.2 < 2 then writtenPieces ps
  else
    writtenPieces (ps.take run.1) ++ [':', ':'] ++ writtenPieces (ps.drop (run.1 + run.2))

end PluginGateway.Url.Ipv6
