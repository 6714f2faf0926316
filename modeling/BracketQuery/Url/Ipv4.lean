import BracketQuery.Arithmetic
import BracketQuery.Url.Basic
import BracketQuery.Url.Encoding

/-!
IPv4 addresses in hosts. Up to four numbers stand for the address, the last of them for all bytes
that are left; each number may be decimal, octal with a leading zero, or hexadecimal.
-/

namespace BracketQuery.Url.Ipv4

/-- The digits of a number with the base that its beginning shows. -/
def digitsOf (part : List Char) : Nat × List Char :=
  match part with
  | '0' :: 'x' :: digits | '0' :: 'X' :: digits => (16, digits)
  | '0' :: d :: digits => (8, d :: digits)
  | digits => (10, digits)

/-- The number that a part of an address writes; no digits after `0x` stand for zero. -/
def number? (part : List Char) : Option Nat :=
  if part.isEmpty then none
  else
    let (base, digits) := digitsOf part
    digits.foldlM (fun n c =>
      match Text.hexValue? c with
      | some digit => if digit < base then some (base * n + digit) else none
      | none => none) 0

/-- The parts of a host between its dots, without an empty one at the end. -/
def parts (host : List Char) : List (List Char) :=
  let parts := host.splitOn '.'
  if parts.getLast? = some [] then parts.dropLast else parts

/-- Whether the last part of a host is a number, so that the host must be an address. -/
def isAddress (host : List Char) : Bool :=
  match (parts host).getLast? with
  | some last => !last.isEmpty && (last.all Char.isDigit || (number? last).isSome)
  | none => false

/-- The address that numbers stand for. -/
def ofNumbers? (numbers : List Nat) : Option Nat :=
  let leading := numbers.dropLast
  match numbers.getLast? with
  | none => none
  | some last =>
    if 3 < leading.length ∨ leading.any (255 < ·) ∨ 256 ^ (4 - leading.length) ≤ last then none
    else some ((leading.mapIdx fun i n => n * 256 ^ (3 - i)).sum + last)

/-- The four numbers of an address, joined by dots. -/
def text (address : Nat) : String :=
  ".".intercalate ([3, 2, 1, 0].map fun place => toString (address / 256 ^ place % 256))

/-- The written form of the address that a host is. -/
def parse (host : List Char) : Except Error String :=
  match ((parts host).mapM number?).bind ofNumbers? with
  | some address => .ok (text address)
  | none => .error .invalidIpv4Address

end BracketQuery.Url.Ipv4
