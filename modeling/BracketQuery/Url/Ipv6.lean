import BracketQuery.Url.Basic
import BracketQuery.Url.Encoding

/-!
IPv6 addresses in hosts: eight pieces of sixteen bits in hexadecimal, of which one run of zeros may
be written as `::` and the last two as an IPv4 address.
-/

namespace BracketQuery.Url.Ipv6

/-- The pieces read so far, and how many of them stand in front of the run of zeros. -/
structure Pieces where
  pieces : List Nat
  gap : Option Nat

/-- A byte in decimal without a leading zero. -/
def byte? (digits : List Char) : Option Nat :=
  let value := Text.decimalNumber digits
  if digits.isEmpty || !digits.all Char.isDigit || 255 < value then none
  else if digits.head? = some '0' && 1 < digits.length then none
  else some value

/-- The two pieces that an IPv4 address at the end stands for. -/
def ofIpv4? (text : List Char) : Option (List Nat) := do
  match ← (text.splitOn '.').mapM byte? with
  | [a, b, c, d] => some [256 * a + b, 256 * c + d]
  | _ => none

/-- Read pieces to the end of the text, in at most `fuel` steps. -/
def read? : Nat → List Char → Pieces → Option Pieces
  | _, [], state => some state
  | 0, _, _ => none
  | fuel + 1, text, state =>
    if 8 ≤ state.pieces.length then none
    else match text with
      | ':' :: rest =>
        if state.gap.isSome then none
        else read? fuel rest ⟨state.pieces ++ [0], some (state.pieces.length + 1)⟩
      | _ =>
        let digits := (text.take 4).takeWhile Text.isHexDigit
        let rest := text.drop digits.length
        let value := (Text.hexNumber? digits).getD 0
        match rest with
        | [] => some { state with pieces := state.pieces ++ [value] }
        | '.' :: _ =>
          if digits.isEmpty ∨ 6 < state.pieces.length then none
          else (ofIpv4? text).map fun pieces => { state with pieces := state.pieces ++ pieces }
        | [':'] => none
        | ':' :: rest => read? fuel rest { state with pieces := state.pieces ++ [value] }
        | _ => none

/-- The eight pieces that a text writes. -/
def pieces? (text : List Char) : Option (List Nat) := do
  let start : Pieces × List Char ← match text with
    | ':' :: ':' :: rest => some (⟨[0], some 1⟩, rest)
    | ':' :: _ => none
    | _ => some (⟨[], none⟩, text)
  let state ← read? (text.length + 1) start.2 start.1
  match state.gap with
  | some gap =>
    some (state.pieces.take gap ++ List.replicate (8 - state.pieces.length) 0 ++
      state.pieces.drop gap)
  | none => if state.pieces.length = 8 then some state.pieces else none

/-- How many zeros begin a list. -/
def leadingZeros (pieces : List Nat) : Nat := (pieces.takeWhile (· == 0)).length

/-- Where the longest run of at least two zeros begins, and how long it is; the first one of
several. -/
def longestRun? (pieces : List Nat) : Option (Nat × Nat) :=
  (List.range pieces.length).foldl (fun best i =>
    let length := leadingZeros (pieces.drop i)
    if 1 < length ∧ (best.map Prod.snd).getD 0 < length then some (i, length) else best) none

/-- A piece in hexadecimal. -/
def pieceText (piece : Nat) : String := String.ofList (Nat.toDigits 16 piece)

/-- The written form of an address, its longest run of zeros left out. -/
def text (pieces : List Nat) : String :=
  let join (pieces : List Nat) := ":".intercalate (pieces.map pieceText)
  match longestRun? pieces with
  | some (start, length) => join (pieces.take start) ++ "::" ++ join (pieces.drop (start + length))
  | none => join pieces

/-- The written form of the address between the brackets of a host, in brackets. -/
def parse (address : List Char) : Except Error String :=
  match pieces? address with
  | some pieces => .ok ("[" ++ text pieces ++ "]")
  | none => .error .invalidIpv6Address

end BracketQuery.Url.Ipv6
