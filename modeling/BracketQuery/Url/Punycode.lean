/-!
Labels of domain names in ASCII. The ASCII characters of a label come first; after a hyphen, every
other character is inserted by a number that says how far to go on from the last insertion, counted
in code points times places. The numbers are written with digits of varying weight, which adapt to
the numbers already written.
-/

namespace BracketQuery.Url.Punycode

/-- The character of a digit below thirty-six. -/
def digitChar (digit : Nat) : Char :=
  if digit < 26 then Char.ofNat (97 + digit) else Char.ofNat (22 + digit)

/-- The digit that a character of either case writes. -/
def digitValue? (c : Char) : Option Nat :=
  if 'a' ≤ c ∧ c ≤ 'z' then some (c.toNat - 97)
  else if 'A' ≤ c ∧ c ≤ 'Z' then some (c.toNat - 65)
  else if '0' ≤ c ∧ c ≤ '9' then some (c.toNat - 22)
  else none

/-- The least digit that is not the last one of its number, at a place given by `k`. -/
def threshold (k bias : Nat) : Nat :=
  if k ≤ bias + 1 then 1 else if bias + 26 ≤ k then 26 else k - bias

theorem one_le_threshold (k bias : Nat) : 1 ≤ threshold k bias := by
  unfold threshold; split <;> (try split) <;> omega

theorem threshold_le (k bias : Nat) : threshold k bias ≤ 26 := by
  unfold threshold; split <;> (try split) <;> omega

/-- Divide until the number is small, and count the divisions in steps of a whole digit. -/
def settle (delta k : Nat) : Nat :=
  if 455 < delta then settle (delta / 35) (k + 36) else k + 36 * delta / (delta + 38)
termination_by delta
decreasing_by omega

/-- The bias after a number, of which `points` characters have been inserted. -/
def adapt (delta points : Nat) (first : Bool) : Nat :=
  let delta := if first then delta / 700 else delta / 2
  settle (delta + delta / points) 0

/-- The digits of a number. -/
def encodeNumber (bias k q : Nat) : List Char :=
  let t := threshold k bias
  if q < t then [digitChar q]
  else digitChar (t + (q - t) % (36 - t)) :: encodeNumber bias (k + 36) ((q - t) / (36 - t))
termination_by q
decreasing_by
  have := one_le_threshold k bias
  have := threshold_le k bias
  exact Nat.lt_of_le_of_lt (Nat.div_le_self _ _) (by omega)

/-- What has been written, the number to write next, the bias, and the characters inserted. -/
structure State where
  output : List Char
  delta : Nat
  bias : Nat
  handled : Nat

/-- Pass one character of the label while `point` is being inserted. -/
def encodeStep (basic point : Nat) (state : State) (c : Char) : State :=
  if c.toNat < point then { state with delta := state.delta + 1 }
  else if c.toNat = point then
    { output := state.output ++ encodeNumber state.bias 36 state.delta
      delta := 0
      bias := adapt state.delta (state.handled + 1) (state.handled == basic)
      handled := state.handled + 1 }
  else state

/-- Insert the characters with the given code points, in order, of which the first is at least `n`.
-/
def encodePoints (label : List Char) (basic : Nat) : List Nat → Nat → State → State
  | [], _, state => state
  | point :: rest, n, state =>
    let state := { state with delta := state.delta + (point - n) * (state.handled + 1) }
    let state := label.foldl (encodeStep basic point) state
    encodePoints label basic rest (point + 1) { state with delta := state.delta + 1 }

/-- The ASCII form of a label. -/
def encode (label : List Char) : List Char :=
  let ascii := label.filter fun c => c.toNat < 128
  let points := ((label.filter fun c => 128 ≤ c.toNat).map Char.toNat).mergeSort.eraseDups
  let state := encodePoints label ascii.length points 128 ⟨[], 0, 72, ascii.length⟩
  ascii ++ (if ascii.isEmpty then [] else ['-']) ++ state.output

/-- Read one number, which is added to `i` with the weight `w`. -/
def decodeNumber? (bias : Nat) : List Char → (k i w : Nat) → Option (Nat × List Char)
  | [], _, _, _ => none
  | c :: rest, k, i, w =>
    match digitValue? c with
    | none => none
    | some digit =>
      let i := i + digit * w
      let t := threshold k bias
      if digit < t then some (i, rest) else decodeNumber? bias rest (k + 36) i (w * (36 - t))

/-- Insert characters until the text ends, in at most `fuel` steps. -/
def decodePoints? : Nat → List Char → (n i bias : Nat) → List Char → Option (List Char)
  | _, [], _, _, _, output => some output
  | 0, _, _, _, _, _ => none
  | fuel + 1, text, n, i, bias, output => do
    let (sum, rest) ← decodeNumber? bias text 36 i 1
    let places := output.length + 1
    let point := n + sum / places
    let place := sum % places
    if point < 128 ∨ 0x10FFFF < point ∨ (0xD800 ≤ point ∧ point ≤ 0xDFFF) then none
    else
      decodePoints? fuel rest point (place + 1) (adapt (sum - i) places (i == 0))
        (output.take place ++ Char.ofNat point :: output.drop place)

/-- The label that an ASCII form stands for. The hyphen before the numbers is not written where
there are no ASCII characters. -/
def decode? (text : List Char) : Option (List Char) :=
  let parts := text.splitOn '-'
  let ascii := List.intercalate ['-'] parts.dropLast
  let rest := parts.getLast?.getD []
  if ascii.isEmpty && 1 < parts.length then none
  else decodePoints? (rest.length + 1) rest 128 0 72 ascii

end BracketQuery.Url.Punycode
