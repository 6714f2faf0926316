import BracketQuery.Regex.FoldData
import BracketQuery.Regex.Property

/-!
Characters that differ in case alone. All of them are known by one that stands for them.
-/

namespace BracketQuery.Regex

/-- The table of the characters that stand for others. -/
structure Folding where
  runs : List Text.Run

namespace Folding

/-- The table of the Unicode standard. -/
def standard : Folding := ⟨Text.Run.table foldRuns⟩

/-- The table of the English letters. -/
def ascii : Folding := ⟨[⟨0x41, 0x5a, [0x61]⟩]⟩

/-- The character that stands for a character. -/
def leader (folding : Folding) (c : Char) : Char :=
  (((Text.runOf? folding.runs c).map fun run => run.image c).bind List.head?).getD c

/-- The character of a run for which a character stands. -/
def memberOf? (leader : Char) (run : Text.Run) : Option Char :=
  match run.values with
  | [start] =>
    if start ≤ leader.toNat ∧ leader.toNat ≤ start + (run.last - run.first) then
      some (Char.ofNat (run.first + (leader.toNat - start)))
    else none
  | _ => none

/-- The characters that differ from a character at most in case. -/
def kin (folding : Folding) (c : Char) : List Char :=
  let leader := folding.leader c
  leader :: folding.runs.filterMap (memberOf? leader)

/-- A set with all characters that differ from one of its characters in case alone. -/
def close (folding : Folding) (set : CharSet) : CharSet :=
  ⟨fun c => set.has c || (folding.kin c).any set.has, 2 * set.size⟩

/-- The characters that differ from a character at most in case, where there are others. -/
def kinSet? (folding : Folding) (c : Char) : Option CharSet :=
  match folding.kin c with
  | [] | [_] => none
  | kin => some (.ofRanges (kin.map fun c => (c.toNat, c.toNat)))

end Folding

end BracketQuery.Regex
