import BracketQuery.Json.Reader
import BracketQuery.Proofs.Binary64
import BracketQuery.Proofs.Json.Document

/-!
What a text holds is readable: its integers fit 64 bits, its doubles are finite, and the names of
its objects are distinct.
-/

namespace BracketQuery.Json

/-- Whatever has been read has a property. -/
def Reads {α : Type} (p : α → Prop) (reading : Except Fault (α × List Char)) : Prop :=
  ∀ value rest, reading = .ok (value, rest) → p value

namespace Reads

variable {α β : Type} {p : α → Prop} {q : β → Prop}

theorem error (fault : Fault) : Reads p (.error fault) := fun _ _ h => nomatch h

theorem ok {value : α} (rest : List Char) (h : p value) : Reads p (.ok (value, rest)) := by
  intro value' rest' he
  cases he
  exact h

theorem bind {γ : Type} {read : Except Fault γ} {next : γ → Except Fault (α × List Char)}
    (h : ∀ value, read = .ok value → Reads p (next value)) : Reads p (read >>= next) := by
  cases hr : read with
  | error fault => exact error fault
  | ok value => exact h value hr

theorem map {f : α × List Char → β × List Char} {reading : Except Fault (α × List Char)}
    (h : Reads p reading) (hf : ∀ value rest, p value → q (f (value, rest)).1) :
    Reads q (reading.map f) := by
  cases hr : reading with
  | error fault => exact error fault
  | ok result =>
      obtain ⟨value, rest⟩ := result
      exact ok (f (value, rest)).2 (hf value rest (h value rest hr))

end Reads

/-! ## Numbers -/

theorem takeDigits_lt (text : List Char) :
    ∀ {coefficient : Nat}, coefficient < 2 ^ 64 → (takeDigits coefficient text).1 < 2 ^ 64 := by
  induction text with
  | nil => exact fun h => h
  | cons c rest ih =>
      intro coefficient h
      rw [takeDigits]
      split
      · rename_i hl
        exact ih hl
      · exact h

section

variable (negative : Bool) {coefficient : Nat} (hc : coefficient < 2 ^ 64)

include hc

theorem reads_finishFloat (exponent : Int) (rest : List Char) :
    Reads Number.IsReadable (finishFloat negative coefficient exponent rest) := by
  unfold finishFloat
  split
  · rename_i x hx
    exact .ok rest (Binary64.isFinite_ofScaled? (Nat.le_of_lt hc) hx)
  · exact .error _

theorem reads_readExponent (exponent : Int) (text : List Char) :
    Reads Number.IsReadable (readExponent negative coefficient exponent text) := by
  have hzero : (Number.float (Binary64.zero negative)).IsReadable :=
    Binary64.isFinite_ofFields negative (by decide)
  unfold readExponent
  simp only
  repeat' split
  all_goals first
    | exact .error _
    | exact .ok _ hzero
    | exact reads_finishFloat negative hc _ _

theorem reads_readAfterDigits (places : Nat) (text : List Char) :
    Reads Number.IsReadable (readAfterDigits negative coefficient places text) := by
  have hmore (digits : List Char) := takeDigits_lt digits hc
  have hpos : (Number.integer coefficient).IsReadable := ⟨by omega, by omega⟩
  unfold readAfterDigits
  split
  · simp only
    repeat' split
    all_goals first
      | exact .error _
      | exact reads_readExponent negative (hmore _) _ _
      | exact reads_finishFloat negative (hmore _) _ _
  · exact reads_readExponent negative hc _ _
  · exact reads_readExponent negative hc _ _
  · split
    · exact reads_finishFloat negative hc _ _
    · split
      · exact .ok _ hpos
      · split
        · rename_i hneg
          exact .ok _ ⟨by omega, by omega⟩
        · exact reads_finishFloat true hc _ _

end

theorem reads_readUnsigned (negative : Bool) (text : List Char) :
    Reads Number.IsReadable (readUnsigned negative text) := by
  have hzero : 0 < 2 ^ 64 := by decide
  unfold readUnsigned
  split
  · exact .error _
  · split
    · split
      · exact .error _
      · exact reads_readAfterDigits negative hzero _ _
    · exact reads_readAfterDigits negative hzero _ _
  · split
    · exact reads_readAfterDigits negative (takeDigits_lt _ hzero) _ _
    · exact .error _

theorem reads_readNumber (text : List Char) : Reads Number.IsReadable (readNumber text) := by
  unfold readNumber
  split
  · exact reads_readUnsigned true _
  · exact reads_readUnsigned false _

/-! ## Values -/

theorem reads_literal {value : Json} {rest : Except Fault (List Char)} (h : value.IsReadable) :
    Reads IsReadable (rest.map fun rest => (value, rest)) := by
  cases rest with
  | error fault => exact .error fault
  | ok rest => exact .ok rest h

theorem reads_readScalarOr {container : List Char → Reading Json}
    (h : ∀ text, Reads IsReadable (container text)) (text : List Char) :
    Reads IsReadable (readScalarOr container text) := by
  unfold readScalarOr
  split
  · exact .error _
  · exact reads_literal trivial
  · exact reads_literal trivial
  · exact reads_literal trivial
  · exact Reads.map (p := fun _ => True) (fun _ _ _ => trivial) fun _ _ _ => trivial
  · split
    · exact h _
    · split
      · exact (reads_readNumber _).map fun _ _ hn => hn
      · exact .error _

section

variable {item : List Char → Reading Json} (hitem : ∀ text, Reads IsReadable (item text))

include hitem

theorem reads_readElements (fuel : Nat) :
    ∀ first text, Reads (fun elements => ∀ element ∈ elements, element.IsReadable)
      (readElements item fuel first text) := by
  induction fuel with
  | zero => exact fun _ _ => .error _
  | succ fuel ih =>
      intro first text
      refine .bind fun next _ => ?_
      cases next with
      | none => exact .bind fun rest _ => .ok rest (by simp)
      | some text =>
          refine .bind fun head hhead => .bind fun tail htail => .ok _ ?_
          exact List.forall_mem_cons.mpr
            ⟨hitem text head.1 head.2 hhead, ih false head.2 tail.1 tail.2 htail⟩

theorem reads_readMembers (fuel : Nat) :
    ∀ first text, Reads (fun members => ∀ member ∈ members, member.2.IsReadable)
      (readMembers item fuel first text) := by
  induction fuel with
  | zero => exact fun _ _ => .error _
  | succ fuel ih =>
      intro first text
      refine .bind fun next _ => ?_
      cases next with
      | none => exact .bind fun rest _ => .ok rest (by simp)
      | some text =>
          refine .bind fun name _ => .bind fun text _ => .bind fun head hhead => .bind fun tail htail =>
            .ok _ ?_
          exact List.forall_mem_cons.mpr
            ⟨hitem text head.1 head.2 hhead, ih false head.2 tail.1 tail.2 htail⟩

end

theorem reads_readValue (levels : Nat) : ∀ text, Reads IsReadable (readValue levels text) := by
  induction levels with
  | zero => exact reads_readScalarOr fun _ => .error _
  | succ levels ih =>
      refine reads_readScalarOr fun text => ?_
      simp only
      split
      · exact (reads_readElements ih _ _ _).map fun _ _ h => isReadable_array.mpr h
      · exact (reads_readMembers ih _ _ _).map fun _ _ h => isReadable_ofMembers h

/-- Every document that a text holds is readable. -/
theorem isReadable_of_parse {text : String} {document : Json} (h : parse text = .ok document) :
    document.IsReadable := by
  unfold parse readAll at h
  simp only at h
  split at h
  · nomatch h
  · rename_i value rest hread
    split at h
    · nomatch h
    · cases h
      exact reads_readValue maxDepth text.toList document rest hread

end BracketQuery.Json
