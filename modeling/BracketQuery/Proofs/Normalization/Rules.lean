import BracketQuery.Normalization.Walk
import BracketQuery.Proofs.Calendar
import BracketQuery.Proofs.TypeCodes

/-!
The two rules of normalization on single values: what becomes of a type code and of a calendar date,
and what is noted about it.
-/

namespace BracketQuery.Normalization

namespace Options

theorem standard_eq : standard = ⟨"type",
    ⟨["sale", "purchase", "return", "transfer", "adjustment", "partial_invoice"]⟩, true⟩ := by
  rw [standard, TypeCodes.standard_eq]

variable (o : Options)

/-- The known code that a value stands for. -/
def code? (value : Scalar) : Option String := value.string?.bind o.typeCodes.canonicalize?

/-- The instant that is put in the place of a value. -/
def instant? : Scalar → Option String
  | .string text => if o.expandDates then Calendar.expand? text else none
  | _ => none

/-- A value with a calendar date expanded. -/
def expanded (value : Scalar) : Scalar := ((o.instant? value).map Scalar.string).getD value

/-- The known codes that values stand for. -/
def codes (values : List Scalar) : List Scalar :=
  values.filterMap fun value => (o.code? value).map Scalar.string

/-- What is noted when a calendar date is looked for in a value. -/
def dateChanges (value : Scalar) : List Change :=
  if (o.instant? value).isSome then [.expandedDate] else []

/-- What is noted when a type code of the operator at a path is looked up. -/
def codeChanges (path : KeyPath) (value : Scalar) : List Change :=
  match o.code? value with
  | some code => if value = .string code then [] else [.canonicalizedCode]
  | none => [.dropped path value.wireText]

end Options

variable (o : Options)

@[simp] theorem value_scalar (value : Scalar) : (scalar o value).value = o.expanded value := by
  cases value with
  | string text =>
      cases h : Calendar.expand? text <;> cases hd : o.expandDates <;>
        simp [scalar, Options.expanded, Options.instant?, h, hd]
  | _ => rfl

@[simp] theorem events_scalar (value : Scalar) : (scalar o value).events = o.dateChanges value := by
  cases value with
  | string text =>
      cases h : Calendar.expand? text <;> cases hd : o.expandDates <;>
        simp [scalar, Options.dateChanges, Options.instant?, h, hd]
  | _ => rfl

@[simp] theorem value_scalars (values : List Scalar) :
    (scalars o values).value = values.map o.expanded := by
  induction values with
  | nil => rfl
  | cons value rest ih => simp [scalars, ih]

@[simp] theorem events_scalars (values : List Scalar) :
    (scalars o values).events = values.flatMap o.dateChanges := by
  induction values with
  | nil => rfl
  | cons value rest ih => simp [scalars, ih]

@[simp] theorem value_typeCode (path : KeyPath) (value : Scalar) :
    (typeCode o path value).value = (o.code? value).map Scalar.string := by
  unfold typeCode Options.code?
  cases value.string?.bind o.typeCodes.canonicalize? with
  | none => rfl
  | some code => by_cases h : value = .string code <;> simp [h]

@[simp] theorem events_typeCode (path : KeyPath) (value : Scalar) :
    (typeCode o path value).events = o.codeChanges path value := by
  unfold typeCode Options.codeChanges Options.code?
  cases value.string?.bind o.typeCodes.canonicalize? with
  | none => rfl
  | some code => by_cases h : value = .string code <;> simp [h]

/-! ## When something is noted -/

namespace Options

theorem expanded_of_none {value : Scalar} (h : o.instant? value = none) :
    o.expanded value = value := by
  simp [expanded, h]

theorem expanded_of_some {value : Scalar} {instant : String} (h : o.instant? value = some instant) :
    o.expanded value = .string instant := by
  simp [expanded, h]

/-- A date is replaced by a longer text. -/
theorem wireText_ne_instant {value : Scalar} {instant : String}
    (h : o.instant? value = some instant) : value.wireText ≠ instant := by
  cases value with
  | string text =>
      simp only [instant?, Option.ite_none_right_eq_some] at h
      have hl := Calendar.length_of_expand? h.2
      rintro rfl
      simp only [Scalar.wireText] at hl
      omega
  | _ => simp [instant?] at h

/-- Only a text stands for a known code. -/
theorem string_of_code {value : Scalar} {code : String} (h : o.code? value = some code) :
    ∃ text, value = .string text := by
  cases value with
  | string text => exact ⟨text, rfl⟩
  | _ => simp [code?, Scalar.string?] at h

end Options

end BracketQuery.Normalization
