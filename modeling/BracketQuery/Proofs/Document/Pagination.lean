import BracketQuery.Proofs.Binary64.Integers
import BracketQuery.Proofs.Document.Decoding
import BracketQuery.Proofs.Wire.Category

/-!
The numbers of a pagination. A number in a document is taken for the 64-bit integer that it is, if
it is one, and left out otherwise; but where its nearest double is `2 ^ 63`, one more than the
greatest 64-bit integer, it is taken for that one.
-/

namespace BracketQuery

namespace Json.Number

/-- The exact value of a number. -/
def exact : Number → Rat
  | .integer n => n
  | .float x => x.exact

/-- A number whose nearest double is `2 ^ 63`, although it is no 64-bit integer. -/
def IsClamped : Number → Prop
  | .integer n => 2 ^ 63 ≤ n ∧ n ≤ 2 ^ 63 + 2 ^ 10
  | .float x => x.exact = (2 ^ 63 : Int)

end Json.Number

/-! ## Numbers as integers -/

theorem toInt_inj_of_range {k : Int64} {n : Int} (h : -2 ^ 63 ≤ n ∧ n < 2 ^ 63) :
    Int64.ofInt n = k ↔ n = k.toInt := by
  constructor
  · rintro rfl
    exact (Int64.toInt_ofInt_of_le h.1 h.2).symm
  · rintro rfl
    exact Int64.ofInt_toInt k

theorem toInt64?_eq_some_iff {n : Int} {k : Int64} :
    Integer.toInt64? n = some k ↔ n = k.toInt := by
  unfold Integer.toInt64?
  split
  · rename_i h
    rw [Option.some.injEq, toInt_inj_of_range h]
  · rename_i h
    have hl := k.le_toInt
    have hg := k.toInt_lt
    simp only [reduceCtorEq, false_iff]
    omega

/-- A finite double is taken for the 64-bit integer that it is, and `2 ^ 63` for the greatest. -/
theorem integerOfFloat?_eq_some_iff {x : Binary64} (h : x.isFinite = true) {k : Int64} :
    integerOfJson?.integerOfFloat? x = some k ↔
      x.exact = k.toInt ∨ x.exact = (2 ^ 63 : Int) ∧ k = Int64.maxValue := by
  have hl := k.le_toInt
  have hg := k.toInt_lt
  unfold integerOfJson?.integerOfFloat?
  cases ht : x.toInt? with
  | none =>
      have hne : ∀ n : Int, x.exact ≠ n := fun n he => by
        rw [(Binary64.toInt?_eq_some_iff h).mpr he] at ht
        cases ht
      simp only [reduceCtorEq, false_iff, not_or, not_and]
      exact ⟨hne _, fun he => absurd he (hne _)⟩
  | some n =>
      rw [(Binary64.toInt?_eq_some_iff h).mp ht, Int.cast_inj, Int.cast_inj]
      simp only [Option.ite_none_right_eq_some, Option.some.injEq]
      rcases Int.lt_trichotomy n (2 ^ 63) with hn | rfl | hn
      · have hclamp : -2 ^ 63 ≤ n → max (-2 ^ 63) (min n (2 ^ 63 - 1)) = n := by omega
        constructor
        · rintro ⟨hb, he⟩
          rw [hclamp (by omega), toInt_inj_of_range ⟨by omega, hn⟩] at he
          exact .inl he
        · rintro (rfl | ⟨rfl, _⟩)
          · rw [hclamp hl]
            exact ⟨by omega, Int64.ofInt_toInt k⟩
          · exact absurd hn (Int.lt_irrefl _)
      · have hmax : Int64.ofInt (max (-2 ^ 63) (min (2 ^ 63) (2 ^ 63 - 1))) = Int64.maxValue := rfl
        rw [hmax]
        constructor
        · rintro ⟨_, rfl⟩
          exact .inr ⟨rfl, rfl⟩
        · rintro (he | ⟨_, rfl⟩)
          · omega
          · exact ⟨by decide, rfl⟩
      · constructor
        · rintro ⟨hb, _⟩
          omega
        · rintro (rfl | ⟨rfl, _⟩)
          · omega
          · exact absurd hn (Int.lt_irrefl _)

/-- A large integer is clamped if it is at most half a step above `2 ^ 63`. -/
theorem exact_ofInt_eq_iff {n : Nat} (h : Binary64.IsLarge n) :
    (Binary64.ofInt n).exact = (2 ^ 63 : Int) ↔ n ≤ 2 ^ 63 + 2 ^ 10 := by
  have hs := Binary64.largeSignificand_spec n
  have hl := h.le
  rw [h.exact_ofInt, Int.cast_inj]
  omega

/-- A number is taken for the 64-bit integer that it is, and a clamped one for the greatest. -/
theorem integerOfJson?_number_eq_some_iff {n : Json.Number} (h : n.IsReadable) {k : Int64} :
    integerOfJson? (.number n) = some k ↔
      n.exact = k.toInt ∨ n.IsClamped ∧ k = Int64.maxValue := by
  cases n with
  | float x => exact integerOfFloat?_eq_some_iff h
  | integer n =>
      have hr : -2 ^ 63 ≤ n ∧ n < 2 ^ 64 := h
      have hg := k.toInt_lt
      simp only [integerOfJson?, Json.Number.exact, Json.Number.IsClamped, Int.cast_inj]
      cases hi : Integer.toInt64? n with
      | some k' =>
          have hlt := k'.toInt_lt
          rw [toInt64?_eq_some_iff.mp hi, Option.some.injEq, Int64.toInt_inj]
          exact ⟨.inl, fun he => he.resolve_right fun hc => by omega⟩
      | none =>
          have hn : ¬ (-2 ^ 63 ≤ n ∧ n < 2 ^ 63) := fun hn => by
            rw [Integer.toInt64?, if_pos hn] at hi
            cases hi
          obtain ⟨m, rfl⟩ := Int.eq_ofNat_of_zero_le (show 0 ≤ n by omega)
          have hm : Binary64.IsLarge m := ⟨by omega, by omega⟩
          have hs := hm.significand.ge
          show integerOfJson?.integerOfFloat? (Binary64.ofInt m) = some k ↔ _
          rw [integerOfFloat?_eq_some_iff hm.isFinite_ofInt, exact_ofInt_eq_iff hm, hm.exact_ofInt,
            Int.cast_inj]
          refine or_congr ?_ (and_congr_left fun _ => ?_) <;> omega

/-! ## Members of a pagination -/

namespace Pagination

/-- The names of the members. -/
def names : List String := ["page", "pageSize", "start", "limit"]

/-- The member of a name. -/
def member? (pagination : Pagination) (name : String) : Option Int64 :=
  (pagination.members.lookup name).join

/-- A member is decoded from the value under its name. -/
theorem member?_ofJson? {members : List (String × Json)} {name : String} (hn : name ∈ names) :
    (Pagination.ofJson? (.object members)).bind (member? · name) =
      (Json.find? name members).bind integerOfJson? := by
  simp only [names, List.mem_cons, List.not_mem_nil, or_false] at hn
  simp only [Pagination.ofJson?]
  split
  · rename_i he
    simp only [isEmpty, Bool.and_eq_true, Option.isNone_iff_eq_none] at he
    rcases hn with rfl | rfl | rfl | rfl
    · exact he.1.1.1.symm
    · exact he.1.1.2.symm
    · exact he.1.2.symm
    · exact he.2.symm
  · rcases hn with rfl | rfl | rfl | rfl <;> rfl

/-- A member is sent under its name, as its digits. -/
theorem mem_lower_iff {pagination : Pagination} {name : String} (hn : name ∈ names)
    {value : String} :
    ⟨.pagination, ((KeyPath.ofRoot Category.pagination.root).child name).text, value⟩ ∈
        pagination.lower ↔
      ∃ k, pagination.member? name = some k ∧ Integer.text k = value := by
  have hpage : pagination.member? "page" = pagination.page := rfl
  have hpageSize : pagination.member? "pageSize" = pagination.pageSize := rfl
  have hstart : pagination.member? "start" = pagination.start := rfl
  have hlimit : pagination.member? "limit" = pagination.limit := rfl
  simp only [names, List.mem_cons, List.not_mem_nil, or_false] at hn
  rcases hn with rfl | rfl | rfl | rfl <;>
    simp [lower, members, KeyPath.bracketed, hpage, hpageSize, hstart, hlimit]

end Pagination

namespace Intent

variable {members pagination : List (String × Json)} {name : String}

theorem pagination_ofMembers
    (hp : Json.find? "pagination" members = some (.object pagination)) :
    (Intent.ofMembers members).value.pagination = Pagination.ofJson? (.object pagination) := by
  rw [value_ofMembers, hp]
  rfl

/-- The parameters of a pagination are those of the members that are present. -/
theorem mem_lower_pagination_iff {i : Intent} (hn : name ∈ Pagination.names) {value : String} :
    ⟨.pagination, ((KeyPath.ofRoot Category.pagination.root).child name).text, value⟩ ∈ i.lower ↔
      ∃ k, i.pagination.bind (·.member? name) = some k ∧ Integer.text k = value := by
  have hc : ∀ p : Param, p.category = .pagination →
      (p ∈ i.lower ↔ p ∈ i.lowerOf .pagination) := by
    intro p hp
    rw [← i.ofCategory_lower, Params.ofCategory, List.mem_filter, hp]
    simp
  rw [hc _ rfl, lowerOf]
  cases i.pagination with
  | none => simp
  | some pagination => exact Pagination.mem_lower_iff hn

/-- A number under the name of a pagination member is decoded to the 64-bit integer that it is, and
left out if it is none, exactly if it is not clamped; and exactly then what is sent under the name,
if anything, are the digits of the number. A clamped one is decoded to the greatest 64-bit
integer. -/
theorem pagination_exact_iff {n : Json.Number}
    (hp : Json.find? "pagination" members = some (.object pagination))
    (hname : name ∈ Pagination.names) (hn : Json.find? name pagination = some (.number n))
    (hr : n.IsReadable) :
    let i := (Intent.ofMembers members).value
    let member := i.pagination.bind (·.member? name)
    let key := ((KeyPath.ofRoot Category.pagination.root).child name).text
    (∀ k, member = some k ↔ n.exact = k.toInt ∨ n.IsClamped ∧ k = Int64.maxValue) ∧
      ((∀ k, member = some k ↔ n.exact = k.toInt) ↔ ¬ n.IsClamped) ∧
      ((∀ value, ⟨.pagination, key, value⟩ ∈ i.lower ↔
          ∃ k : Int64, n.exact = k.toInt ∧ Integer.text k = value) ↔ ¬ n.IsClamped) := by
  intro i member key
  have hmember (k : Int64) :
      member = some k ↔ n.exact = k.toInt ∨ n.IsClamped ∧ k = Int64.maxValue := by
    have hm : member = integerOfJson? (.number n) := by
      simp only [member, i]
      rw [pagination_ofMembers hp, Pagination.member?_ofJson? hname, hn, Option.bind_some]
    rw [hm, integerOfJson?_number_eq_some_iff hr]
  have hexact (hc : ¬ n.IsClamped) (k : Int64) : member = some k ↔ n.exact = k.toInt := by
    rw [hmember, or_iff_left fun h => hc h.1]
  have hclamped (hc : n.IsClamped) (k : Int64) : n.exact ≠ k.toInt := by
    have hg := k.toInt_lt
    cases n with
    | float x =>
        rw [show (Json.Number.float x).exact = _ from hc, Ne, Int.cast_inj]
        omega
    | integer n =>
        rw [Json.Number.exact, Ne, Int.cast_inj]
        exact fun he => absurd hc.1 (by omega)
  refine ⟨hmember, ⟨fun h hc => ?_, fun hc k => ?_⟩, ⟨fun h hc => ?_, fun hc value => ?_⟩⟩
  · exact hclamped hc _ ((h _).mp ((hmember _).mpr (.inr ⟨hc, rfl⟩)))
  · exact hexact hc k
  · have hsent := (mem_lower_pagination_iff hname).mpr
      ⟨Int64.maxValue, (hmember _).mpr (.inr ⟨hc, rfl⟩), rfl⟩
    obtain ⟨k, he, _⟩ := (h _).mp hsent
    exact hclamped hc k he
  · rw [mem_lower_pagination_iff hname]
    exact exists_congr fun k => and_congr_left fun _ => hexact hc k

/-- The integer after the last clamped one is left out, and a negative limit is taken as it is. -/
theorem pagination_above_clamped :
    let pagination := [("limit", Json.number (.integer (-1))),
      ("page", .number (.integer 9223372036854776833))]
    let members := [("sort", Json.string "name:asc"), ("pagination", .object pagination)]
    let i := (Intent.ofMembers members).value
    (Json.find? "pagination" members = some (.object pagination) ∧ "page" ∈ Pagination.names ∧
        Json.find? "page" pagination = some (.number (.integer 9223372036854776833)) ∧
        (Json.Number.integer 9223372036854776833).IsReadable) ∧
      (∀ k, i.pagination.bind (·.member? "page") ≠ some k) ∧
      i.compile = "sort[0]=name%3Aasc&pagination[limit]=-1" := by
  intro pagination members i
  have hp : Json.find? "pagination" members = some (.object pagination) := by decide +kernel
  have hname : "page" ∈ Pagination.names := by decide
  have hn : Json.find? "page" pagination = some (.number (.integer 9223372036854776833)) := by
    decide +kernel
  have hr : (Json.Number.integer 9223372036854776833).IsReadable := ⟨by decide, by decide⟩
  refine ⟨⟨hp, hname, hn, hr⟩, fun k hk => ?_, by decide +kernel⟩
  have hg := k.toInt_lt
  rcases (pagination_exact_iff hp hname hn hr).1 k |>.mp hk with he | ⟨hc, _⟩
  · have he := Int.cast_inj.mp he
    omega
  · exact absurd hc.2 (by decide)

/-- `2 ^ 63` is taken for the greatest 64-bit integer, and so another page is asked for. -/
theorem page_beyond_greatest_clamped :
    let i := (Intent.ofMembers
      [("pagination", .object [("page", .number (.integer 9223372036854775808))])]).value
    i.compile = "pagination[page]=9223372036854775807" ∧
      (Json.Number.integer 9223372036854775808).exact ≠ Int64.maxValue.toInt := by
  refine ⟨by decide +kernel, fun he => ?_⟩
  have he := Int.cast_inj.mp he
  exact absurd he (by decide)

end Intent

end BracketQuery
