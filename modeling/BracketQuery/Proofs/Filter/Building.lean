import BracketQuery.Filter.Node

/-!
Nodes built call by call, and where a comparison goes that is added to a field. The first entry of
the field decides, and with it the first call that is about the field: comparisons take the new one
in, while past anything else each comparison becomes an entry of its own, whatever entries of
comparisons the field has by then.
-/

namespace BracketQuery

/-- Whether a condition holds comparisons. -/
def FilterValue.compares : FilterValue → Bool
  | .operators _ => true
  | _ => false

/-- A call that builds a node. -/
inductive BuilderCall where
  | append (key : String) (value : FilterValue)
  | addComparison (field : String) (operator : Operator) (operand : Operand)
  | nest (relation : String) (conditions : FilterNode)
  | allOf (members : List FilterNode)
  | anyOf (members : List FilterNode)

namespace BuilderCall

/-- The key that a call is about. -/
def key : BuilderCall → String
  | append key _ => key
  | addComparison field _ _ => field
  | nest relation _ => relation
  | allOf _ => allOfKey
  | anyOf _ => anyOfKey

/-- Whether the entry that a call makes, if its key has none, holds comparisons. -/
def compares : BuilderCall → Bool
  | append _ value => value.compares
  | addComparison _ _ _ => true
  | nest _ _ | allOf _ | anyOf _ => false

/-- What a call makes of a node. -/
def run (node : FilterNode) : BuilderCall → FilterNode
  | append key value => node.append key value
  | addComparison field operator operand => node.addComparison field operator operand
  | nest relation conditions => node.nest relation conditions
  | allOf members => node.allOf members
  | anyOf members => node.anyOf members

end BuilderCall

namespace FilterNode

/-- The node that calls build, one after the other. -/
def build (calls : List BuilderCall) : FilterNode := calls.foldl BuilderCall.run []

/-- Comparisons added one after the other, each to its field. -/
def addComparisons (node : FilterNode) (added : List (String × Operator × Operand)) : FilterNode :=
  added.foldl (fun node c => node.addComparison c.1 c.2.1 c.2.2) node

/-- The comparisons that an entry of a field holds. -/
def comparisons? (field : String) : String × FilterValue → Option (List (Operator × Operand))
  | (key, .operators comparisons) => if key = field then some comparisons else none
  | _ => none

/-- The entries of a field that hold comparisons. -/
def comparisonEntries (node : FilterNode) (field : String) : List (List (Operator × Operand)) :=
  node.filterMap (comparisons? field)

/-- Whether the first entry of a field, if it has one, holds comparisons. -/
def comparesFirst? (node : FilterNode) (field : String) : Option Bool :=
  (node.get? field).map FilterValue.compares

/-- Whether the first entry of a field holds something other than comparisons. -/
def isTaken (node : FilterNode) (field : String) : Bool := node.comparesFirst? field == some false

/-- How a node gains a comparison of a field: at the end of its first entry of comparisons of the
field, or, if there is none, in a new entry at the end. All other entries stay. -/
inductive Gains (field : String) (comparison : Operator × Operand) :
    FilterNode → FilterNode → Prop
  | extend {before after : FilterNode} {comparisons : List (Operator × Operand)}
    (h : before.comparisonEntries field = []) :
    Gains field comparison (before ++ (field, .operators comparisons) :: after)
      (before ++ (field, .operators (comparisons ++ [comparison])) :: after)
  | create {node : FilterNode} (h : node.comparisonEntries field = []) :
    Gains field comparison node (node ++ [(field, .operators [comparison])])

variable {node : FilterNode} {field key : String} {value : FilterValue}

/-! ## The first entry of a field -/

theorem get?_cons (entry : String × FilterValue) :
    get? (entry :: node) key = if entry.1 = key then some entry.2 else node.get? key := by
  by_cases h : entry.1 = key <;> simp [get?, h]

theorem get?_append (rest : FilterNode) :
    get? (node ++ rest) key = (node.get? key).or (rest.get? key) := by
  simp only [get?, List.find?_append]
  cases node.find? fun entry => entry.1 == key <;> rfl

theorem comparisonEntries_append (rest : FilterNode) :
    comparisonEntries (node ++ rest) field =
      node.comparisonEntries field ++ rest.comparisonEntries field :=
  List.filterMap_append

theorem comparisonEntries_of_get?_eq_none (h : node.get? field = none) :
    node.comparisonEntries field = [] := by
  induction node with
  | nil => rfl
  | cons entry rest ih =>
      obtain ⟨key, value⟩ := entry
      rw [get?_cons] at h
      split at h
      · cases h
      · rename_i hk
        rw [comparisonEntries, List.filterMap_cons_none, ← comparisonEntries, ih h]
        cases value <;> simp [comparisons?, hk]

/-! ## Where a comparison goes -/

variable {operator : Operator} {operand : Operand}

theorem addComparison_cons_of_ne (h : key ≠ field) :
    addComparison field operator operand ((key, value) :: node) =
      (key, value) :: node.addComparison field operator operand := by
  cases value <;> simp [addComparison, h]

/-- Comparisons in the first entry of a field take one more in. -/
theorem addComparison_of_compares (operator : Operator) (operand : Operand)
    {comparisons : List (Operator × Operand)}
    (h : node.get? field = some (.operators comparisons)) :
    ∃ before after : FilterNode, before.get? field = none ∧
      node = before ++ (field, .operators comparisons) :: after ∧
      node.addComparison field operator operand =
        before ++ (field, .operators (comparisons ++ [(operator, operand)])) :: after := by
  induction node with
  | nil => cases h
  | cons entry rest ih =>
      obtain ⟨key, value⟩ := entry
      rw [get?_cons] at h
      split at h
      · rename_i hk
        obtain rfl : key = field := hk
        cases h
        exact ⟨[], rest, rfl, rfl, by simp [addComparison]⟩
      · rename_i hk
        obtain ⟨before, after, hb, hn, ha⟩ := ih h
        refine ⟨(key, value) :: before, after, ?_, by rw [hn, List.cons_append], ?_⟩
        · rw [get?_cons, if_neg hk, hb]
        · rw [addComparison_cons_of_ne hk, ha, List.cons_append]

/-- Past anything else a comparison becomes an entry of its own, at the end. -/
theorem addComparison_of_not_compares (h : node.comparesFirst? field ≠ some true) :
    node.addComparison field operator operand =
      node ++ [(field, .operators [(operator, operand)])] := by
  induction node with
  | nil => rfl
  | cons entry rest ih =>
      obtain ⟨key, value⟩ := entry
      rw [comparesFirst?, get?_cons] at h
      by_cases hk : key = field
      · rw [if_pos hk] at h
        cases value with
        | operators comparisons => exact absurd rfl h
        | _ => simp [addComparison, hk]
      · rw [if_neg hk] at h
        rw [addComparison_cons_of_ne hk, ih h, List.cons_append]

theorem exists_of_comparesFirst? (h : node.comparesFirst? field = some true) :
    ∃ comparisons, node.get? field = some (.operators comparisons) := by
  obtain ⟨value, hg, hc⟩ := Option.map_eq_some_iff.mp h
  cases value with
  | operators comparisons => exact ⟨comparisons, hg⟩
  | _ => cases hc

theorem comparisonEntries_ne_nil (h : node.comparesFirst? field = some true) :
    node.comparisonEntries field ≠ [] := by
  obtain ⟨comparisons, hg⟩ := exists_of_comparesFirst? h
  obtain ⟨before, after, _, rfl, _⟩ :=
    addComparison_of_compares .eq (.list []) hg
  simp [comparisonEntries, comparisons?]

theorem isTaken_eq_false_iff :
    node.isTaken field = false ↔
      node.get? field = none ∨ node.comparesFirst? field = some true := by
  unfold isTaken comparesFirst?
  cases node.get? field with
  | none => simp
  | some value => cases value.compares <;> simp

theorem not_compares_of_isTaken (h : node.isTaken field = true) :
    node.comparesFirst? field ≠ some true := by
  rw [beq_iff_eq.mp h]
  decide

theorem Gains.length_eq {comparison : Operator × Operand} {result : FilterNode}
    (h : Gains field comparison node result) (hne : node.comparisonEntries field ≠ []) :
    result.length = node.length := by
  cases h with
  | extend _ => simp
  | create hn => exact absurd hn hne

/-- A comparison is gained as it should be exactly if the field has no entry of comparisons, or its
first entry is one. -/
theorem gains_addComparison_iff :
    Gains field (operator, operand) node (node.addComparison field operator operand) ↔
      node.comparisonEntries field = [] ∨ node.isTaken field = false := by
  constructor
  · intro hg
    refine Decidable.or_iff_not_imp_left.mpr fun hne => Bool.eq_false_iff.mpr fun ht => ?_
    have hl := hg.length_eq hne
    rw [addComparison_of_not_compares (not_compares_of_isTaken ht)] at hl
    simp at hl
  · intro h
    by_cases hc : node.comparesFirst? field = some true
    · obtain ⟨comparisons, hg⟩ := exists_of_comparesFirst? hc
      obtain ⟨before, after, hb, hn, ha⟩ := addComparison_of_compares operator operand hg
      rw [ha, hn]
      exact .extend (comparisonEntries_of_get?_eq_none hb)
    · rw [addComparison_of_not_compares hc]
      refine .create (h.elim id fun ht => ?_)
      exact comparisonEntries_of_get?_eq_none ((isTaken_eq_false_iff.mp ht).resolve_right hc)

/-! ## Runs of comparisons -/

theorem comparesFirst?_append (rest : FilterNode) :
    comparesFirst? (node ++ rest) field =
      (node.comparesFirst? field).or (rest.comparesFirst? field) := by
  rw [comparesFirst?, get?_append, comparesFirst?, comparesFirst?, Option.map_or]

theorem comparesFirst?_cons (entry : String × FilterValue) :
    comparesFirst? (entry :: node) field =
      if entry.1 = field then some entry.2.compares else node.comparesFirst? field := by
  rw [comparesFirst?, get?_cons]
  split <;> rfl

@[simp] theorem comparesFirst?_nil : comparesFirst? [] field = none := rfl

/-- A comparison is the first of a field only where the field has no entry. -/
theorem comparesFirst?_addComparison (other : String) :
    (node.addComparison other operator operand).comparesFirst? field =
      (node.comparesFirst? field).or (if other = field then some true else none) := by
  by_cases hc : node.comparesFirst? other = some true
  · obtain ⟨comparisons, hg⟩ := exists_of_comparesFirst? hc
    obtain ⟨before, after, _, hn, ha⟩ :=
      addComparison_of_compares operator operand hg
    rw [ha, hn]
    simp only [comparesFirst?_append, comparesFirst?_cons, FilterValue.compares]
    split <;> simp
  · rw [addComparison_of_not_compares hc, comparesFirst?_append, comparesFirst?_cons]
    rfl

theorem isTaken_addComparison (other : String) :
    (node.addComparison other operator operand).isTaken field = node.isTaken field := by
  simp only [isTaken, comparesFirst?_addComparison]
  cases node.comparesFirst? field <;> by_cases h : other = field <;> simp [h]

/-- One comparison adds an entry of comparisons to its field if the field is taken, or has none. -/
theorem length_comparisonEntries_addComparison (other : String) :
    ((node.addComparison other operator operand).comparisonEntries field).length =
      if other = field then
        if node.isTaken field then (node.comparisonEntries field).length + 1
        else max 1 (node.comparisonEntries field).length
      else (node.comparisonEntries field).length := by
  by_cases hc : node.comparesFirst? other = some true
  · have hne := comparisonEntries_ne_nil hc
    obtain ⟨comparisons, hg⟩ := exists_of_comparesFirst? hc
    obtain ⟨before, after, _, hn, ha⟩ :=
      addComparison_of_compares operator operand hg
    have hl : ((node.addComparison other operator operand).comparisonEntries field).length =
        (node.comparisonEntries field).length := by
      rw [ha, hn]
      by_cases h : other = field <;> simp [comparisonEntries, comparisons?, h]
    rw [hl]
    split
    · rename_i h
      subst h
      have ht : node.isTaken other = false := isTaken_eq_false_iff.mpr (.inr hc)
      have := List.length_pos_iff.mpr hne
      simp only [ht, Bool.false_eq_true, ↓reduceIte]
      omega
    · rfl
  · rw [addComparison_of_not_compares hc, comparisonEntries_append, List.length_append]
    by_cases h : other = field
    · subst h
      cases ht : node.isTaken other with
      | true => simp [comparisonEntries, comparisons?]
      | false =>
          have hg := (isTaken_eq_false_iff.mp ht).resolve_right hc
          rw [comparisonEntries_of_get?_eq_none hg]
          simp [comparisonEntries, comparisons?]
    · simp [comparisonEntries, comparisons?, h]

theorem length_comparisonEntries_addComparisons (added : List (String × Operator × Operand)) :
    ((node.addComparisons added).comparisonEntries field).length =
      if node.isTaken field then
        (node.comparisonEntries field).length + added.countP (·.1 == field)
      else max (node.comparisonEntries field).length (min 1 (added.countP (·.1 == field))) := by
  induction added generalizing node with
  | nil => simp [addComparisons]
  | cons c rest ih =>
      rw [addComparisons, List.foldl_cons, ← addComparisons, ih, isTaken_addComparison,
        length_comparisonEntries_addComparison, List.countP_cons]
      by_cases hc : c.1 = field
      · simp only [hc, beq_self_eq_true, ↓reduceIte]
        split <;> omega
      · simp [hc]

/-! ## Nodes built call by call -/

theorem comparesFirst?_run (call : BuilderCall) :
    (call.run node).comparesFirst? field =
      (node.comparesFirst? field).or (if call.key = field then some call.compares else none) := by
  cases call with
  | addComparison other operator operand => exact comparesFirst?_addComparison other
  | append _ _ | nest _ _ | allOf _ | anyOf _ =>
      exact (comparesFirst?_append _).trans (congrArg _ (comparesFirst?_cons _))

/-- What the first entry of a field holds is decided by the first call about it. -/
theorem comparesFirst?_foldl_run (calls : List BuilderCall) :
    comparesFirst? (calls.foldl BuilderCall.run node) field =
      (node.comparesFirst? field).or
        ((calls.find? (·.key == field)).map BuilderCall.compares) := by
  induction calls generalizing node with
  | nil => simp
  | cons call rest ih =>
      rw [List.foldl_cons, ih, comparesFirst?_run, List.find?_cons, Option.or_assoc]
      by_cases h : call.key = field
      · simp [h]
      · simp [h, beq_eq_false_iff_ne.mpr h]

theorem isTaken_build (calls : List BuilderCall) :
    (build calls).isTaken field = (calls.find? (·.key == field)).any (!·.compares) := by
  rw [isTaken, build, comparesFirst?_foldl_run]
  cases calls.find? (·.key == field) with
  | none => rfl
  | some call => cases hc : call.compares <;> simp [hc]

/-- What becomes of comparisons added to a field of a node, whatever calls have built it. The field
is taken exactly if the first call about it made an entry of another kind. A comparison is gained as
it should be exactly if the field has no entry of comparisons yet or is not taken. Adding
comparisons in any number leaves no more entries of comparisons than there were, or one, exactly if
the field is not taken; if it is, each makes an entry of its own. -/
theorem comparisons_gained_iff (calls : List BuilderCall) (field : String) :
    let node := build calls
    let entries (node : FilterNode) : Nat := (node.comparisonEntries field).length
    node.isTaken field = (calls.find? (·.key == field)).any (!·.compares) ∧
      ((∀ operator operand, Gains field (operator, operand) node
          (node.addComparison field operator operand)) ↔
        node.comparisonEntries field = [] ∨ node.isTaken field = false) ∧
      ((∀ added, entries (node.addComparisons added) ≤ max 1 (entries node)) ↔
        node.isTaken field = false) ∧
      ∀ added, entries (node.addComparisons added) =
        if node.isTaken field then entries node + added.countP (·.1 == field)
        else max (entries node) (min 1 (added.countP (·.1 == field))) := by
  intro node entries
  have hcount (added : List (String × Operator × Operand)) :
      entries (node.addComparisons added) =
        if node.isTaken field then entries node + added.countP (·.1 == field)
        else max (entries node) (min 1 (added.countP (·.1 == field))) :=
    length_comparisonEntries_addComparisons added
  refine ⟨isTaken_build calls, ?_, ?_, hcount⟩
  · exact ⟨fun h => gains_addComparison_iff.mp (h .eq (.list [])),
      fun h _ _ => gains_addComparison_iff.mpr h⟩
  · constructor
    · intro h
      -- Two comparisons more than the entries that there are would be too many.
      have hl := h (List.replicate (entries node + 2) (field, .eq, .list []))
      refine Bool.eq_false_iff.mpr fun ht => ?_
      rw [hcount, if_pos ht, List.countP_replicate, if_pos (beq_self_eq_true field)] at hl
      omega
    · intro ht added
      rw [hcount, ht, if_neg Bool.false_ne_true]
      omega

/-- After a bare value a field gets a second entry of comparisons. -/
theorem second_comparison_apart :
    let calls : List BuilderCall := [.append "total" (.scalar (.integer 5)),
      .addComparison "total" .gte (.scalar (.integer 10))]
    let node := build calls
    node.addComparison "total" .lt (.scalar (.integer 100)) =
        [("total", .scalar (.integer 5)),
          ("total", .operators [(.gte, .scalar (.integer 10))]),
          ("total", .operators [(.lt, .scalar (.integer 100))])] ∧
      ¬ Gains "total" (.lt, .scalar (.integer 100)) node
        (node.addComparison "total" .lt (.scalar (.integer 100))) := by
  intro calls node
  refine ⟨by decide +kernel, fun h => ?_⟩
  have hl := h.length_eq (by decide +kernel)
  exact absurd hl (by decide +kernel)

end FilterNode

end BracketQuery
