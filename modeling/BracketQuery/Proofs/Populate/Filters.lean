import BracketQuery.Wire.Lowering

/-!
The filter trees of an inclusion: those of its relations, at any depth. An inclusion whose filter
trees are replaced by others sends less when they do, and the same only if each of them does.
-/

namespace BracketQuery

mutual

/-- The filter trees of an inclusion: of a relation, first those of its own relations. -/
def Populate.filterNodes : Populate → List FilterNode
  | .shaped relations => Populate.filterNodesOfRelations relations
  | .all | .relation _ | .relations _ => []

def Populate.filterNodesOfRelations : List (String × RelationPopulate) → List FilterNode
  | [] => []
  | (_, inclusion) :: rest =>
    RelationPopulate.filterNodes inclusion ++ Populate.filterNodesOfRelations rest

def RelationPopulate.filterNodes : RelationPopulate → List FilterNode
  | .shape shape => PopulateShape.filterNodes shape
  | .flag _ | .name _ => []

def PopulateShape.filterNodes : PopulateShape → List FilterNode
  | .mk _ inner _ filters => Populate.filterNodesOfOption inner ++ filters.toList

def Populate.filterNodesOfOption : Option Populate → List FilterNode
  | some populate => Populate.filterNodes populate
  | none => []

end

/-- The filter trees of an intent: its own, and those of the relations it includes. -/
def Intent.filterNodes (i : Intent) : List FilterNode :=
  i.filters.toList ++ Populate.filterNodesOfOption i.populate

section

variable (f : FilterNode → FilterNode)

mutual

/-- The inclusion with each of its filter trees replaced. -/
def Populate.mapFilters : Populate → Populate
  | .shaped relations => .shaped (Populate.mapFiltersOfRelations relations)
  | .all => .all
  | .relation name => .relation name
  | .relations names => .relations names

def Populate.mapFiltersOfRelations :
    List (String × RelationPopulate) → List (String × RelationPopulate)
  | [] => []
  | (name, inclusion) :: rest =>
    (name, RelationPopulate.mapFilters inclusion) :: Populate.mapFiltersOfRelations rest

def RelationPopulate.mapFilters : RelationPopulate → RelationPopulate
  | .shape shape => .shape (PopulateShape.mapFilters shape)
  | .flag included => .flag included
  | .name value => .name value

def PopulateShape.mapFilters : PopulateShape → PopulateShape
  | .mk fields inner sort filters =>
    .mk fields (Populate.mapFiltersOfOption inner) sort (filters.map f)

def Populate.mapFiltersOfOption : Option Populate → Option Populate
  | some populate => some (Populate.mapFilters populate)
  | none => none

end

/-- The intent with each of its filter trees replaced. -/
def Intent.mapFilters (i : Intent) : Intent :=
  { i with filters := i.filters.map f, populate := Populate.mapFiltersOfOption f i.populate }

/-! ## Replacing nothing -/

theorem option_map_eq_self_iff {α : Type} (g : α → α) (a : Option α) :
    a.map g = a ↔ ∀ x ∈ a.toList, g x = x := by
  cases a <;> simp

mutual

theorem Populate.mapFilters_eq_self_iff : (populate : Populate) →
    (populate.mapFilters f = populate ↔ ∀ node ∈ populate.filterNodes, f node = node)
  | .shaped relations => by
      simpa only [Populate.mapFilters, Populate.filterNodes, Populate.shaped.injEq] using
        Populate.mapFiltersOfRelations_eq_self_iff relations
  | .all | .relation _ | .relations _ => by simp [Populate.mapFilters, Populate.filterNodes]

theorem Populate.mapFiltersOfRelations_eq_self_iff :
    (relations : List (String × RelationPopulate)) →
      (Populate.mapFiltersOfRelations f relations = relations ↔
        ∀ node ∈ Populate.filterNodesOfRelations relations, f node = node)
  | [] => by simp [Populate.mapFiltersOfRelations, Populate.filterNodesOfRelations]
  | (name, inclusion) :: rest => by
      simp only [Populate.mapFiltersOfRelations, Populate.filterNodesOfRelations, List.cons.injEq,
        Prod.mk.injEq, true_and, List.forall_mem_append]
      rw [RelationPopulate.mapFilters_eq_self_iff inclusion,
        Populate.mapFiltersOfRelations_eq_self_iff rest]

theorem RelationPopulate.mapFilters_eq_self_iff : (inclusion : RelationPopulate) →
    (inclusion.mapFilters f = inclusion ↔ ∀ node ∈ inclusion.filterNodes, f node = node)
  | .shape shape => by
      simpa only [RelationPopulate.mapFilters, RelationPopulate.filterNodes,
        RelationPopulate.shape.injEq] using PopulateShape.mapFilters_eq_self_iff shape
  | .flag _ | .name _ => by simp [RelationPopulate.mapFilters, RelationPopulate.filterNodes]

theorem PopulateShape.mapFilters_eq_self_iff : (shape : PopulateShape) →
    (shape.mapFilters f = shape ↔ ∀ node ∈ shape.filterNodes, f node = node)
  | .mk fields inner sort filters => by
      simp only [PopulateShape.mapFilters, PopulateShape.filterNodes, PopulateShape.mk.injEq,
        true_and, List.forall_mem_append]
      rw [Populate.mapFiltersOfOption_eq_self_iff inner, option_map_eq_self_iff]

theorem Populate.mapFiltersOfOption_eq_self_iff : (populate : Option Populate) →
    (Populate.mapFiltersOfOption f populate = populate ↔
      ∀ node ∈ Populate.filterNodesOfOption populate, f node = node)
  | some populate => by
      simpa only [Populate.mapFiltersOfOption, Populate.filterNodesOfOption, Option.some.injEq]
        using Populate.mapFilters_eq_self_iff populate
  | none => by simp [Populate.mapFiltersOfOption, Populate.filterNodesOfOption]

end

theorem Intent.mapFilters_eq_self_iff (i : Intent) :
    i.mapFilters f = i ↔ ∀ node ∈ i.filterNodes, f node = node := by
  obtain ⟨filters, populate, _, _, _, _, _, _⟩ := i
  simp only [mapFilters, filterNodes, Intent.mk.injEq, and_true, List.forall_mem_append]
  rw [option_map_eq_self_iff, Populate.mapFiltersOfOption_eq_self_iff]

end

end BracketQuery
