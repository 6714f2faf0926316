import Mathlib.Data.List.Forall2
import BracketQuery.Proofs.Normalization.Report
import BracketQuery.Proofs.Normalization.Site
import BracketQuery.Proofs.Wire.Category

/-!
The report of a normalization accounts for the parameters that are sent. Those of the original
intent are parted into the ones that the report lists as dropped and the ones that are sent
afterwards; among the latter, as many values differ as the report counts.
-/

namespace BracketQuery

open Normalization

/-- A list parted into two, each in the order of the list. -/
inductive Parted {α : Type} : List α → List α → List α → Prop
  | nil : Parted [] [] []
  | dropped {xs ys zs : List α} (a : α) : Parted xs ys zs → Parted (a :: xs) (a :: ys) zs
  | kept {xs ys zs : List α} (a : α) : Parted xs ys zs → Parted (a :: xs) ys (a :: zs)

namespace Parted

variable {α β : Type} {xs ys zs xs' ys' zs' : List α}

theorem append (h : Parted xs ys zs) (h' : Parted xs' ys' zs') :
    Parted (xs ++ xs') (ys ++ ys') (zs ++ zs') := by
  induction h with
  | nil => exact h'
  | dropped a _ ih => exact .dropped a ih
  | kept a _ ih => exact .kept a ih

theorem map (f : α → β) (h : Parted xs ys zs) : Parted (xs.map f) (ys.map f) (zs.map f) := by
  induction h with
  | nil => exact .nil
  | dropped a _ ih => exact .dropped (f a) ih
  | kept a _ ih => exact .kept (f a) ih

theorem length_eq (h : Parted xs ys zs) : xs.length = zs.length + ys.length := by
  induction h with
  | nil => rfl
  | dropped a _ ih => simp only [List.length_cons, ih]; omega
  | kept a _ ih => simp only [List.length_cons, ih]; omega

end Parted

/-! ## What the report says of one parameter -/

/-- A parameter that is listed among the dropped values: with its value, and the path of the
operator, which is its key or, in a list, its key up to the place in the list. -/
def Param.IsListedAs (typeField : String) (param : Param) (entry : KeyPath × String) : Prop :=
  param.value = entry.2 ∧ ∃ parent : KeyPath,
    (entry.1 = parent.codes typeField .eq ∧ param.key = entry.1.text) ∨
    (entry.1 = parent.codes typeField .isIn ∧ ∃ i, param.key = (entry.1.index i).text)

/-- A parameter and the one that is sent in its place: with its category and key, except that a type
code may have another place in its list. -/
def Param.IsReplacedBy (typeField : String) (before after : Param) : Prop :=
  after.category = before.category ∧
    (after.key = before.key ∨ ∃ (parent : KeyPath) (i j : Nat),
      before.key = ((parent.codes typeField .isIn).index i).text ∧
        after.key = ((parent.codes typeField .isIn).index j).text)

/-- The number of places at which two lists of parameters have different values. -/
def Params.rewritten (before after : Params) : Nat :=
  (before.zip after).countP fun (p, q) => p.value ≠ q.value

/-- Parameters before and after changes that account for every difference. -/
def Reconciled (typeField : String) (before : Params) (changes : List Change) (after : Params) :
    Prop :=
  ∃ dropped kept : Params, Parted before dropped kept ∧
    List.Forall₂ (Param.IsListedAs typeField) dropped (Report.mk changes).droppedValues ∧
    List.Forall₂ (Param.IsReplacedBy typeField) kept after ∧
    kept.rewritten after =
      (Report.mk changes).expandedDates + (Report.mk changes).canonicalizedCodes

theorem Param.IsReplacedBy.refl (typeField : String) (param : Param) :
    param.IsReplacedBy typeField param := ⟨rfl, .inl rfl⟩

theorem Params.rewritten_append {xs ys xs' ys' : Params} (h : xs.length = ys.length) :
    Params.rewritten (xs ++ xs') (ys ++ ys') =
      Params.rewritten xs ys + Params.rewritten xs' ys' := by
  simp only [Params.rewritten, List.zip_append h, List.countP_append]

namespace Reconciled

variable {typeField : String} {xs ys xs' ys' : Params} {c c' : List Change}

theorem append (h : Reconciled typeField xs c ys) (h' : Reconciled typeField xs' c' ys') :
    Reconciled typeField (xs ++ xs') (c ++ c') (ys ++ ys') := by
  obtain ⟨ds, ks, hp, hd, hk, hn⟩ := h
  obtain ⟨ds', ks', hp', hd', hk', hn'⟩ := h'
  refine ⟨ds ++ ds', ks ++ ks', hp.append hp', ?_, List.rel_append hk hk', ?_⟩
  · rw [Report.droppedValues_append]
    exact List.rel_append hd hd'
  · rw [Params.rewritten_append hk.length_eq, hn, hn', Report.expandedDates_append,
      Report.canonicalizedCodes_append]
    omega

theorem ofDropped {param : Param} {path : KeyPath} {value : String}
    (h : param.IsListedAs typeField (path, value)) :
    Reconciled typeField [param] [.dropped path value] [] :=
  ⟨[param], [], .dropped param .nil, .cons h .nil, .nil, rfl⟩

/-- A kept parameter with the same value, of which nothing is noted. -/
theorem ofSame {p q : Param} (h : p.IsReplacedBy typeField q) (hv : p.value = q.value) :
    Reconciled typeField [p] [] [q] :=
  ⟨[], [p], .kept p .nil, .nil, .cons h .nil, by simp [Params.rewritten, hv]; rfl⟩

theorem refl (typeField : String) (xs : Params) : Reconciled typeField xs [] xs := by
  induction xs with
  | nil => exact ⟨[], [], .nil, .nil, .nil, rfl⟩
  | cons p xs ih => exact (ofSame (.refl typeField p) rfl).append ih

/-- A note about an emptied list says nothing of the parameters. -/
theorem emptied (h : Reconciled typeField xs c ys) (path : KeyPath) :
    Reconciled typeField xs (c ++ [.emptied path]) ys := by
  have he : Reconciled typeField [] [.emptied path] [] := ⟨[], [], .nil, .nil, .nil, rfl⟩
  simpa using h.append he

/-- A kept parameter with another value, of which one of the two replacements is noted. -/
theorem ofRewritten {p q : Param} (h : p.IsReplacedBy typeField q) (hv : p.value ≠ q.value)
    {change : Change} (hc : change = .expandedDate ∨ change = .canonicalizedCode) :
    Reconciled typeField [p] [change] [q] := by
  refine ⟨[], [p], .kept p .nil, ?_, .cons h .nil, ?_⟩
  · rcases hc with rfl | rfl <;> exact .nil
  · rcases hc with rfl | rfl <;> simp [Params.rewritten, hv] <;> rfl

/-- The filters of a relation are reconciled like any others. -/
theorem withCategory (h : Reconciled typeField xs c ys) (category : Category) :
    Reconciled typeField (xs.map fun p => { p with category := category }) c
      (ys.map fun p => { p with category := category }) := by
  obtain ⟨ds, ks, hp, hd, hk, hn⟩ := h
  refine ⟨_, _, hp.map _, ?_, ?_, ?_⟩
  · exact List.forall₂_map_left_iff.mpr hd
  · exact List.forall₂_map_left_iff.mpr (List.forall₂_map_right_iff.mpr
      (hk.imp fun _ _ h => ⟨rfl, h.2⟩))
  · rw [← hn]
    simp only [Params.rewritten, List.zip_map, List.countP_map]
    rfl

end Reconciled

/-! ## Values -/

/-- The parameters of the values of a list whose first element has the given place. -/
def indexedFrom (path : KeyPath) (i : Nat) : List Scalar → Params
  | [] => []
  | value :: rest =>
    ⟨.filters, (path.index i).text, value.wireText⟩ :: indexedFrom path (i + 1) rest

theorem mapIdx_eq_indexedFrom (path : KeyPath) (values : List Scalar) (i : Nat) :
    ((values.map Scalar.wireText).mapIdx fun j value =>
      (⟨.filters, (path.index (j + i)).text, value⟩ : Param)) = indexedFrom path i values := by
  induction values generalizing i with
  | nil => rfl
  | cons value rest ih =>
      simp only [List.map_cons, List.mapIdx_cons, indexedFrom, Nat.zero_add]
      rw [← ih (i + 1)]
      simp only [Nat.add_assoc, Nat.add_comm 1 i]

theorem lower_list (path : KeyPath) (values : List Scalar) :
    (Operand.list values).lower path = indexedFrom path 0 values := by
  simpa [Operand.lower, lowerIndexed] using mapIdx_eq_indexedFrom path values 0

variable (o : Options)

/-- A value outside the rule of type codes keeps its key. -/
theorem date_reconciled (typeField key : String) (value : Scalar) :
    Reconciled typeField [⟨.filters, key, value.wireText⟩] (o.dateChanges value)
      [⟨.filters, key, (o.expanded value).wireText⟩] := by
  cases h : o.instant? value with
  | none =>
      rw [o.expanded_of_none h]
      simpa [Options.dateChanges, h] using
        Reconciled.refl typeField [⟨.filters, key, value.wireText⟩]
  | some instant =>
      rw [o.expanded_of_some h]
      simp only [Options.dateChanges, h, Option.isSome_some, ↓reduceIte]
      have hk : Param.IsReplacedBy typeField ⟨.filters, key, value.wireText⟩
          ⟨.filters, key, instant⟩ := ⟨rfl, .inl rfl⟩
      exact .ofRewritten hk (o.wireText_ne_instant h) (.inl rfl)

theorem dates_reconciled (typeField : String) (path : KeyPath) (values : List Scalar) (i : Nat) :
    Reconciled typeField (indexedFrom path i values) (values.flatMap o.dateChanges)
      (indexedFrom path i (values.map o.expanded)) := by
  induction values generalizing i with
  | nil => exact .refl typeField []
  | cons value rest ih =>
      exact (date_reconciled o typeField (path.index i).text value).append (ih (i + 1))

/-- A value that stands for a known code keeps its place in the query, if not its index. -/
theorem code_reconciled {typeField key key' code : String} {value : Scalar} (path : KeyPath)
    (h : o.code? value = some code)
    (hk : Param.IsReplacedBy typeField ⟨.filters, key, value.wireText⟩ ⟨.filters, key', code⟩) :
    Reconciled typeField [⟨.filters, key, value.wireText⟩] (o.codeChanges path value)
      [⟨.filters, key', code⟩] := by
  obtain ⟨text, rfl⟩ := o.string_of_code h
  simp only [Options.codeChanges, h, Scalar.string.injEq]
  by_cases he : text = code
  · rw [if_pos he]
    exact .ofSame hk he
  · rw [if_neg he]
    exact .ofRewritten hk he (.inr rfl)

/-- In a list of type codes, the codes that stay move up to the places of those that go. -/
theorem codes_reconciled (typeField : String) (parent : KeyPath) (values : List Scalar)
    (i j : Nat) :
    let path := parent.codes typeField .isIn
    Reconciled typeField (indexedFrom path i values) (values.flatMap (o.codeChanges path))
      (indexedFrom path j (o.codes values)) := by
  intro path
  induction values generalizing i j with
  | nil => exact .refl typeField []
  | cons value rest ih =>
      cases h : o.code? value with
      | none =>
          have hd : o.codeChanges path value = [.dropped path value.wireText] := by
            simp [Options.codeChanges, h]
          have hc : o.codes (value :: rest) = o.codes rest := by simp [Options.codes, h]
          rw [List.flatMap_cons, hd, hc]
          exact (Reconciled.ofDropped ⟨rfl, parent, .inr ⟨rfl, i, rfl⟩⟩).append (ih (i + 1) j)
      | some code =>
          have hc : o.codes (value :: rest) = .string code :: o.codes rest := by
            simp [Options.codes, h]
          rw [hc]
          exact (code_reconciled o path h ⟨rfl, .inr ⟨parent, i, j, rfl, rfl⟩⟩).append
            (ih (i + 1) (j + 1))

/-! ## Sites and trees -/

theorem Site.reconciled {typeField : String} : (site : Site) → site.IsPlaced typeField →
    Reconciled typeField site.lower (site.changes o)
      ((site.normalized? o).toList.flatMap Site.lower)
  | ⟨path, true, .list values⟩, h => by
      obtain ⟨parent, (rfl : path = parent.codes typeField .isIn)⟩ := h rfl
      simp only [Site.lower, Site.changes, Site.normalized?, Option.toList_some,
        List.flatMap_singleton, lower_list]
      have hc := codes_reconciled o typeField parent values 0 0
      split
      · exact hc.emptied _
      · simpa using hc
  | ⟨path, true, .scalar value⟩, h => by
      obtain ⟨parent, (rfl : path = parent.codes typeField .eq)⟩ := h rfl
      cases hc : o.code? value with
      | none =>
          simp only [Site.changes, Site.normalized?, Options.codeChanges, hc]
          exact .ofDropped ⟨rfl, parent, .inl ⟨rfl, rfl⟩⟩
      | some code =>
          simp only [Site.changes, Site.normalized?, hc]
          exact code_reconciled o _ hc ⟨rfl, .inl rfl⟩
  | ⟨path, false, .list values⟩, _ => by
      simp only [Site.lower, Site.changes, Site.normalized?, Option.toList_some,
        List.flatMap_singleton, lower_list]
      exact dates_reconciled o typeField path values 0
  | ⟨path, false, .scalar value⟩, _ => date_reconciled o typeField path.text value

theorem sites_reconciled {typeField : String} {sites : List Site}
    (h : ∀ site ∈ sites, site.IsPlaced typeField) :
    Reconciled typeField (sites.flatMap Site.lower) (sitesChanges o sites)
      ((sitesLeft o sites).flatMap Site.lower) := by
  induction sites with
  | nil => exact .refl typeField []
  | cons site rest ih =>
      have hs := site.reconciled o (h site (by simp))
      have hr := ih fun s hs => h s (by simp [hs])
      simpa using hs.append hr

theorem filterNode_reconciled (path : KeyPath) (node : FilterNode) :
    Reconciled o.typeField (FilterNode.lower path node) (filterNode o path node).events
      (FilterNode.lower path (filterNode o path node).value) := by
  have hs := filterNode_sites o path node
  rw [FilterNode.lower_eq_flatMap_sites o.typeField path node,
    FilterNode.lower_eq_flatMap_sites o.typeField path (filterNode o path node).value, hs.1, hs.2]
  exact sites_reconciled o (FilterNode.sites_placed o.typeField path node)

theorem filters_reconciled (path : KeyPath) (node : FilterNode) :
    Reconciled o.typeField (FilterNode.lowerOfRelation path node) (filterNode o path node).events
      (FilterNode.lowerOfRelation path (filterNode o path node).value) :=
  (filterNode_reconciled o path node).withCategory .populate

theorem isEmpty_shape (path : KeyPath) (value : PopulateShape) :
    (shape o path value).value.isEmpty = value.isEmpty := by
  obtain ⟨fields, inner, sort, conditions⟩ := value
  cases inner <;> cases conditions <;> rfl

theorem eq_empty_of_isEmpty {value : PopulateShape} (h : value.isEmpty = true) :
    value = .empty := by
  obtain ⟨fields, inner, sort, conditions⟩ := value
  simp only [PopulateShape.isEmpty, PopulateShape.fields, PopulateShape.populate,
    PopulateShape.sort, PopulateShape.filters, Bool.and_eq_true, List.isEmpty_iff,
    Option.isNone_iff_eq_none] at h
  obtain ⟨⟨⟨rfl, rfl⟩, rfl⟩, rfl⟩ := h
  rfl

mutual

theorem populate_reconciled (path : KeyPath) : (included : Populate) →
    Reconciled o.typeField (included.lower path) (populate o path included).events
      ((populate o path included).value.lower path)
  | .shaped entries => by
      simpa [populate, Populate.lower] using relations_reconciled path entries
  | .all => .refl _ _
  | .relation _ => .refl _ _
  | .relations _ => .refl _ _

theorem relations_reconciled (path : KeyPath) : (entries : List (String × RelationPopulate)) →
    Reconciled o.typeField (Populate.lowerRelations path entries) (relations o path entries).events
      (Populate.lowerRelations path (relations o path entries).value)
  | [] => .refl _ _
  | (name, inclusion) :: rest => by
      have hi := relation_reconciled (path.child name) inclusion
      have hr := relations_reconciled path rest
      simpa [relations, Populate.lowerRelations] using hi.append hr

theorem relation_reconciled (path : KeyPath) : (inclusion : RelationPopulate) →
    Reconciled o.typeField (inclusion.lower path) (relation o path inclusion).events
      ((relation o path inclusion).value.lower path)
  | .shape value => by
      simp only [relation, RelationPopulate.lower, Traced.value_bind, Traced.value_pure,
        Traced.events_bind, Traced.events_pure, List.append_nil, isEmpty_shape]
      by_cases he : value.isEmpty = true
      · simp only [he, ↓reduceIte]
        obtain rfl := eq_empty_of_isEmpty he
        exact .refl _ _
      · simp only [he, Bool.false_eq_true, ↓reduceIte]
        exact shape_reconciled path value
  | .flag _ => .refl _ _
  | .name _ => .refl _ _

/-- Fields and order of a relation are sent as they were, around and between what is normalized. -/
theorem shape_reconciled (path : KeyPath) : (value : PopulateShape) →
    Reconciled o.typeField (value.lower path) (shape o path value).events
      ((shape o path value).value.lower path)
  | .mk fields inner sort conditions => by
      have hi := optionalPopulate_reconciled (path.child "populate") inner
      have hf := (Reconciled.refl o.typeField
        (lowerIndexed .populate (path.child "fields") fields)).append hi
      have hs := hf.append (.refl o.typeField (lowerIndexed .populate (path.child "sort") sort))
      cases conditions with
      | none => simpa [shape, PopulateShape.lower, filters] using hs
      | some node =>
          have hn := hs.append (filters_reconciled o (path.child "filters") node)
          simpa [shape, PopulateShape.lower, filters] using hn

theorem optionalPopulate_reconciled (path : KeyPath) : (included : Option Populate) →
    Reconciled o.typeField (Populate.lowerOption path included)
      (optionalPopulate o path included).events
      (Populate.lowerOption path (optionalPopulate o path included).value)
  | none => .refl _ _
  | some value => by
      simpa [optionalPopulate, Populate.lowerOption] using populate_reconciled path value

end

/-! ## Intents -/

/-- The parameters of an intent beside those of its filters and of what it includes. -/
def Intent.lowerOthers (i : Intent) : Params := (Category.all.drop 2).flatMap i.lowerOf

theorem Intent.lower_eq_append (i : Intent) :
    i.lower = i.lowerOf .filters ++ i.lowerOf .populate ++ i.lowerOthers := by
  simp [Intent.lower_eq_flatMap, Intent.lowerOthers, Category.all]

theorem intent_reconciled (i : Intent) :
    Reconciled o.typeField i.lower (i.normalize o).2.changes (i.normalize o).1.lower := by
  have hf := filterNode_reconciled o (KeyPath.ofRoot "filters") (i.filters.getD [])
  have hp := optionalPopulate_reconciled o (KeyPath.ofRoot "populate") i.populate
  have ho : (i.normalize o).1.lowerOthers = i.lowerOthers := rfl
  have hr := (hf.append hp).append (.refl o.typeField i.lowerOthers)
  rw [i.lower_eq_append, (i.normalize o).1.lower_eq_append, ho]
  cases h : i.filters <;>
    simpa [Intent.normalize, Normalization.intent, filters, Intent.lowerOf, filterNode, h] using hr

/-- The report of a normalized intent accounts for its parameters. Those of the original intent part
into dropped ones, which are the listed values in order, and kept ones, each of which is replaced by
a parameter of the normalized intent; the replacements with another value are as many as the dates
and codes that the report counts. -/
theorem report_accounts_for_parameters (i : Intent) :
    ∃ dropped kept : Params, Parted i.lower dropped kept ∧
      List.Forall₂ (Param.IsListedAs o.typeField) dropped (i.normalize o).2.droppedValues ∧
      List.Forall₂ (Param.IsReplacedBy o.typeField) kept (i.normalize o).1.lower ∧
      kept.rewritten (i.normalize o).1.lower =
        (i.normalize o).2.expandedDates + (i.normalize o).2.canonicalizedCodes ∧
      i.lower.length = (i.normalize o).1.lower.length + (i.normalize o).2.droppedValues.length := by
  obtain ⟨dropped, kept, hp, hd, hk, hn⟩ := intent_reconciled o i
  refine ⟨dropped, kept, hp, hd, hk, hn, ?_⟩
  rw [hp.length_eq, hk.length_eq, hd.length_eq]

end BracketQuery
