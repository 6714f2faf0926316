import BracketQuery.Proofs.Filter.Idle
import BracketQuery.Proofs.Populate.Relations
import BracketQuery.Proofs.Wire.Cover

/-!
Which relations of an inclusion are sent. A relation is sent at its path and below it, among what
the inclusion sends; it is lost when its shape has members and none of them sends anything, for only
a shape without members is replaced by a mark that the relation is included.
-/

namespace BracketQuery

open Normalization

mutual

/-- Whether an inclusion sends nothing. -/
def Populate.isIdle : Populate → Bool
  | .all => false
  | .relation name => name == ""
  | .relations names => names.isEmpty
  | .shaped entries => Populate.areLost entries

def Populate.areLost : List (String × RelationPopulate) → Bool
  | [] => true
  | (_, inclusion) :: rest => RelationPopulate.isLost inclusion && Populate.areLost rest

/-- Whether a relation is asked for and nothing is sent of it. -/
def RelationPopulate.isLost : RelationPopulate → Bool
  | .shape value => !value.isEmpty && PopulateShape.isIdle value
  | .flag _ | .name _ => false

/-- Whether no member of a shape sends anything. -/
def PopulateShape.isIdle : PopulateShape → Bool
  | .mk fields inner sort conditions =>
    fields.isEmpty && Populate.isIdleOption inner && sort.isEmpty &&
      conditions.all FilterNode.isIdle

def Populate.isIdleOption : Option Populate → Bool
  | some populate => Populate.isIdle populate
  | none => true

end

/-- Every relation of an inclusion, at any depth that shapes lead to, has a parameter whose key is
its path or goes on below it. -/
def Populate.IncludesEach (path : KeyPath) (included : Populate) : Prop :=
  ∀ entry ∈ included.relationsAt path, ∃ p ∈ included.lower path, entry.1.Covers p.key

/-! ## Relations that send nothing -/

theorem FilterNode.lowerOfRelation_eq_nil_iff {path : KeyPath} {node : FilterNode} :
    FilterNode.lowerOfRelation path node = [] ↔ FilterNode.isIdle node = true := by
  rw [FilterNode.lowerOfRelation, List.map_eq_nil_iff, FilterNode.lower_eq_nil_iff]

mutual

theorem Populate.lower_eq_nil_iff (path : KeyPath) : (included : Populate) →
    (included.lower path = [] ↔ included.isIdle = true)
  | .all => by simp [Populate.lower, Populate.isIdle]
  | .relation name => by simp [Populate.lower, Populate.isIdle]
  | .relations _ => by simp [Populate.lower, Populate.isIdle, lowerIndexed_eq_nil_iff]
  | .shaped entries => Populate.lowerRelations_eq_nil_iff path entries

theorem Populate.lowerRelations_eq_nil_iff (path : KeyPath) :
    (entries : List (String × RelationPopulate)) →
      (Populate.lowerRelations path entries = [] ↔ Populate.areLost entries = true)
  | [] => by simp [Populate.lowerRelations, Populate.areLost]
  | (name, inclusion) :: rest => by
      rw [Populate.lowerRelations, Populate.areLost, List.append_eq_nil_iff, Bool.and_eq_true,
        RelationPopulate.lower_eq_nil_iff (path.child name) inclusion,
        Populate.lowerRelations_eq_nil_iff path rest]

/-- Nothing is sent of a relation exactly if it is lost. -/
theorem RelationPopulate.lower_eq_nil_iff (path : KeyPath) : (inclusion : RelationPopulate) →
    (inclusion.lower path = [] ↔ inclusion.isLost = true)
  | .flag _ | .name _ => by simp [RelationPopulate.lower, RelationPopulate.isLost]
  | .shape value => by
      have hs := PopulateShape.lower_eq_nil_iff path value
      rw [RelationPopulate.lower, RelationPopulate.isLost]
      cases he : value.isEmpty <;> simp [hs]

theorem PopulateShape.lower_eq_nil_iff (path : KeyPath) : (value : PopulateShape) →
    (value.lower path = [] ↔ value.isIdle = true)
  | .mk fields inner sort conditions => by
      have hi := Populate.lowerOption_eq_nil_iff (path.child "populate") inner
      cases conditions <;>
        simp [PopulateShape.lower, PopulateShape.isIdle, lowerIndexed_eq_nil_iff, hi,
          FilterNode.lowerOfRelation_eq_nil_iff, and_assoc]

theorem Populate.lowerOption_eq_nil_iff (path : KeyPath) : (included : Option Populate) →
    (Populate.lowerOption path included = [] ↔ Populate.isIdleOption included = true)
  | some value => Populate.lower_eq_nil_iff path value
  | none => by simp [Populate.lowerOption, Populate.isIdleOption]

end

/-! ## What relations send is sent -/

theorem PopulateShape.relationsBelow_of_isEmpty {value : PopulateShape} (h : value.isEmpty = true)
    (path : KeyPath) : value.relationsBelow path = [] := by
  obtain ⟨_, inner, _, _⟩ := value
  cases inner with
  | none => rfl
  | some _ => simp [PopulateShape.isEmpty, PopulateShape.populate] at h

mutual

theorem Populate.relationsAt_sublist (path : KeyPath) : (included : Populate) →
    ∀ entry ∈ included.relationsAt path, (entry.2.lower entry.1).Sublist (included.lower path)
  | .shaped entries => Populate.relationsOfEntries_sublist path entries
  | .all | .relation _ | .relations _ => by simp [Populate.relationsAt]

/-- What a relation sends is sent among what the relations at its side send. -/
theorem Populate.relationsOfEntries_sublist (path : KeyPath) :
    (entries : List (String × RelationPopulate)) →
      ∀ entry ∈ Populate.relationsOfEntries path entries,
        (entry.2.lower entry.1).Sublist (Populate.lowerRelations path entries)
  | [] => by simp [Populate.relationsOfEntries]
  | (name, inclusion) :: rest => by
      simp only [Populate.relationsOfEntries, Populate.lowerRelations, List.mem_append,
        List.mem_cons]
      rintro entry (hbelow | rfl | hrest)
      · exact (RelationPopulate.relationsBelow_sublist (path.child name) inclusion entry
          hbelow).trans (List.sublist_append_left _ _)
      · exact List.sublist_append_left _ _
      · exact (Populate.relationsOfEntries_sublist path rest entry hrest).trans
          (List.sublist_append_right _ _)

theorem RelationPopulate.relationsBelow_sublist (path : KeyPath) :
    (inclusion : RelationPopulate) → ∀ entry ∈ inclusion.relationsBelow path,
      (entry.2.lower entry.1).Sublist (inclusion.lower path)
  | .flag _ | .name _ => by simp [RelationPopulate.relationsBelow]
  | .shape value => by
      intro entry h
      simp only [RelationPopulate.relationsBelow] at h
      simp only [RelationPopulate.lower]
      split
      · rename_i he
        simp [PopulateShape.relationsBelow_of_isEmpty he] at h
      · exact PopulateShape.relationsBelow_sublist path value entry h

theorem PopulateShape.relationsBelow_sublist (path : KeyPath) : (value : PopulateShape) →
    ∀ entry ∈ value.relationsBelow path, (entry.2.lower entry.1).Sublist (value.lower path)
  | .mk fields inner sort conditions => by
      intro entry h
      have hi := Populate.relationsOfOption_sublist (path.child "populate") inner entry h
      simp only [PopulateShape.lower, List.append_assoc]
      exact (hi.trans (List.sublist_append_left _ _)).trans (List.sublist_append_right _ _)

theorem Populate.relationsOfOption_sublist (path : KeyPath) : (included : Option Populate) →
    ∀ entry ∈ Populate.relationsOfOption path included,
      (entry.2.lower entry.1).Sublist (Populate.lowerOption path included)
  | some value => Populate.relationsAt_sublist path value
  | none => by simp [Populate.relationsOfOption]

end

/-! ## Nothing else is sent below a relation -/

/-- No two of some paths are the same, and the names in which they end hold no closing bracket. -/
def KeyPath.AreSeparate (paths : List KeyPath) : Prop :=
  paths.Nodup ∧ ∀ path ∈ paths, ∀ name ∈ path.segments.getLast?, ']' ∉ name.toList

theorem KeyPath.AreSeparate.sublist {paths whole : List KeyPath} (h : AreSeparate whole)
    (hs : paths.Sublist whole) : AreSeparate paths :=
  ⟨h.1.sublist hs, fun path hp => h.2 path (hs.subset hp)⟩

/-- The paths of the relations of an inclusion tell them apart. -/
abbrev Populate.HasSeparateRelations (path : KeyPath) (included : Populate) : Prop :=
  KeyPath.AreSeparate ((included.relationsAt path).map Prod.fst)

theorem Populate.mem_relationsOfEntries (path : KeyPath)
    (entries : List (String × RelationPopulate)) :
    ∀ entry ∈ entries,
      path.child entry.1 ∈ (Populate.relationsOfEntries path entries).map Prod.fst := by
  induction entries with
  | nil => simp
  | cons entry rest ih =>
      simp only [Populate.relationsOfEntries, List.map_append, List.map_cons, List.mem_append,
        List.mem_cons]
      rintro other (rfl | hr)
      · exact .inr (.inl rfl)
      · exact .inr (.inr (ih other hr))

mutual

theorem Populate.relationsAt_covers (path : KeyPath) (key : String) : (included : Populate) →
    ∀ entry ∈ included.relationsAt path, entry.1.Covers key → path.Covers key
  | .shaped entries => by
      intro entry h hc
      obtain ⟨_, _, hn⟩ := Populate.relationsOfEntries_covers path key entries entry h hc
      exact hn.of_child
  | .all | .relation _ | .relations _ => by simp [Populate.relationsAt]

/-- A key below a relation lies below the name that leads to the relation. -/
theorem Populate.relationsOfEntries_covers (path : KeyPath) (key : String) :
    (entries : List (String × RelationPopulate)) →
      ∀ entry ∈ Populate.relationsOfEntries path entries, entry.1.Covers key →
        ∃ upper ∈ entries, (path.child upper.1).Covers key
  | [] => by simp [Populate.relationsOfEntries]
  | (name, inclusion) :: rest => by
      simp only [Populate.relationsOfEntries, List.mem_append, List.mem_cons]
      rintro entry (hbelow | rfl | hrest) hc
      · exact ⟨(name, inclusion), .inl rfl,
          RelationPopulate.relationsBelow_covers (path.child name) key inclusion entry hbelow hc⟩
      · exact ⟨(name, inclusion), .inl rfl, hc⟩
      · obtain ⟨upper, hu, hn⟩ :=
          Populate.relationsOfEntries_covers path key rest entry hrest hc
        exact ⟨upper, .inr hu, hn⟩

theorem RelationPopulate.relationsBelow_covers (path : KeyPath) (key : String) :
    (inclusion : RelationPopulate) →
      ∀ entry ∈ inclusion.relationsBelow path, entry.1.Covers key → path.Covers key
  | .flag _ | .name _ => by simp [RelationPopulate.relationsBelow]
  | .shape value => fun entry h hc =>
      (PopulateShape.relationsBelow_covers path key value entry h hc).of_child

theorem PopulateShape.relationsBelow_covers (path : KeyPath) (key : String) :
    (value : PopulateShape) → ∀ entry ∈ value.relationsBelow path, entry.1.Covers key →
      (path.child "populate").Covers key
  | .mk _ inner _ _ => Populate.relationsOfOption_covers (path.child "populate") key inner

theorem Populate.relationsOfOption_covers (path : KeyPath) (key : String) :
    (included : Option Populate) →
      ∀ entry ∈ Populate.relationsOfOption path included, entry.1.Covers key → path.Covers key
  | some value => Populate.relationsAt_covers path key value
  | none => by simp [Populate.relationsOfOption]

end

theorem Populate.not_covers_rest {path : KeyPath} {name key : String}
    {inclusion : RelationPopulate} {rest : List (String × RelationPopulate)}
    (h : KeyPath.AreSeparate
      ((Populate.relationsOfEntries path ((name, inclusion) :: rest)).map Prod.fst))
    (hc : (path.child name).Covers key) : ¬ ∃ entry ∈ rest, (path.child entry.1).Covers key := by
  rintro ⟨entry, he, hrest⟩
  have hclosed : ∀ other ∈ (name, inclusion) :: rest, ']' ∉ other.1.toList := fun other ho =>
    h.2 _ (Populate.mem_relationsOfEntries path _ other ho) other.1 (by simp [KeyPath.child])
  have hname : name = entry.1 := hc.name_eq (hclosed _ List.mem_cons_self)
    (hclosed entry (List.mem_cons_of_mem _ he)) hrest
  have hnodup := h.1
  simp only [Populate.relationsOfEntries, List.map_append, List.map_cons] at hnodup
  refine (List.nodup_cons.mp (List.nodup_append.mp hnodup).2.1).1 ?_
  rw [hname]
  exact Populate.mem_relationsOfEntries path rest entry he

mutual

theorem Populate.mem_own (path : KeyPath) : (included : Populate) →
    included.HasSeparateRelations path → ∀ entry ∈ included.relationsAt path,
      ∀ p ∈ included.lower path, entry.1.Covers p.key → p ∈ entry.2.lower entry.1
  | .shaped entries, h => Populate.mem_own_of_entries path entries h
  | .all, _ | .relation _, _ | .relations _, _ => by simp [Populate.relationsAt]

/-- What is sent of some relations below one of them is sent of this one. -/
theorem Populate.mem_own_of_entries (path : KeyPath) :
    (entries : List (String × RelationPopulate)) →
      KeyPath.AreSeparate ((Populate.relationsOfEntries path entries).map Prod.fst) →
        ∀ entry ∈ Populate.relationsOfEntries path entries,
          ∀ p ∈ Populate.lowerRelations path entries, entry.1.Covers p.key →
            p ∈ entry.2.lower entry.1
  | [], _ => by simp [Populate.relationsOfEntries]
  | (name, inclusion) :: rest, h => by
      intro entry he p hp hc
      have hbelow := h.sublist ((List.sublist_append_left _ _).map Prod.fst)
      have hrest := h.sublist (((List.sublist_cons_self _ _).trans
        (List.sublist_append_right _ _)).map Prod.fst)
      have hafter : p ∈ Populate.lowerRelations path rest → ¬ (path.child name).Covers p.key :=
        fun hp hc =>
          Populate.not_covers_rest h hc (Populate.lowerRelations_covers path rest p hp)
      simp only [Populate.relationsOfEntries, List.mem_append, List.mem_cons] at he
      simp only [Populate.lowerRelations, List.mem_append] at hp
      -- The relation is below the first one, the first one itself, or among those after it.
      rcases he with he | rfl | he
      · have hname : (path.child name).Covers p.key :=
          RelationPopulate.relationsBelow_covers (path.child name) p.key inclusion entry he hc
        exact RelationPopulate.mem_own (path.child name) inclusion hbelow entry he p
          (hp.resolve_right fun hp => hafter hp hname) hc
      · exact hp.resolve_right fun hp => hafter hp hc
      · have hname := Populate.relationsOfEntries_covers path p.key rest entry he hc
        refine Populate.mem_own_of_entries path rest hrest entry he p
          (hp.resolve_left fun hp => ?_) hc
        exact Populate.not_covers_rest h
          (RelationPopulate.lower_covers (path.child name) inclusion p hp) hname

theorem RelationPopulate.mem_own (path : KeyPath) : (inclusion : RelationPopulate) →
    KeyPath.AreSeparate ((inclusion.relationsBelow path).map Prod.fst) →
      ∀ entry ∈ inclusion.relationsBelow path,
        ∀ p ∈ inclusion.lower path, entry.1.Covers p.key → p ∈ entry.2.lower entry.1
  | .flag _, _ | .name _, _ => by simp [RelationPopulate.relationsBelow]
  | .shape value, h => by
      intro entry he p hp hc
      simp only [RelationPopulate.lower] at hp
      split at hp
      · rename_i hempty
        simp [RelationPopulate.relationsBelow,
          PopulateShape.relationsBelow_of_isEmpty hempty] at he
      · exact PopulateShape.mem_own path value h entry he p hp hc

theorem PopulateShape.mem_own (path : KeyPath) : (value : PopulateShape) →
    KeyPath.AreSeparate ((value.relationsBelow path).map Prod.fst) →
      ∀ entry ∈ value.relationsBelow path, ∀ p ∈ value.lower path,
        entry.1.Covers p.key → p ∈ entry.2.lower entry.1
  | .mk fields inner sort conditions, h => by
      intro entry he p hp hc
      have hinner := PopulateShape.relationsBelow_covers path p.key
        (.mk fields inner sort conditions) entry he hc
      -- The other members of a shape send below other names.
      have hother {name : String} (hn : ']' ∉ name.toList) (hne : name ≠ "populate")
          (ho : (path.child name).Covers p.key) : False :=
        hne (ho.name_eq hn (by decide) hinner)
      simp only [PopulateShape.lower, List.mem_append] at hp
      rcases hp with ((hp | hp) | hp) | hp
      · exact (hother (by decide) (by decide) (covers_of_mem_lowerIndexed hp)).elim
      · exact Populate.mem_own_of_option (path.child "populate") inner h entry he p hp hc
      · exact (hother (by decide) (by decide) (covers_of_mem_lowerIndexed hp)).elim
      · cases conditions with
        | none => cases hp
        | some node =>
            exact (hother (by decide) (by decide)
              (FilterNode.lowerOfRelation_covers (path.child "filters") node p hp)).elim

theorem Populate.mem_own_of_option (path : KeyPath) : (included : Option Populate) →
    KeyPath.AreSeparate ((Populate.relationsOfOption path included).map Prod.fst) →
      ∀ entry ∈ Populate.relationsOfOption path included,
        ∀ p ∈ Populate.lowerOption path included, entry.1.Covers p.key →
          p ∈ entry.2.lower entry.1
  | some value, h => Populate.mem_own path value h
  | none, _ => by simp [Populate.relationsOfOption]

end

/-! ## Every relation is included -/

namespace Populate

theorem includesEach_of_not_lost {path : KeyPath} {included : Populate}
    (h : ∀ entry ∈ included.relationsAt path, entry.2.isLost = false) :
    included.IncludesEach path := by
  intro entry he
  have hne : entry.2.lower entry.1 ≠ [] := by
    rw [ne_eq, RelationPopulate.lower_eq_nil_iff, h entry he]
    exact Bool.false_ne_true
  obtain ⟨p, hp⟩ := List.exists_mem_of_ne_nil _ hne
  exact ⟨p, (relationsAt_sublist path included entry he).subset hp,
    RelationPopulate.lower_covers entry.1 entry.2 p hp⟩

theorem not_lost_of_includesEach {path : KeyPath} {included : Populate}
    (hs : included.HasSeparateRelations path) (h : included.IncludesEach path) :
    ∀ entry ∈ included.relationsAt path, entry.2.isLost = false := by
  intro entry he
  obtain ⟨p, hp, hc⟩ := h entry he
  have hown := mem_own path included hs entry he p hp hc
  refine Bool.eq_false_iff.mpr fun hl => ?_
  rw [(RelationPopulate.lower_eq_nil_iff entry.1 entry.2).mpr hl] at hown
  cases hown

/-- Every relation that shapes lead to is sent at its path or below it, before normalization and
after it, if none of them is lost, that is, has a shape with members that send nothing; and if their
paths keep the relations apart, only then. Normalization leaves the relations where they are. -/
theorem includesEach_iff_not_lost (path : KeyPath) (included : Populate) (o : Options) :
    let left := (Normalization.populate o path included).value
    ((∀ entry ∈ included.relationsAt path, entry.2.isLost = false) →
        included.IncludesEach path) ∧
      ((∀ entry ∈ included.relationsAt path, (normalizedRelation o entry).2.isLost = false) →
        left.IncludesEach path) ∧
      (included.HasSeparateRelations path →
        (included.IncludesEach path →
          ∀ entry ∈ included.relationsAt path, entry.2.isLost = false) ∧
        (left.IncludesEach path →
          ∀ entry ∈ included.relationsAt path, (normalizedRelation o entry).2.isLost = false)) ∧
      (left.relationsAt path).map Prod.fst = (included.relationsAt path).map Prod.fst := by
  intro left
  have hleft : left.relationsAt path = (included.relationsAt path).map (normalizedRelation o) :=
    relationsAt_populate o path included
  have hpaths : (left.relationsAt path).map Prod.fst = (included.relationsAt path).map Prod.fst := by
    rw [hleft, List.map_map]
    rfl
  refine ⟨includesEach_of_not_lost, fun h => includesEach_of_not_lost ?_,
    fun hs => ⟨not_lost_of_includesEach hs, fun h => ?_⟩, hpaths⟩
  · rwa [hleft, List.forall_mem_map]
  · have hsleft : left.HasSeparateRelations path := by
      rwa [HasSeparateRelations, hpaths]
    have hl := not_lost_of_includesEach hsleft h
    rwa [hleft, List.forall_mem_map] at hl

theorem not_includesEach_of_lower_eq_nil {path : KeyPath} {included : Populate}
    (h : included.lower path = []) {entry : KeyPath × RelationPopulate}
    (he : entry ∈ included.relationsAt path) : ¬ included.IncludesEach path := by
  intro hall
  obtain ⟨p, hp, _⟩ := hall entry he
  rw [h] at hp
  cases hp

/-- A relation with an empty node as its filters is lost, and so is one that has lost its only
comparison to normalization, while a shape without members is sent. -/
theorem idle_relations_lost :
    let path := KeyPath.ofRoot "populate"
    let unfiltered := Populate.shaped [("customer", .shape (.mk [] none [] (some [])))]
    let comparison := ("type", FilterValue.operators [(.eq, .scalar (.string "bogus"))])
    let filtered := Populate.shaped [("customer", .shape (.mk [] none [] (some [comparison])))]
    ¬ unfiltered.IncludesEach path ∧
      ¬ (Normalization.populate Options.standard path filtered).value.IncludesEach path ∧
      filtered.lower path = [⟨.populate, "populate[customer][filters][type][$eq]", "bogus"⟩] ∧
      (Populate.shaped [("customer", .shape .empty)]).lower path =
        [⟨.populate, "populate[customer]", "true"⟩] := by
  rw [Options.standard_eq]
  refine ⟨not_includesEach_of_lower_eq_nil ?_ List.mem_cons_self,
    not_includesEach_of_lower_eq_nil ?_ List.mem_cons_self, ?_, ?_⟩
  all_goals decide +kernel

end Populate

end BracketQuery
