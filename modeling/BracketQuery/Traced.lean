/-!
Values that come with a record of how they were reached. Every stage that reports something beside
its result (a decoder that skips members, a normalizer that changes values) is written in `Traced`,
so one definition gives both the result and the report.
-/

namespace BracketQuery

/-- A value together with the events noted while computing it, oldest first. -/
structure Traced (ε α : Type) where
  value : α
  events : List ε
  deriving DecidableEq

namespace Traced

variable {ε α β : Type}

/-- Note one event. -/
def note (event : ε) : Traced ε Unit := ⟨(), [event]⟩

instance : Monad (Traced ε) where
  pure a := ⟨a, []⟩
  bind x f := ⟨(f x.value).value, x.events ++ (f x.value).events⟩

@[simp] theorem value_pure (a : α) : (pure a : Traced ε α).value = a := rfl

@[simp] theorem events_pure (a : α) : (pure a : Traced ε α).events = [] := rfl

@[simp] theorem value_bind (x : Traced ε α) (f : α → Traced ε β) :
    (x >>= f).value = (f x.value).value := rfl

@[simp] theorem events_bind (x : Traced ε α) (f : α → Traced ε β) :
    (x >>= f).events = x.events ++ (f x.value).events := rfl

@[simp] theorem value_map (f : α → β) (x : Traced ε α) : (f <$> x).value = f x.value := rfl

@[simp] theorem events_map (f : α → β) (x : Traced ε α) : (f <$> x).events = x.events :=
  List.append_nil _

@[simp] theorem events_note (event : ε) : (note event).events = [event] := rfl

/-- Apply a traced function to the elements of a list and keep the results that exist. -/
def filterMap (f : α → Traced ε (Option β)) : List α → Traced ε (List β)
  | [] => pure []
  | a :: rest => do
    let head ← f a
    let tail ← filterMap f rest
    pure (match head with
      | some b => b :: tail
      | none => tail)

@[simp] theorem value_filterMap (f : α → Traced ε (Option β)) (xs : List α) :
    (filterMap f xs).value = xs.filterMap fun a => (f a).value := by
  induction xs with
  | nil => rfl
  | cons a rest ih =>
    simp only [filterMap, value_bind, value_pure, ih, List.filterMap_cons]
    cases (f a).value <;> rfl

@[simp] theorem events_filterMap (f : α → Traced ε (Option β)) (xs : List α) :
    (filterMap f xs).events = xs.flatMap fun a => (f a).events := by
  induction xs with
  | nil => rfl
  | cons a rest ih => simp [filterMap, ih]

end Traced

end BracketQuery
