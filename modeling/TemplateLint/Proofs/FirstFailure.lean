import Mathlib.Data.List.Forall2

set_option autoImplicit false

/-!
Going through a list until something fails.

The whole succeeds when every item does, with the values of the items in order.  Otherwise it fails with the
failure of the first item that fails.
-/

namespace TemplateLint

variable {ε α β : Type}

instance decidableEqResult [DecidableEq ε] [DecidableEq α] : DecidableEq (Except ε α)
  | .error left, .error right => decidable_of_iff (left = right) (by rw [Except.error.injEq])
  | .error _, .ok _ => isFalse nofun
  | .ok _, .error _ => isFalse nofun
  | .ok left, .ok right => decidable_of_iff (left = right) (by rw [Except.ok.injEq])

theorem map_ok_iff (f : α → β) (result : Except ε α) (value : β) :
    result.map f = .ok value ↔ ∃ found, result = .ok found ∧ f found = value := by
  cases result with
  | error failure => exact ⟨nofun, fun ⟨_, same, _⟩ => nomatch same⟩
  | ok found =>
      constructor
      · intro same
        exact ⟨found, rfl, Except.ok.inj same⟩
      · rintro ⟨_, same, rfl⟩
        cases same
        rfl

theorem exists_map_ok_iff (f : α → β) (result : Except ε α) :
    (∃ value, result.map f = .ok value) ↔ ∃ found, result = .ok found := by
  cases result with
  | error failure => exact ⟨nofun, nofun⟩
  | ok found => exact ⟨fun _ => ⟨found, rfl⟩, fun _ => ⟨f found, rfl⟩⟩

theorem map_error_iff (f : α → β) (result : Except ε α) (failure : ε) :
    result.map f = .error failure ↔ result = .error failure := by
  cases result with
  | error cause => exact ⟨fun same => by cases same; rfl, fun same => by cases same; rfl⟩
  | ok found => exact ⟨nofun, nofun⟩

theorem mapM_ok_iff (f : α → Except ε β) (items : List α) (values : List β) :
    items.mapM f = .ok values ↔ items.map f = values.map .ok := by
  induction items generalizing values with
  | nil =>
      cases values with
      | nil => exact ⟨fun _ => rfl, fun _ => rfl⟩
      | cons first others => exact ⟨nofun, nofun⟩
  | cons item rest ih =>
      rw [List.mapM_cons, List.map_cons]
      cases f item with
      | error failure =>
          cases values with
          | nil => exact ⟨nofun, nofun⟩
          | cons first others => exact ⟨nofun, nofun⟩
      | ok value =>
          cases values with
          | nil =>
              cases rest.mapM f with
              | error failure => exact ⟨nofun, nofun⟩
              | ok others => exact ⟨nofun, nofun⟩
          | cons first others =>
              rw [List.map_cons, List.cons.injEq, ← ih]
              cases rest.mapM f with
              | error failure => exact ⟨nofun, nofun⟩
              | ok found =>
                  change Except.ok (value :: found) = Except.ok (first :: others) ↔ _
                  simp only [Except.ok.injEq, List.cons.injEq]

theorem mapM_ok_iff_forall₂ (f : α → Except ε β) (items : List α) (values : List β) :
    items.mapM f = .ok values ↔ List.Forall₂ (fun item value => f item = .ok value) items values := by
  rw [mapM_ok_iff, ← List.forall₂_eq_eq_eq, List.forall₂_map_left_iff, List.forall₂_map_right_iff]

theorem exists_item_of_mem {holds : α → β → Prop} {items : List α} {values : List β}
    (each : List.Forall₂ holds items values) {value : β} (isValue : value ∈ values) :
    ∃ item ∈ items, holds item value := by
  induction each with
  | nil => cases isValue
  | @cons first _ rest _ holdsFirst _ ih =>
      rcases List.mem_cons.1 isValue with rfl | behind
      · exact ⟨first, List.mem_cons_self, holdsFirst⟩
      · obtain ⟨item, isItem, holdsItem⟩ := ih behind
        exact ⟨item, List.mem_cons_of_mem first isItem, holdsItem⟩

theorem mapM_cons_error_iff (f : α → Except ε β) (first : α) (rest : List α) (failure : ε) :
    (first :: rest).mapM f = .error failure ↔
      f first = .error failure ∨ (∃ value, f first = .ok value) ∧ rest.mapM f = .error failure := by
  rw [List.mapM_cons]
  cases f first with
  | error cause =>
      change Except.error cause = Except.error failure ↔ _
      rw [Except.error.injEq]
      refine ⟨fun same => .inl (congrArg Except.error same), ?_⟩
      rintro (same | ⟨⟨value, succeeds⟩, -⟩)
      · exact Except.error.inj same
      · cases succeeds
  | ok value =>
      cases rest.mapM f with
      | error cause =>
          change Except.error cause = Except.error failure ↔ _
          refine ⟨fun same => .inr ⟨⟨value, rfl⟩, same⟩, ?_⟩
          rintro (fails | ⟨-, same⟩)
          · cases fails
          · exact same
      | ok others =>
          refine ⟨nofun, ?_⟩
          rintro (fails | ⟨-, same⟩)
          · cases fails
          · cases same

/-- The first item of a list with a property stands in front, or behind a front that allows it. -/
theorem exists_first_cons_iff {isIt mayPrecede : α → Prop} (first : α) (rest : List α) :
    (∃ earlier item later, first :: rest = earlier ++ item :: later ∧ isIt item ∧
        ∀ other ∈ earlier, mayPrecede other) ↔
      isIt first ∨ mayPrecede first ∧ ∃ earlier item later, rest = earlier ++ item :: later ∧ isIt item ∧
        ∀ other ∈ earlier, mayPrecede other := by
  constructor
  · rintro ⟨earlier, item, later, split, holds, before⟩
    cases earlier with
    | nil =>
        cases split
        exact .inl holds
    | cons other others =>
        cases split
        obtain ⟨atFirst, behind⟩ := List.forall_mem_cons.1 before
        exact .inr ⟨atFirst, others, item, later, rfl, holds, behind⟩
  · rintro (holds | ⟨atFirst, earlier, item, later, rfl, holds, behind⟩)
    · exact ⟨[], first, rest, rfl, holds, nofun⟩
    · exact ⟨first :: earlier, item, later, rfl, holds, List.forall_mem_cons.2 ⟨atFirst, behind⟩⟩

theorem mapM_error_iff (f : α → Except ε β) (items : List α) (failure : ε) :
    items.mapM f = .error failure ↔
      ∃ earlier item later, items = earlier ++ item :: later ∧
        f item = .error failure ∧ ∀ other ∈ earlier, ∃ value, f other = .ok value := by
  induction items with
  | nil =>
      refine ⟨nofun, ?_⟩
      rintro ⟨earlier, item, later, split, -⟩
      exact absurd split.symm (List.append_ne_nil_of_right_ne_nil _ (List.cons_ne_nil _ _))
  | cons first rest ih => rw [mapM_cons_error_iff, ih, exists_first_cons_iff]

theorem exists_mapM_ok_iff (f : α → Except ε β) (items : List α) :
    (∃ values, items.mapM f = .ok values) ↔ ∀ item ∈ items, ∃ value, f item = .ok value := by
  induction items with
  | nil => exact ⟨fun _ => nofun, fun _ => ⟨[], rfl⟩⟩
  | cons first rest ih =>
      rw [List.forall_mem_cons, ← ih, List.mapM_cons]
      cases f first with
      | error failure => exact ⟨nofun, nofun⟩
      | ok value =>
          cases rest.mapM f with
          | error failure => exact ⟨nofun, nofun⟩
          | ok others => exact ⟨fun _ => ⟨⟨value, rfl⟩, others, rfl⟩, fun _ => ⟨value :: others, rfl⟩⟩

end TemplateLint
