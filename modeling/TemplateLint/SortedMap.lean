set_option autoImplicit false

/-!
Finite maps from strings, sorted by key.

The order of the keys is part of the type, so a map is determined by its look-ups, and walking along a map
visits the keys in ascending order.  Strings are ordered by code points, which is also the order of their
UTF-8 bytes.
-/

namespace TemplateLint

def Ascending {α : Type} (entries : List (String × α)) : Prop :=
  entries.Pairwise fun left right => left.1 < right.1

structure SortedMap (α : Type) where
  entries : List (String × α)
  ascending : Ascending entries

namespace SortedMap

variable {α : Type}

/-! ### Operations on the entries -/

def lookup (key : String) : List (String × α) → Option α
  | [] => none
  | (other, value) :: rest => if other = key then some value else lookup key rest

/-- Puts a value under a key: in place of the entry with that key, or before the first greater key. -/
def insert (key : String) (value : α) : List (String × α) → List (String × α)
  | [] => [(key, value)]
  | (other, old) :: rest =>
      if key = other then (key, value) :: rest
      else if key < other then (key, value) :: (other, old) :: rest
      else (other, old) :: insert key value rest

def remove (key : String) (entries : List (String × α)) : List (String × α) :=
  entries.filter fun entry => entry.1 != key

theorem key_of_mem_insert (key : String) (value : α) (entries : List (String × α))
    (entry : String × α) (isMember : entry ∈ insert key value entries) :
    entry = (key, value) ∨ entry ∈ entries := by
  induction entries with
  | nil =>
      left
      simpa [insert] using isMember
  | cons first rest ih =>
      obtain ⟨other, old⟩ := first
      unfold insert at isMember
      split at isMember
      · rcases List.mem_cons.1 isMember with same | inRest
        · exact Or.inl same
        · exact Or.inr (List.mem_cons_of_mem _ inRest)
      · split at isMember
        · rcases List.mem_cons.1 isMember with same | inRest
          · exact Or.inl same
          · exact Or.inr inRest
        · rcases List.mem_cons.1 isMember with same | inRest
          · exact Or.inr (same ▸ List.mem_cons_self)
          · rcases ih inRest with same | inside
            · exact Or.inl same
            · exact Or.inr (List.mem_cons_of_mem _ inside)

theorem lt_of_not_lt {left right : String} (different : left ≠ right) (isNotBelow : ¬ left < right) :
    right < left := by
  have atMost : right ≤ left := String.not_lt.1 isNotBelow
  apply Decidable.byContradiction
  intro isNotAbove
  exact different (String.le_antisymm (String.not_lt.1 isNotAbove) atMost)

theorem insert_ascending (key : String) (value : α) (entries : List (String × α))
    (sorted : Ascending entries) : Ascending (insert key value entries) := by
  induction entries with
  | nil => exact List.pairwise_singleton _ _
  | cons first rest ih =>
      obtain ⟨other, old⟩ := first
      have parts := List.pairwise_cons.1 sorted
      unfold insert
      split
      · rename_i same
        subst same
        exact List.pairwise_cons.2 ⟨parts.1, parts.2⟩
      · rename_i different
        split
        · rename_i below
          refine List.pairwise_cons.2 ⟨?_, sorted⟩
          intro entry isMember
          rcases List.mem_cons.1 isMember with same | inRest
          · subst same
            exact below
          · exact String.lt_trans below (parts.1 entry inRest)
        · rename_i isNotBelow
          refine List.pairwise_cons.2 ⟨?_, ih parts.2⟩
          intro entry isMember
          rcases key_of_mem_insert key value rest entry isMember with same | inRest
          · subst same
            exact lt_of_not_lt different isNotBelow
          · exact parts.1 entry inRest

theorem remove_ascending (key : String) (entries : List (String × α)) (sorted : Ascending entries) :
    Ascending (remove key entries) :=
  List.Pairwise.filter _ sorted

/-! ### Maps -/

def empty : SortedMap α := ⟨[], List.Pairwise.nil⟩

def get? (map : SortedMap α) (key : String) : Option α :=
  lookup key map.entries

def put (map : SortedMap α) (key : String) (value : α) : SortedMap α :=
  ⟨insert key value map.entries, insert_ascending key value map.entries map.ascending⟩

def erase (map : SortedMap α) (key : String) : SortedMap α :=
  ⟨remove key map.entries, remove_ascending key map.entries map.ascending⟩

def size (map : SortedMap α) : Nat := map.entries.length

def isEmpty (map : SortedMap α) : Bool := map.entries.isEmpty

def values (map : SortedMap α) : List α := map.entries.map (·.2)

def ofList (entries : List (String × α)) : SortedMap α :=
  entries.foldl (fun map entry => map.put entry.1 entry.2) empty

instance [DecidableEq α] : DecidableEq (SortedMap α) := fun left right =>
  if same : left.entries = right.entries then
    isTrue (by cases left; cases right; cases same; rfl)
  else isFalse fun equal => same (congrArg entries equal)

/-! ### Look-ups -/

theorem lookup_insert_self (key : String) (value : α) (entries : List (String × α)) :
    lookup key (insert key value entries) = some value := by
  induction entries with
  | nil => simp [insert, lookup]
  | cons first rest ih =>
      obtain ⟨other, old⟩ := first
      unfold insert
      split
      · simp [lookup]
      · rename_i different
        split
        · simp [lookup]
        · simp [lookup, Ne.symm different, ih]

theorem lookup_insert_of_ne (key other : String) (value : α) (entries : List (String × α))
    (different : other ≠ key) : lookup other (insert key value entries) = lookup other entries := by
  induction entries with
  | nil => simp [insert, lookup, Ne.symm different]
  | cons first rest ih =>
      obtain ⟨present, old⟩ := first
      unfold insert
      split
      · rename_i same
        subst same
        simp [lookup, Ne.symm different]
      · split
        · simp [lookup, Ne.symm different]
        · simp only [lookup, ih]

theorem lookup_remove_self (key : String) (entries : List (String × α)) :
    lookup key (remove key entries) = none := by
  induction entries with
  | nil => rfl
  | cons first rest ih =>
      obtain ⟨other, old⟩ := first
      unfold remove at ih ⊢
      by_cases same : other = key
      · simp [same, ih]
      · simp [same, lookup, ih]

theorem lookup_remove_of_ne (key other : String) (entries : List (String × α)) (different : other ≠ key) :
    lookup other (remove key entries) = lookup other entries := by
  induction entries with
  | nil => rfl
  | cons first rest ih =>
      obtain ⟨present, old⟩ := first
      unfold remove at ih ⊢
      by_cases same : present = key
      · subst same
        simp [lookup, ih, Ne.symm different]
      · simp [same, lookup, ih]

@[simp] theorem get?_empty (key : String) : (empty : SortedMap α).get? key = none := rfl

@[simp] theorem get?_put_self (map : SortedMap α) (key : String) (value : α) :
    (map.put key value).get? key = some value :=
  lookup_insert_self key value map.entries

theorem get?_put_of_ne (map : SortedMap α) (key other : String) (value : α) (different : other ≠ key) :
    (map.put key value).get? other = map.get? other :=
  lookup_insert_of_ne key other value map.entries different

@[simp] theorem get?_erase_self (map : SortedMap α) (key : String) : (map.erase key).get? key = none :=
  lookup_remove_self key map.entries

theorem get?_erase_of_ne (map : SortedMap α) (key other : String) (different : other ≠ key) :
    (map.erase key).get? other = map.get? other :=
  lookup_remove_of_ne key other map.entries different

theorem get?_put (map : SortedMap α) (key other : String) (value : α) :
    (map.put key value).get? other = if other = key then some value else map.get? other := by
  by_cases same : other = key
  · rw [if_pos same, same, get?_put_self]
  · rw [if_neg same, get?_put_of_ne map key other value same]

theorem get?_erase (map : SortedMap α) (key other : String) :
    (map.erase key).get? other = if other = key then none else map.get? other := by
  by_cases same : other = key
  · rw [if_pos same, same, get?_erase_self]
  · rw [if_neg same, get?_erase_of_ne map key other same]

/-! ### Values -/

theorem lookup_mem (key : String) (value : α) (entries : List (String × α))
    (found : lookup key entries = some value) : (key, value) ∈ entries := by
  induction entries with
  | nil => cases found
  | cons first rest ih =>
      obtain ⟨other, old⟩ := first
      unfold lookup at found
      split at found
      · rename_i same
        cases found
        subst same
        exact List.mem_cons_self
      · exact List.mem_cons_of_mem _ (ih found)

theorem lookup_of_mem (key : String) (value : α) (entries : List (String × α))
    (sorted : Ascending entries) (isMember : (key, value) ∈ entries) :
    lookup key entries = some value := by
  induction entries with
  | nil => cases isMember
  | cons first rest ih =>
      obtain ⟨other, old⟩ := first
      have parts := List.pairwise_cons.1 sorted
      rcases List.mem_cons.1 isMember with same | inRest
      · cases same
        simp [lookup]
      · have above : other < key := parts.1 (key, value) inRest
        have different : other ≠ key := fun same => String.lt_irrefl key (same ▸ above)
        simp only [lookup, if_neg different]
        exact ih parts.2 inRest

theorem get?_eq_some_iff (map : SortedMap α) (key : String) (value : α) :
    map.get? key = some value ↔ (key, value) ∈ map.entries :=
  ⟨lookup_mem key value map.entries, lookup_of_mem key value map.entries map.ascending⟩

theorem filter_values_of_entries (name : α → String) (key : String) (entries : List (String × α))
    (sorted : Ascending entries) (named : ∀ entry ∈ entries, name entry.2 = entry.1) :
    (entries.map (·.2)).filter (fun value => name value == key) = (lookup key entries).toList := by
  induction entries with
  | nil => rfl
  | cons first rest ih =>
      obtain ⟨other, value⟩ := first
      have parts := List.pairwise_cons.1 sorted
      have nameOfFirst : name value = other := named (other, value) List.mem_cons_self
      have filteredRest := ih parts.2 fun entry inRest => named entry (List.mem_cons_of_mem _ inRest)
      by_cases same : other = key
      · -- the keys behind are greater, so nothing there has this key
        have absent : lookup key rest = none := by
          cases found : lookup key rest with
          | none => rfl
          | some later =>
              have above : other < key := parts.1 (key, later) (lookup_mem key later rest found)
              exact absurd (same ▸ above) (String.lt_irrefl key)
        rw [absent] at filteredRest
        simp [lookup, nameOfFirst, same, filteredRest]
      · simp [lookup, nameOfFirst, same, filteredRest]

/-- When values bear the names of their keys, at most one value has a given name. -/
theorem filter_values (map : SortedMap α) (name : α → String)
    (named : ∀ key value, map.get? key = some value → name value = key) (key : String) :
    map.values.filter (fun value => name value == key) = (map.get? key).toList :=
  filter_values_of_entries name key map.entries map.ascending fun entry isMember =>
    named entry.1 entry.2 ((get?_eq_some_iff map entry.1 entry.2).2 isMember)

theorem mem_values_iff (map : SortedMap α) (name : α → String)
    (named : ∀ key value, map.get? key = some value → name value = key) (value : α) :
    value ∈ map.values ↔ map.get? (name value) = some value := by
  constructor
  · intro isMember
    obtain ⟨entry, inEntries, same⟩ := List.mem_map.1 isMember
    have known := (get?_eq_some_iff map entry.1 entry.2).2 inEntries
    rw [← same, named entry.1 entry.2 known]
    exact known
  · intro known
    exact List.mem_map.2 ⟨(name value, value), (get?_eq_some_iff map (name value) value).1 known, rfl⟩

theorem values_ascending (map : SortedMap α) (name : α → String)
    (named : ∀ key value, map.get? key = some value → name value = key) :
    map.values.Pairwise fun left right => name left < name right := by
  have nameOf : ∀ entry ∈ map.entries, name entry.2 = entry.1 := fun entry isMember =>
    named entry.1 entry.2 ((get?_eq_some_iff map entry.1 entry.2).2 isMember)
  apply List.pairwise_map.2
  apply map.ascending.imp_of_mem
  intro left right leftMember rightMember below
  rw [nameOf left leftMember, nameOf right rightMember]
  exact below

/-! ### Equality -/

theorem entries_nodup (map : SortedMap α) : map.entries.Nodup := by
  apply map.ascending.imp
  intro left right below same
  exact String.lt_irrefl right.1 (same ▸ below)

theorem eq_of_get? {left right : SortedMap α} (same : ∀ key, left.get? key = right.get? key) :
    left = right := by
  have samePerm : left.entries.Perm right.entries := by
    rw [List.perm_ext_iff_of_nodup left.entries_nodup right.entries_nodup]
    intro entry
    rw [← get?_eq_some_iff left, ← get?_eq_some_iff right, same]
  have sameEntries : left.entries = right.entries := by
    refine samePerm.eq_of_pairwise ?_ left.ascending right.ascending
    intro first second _ _ below above
    exact absurd below (String.lt_asymm above)
  cases left
  cases right
  cases sameEntries
  rfl

theorem put_of_get? (map : SortedMap α) (key : String) (value : α) (known : map.get? key = some value) :
    map.put key value = map := by
  apply eq_of_get?
  intro other
  rw [get?_put]
  split
  · rename_i same
    rw [same, known]
  · rfl

theorem erase_erase (map : SortedMap α) (key : String) : (map.erase key).erase key = map.erase key := by
  apply eq_of_get?
  intro other
  simp only [get?_erase]
  split
  · rfl
  · rfl

/-! ### Keys -/

def keys (map : SortedMap α) : List String := map.entries.map (·.1)

theorem mem_keys_iff (map : SortedMap α) (key : String) : key ∈ map.keys ↔ map.get? key ≠ none := by
  constructor
  · intro isMember
    obtain ⟨entry, inEntries, same⟩ := List.mem_map.1 isMember
    rw [← same, (get?_eq_some_iff map entry.1 entry.2).2 inEntries]
    exact nofun
  · intro present
    obtain ⟨value, known⟩ := Option.ne_none_iff_exists'.1 present
    exact List.mem_map.2 ⟨(key, value), (get?_eq_some_iff map key value).1 known, rfl⟩

theorem keys_nodup (map : SortedMap α) : map.keys.Nodup := by
  apply List.pairwise_map.2
  apply map.ascending.imp
  intro left right below same
  exact String.lt_irrefl right.1 (same ▸ below)

def KeysWithin {β : Type} (map : SortedMap α) (other : SortedMap β) : Prop :=
  ∀ key, map.get? key ≠ none → other.get? key ≠ none

section

variable {β : Type} {map : SortedMap α} {other : SortedMap β} (within : map.KeysWithin other)

include within

theorem KeysWithin.erase (key : String) : (map.erase key).KeysWithin (other.erase key) := by
  intro found present
  rw [get?_erase] at present ⊢
  split at present
  · exact absurd rfl present
  · rename_i different
    rw [if_neg different]
    exact within found present

theorem KeysWithin.put_right (key : String) (value : β) : map.KeysWithin (other.put key value) := by
  intro found present
  rw [get?_put]
  split
  · exact nofun
  · exact within found present

theorem KeysWithin.put_left (key : String) (value : α) (isKey : other.get? key ≠ none) :
    (map.put key value).KeysWithin other := by
  intro found present
  rw [get?_put] at present
  split at present
  · rename_i same
    rw [same]
    exact isKey
  · exact within found present

theorem KeysWithin.size_le : map.size ≤ other.size := by
  have keysWithin : map.keys ⊆ other.keys := by
    intro key isKey
    exact (mem_keys_iff other key).2 (within key ((mem_keys_iff map key).1 isKey))
  have fewer := (keys_nodup map).length_le_of_subset keysWithin
  simpa only [keys, size, List.length_map] using fewer

end

end SortedMap

end TemplateLint
