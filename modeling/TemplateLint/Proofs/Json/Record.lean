import Mathlib.Data.List.Forall2
import TemplateLint.Json.Basic

set_option autoImplicit false

/-!
The documents that write a record, and those that fail to.

A record may be written as an object, with its members in any order among others, or as the array of its values.
`Json.fields?` finds the values in all these forms.  A document with a fault in one field has no values, or the
fault is found among them.
-/

namespace TemplateLint.Json

theorem string?_ofString (text : String) : (ofString text).string? = some text := rfl

theorem mapM_of_forall₂ {α β : Type} {read : α → Option β} {items : List α} {values : List β}
    (each : List.Forall₂ (fun item value => read item = some value) items values) :
    items.mapM read = some values := by
  induction each with
  | nil => rfl
  | cons first others ih =>
      rw [List.mapM_cons, first, ih]
      rfl

theorem members?_ofMembers (members : List (String × Json)) : (ofMembers members).members? = some members :=
  mapM_of_forall₂ (List.forall₂_map_left_iff.2 (List.forall₂_same.2 fun _ _ => rfl))

theorem fields?_ofMembers (names : List String) (members : List (String × Json)) :
    (ofMembers members).fields? names = names.mapM (fieldOf members) := by
  have found := members?_ofMembers members
  simp only [ofMembers] at found ⊢
  rw [fields?, found, Option.bind_some]

theorem forall₂_of_mapM {α β : Type} {read : α → Option β} {items : List α} {values : List β}
    (found : items.mapM read = some values) :
    List.Forall₂ (fun item value => read item = some value) items values := by
  induction items generalizing values with
  | nil =>
      cases found
      exact .nil
  | cons item rest ih =>
      rw [List.mapM_cons] at found
      obtain ⟨value, known, others⟩ := Option.bind_eq_some_iff.1 found
      obtain ⟨more, moreKnown, rest⟩ := Option.bind_eq_some_iff.1 others
      cases rest
      exact .cons known (ih moreKnown)

theorem mapM_eq_none_of_mem {α β : Type} {read : α → Option β} {items : List α} {item : α}
    (isItem : item ∈ items) (unread : read item = none) : items.mapM read = none := by
  induction items with
  | nil => cases isItem
  | cons first rest ih =>
      rw [List.mapM_cons]
      rcases List.mem_cons.1 isItem with rfl | isLater
      · rw [unread]
        rfl
      · rw [ih isLater]
        cases read first <;> rfl

theorem fieldOf_eq_some_iff (members : List (String × Json)) (name : String) (found : Option Json) :
    fieldOf members name = some found ↔
      members.filter (fun member => member.1 == name) = (found.map fun value => (name, value)).toList := by
  have named : ∀ member ∈ members.filter (fun member => member.1 == name), member.1 = name :=
    fun member isIn => eq_of_beq (List.mem_filter.1 isIn).2
  unfold fieldOf
  generalize members.filter (fun member => member.1 == name) = kept at named ⊢
  match kept with
  | [] => cases found <;> simp
  | [(key, value)] =>
      have sameName : key = name := named (key, value) List.mem_cons_self
      cases found <;> simp [sameName]
  | first :: second :: others => cases found <;> simp

/-! ### Records that are written -/

/-- A field of a record that is written: its name, whether it may be left out, and what may stand for its
value. -/
structure Slot where
  name : String
  mayOmit : Prop
  writes : Json → Prop

inductive Given : List Slot → List (String × Json) → Prop where
  | nil : Given [] []
  | give {slot : Slot} {slots : List Slot} {value : Json} {given : List (String × Json)}
      (written : slot.writes value) (others : Given slots given) :
      Given (slot :: slots) ((slot.name, value) :: given)
  | leave {slot : Slot} {slots : List Slot} {given : List (String × Json)} (allowed : slot.mayOmit)
      (others : Given slots given) : Given (slot :: slots) given

/-- The values of the first fields, in the order of the fields; those behind them are left out. -/
inductive Listed : List Slot → List Json → Prop where
  | nil {slots : List Slot} (allowed : ∀ slot ∈ slots, slot.mayOmit) : Listed slots []
  | cons {slot : Slot} {slots : List Slot} {value : Json} {items : List Json} (written : slot.writes value)
      (others : Listed slots items) : Listed (slot :: slots) (value :: items)

inductive WritesRecord (slots : List Slot) : Json → Prop where
  | object {given added members : List (String × Json)} (known : Given slots given)
      (unknown : ∀ member ∈ added, ∀ slot ∈ slots, member.1 ≠ slot.name)
      (order : members.Perm (given ++ added)) :
      WritesRecord slots (ofMembers members)
  | array {items : List Json} (listed : Listed slots items) : WritesRecord slots (.array items)

theorem WritesRecord.of_given {slots : List Slot} {given : List (String × Json)} (known : Given slots given) :
    WritesRecord slots (ofMembers given) :=
  .object known (fun member isAdded => absurd isAdded List.not_mem_nil) (by rw [List.append_nil])

def Slot.Holds (slot : Slot) : Option Json → Prop
  | none => slot.mayOmit
  | some value => slot.writes value

theorem Given.name_mem {slots : List Slot} {given : List (String × Json)} (known : Given slots given) :
    ∀ member ∈ given, member.1 ∈ slots.map Slot.name := by
  induction known with
  | nil => exact nofun
  | give written others ih =>
      intro member isIn
      rcases List.mem_cons.1 isIn with rfl | isLater
      · exact List.mem_cons_self
      · exact List.mem_cons_of_mem _ (ih member isLater)
  | leave allowed others ih => exact fun member isIn => List.mem_cons_of_mem _ (ih member isIn)

theorem filter_eq_nil_of_forall_ne {members : List (String × Json)} {name : String}
    (other : ∀ member ∈ members, member.1 ≠ name) : members.filter (fun member => member.1 == name) = [] := by
  rw [List.filter_eq_nil_iff]
  exact fun member isIn same => other member isIn (eq_of_beq same)

/-- A field is given once or left out. -/
theorem Given.filter {slots : List Slot} {given : List (String × Json)} (known : Given slots given)
    (distinct : (slots.map Slot.name).Nodup) :
    ∀ slot ∈ slots, ∃ value, slot.Holds value ∧
      given.filter (fun member => member.1 == slot.name) =
        (value.map fun value => (slot.name, value)).toList := by
  induction known with
  | nil => exact nofun
  | give written others ih =>
      rename_i first slots value given
      obtain ⟨isFresh, restDistinct⟩ := List.nodup_cons.1 distinct
      intro slot isIn
      rcases List.mem_cons.1 isIn with rfl | isLater
      · have noOther : ∀ member ∈ given, member.1 ≠ slot.name :=
          fun member isGiven same => isFresh (same ▸ others.name_mem member isGiven)
        refine ⟨some value, written, ?_⟩
        rw [List.filter_cons, if_pos (beq_self_eq_true slot.name), filter_eq_nil_of_forall_ne noOther]
        rfl
      · obtain ⟨found, holds, filtered⟩ := ih restDistinct slot isLater
        have different : first.name ≠ slot.name :=
          fun same => isFresh (same ▸ List.mem_map_of_mem isLater)
        refine ⟨found, holds, ?_⟩
        rw [List.filter_cons, if_neg (fun same => different (eq_of_beq same)), filtered]
  | leave allowed others ih =>
      rename_i first slots given
      obtain ⟨isFresh, restDistinct⟩ := List.nodup_cons.1 distinct
      intro slot isIn
      rcases List.mem_cons.1 isIn with rfl | isLater
      · have noOther : ∀ member ∈ given, member.1 ≠ slot.name :=
          fun member isGiven same => isFresh (same ▸ others.name_mem member isGiven)
        exact ⟨none, allowed, filter_eq_nil_of_forall_ne noOther⟩
      · exact ih restDistinct slot isLater

theorem fieldOf_of_given {slots : List Slot} {given added members : List (String × Json)}
    (known : Given slots given) (unknown : ∀ member ∈ added, ∀ slot ∈ slots, member.1 ≠ slot.name)
    (order : members.Perm (given ++ added)) (distinct : (slots.map Slot.name).Nodup) :
    ∀ slot ∈ slots, ∃ value, slot.Holds value ∧ fieldOf members slot.name = some value := by
  intro slot isIn
  obtain ⟨value, holds, filtered⟩ := known.filter distinct slot isIn
  have sameFilter := order.filter fun member => member.1 == slot.name
  have noneAdded : added.filter (fun member => member.1 == slot.name) = [] :=
    filter_eq_nil_of_forall_ne fun member isAdded => unknown member isAdded slot isIn
  rw [List.filter_append, filtered, noneAdded, List.append_nil] at sameFilter
  refine ⟨value, holds, (fieldOf_eq_some_iff members slot.name value).2 ?_⟩
  cases value with
  | none => exact List.perm_nil.1 sameFilter
  | some value => exact List.perm_singleton.1 sameFilter

theorem mapM_of_each {slots : List Slot} {read : String → Option (Option Json)}
    (each : ∀ slot ∈ slots, ∃ value, slot.Holds value ∧ read slot.name = some value) :
    ∃ values, (slots.map Slot.name).mapM read = some values ∧ List.Forall₂ Slot.Holds slots values := by
  induction slots with
  | nil => exact ⟨[], rfl, .nil⟩
  | cons slot rest ih =>
      obtain ⟨⟨value, holds, known⟩, others⟩ := List.forall_mem_cons.1 each
      obtain ⟨values, found, allHold⟩ := ih others
      refine ⟨value :: values, ?_, .cons holds allHold⟩
      rw [List.map_cons, List.mapM_cons, known, found]
      rfl

theorem Listed.length_le {slots : List Slot} {items : List Json} (listed : Listed slots items) :
    items.length ≤ slots.length := by
  induction listed with
  | nil allowed => exact Nat.zero_le _
  | cons written others ih => exact Nat.succ_le_succ ih

theorem Listed.holds {slots : List Slot} {items : List Json} (listed : Listed slots items) :
    List.Forall₂ Slot.Holds slots
      (items.map some ++ List.replicate (slots.length - items.length) none) := by
  induction listed with
  | nil allowed =>
      rename_i slots
      induction slots with
      | nil => exact .nil
      | cons slot rest ih =>
          obtain ⟨first, others⟩ := List.forall_mem_cons.1 allowed
          exact .cons first (ih others)
  | cons written others ih =>
      rw [List.length_cons, List.length_cons, Nat.add_sub_add_right]
      exact .cons written ih

/-- The values of a record are found in every document that writes it. -/
theorem fields?_of_writes {slots : List Slot} (distinct : (slots.map Slot.name).Nodup) {document : Json}
    (written : WritesRecord slots document) :
    ∃ values, document.fields? (slots.map Slot.name) = some values ∧ List.Forall₂ Slot.Holds slots values := by
  cases written with
  | object known unknown order =>
      obtain ⟨values, found, holds⟩ := mapM_of_each (fieldOf_of_given known unknown order distinct)
      exact ⟨values, (fields?_ofMembers _ _).trans found, holds⟩
  | array listed =>
      refine ⟨_, ?_, listed.holds⟩
      rw [fields?, List.length_map, if_neg (Nat.not_lt.2 listed.length_le)]

/-! ### Faults -/

structure Demand where
  name : String
  isRequired : Bool
  isFault : Json → Prop

/-- The documents with a fault in one of the fields of a record. -/
inductive FaultyRecord (demands : List Demand) : Json → Prop where
  | repeated {demand : Demand} (asked : demand ∈ demands) {members : List (Option String × Json)}
      (twice : 2 ≤ (members.map Prod.fst).count (some demand.name)) : FaultyRecord demands (.object members)
  | missing {demand : Demand} (asked : demand ∈ demands) (required : demand.isRequired = true)
      {members : List (Option String × Json)} (absent : some demand.name ∉ members.map Prod.fst) :
      FaultyRecord demands (.object members)
  | member {demand : Demand} (asked : demand ∈ demands) {members : List (Option String × Json)} {value : Json}
      (isMember : (some demand.name, value) ∈ members) (isFault : demand.isFault value) :
      FaultyRecord demands (.object members)
  | tooShort {demand : Demand} {place : Nat} (asked : demands[place]? = some demand)
      (required : demand.isRequired = true) {items : List Json} (absent : items.length ≤ place) :
      FaultyRecord demands (.array items)
  | item {demand : Demand} {place : Nat} (asked : demands[place]? = some demand) {items : List Json}
      {value : Json} (isItem : items[place]? = some value) (isFault : demand.isFault value) :
      FaultyRecord demands (.array items)

def Demand.Violated (demand : Demand) : Option Json → Prop
  | none => demand.isRequired = true
  | some value => demand.isFault value

theorem members?_object {members : List (Option String × Json)} {plain : List (String × Json)}
    (found : (Json.object members).members? = some plain) :
    members = plain.map fun (key, value) => (some key, value) := by
  rw [members?] at found
  have each := forall₂_of_mapM found
  clear found
  induction each with
  | nil => rfl
  | cons first others ih =>
      rename_i member known members plain
      obtain ⟨key, value⟩ := member
      obtain ⟨text, rfl, rfl⟩ := Option.map_eq_some_iff.1 first
      rw [List.map_cons, ih]

theorem exists_zip_of_mapM {demands : List Demand} {read : String → Option (Option Json)}
    {values : List (Option Json)} (found : (demands.map Demand.name).mapM read = some values) :
    ∀ demand ∈ demands, ∃ value, (demand, value) ∈ demands.zip values ∧ read demand.name = some value := by
  induction demands generalizing values with
  | nil => exact nofun
  | cons first rest ih =>
      cases forall₂_of_mapM found with
      | cons firstKnown othersKnown =>
          intro demand isIn
          rcases List.mem_cons.1 isIn with rfl | isLater
          · exact ⟨_, List.mem_cons_self, firstKnown⟩
          · obtain ⟨value, zipped, known⟩ := ih (mapM_of_forall₂ othersKnown) demand isLater
            exact ⟨value, List.mem_cons_of_mem _ zipped, known⟩

theorem zipped_of_places {demands : List Demand} {values : List (Option Json)} {place : Nat} {demand : Demand}
    {value : Option Json} (asked : demands[place]? = some demand) (isValue : values[place]? = some value) :
    (demand, value) ∈ demands.zip values :=
  List.mem_of_getElem? (List.getElem?_zip_eq_some.2 ⟨asked, isValue⟩)

/-- In an object a field has at most one value. -/
theorem values_of_object {demands : List Demand} {members : List (Option String × Json)}
    {values : List (Option Json)}
    (found : (Json.object members).fields? (demands.map Demand.name) = some values) {demand : Demand}
    (asked : demand ∈ demands) :
    ∃ (plain : List (String × Json)) (value : Option Json),
      members = (plain.map fun (key, value) => (some key, value)) ∧ (demand, value) ∈ demands.zip values ∧
        plain.filter (fun member => member.1 == demand.name) =
          (value.map fun value => (demand.name, value)).toList := by
  obtain ⟨plain, isPlain, read⟩ := Option.bind_eq_some_iff.1 found
  obtain ⟨value, zipped, known⟩ := exists_zip_of_mapM read demand asked
  exact ⟨plain, value, members?_object isPlain, zipped, (fieldOf_eq_some_iff plain demand.name value).1 known⟩

/-- In an array the values stand at the places of their fields. -/
theorem values_of_array {names : List String} {items : List Json} {values : List (Option Json)}
    (found : (Json.array items).fields? names = some values) :
    values = items.map some ++ List.replicate (names.length - items.length) none := by
  rw [fields?] at found
  split at found
  · cases found
  · exact (Option.some.inj found).symm

theorem count_name (members : List (String × Json)) (name : String) :
    ((members.map fun (key, value) => (some key, value)).map Prod.fst).count (some name) =
      (members.filter fun member => member.1 == name).length := by
  rw [List.map_map, List.count, List.countP_map, List.countP_eq_length_filter]
  rfl

/-- If the values of a record are found in a document with a fault, the fault is among them. -/
theorem FaultyRecord.violated {demands : List Demand} {document : Json}
    (faulty : FaultyRecord demands document) {values : List (Option Json)}
    (found : document.fields? (demands.map Demand.name) = some values) :
    ∃ pair ∈ demands.zip values, pair.1.Violated pair.2 := by
  cases faulty with
  | repeated asked twice =>
      rename_i demand members
      obtain ⟨plain, value, rfl, zipped, filtered⟩ := values_of_object found asked
      rw [count_name, filtered] at twice
      cases value with
      | none => exact absurd twice (Nat.not_succ_le_zero 1)
      | some value => exact absurd twice (Nat.not_succ_le_self 1)
  | missing asked required absent =>
      rename_i demand members
      obtain ⟨plain, value, rfl, zipped, filtered⟩ := values_of_object found asked
      refine ⟨(demand, value), zipped, ?_⟩
      cases value with
      | none => exact required
      | some value =>
          have isIn : (demand.name, value) ∈ plain.filter fun member => member.1 == demand.name := by
            rw [filtered]
            exact List.mem_cons_self
          have isMember := List.mem_map_of_mem (f := fun (key, value) => (some key, value))
            (List.mem_filter.1 isIn).1
          exact absurd (List.mem_map_of_mem (f := Prod.fst) isMember) absent
  | member asked isMember isFault =>
      rename_i demand members value
      obtain ⟨plain, known, rfl, zipped, filtered⟩ := values_of_object found asked
      obtain ⟨⟨key, same⟩, isPlain, isPair⟩ := List.mem_map.1 isMember
      cases isPair
      have isIn : (demand.name, value) ∈ plain.filter fun member => member.1 == demand.name :=
        List.mem_filter.2 ⟨isPlain, beq_self_eq_true demand.name⟩
      rw [filtered, Option.mem_toList, Option.map_eq_some_iff] at isIn
      obtain ⟨only, rfl, isOnly⟩ := isIn
      cases isOnly
      exact ⟨(demand, some value), zipped, isFault⟩
  | tooShort asked required absent =>
      rename_i demand place items
      refine ⟨(demand, none), zipped_of_places asked ?_, required⟩
      have bound := (List.getElem?_eq_some_iff.1 asked).1
      rw [values_of_array found, List.getElem?_append_right (by rw [List.length_map]; exact absent),
        List.length_map, List.length_map, List.getElem?_replicate, if_pos (by omega)]
  | item asked isItem isFault =>
      rename_i demand place items value
      refine ⟨(demand, some value), zipped_of_places asked ?_, isFault⟩
      have bound := (List.getElem?_eq_some_iff.1 isItem).1
      rw [values_of_array found, List.getElem?_append_left (by rw [List.length_map]; exact bound),
        List.getElem?_map, isItem, Option.map_some]

/-- A document is without a fault when the values that are found in it are. -/
theorem FaultyRecord.not_of_found {demands : List Demand} {document : Json} {values : List (Option Json)}
    (found : document.fields? (demands.map Demand.name) = some values)
    (each : List.Forall₂ (fun demand value => ¬demand.Violated value) demands values) :
    ¬FaultyRecord demands document := by
  intro faulty
  obtain ⟨pair, zipped, violated⟩ := faulty.violated found
  exact List.forall₂_zip each zipped violated

end TemplateLint.Json
