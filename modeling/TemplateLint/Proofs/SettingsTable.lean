import Mathlib.Algebra.Group.Int.Defs
import Mathlib.Data.List.Induction
import Mathlib.Data.List.Nodup
import TemplateLint.Proofs.Configuration
import TemplateLint.Proofs.Json.Record
import TemplateLint.Proofs.Toml.Keys

set_option autoImplicit false

/-!
Which values a table of settings may hold.

There is one rule for the tables of configuration files and for JSON objects.  Every value has to be a setting, also
one that is replaced later, and of several values under a name the last one counts.
-/

namespace TemplateLint

variable {α β : Type}

/-! ### Values that are settings -/

/-- Integers have to fit 64 bits, with or without sign. -/
inductive Toml.IsSetting : Toml → SettingValue → Prop where
  | boolean (value : Bool) : Toml.IsSetting (.bool value) (.boolean value)
  | string (text : String) : Toml.IsSetting (.string text) (.string text)
  | stringList (items : List String) : Toml.IsSetting (.array (items.map .string)) (.stringList items)
  | integer {n : Int} (notBelow : -2 ^ 63 ≤ n) (below : n < 2 ^ 64) :
      Toml.IsSetting (.integer n) (.number (Double.ofInt n))
  | float (number : Double) : Toml.IsSetting (.float number) (.number number)

inductive Json.IsSetting : Json → SettingValue → Prop where
  | boolean (value : Bool) : Json.IsSetting (.bool value) (.boolean value)
  | string (text : String) : Json.IsSetting (.ofString text) (.string text)
  | stringList (items : List String) : Json.IsSetting (.array (items.map .ofString)) (.stringList items)
  | number {numeral : Json.Numeral} {value : Json.NumberValue} (hasValue : numeral.value? = some value) :
      Json.IsSetting (.number numeral) (.number value.toDouble)

theorem mapM_eq_some_iff_map {read : α → Option β} {write : β → α}
    (inverse : ∀ item value, read item = some value ↔ item = write value) (items : List α) (values : List β) :
    items.mapM read = some values ↔ items = values.map write := by
  rw [← List.forall₂_eq_eq_eq, List.forall₂_map_right_iff]
  simp only [← inverse]
  exact ⟨Json.forall₂_of_mapM, Json.mapM_of_forall₂⟩

theorem Toml.string?_eq_some_iff (value : Toml) (text : String) :
    value.string? = some text ↔ value = .string text := by
  cases value with
  | string other => rw [string?, Option.some.injEq, Toml.string.injEq]
  | _ => exact ⟨nofun, nofun⟩

theorem Json.string?_eq_some_iff (value : Json) (text : String) :
    value.string? = some text ↔ value = .ofString text := by
  cases value with
  | string other => rw [string?, ofString, Json.string.injEq]
  | _ => exact ⟨nofun, nofun⟩

theorem isSettingInteger_iff (n : Int) : isSettingInteger n = true ↔ -2 ^ 63 ≤ n ∧ n < 2 ^ 64 := by
  rw [isSettingInteger, Bool.and_eq_true, decide_eq_true_iff, decide_eq_true_iff]
  rfl

theorem SettingValue.ofToml?_eq_some_iff (value : Toml) (setting : SettingValue) :
    ofToml? value = some setting ↔ value.IsSetting setting := by
  constructor
  · intro isRead
    cases value with
    | string text =>
        cases isRead
        exact .string text
    | integer n =>
        rw [ofToml?] at isRead
        split at isRead
        · rename_i inRange
          cases isRead
          obtain ⟨notBelow, below⟩ := (isSettingInteger_iff n).1 inRange
          exact .integer notBelow below
        · cases isRead
    | float number =>
        cases isRead
        exact .float number
    | bool value =>
        cases isRead
        exact .boolean value
    | array items =>
        obtain ⟨texts, areTexts, rfl⟩ := Option.map_eq_some_iff.1 isRead
        rw [(mapM_eq_some_iff_map Toml.string?_eq_some_iff items texts).1 areTexts]
        exact .stringList texts
    | moment text => cases isRead
    | table members => cases isRead
  · intro isSetting
    cases isSetting with
    | boolean value => rfl
    | string text => rfl
    | stringList items =>
        exact Option.map_eq_some_iff.2 ⟨items, (mapM_eq_some_iff_map Toml.string?_eq_some_iff _ items).2 rfl, rfl⟩
    | @integer n notBelow below => exact if_pos ((isSettingInteger_iff n).2 ⟨notBelow, below⟩)
    | float number => rfl

theorem SettingValue.ofJson?_eq_some_iff (value : Json) (setting : SettingValue) :
    ofJson? value = some setting ↔ value.IsSetting setting := by
  constructor
  · intro isRead
    cases value with
    | null => cases isRead
    | bool value =>
        cases isRead
        exact .boolean value
    | number numeral =>
        obtain ⟨value, hasValue, rfl⟩ := Option.map_eq_some_iff.1 isRead
        exact .number hasValue
    | string text =>
        obtain ⟨text, rfl, rfl⟩ := Option.map_eq_some_iff.1 isRead
        exact .string text
    | array items =>
        obtain ⟨texts, areTexts, rfl⟩ := Option.map_eq_some_iff.1 isRead
        rw [(mapM_eq_some_iff_map Json.string?_eq_some_iff items texts).1 areTexts]
        exact .stringList texts
    | object members => cases isRead
  · intro isSetting
    cases isSetting with
    | boolean value => rfl
    | string text => rfl
    | stringList items =>
        exact Option.map_eq_some_iff.2 ⟨items, (mapM_eq_some_iff_map Json.string?_eq_some_iff _ items).2 rfl, rfl⟩
    | number hasValue => exact Option.map_eq_some_iff.2 ⟨_, hasValue, rfl⟩

/-! ### Look-ups in lists of entries -/

namespace SortedMap

theorem get?_ofList (entries : List (String × α)) (key : String) :
    (ofList entries).get? key = lookup key entries.reverse := by
  induction entries using List.reverseRecOn with
  | nil => rfl
  | append_singleton entries entry ih =>
      obtain ⟨other, value⟩ := entry
      rw [List.reverse_append, List.reverse_singleton, List.singleton_append, lookup, ← ih, ofList,
        List.foldl_append, List.foldl_cons, List.foldl_nil, ← ofList, get?_put]
      simp only [eq_comm]

theorem exists_lookup_iff (key : String) (entries : List (String × α)) :
    (∃ value, lookup key entries = some value) ↔ ∃ value, (key, value) ∈ entries := by
  constructor
  · rintro ⟨value, found⟩
    exact ⟨value, lookup_mem key value entries found⟩
  · rintro ⟨value, isEntry⟩
    induction entries with
    | nil => cases isEntry
    | cons first rest ih =>
        obtain ⟨other, old⟩ := first
        by_cases same : other = key
        · exact ⟨old, if_pos same⟩
        · rcases List.mem_cons.1 isEntry with atFirst | behind
          · exact absurd (Prod.mk.inj atFirst).1.symm same
          · obtain ⟨found, isFound⟩ := ih behind
            exact ⟨found, (if_neg same).trans isFound⟩

end SortedMap

def ReadAs (read : α → Option β) : List (String × α) → List (String × β) → Prop :=
  List.Forall₂ fun member entry => entry.1 = member.1 ∧ read member.2 = some entry.2

namespace ReadAs

variable {read : α → Option β} {members : List (String × α)} {entries : List (String × β)}

theorem of_mapM (found : (members.mapM fun member => (read member.2).map fun value => (member.1, value)) =
    some entries) : ReadAs read members entries := by
  refine (Json.forall₂_of_mapM found).imp fun member entry isEntry => ?_
  obtain ⟨value, isRead, rfl⟩ := Option.map_eq_some_iff.1 isEntry
  exact ⟨rfl, isRead⟩

theorem mapM_eq (readAs : ReadAs read members entries) :
    (members.mapM fun member => (read member.2).map fun value => (member.1, value)) = some entries := by
  refine Json.mapM_of_forall₂ (readAs.imp fun member entry isEntry => ?_)
  obtain ⟨same, isRead⟩ := isEntry
  rw [isRead, ← same]
  rfl

theorem of_each (each : ∀ member ∈ members, ∃ value, read member.2 = some value) :
    ∃ entries, ReadAs read members entries := by
  induction members with
  | nil => exact ⟨[], .nil⟩
  | cons member rest ih =>
      obtain ⟨⟨value, isRead⟩, others⟩ := List.forall_mem_cons.1 each
      obtain ⟨entries, readAs⟩ := ih others
      exact ⟨(member.1, value) :: entries, .cons ⟨rfl, isRead⟩ readAs⟩

theorem each (readAs : ReadAs read members entries) : ∀ member ∈ members, ∃ value, read member.2 = some value := by
  induction readAs with
  | nil => exact nofun
  | cons first _ ih => exact List.forall_mem_cons.2 ⟨⟨_, first.2⟩, ih⟩

theorem lookup_eq (readAs : ReadAs read members entries) (key : String) :
    SortedMap.lookup key entries = (SortedMap.lookup key members).bind read := by
  induction readAs with
  | nil => rfl
  | @cons member entry _ _ first _ ih =>
      obtain ⟨name, value⟩ := member
      obtain ⟨other, setting⟩ := entry
      obtain ⟨same, isRead⟩ := first
      dsimp only at same isRead
      subst same
      rw [SortedMap.lookup, SortedMap.lookup]
      split
      · exact isRead.symm
      · exact ih

end ReadAs

/-! ### The rule for tables -/

def lastUnder? (members : List (String × α)) (name : String) : Option α :=
  SortedMap.lookup name members.reverse

theorem mem_of_lastUnder? {members : List (String × α)} {name : String} {value : α}
    (isLast : lastUnder? members name = some value) : (name, value) ∈ members :=
  List.mem_reverse.1 (SortedMap.lookup_mem name value _ isLast)

theorem exists_lastUnder?_iff (members : List (String × α)) (name : String) :
    (∃ value, lastUnder? members name = some value) ↔ ∃ value, (name, value) ∈ members := by
  simp only [lastUnder?, SortedMap.exists_lookup_iff, List.mem_reverse]

/-- In a table without a name twice, every member is the last one with its name. -/
theorem lastUnder?_eq_some_iff {members : List (String × α)} (keys : (members.map Prod.fst).Nodup) (name : String)
    (value : α) : lastUnder? members name = some value ↔ (name, value) ∈ members := by
  constructor
  · exact mem_of_lastUnder?
  · intro isMember
    obtain ⟨last, isLast⟩ := (exists_lastUnder?_iff members name).2 ⟨value, isMember⟩
    have same := List.inj_on_of_nodup_map keys (mem_of_lastUnder? isLast) isMember rfl
    rw [← (Prod.mk.inj same).2]
    exact isLast

namespace Settings

/-- The settings are those of a table, whose values are settings as `isSetting` says. -/
structure OfTable (isSetting : α → SettingValue → Prop) (members : List (String × α)) (settings : Settings) :
    Prop where
  each : ∀ member ∈ members, ∃ setting, isSetting member.2 setting
  names : ∀ name, (∃ setting, settings.get? name = some setting) ↔ ∃ value, (name, value) ∈ members
  values : ∀ name setting, settings.get? name = some setting ↔
    ∃ value, lastUnder? members name = some value ∧ isSetting value setting

variable {isSetting : α → SettingValue → Prop} {members : List (String × α)} {settings other : Settings}

theorem OfTable.unique (ofTable : settings.OfTable isSetting members) (ofTableToo : other.OfTable isSetting members) :
    settings = other := by
  have sameValues : settings.values = other.values := by
    refine SortedMap.eq_of_get? fun name => Option.ext fun setting => ?_
    exact (ofTable.values name setting).trans (ofTableToo.values name setting).symm
  cases settings
  cases other
  cases sameValues
  rfl

variable {read : α → Option SettingValue}
  (agrees : ∀ value setting, read value = some setting ↔ isSetting value setting)

include agrees

theorem ofList_ofTable {entries : List (String × SettingValue)} (readAs : ReadAs read members entries) :
    (ofList entries).OfTable isSetting members := by
  have found (name : String) : (ofList entries).get? name = (lastUnder? members name).bind read := by
    have reversed : ReadAs read members.reverse entries.reverse := List.forall₂_reverse_iff.2 readAs
    exact (SortedMap.get?_ofList entries name).trans (reversed.lookup_eq name)
  have each : ∀ member ∈ members, ∃ setting, isSetting member.2 setting := by
    intro member isMember
    obtain ⟨setting, isRead⟩ := readAs.each member isMember
    exact ⟨setting, (agrees _ _).1 isRead⟩
  have values (name : String) (setting : SettingValue) : (ofList entries).get? name = some setting ↔
      ∃ value, lastUnder? members name = some value ∧ isSetting value setting := by
    rw [found, Option.bind_eq_some_iff]
    simp only [agrees]
  refine ⟨each, fun name => ?_, values⟩
  simp only [values, ← exists_lastUnder?_iff]
  constructor
  · rintro ⟨setting, value, isLast, -⟩
    exact ⟨value, isLast⟩
  · rintro ⟨value, isLast⟩
    obtain ⟨setting, isSetting⟩ := each _ (mem_of_lastUnder? isLast)
    exact ⟨setting, value, isLast, isSetting⟩

/-- A table is read as settings exactly when every value in it is one. -/
theorem ofTable_iff :
    (members.mapM fun member => (read member.2).map fun value => (member.1, value)).map ofList = some settings ↔
      settings.OfTable isSetting members := by
  constructor
  · intro found
    obtain ⟨entries, areEntries, rfl⟩ := Option.map_eq_some_iff.1 found
    exact ofList_ofTable agrees (.of_mapM areEntries)
  · intro ofTable
    have each : ∀ member ∈ members, ∃ setting, read member.2 = some setting := by
      simpa only [agrees] using ofTable.each
    obtain ⟨entries, readAs⟩ := ReadAs.of_each each
    rw [ofTable.unique (ofList_ofTable agrees readAs), readAs.mapM_eq]
    rfl

theorem exists_ofTable_iff :
    (∃ settings : Settings, settings.OfTable isSetting members) ↔
      ∀ member ∈ members, ∃ setting, isSetting member.2 setting := by
  constructor
  · rintro ⟨settings, ofTable⟩
    exact ofTable.each
  · intro each
    simp only [← agrees] at each
    obtain ⟨entries, readAs⟩ := ReadAs.of_each each
    exact ⟨_, ofList_ofTable agrees readAs⟩

omit agrees

/-! ### Two formats -/

theorem ofToml?_table_iff (members : List (String × Toml)) (settings : Settings) :
    ofToml? (.table members) = some settings ↔ settings.OfTable Toml.IsSetting members :=
  ofTable_iff SettingValue.ofToml?_eq_some_iff

end Settings

theorem Json.members?_eq_some_iff (document : Json) (members : List (String × Json)) :
    document.members? = some members ↔ document = .ofMembers members := by
  constructor
  · intro found
    cases document with
    | object raw => exact congrArg Json.object (members?_object found)
    | _ => cases found
  · rintro rfl
    exact members?_ofMembers members

theorem Json.ofMembers_injective : Function.Injective ofMembers := by
  intro members others same
  have found := members?_ofMembers members
  rw [same, members?_ofMembers] at found
  exact (Option.some.inj found).symm

theorem Settings.ofJson?_iff (document : Json) (settings : Settings) :
    ofJson? document = some settings ↔
      ∃ members, document = .ofMembers members ∧ settings.OfTable Json.IsSetting members := by
  unfold ofJson?
  rw [Option.bind_eq_bind, Option.bind_eq_some_iff]
  simp only [Json.members?_eq_some_iff]
  refine exists_congr fun members => and_congr_right fun _ => ?_
  rw [← ofTable_iff SettingValue.ofJson?_eq_some_iff, Option.map_eq_bind]
  rfl

/-! ### Documents -/

namespace Toml

theorem member?_table_eq_some_iff {members : List (String × Toml)} (keys : (members.map Prod.fst).Nodup)
    (key : String) (value : Toml) : (Toml.table members).member? key = some value ↔ (key, value) ∈ members := by
  rw [member?, Option.map_eq_some_iff]
  constructor
  · rintro ⟨⟨other, value⟩, isFirst, rfl⟩
    have same := List.find?_some isFirst
    rw [← eq_of_beq same]
    exact List.mem_of_find?_eq_some isFirst
  · intro isMember
    induction members with
    | nil => cases isMember
    | cons first rest ih =>
        obtain ⟨other, old⟩ := first
        obtain ⟨isNew, others⟩ := List.nodup_cons.1 keys
        rw [List.find?_cons]
        rcases List.mem_cons.1 isMember with atFirst | behind
        · cases atFirst
          rw [beq_self_eq_true]
          exact ⟨_, rfl, rfl⟩
        · have different : other ≠ key := by
            rintro rfl
            exact isNew (List.mem_map.2 ⟨_, behind, rfl⟩)
          rw [beq_eq_false_iff_ne.2 different]
          exact ih others behind

theorem member?_table_eq_none_iff (members : List (String × Toml)) (key : String) :
    (Toml.table members).member? key = none ↔ ∀ value, (key, value) ∉ members := by
  rw [member?, Option.map_eq_none_iff, List.find?_eq_none]
  constructor
  · intro different value isMember
    exact different _ isMember (beq_self_eq_true key)
  · rintro isNew ⟨other, value⟩ isMember same
    cases eq_of_beq same
    exact isNew value isMember

theorem exists_table_of_parse? {text : List Char} {document : Toml} (parsed : parse? text = some document) :
    ∃ members, document = .table members ∧ (members.map Prod.fst).Nodup ∧
      ∀ key inner, (key, .table inner) ∈ members → (inner.map Prod.fst).Nodup := by
  have distinct := keysDistinct_parse? parsed
  obtain ⟨state, -, rfl⟩ := Option.map_eq_some_iff.1 parsed
  rw [Node.finish] at distinct ⊢
  cases distinct with
  | table keys each =>
      refine ⟨_, rfl, keys, fun key inner isMember => ?_⟩
      cases each _ isMember with
      | table innerKeys _ => exact innerKeys

end Toml

theorem Settings.ofDocument?_eq_some_iff {members : List (String × Toml)} (keys : (members.map Prod.fst).Nodup)
    (noMoment : ∀ moment, (settingsSection, .moment moment) ∉ members) (settings : Settings) :
    ofDocument? (.table members) = some settings ↔
      (∀ value, (settingsSection, value) ∉ members) ∧ settings = empty ∨
        ∃ inner, (settingsSection, .table inner) ∈ members ∧ settings.OfTable Toml.IsSetting inner := by
  have isEntry (value : Toml) := Toml.member?_table_eq_some_iff keys settingsSection value
  cases found : (Toml.table members).member? settingsSection with
  | none =>
      have noEntry := (Toml.member?_table_eq_none_iff members settingsSection).1 found
      rw [ofDocument?, found, Option.some.injEq]
      constructor
      · rintro rfl
        exact .inl ⟨noEntry, rfl⟩
      · rintro (⟨-, rfl⟩ | ⟨inner, isMember, -⟩)
        · rfl
        · exact absurd isMember (noEntry _)
  | some value =>
      have isMember := (isEntry value).1 found
      have only {other : Toml} (isMemberToo : (settingsSection, other) ∈ members) : other = value :=
        Option.some.inj (((isEntry other).2 isMemberToo).symm.trans found)
      have isRead : ofDocument? (.table members) = some settings ↔ ofToml? value = some settings := by
        rw [ofDocument?, found]
      rw [isRead]
      constructor
      · intro fromValue
        cases value with
        | table inner => exact .inr ⟨inner, isMember, (ofToml?_table_iff inner settings).1 fromValue⟩
        | moment moment => exact absurd isMember (noMoment moment)
        | _ => cases fromValue
      · rintro (⟨noEntry, -⟩ | ⟨inner, isMemberToo, ofTable⟩)
        · exact absurd isMember (noEntry value)
        · rw [← only isMemberToo]
          exact (ofToml?_table_iff inner settings).2 ofTable

namespace Configuration

/-- What a file comes to whose document has the given members. -/
structure DecidedByTable (members : List (String × Toml)) (found : Except Failure Settings) : Prop where
  accepts : (∃ settings, found = .ok settings) ↔
    (∀ value, (settingsSection, value) ∉ members) ∨
      ∃ inner, (settingsSection, .table inner) ∈ members ∧ ∀ member ∈ inner, ∃ setting, member.2.IsSetting setting
  refuses : (∀ settings, found ≠ .ok settings) → found = .error .parsingFailed
  nothing : (∀ value, (settingsSection, value) ∉ members) → found = .ok Settings.empty
  names : ∀ inner settings, (settingsSection, .table inner) ∈ members → found = .ok settings →
    ∀ name, (∃ setting, settings.get? name = some setting) ↔ ∃ value, (name, value) ∈ inner
  values : ∀ inner settings, (settingsSection, .table inner) ∈ members → found = .ok settings →
    ∀ name setting, settings.get? name = some setting ↔ ∃ value, (name, value) ∈ inner ∧ value.IsSetting setting

theorem decidedByTable {members : List (String × Toml)} {found : Except Failure Settings}
    (keys : (members.map Prod.fst).Nodup)
    (innerKeys : ∀ key inner, (key, .table inner) ∈ members → (inner.map Prod.fst).Nodup)
    (ok_iff : ∀ settings, found = .ok settings ↔
      (∀ value, (settingsSection, value) ∉ members) ∧ settings = Settings.empty ∨
        ∃ inner, (settingsSection, .table inner) ∈ members ∧ settings.OfTable Toml.IsSetting inner)
    (refuses : (∀ settings, found ≠ .ok settings) → found = .error .parsingFailed) :
    DecidedByTable members found := by
  have ofTable {inner : List (String × Toml)} {settings : Settings}
      (isMember : (settingsSection, .table inner) ∈ members) (isFound : found = .ok settings) :
      settings.OfTable Toml.IsSetting inner := by
    rcases (ok_iff settings).1 isFound with ⟨noEntry, -⟩ | ⟨other, isMemberToo, ofTable⟩
    · exact absurd isMember (noEntry _)
    · cases List.inj_on_of_nodup_map keys isMember isMemberToo rfl
      exact ofTable
  refine ⟨?accepts, refuses, fun noEntry => (ok_iff _).2 (.inl ⟨noEntry, rfl⟩), ?names, ?values⟩
  case accepts =>
    constructor
    · rintro ⟨settings, isFound⟩
      rcases (ok_iff settings).1 isFound with ⟨noEntry, -⟩ | ⟨inner, isMember, ofTable⟩
      · exact .inl noEntry
      · exact .inr ⟨inner, isMember, ofTable.each⟩
    · rintro (noEntry | ⟨inner, isMember, each⟩)
      · exact ⟨_, (ok_iff _).2 (.inl ⟨noEntry, rfl⟩)⟩
      · obtain ⟨settings, ofTable⟩ := (Settings.exists_ofTable_iff SettingValue.ofToml?_eq_some_iff).2 each
        exact ⟨settings, (ok_iff settings).2 (.inr ⟨inner, isMember, ofTable⟩)⟩
  case names =>
    intro inner settings isMember isFound
    exact (ofTable isMember isFound).names
  case values =>
    intro inner settings isMember isFound name setting
    rw [(ofTable isMember isFound).values]
    simp only [lastUnder?_eq_some_iff (innerKeys _ inner isMember)]

theorem loadFile_decided (entry : Path → FileEntry) (path : Path) {text : String} {members : List (String × Toml)}
    (isText : (entry path).text? = some text) (parsed : Toml.parse? text.toList = some (.table members))
    (noMoment : ∀ moment, (settingsSection, .moment moment) ∉ members) :
    DecidedByTable members (loadFile entry path).1 := by
  have present : entry path ≠ .absent := by
    intro absent
    rw [absent] at isText
    cases isText
  obtain ⟨_, same, keys, innerKeys⟩ := Toml.exists_table_of_parse? parsed
  cases same
  have ok_iff := Settings.ofDocument?_eq_some_iff keys noMoment
  rw [loadFile_of_present present, Source.load_file, ofEntry_of_document isText parsed]
  cases isRead : Settings.ofDocument? (.table members) with
  | none =>
      refine decidedByTable keys innerKeys (fun settings => ?_) fun _ => rfl
      rw [← ok_iff settings, isRead]
      exact ⟨nofun, nofun⟩
  | some settings =>
      refine decidedByTable keys innerKeys (fun other => ?_) fun refused => absurd rfl (refused settings)
      rw [← ok_iff other, isRead, Except.ok.injEq, Option.some.injEq]

example : ofEntry (.file (Text.Utf8.bytes "[cfnlint]\nlintOnSave = true\nregions = [\"us-east-1\", 1]\n")) =
    .error .parsingFailed := by decide +kernel

end Configuration

theorem Json.exists_settings_iff (members : List (String × Json)) :
    (∃ settings, Settings.ofJson? (.ofMembers members) = some settings) ↔
      ∀ member ∈ members, ∃ setting, member.2.IsSetting setting := by
  rw [← Settings.exists_ofTable_iff SettingValue.ofJson?_eq_some_iff]
  refine exists_congr fun settings => ?_
  rw [Settings.ofJson?_iff]
  constructor
  · rintro ⟨others, same, ofTable⟩
    rw [ofMembers_injective same]
    exact ofTable
  · intro ofTable
    exact ⟨members, rfl, ofTable⟩

/-- A file with a document is decided by its table of settings alone, a JSON value by its members. -/
theorem settings_of_tables :
    (∀ text document, Toml.parse? text = some document → ∃ members, document = .table members) ∧
    (∀ entry path text members, FileEntry.text? (entry path) = some text →
      Toml.parse? text.toList = some (.table members) → (∀ moment, (settingsSection, .moment moment) ∉ members) →
        Configuration.DecidedByTable members (Configuration.loadFile entry path).1) ∧
    (∀ members, (∃ settings, Settings.ofJson? (.ofMembers members) = some settings) ↔
      ∀ member ∈ members, ∃ setting, member.2.IsSetting setting) ∧
    (∀ members name, (name, .null) ∈ members → Settings.ofJson? (.ofMembers members) = none) ∧
    (∀ document settings, Settings.ofJson? document = some settings ↔
      ∃ members, document = .ofMembers members ∧ settings.OfTable Json.IsSetting members) := by
  refine ⟨?isTable, ?fromFile, Json.exists_settings_iff, ?withNull, Settings.ofJson?_iff⟩
  case isTable =>
    intro text document parsed
    obtain ⟨members, isTable, -⟩ := Toml.exists_table_of_parse? parsed
    exact ⟨members, isTable⟩
  case fromFile =>
    intro entry path text members isText parsed noMoment
    exact Configuration.loadFile_decided entry path isText parsed noMoment
  case withNull =>
    intro members name isMember
    refine Option.eq_none_iff_forall_ne_some.2 fun settings isRead => ?_
    obtain ⟨setting, isSetting⟩ := (Json.exists_settings_iff members).1 ⟨settings, isRead⟩ _ isMember
    cases isSetting

/-! ### A file with settings among other things -/

def mixedFile : String :=
  "title = 1979-05-27\n[cfnlint]\npath = \"cfn-lint\"\nregions = []\nlintOnSave = false\nformat = 1\n[[other]]\n"

theorem settings_of_mixedFile :
    let entry : Path → FileEntry := fun _ => .file (Text.Utf8.bytes mixedFile)
    let path := Configuration.pathIn Configuration.workDirectory
    (entry path).text? = some mixedFile ∧
    (∃ members, Toml.parse? mixedFile.toList = some (.table members) ∧
      (∀ moment, (settingsSection, .moment moment) ∉ members) ∧
      Configuration.DecidedByTable members (Configuration.loadFile entry path).1) ∧
    (Configuration.loadFile entry path).1 =
      .ok (Settings.ofList [("path", .string "cfn-lint"), ("regions", .stringList []), ("lintOnSave", .boolean false),
        ("format", .number (Double.ofInt 1))]) ∧
    Settings.ofJson? (.ofMembers [("path", .null), ("path", .ofString "cfn-lint")]) = none := by
  intro entry path
  have isText : (entry path).text? = some mixedFile := by decide +kernel
  have hasPath : (((Toml.parse? mixedFile.toList).bind (·.member? settingsSection)).bind (·.member? "path")).bind
      Toml.string? = some "cfn-lint" := by decide +kernel
  obtain ⟨_, inPath, -⟩ := Option.bind_eq_some_iff.1 hasPath
  obtain ⟨table, inSection, inTable⟩ := Option.bind_eq_some_iff.1 inPath
  obtain ⟨document, parsed, isSection⟩ := Option.bind_eq_some_iff.1 inSection
  obtain ⟨members, rfl, keys, -⟩ := Toml.exists_table_of_parse? parsed
  have noMoment : ∀ moment, (settingsSection, .moment moment) ∉ members := by
    intro moment isMember
    have isMoment := (Toml.member?_table_eq_some_iff keys settingsSection (.moment moment)).2 isMember
    cases isMoment.symm.trans isSection
    cases inTable
  refine ⟨isText, ⟨members, parsed, noMoment, ?_⟩, by decide +kernel, ?_⟩
  · exact settings_of_tables.2.1 entry path mixedFile members isText parsed noMoment
  · exact settings_of_tables.2.2.2.1 _ "path" List.mem_cons_self

end TemplateLint
