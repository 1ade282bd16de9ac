import TemplateLint.Toml.Reader

set_option autoImplicit false

/-!
No table of a document has a key twice.

A part that is put under a key stands behind all others or takes the place of the part that was there.  Everything
that a reader does to a table is such a step, at the table itself or further inside.
-/

namespace TemplateLint.Toml

/-- No table in the value has a key twice, however deep it lies. -/
inductive KeysDistinct : Toml → Prop where
  | string (text : String) : KeysDistinct (.string text)
  | integer (n : Int) : KeysDistinct (.integer n)
  | float (number : Double) : KeysDistinct (.float number)
  | bool (value : Bool) : KeysDistinct (.bool value)
  | moment (text : String) : KeysDistinct (.moment text)
  | array {items : List Toml} (each : ∀ item ∈ items, KeysDistinct item) : KeysDistinct (.array items)
  | table {members : List (String × Toml)} (keys : (members.map Prod.fst).Nodup)
      (each : ∀ member ∈ members, KeysDistinct member.2) : KeysDistinct (.table members)

inductive Node.KeysDistinct : Node → Prop where
  | value {whole : Toml} (inside : whole.KeysDistinct) : Node.KeysDistinct (.value whole)
  | table {origin : Origin} {members : Members} (keys : (members.map Prod.fst).Nodup)
      (each : ∀ member ∈ members, Node.KeysDistinct member.2) : Node.KeysDistinct (.table origin members)
  | tables {elements : List Members} (keys : ∀ members ∈ elements, (members.map Prod.fst).Nodup)
      (each : ∀ members ∈ elements, ∀ member ∈ members, Node.KeysDistinct member.2) :
      Node.KeysDistinct (.tables elements)

/-! ### Members -/

namespace Members

structure Distinct (members : Members) : Prop where
  keys : (members.map Prod.fst).Nodup
  each : ∀ member ∈ members, member.2.KeysDistinct

variable {key : String} {node : Node} {members : Members}

theorem distinct_nil : Distinct [] :=
  ⟨List.nodup_nil, nofun⟩

theorem Distinct.of_find? (distinct : members.Distinct) (found : members.find? key = some node) :
    node.KeysDistinct := by
  obtain ⟨member, isFirst, rfl⟩ := Option.map_eq_some_iff.1 found
  exact distinct.each member (List.mem_of_find?_eq_some isFirst)

theorem mem_put {member : String × Node} (isMember : member ∈ members.put key node) :
    member = (key, node) ∨ member ∈ members := by
  induction members with
  | nil => exact .inl (List.mem_singleton.1 isMember)
  | cons first rest ih =>
      obtain ⟨other, old⟩ := first
      unfold put at isMember
      split at isMember
      · exact (List.mem_cons.1 isMember).imp_right (List.mem_cons_of_mem _)
      · rcases List.mem_cons.1 isMember with rfl | behind
        · exact .inr List.mem_cons_self
        · exact (ih behind).imp_right (List.mem_cons_of_mem _)

theorem keys_put_nodup (keys : (members.map Prod.fst).Nodup) : ((members.put key node).map Prod.fst).Nodup := by
  induction members with
  | nil => exact List.nodup_cons.2 ⟨nofun, List.nodup_nil⟩
  | cons first rest ih =>
      obtain ⟨other, old⟩ := first
      obtain ⟨isNew, others⟩ := List.nodup_cons.1 keys
      unfold put
      split
      · rename_i same
        subst same
        exact List.nodup_cons.2 ⟨isNew, others⟩
      · rename_i different
        refine List.nodup_cons.2 ⟨fun isKey => ?_, ih others⟩
        obtain ⟨member, isMember, same⟩ := List.mem_map.1 isKey
        rcases mem_put isMember with rfl | inRest
        · exact different same.symm
        · exact isNew (List.mem_map.2 ⟨member, inRest, same⟩)

theorem Distinct.put (distinct : members.Distinct) (inside : node.KeysDistinct) :
    (members.put key node).Distinct := by
  refine ⟨keys_put_nodup distinct.keys, fun member isMember => ?_⟩
  rcases mem_put isMember with rfl | isOld
  · exact inside
  · exact distinct.each member isOld

theorem Distinct.table (distinct : members.Distinct) (origin : Origin) : Node.KeysDistinct (.table origin members) :=
  .table distinct.keys distinct.each

end Members

namespace Node.KeysDistinct

variable {origin : Origin} {members first : Members} {elements others : List Members}

theorem inner (distinct : Node.KeysDistinct (.table origin members)) : members.Distinct := by
  cases distinct with
  | table keys each => exact ⟨keys, each⟩

theorem elements_iff :
    Node.KeysDistinct (.tables elements) ↔ ∀ members ∈ elements, Members.Distinct members := by
  constructor
  · intro distinct
    cases distinct with
    | tables keys each => exact fun members isElement => ⟨keys members isElement, each members isElement⟩
  · intro each
    exact .tables (fun members isElement => (each members isElement).keys)
      fun members isElement => (each members isElement).each

end Node.KeysDistinct

/-! ### Changes of tables -/

def Keeps (change : Members → Option Members) : Prop :=
  ∀ members after, members.Distinct → change members = some after → after.Distinct

/-- Where a change of an inner table ends up under a key. -/
theorem Keeps.wrapped {change : Members → Option Members} (keeps : Keeps change) {members inner after : Members}
    {key : String} {wrap : Members → Node} (distinct : members.Distinct) (innerDistinct : inner.Distinct)
    (wraps : ∀ after, after.Distinct → (wrap after).KeysDistinct)
    (changed : (change inner).map (fun inner => members.put key (wrap inner)) = some after) : after.Distinct := by
  obtain ⟨changedInner, isChanged, rfl⟩ := Option.map_eq_some_iff.1 changed
  exact distinct.put (wraps _ (keeps _ _ innerDistinct isChanged))

theorem Keeps.underHeader {change : Members → Option Members} (keeps : Keeps change) (path : KeyPath) :
    Keeps (underHeader change path) := by
  induction path with
  | nil => exact keeps
  | cons key path ih =>
      intro members after distinct changed
      unfold Toml.underHeader at changed
      split at changed
      · exact ih.wrapped distinct Members.distinct_nil (fun _ inner => inner.table .implied) changed
      · rename_i origin inner found
        exact ih.wrapped distinct (distinct.of_find? found).inner (fun _ inner => inner.table origin) changed
      · rename_i last others found
        obtain ⟨lastDistinct, othersDistinct⟩ :=
          List.forall_mem_cons.1 (Node.KeysDistinct.elements_iff.1 (distinct.of_find? found))
        refine ih.wrapped distinct lastDistinct (fun after inner => ?_) changed
        exact Node.KeysDistinct.elements_iff.2 (List.forall_mem_cons.2 ⟨inner, othersDistinct⟩)
      · cases changed

theorem keeps_openTable (key : String) : Keeps (openTable key) := by
  intro members after distinct changed
  unfold openTable at changed
  split at changed
  · cases changed
    exact distinct.put (Members.distinct_nil.table .header)
  · rename_i inner found
    cases changed
    exact distinct.put ((distinct.of_find? found).inner.table .header)
  · cases changed

theorem keeps_appendTable (key : String) : Keeps (appendTable key) := by
  intro members after distinct changed
  unfold appendTable at changed
  split at changed
  · cases changed
    exact distinct.put (Node.KeysDistinct.elements_iff.2 (List.forall_mem_singleton.2 Members.distinct_nil))
  · rename_i elements found
    cases changed
    have elementsDistinct := Node.KeysDistinct.elements_iff.1 (distinct.of_find? found)
    exact distinct.put
      (Node.KeysDistinct.elements_iff.2 (List.forall_mem_cons.2 ⟨Members.distinct_nil, elementsDistinct⟩))
  · cases changed

theorem keeps_putValue {value : Toml} (inside : value.KeysDistinct) (path : KeyPath) :
    Keeps (putValue value path) := by
  induction path with
  | nil =>
      intro members after distinct changed
      cases changed
  | cons key path ih =>
      intro members after distinct changed
      cases path with
      | nil =>
          unfold putValue at changed
          split at changed
          · cases changed
            exact distinct.put (.value inside)
          · cases changed
      | cons next path =>
          unfold putValue at changed
          dsimp only at changed
          split at changed
          · exact ih.wrapped distinct Members.distinct_nil (fun _ inner => inner.table .dotted) changed
          · rename_i origin inner found
            split at changed
            · cases changed
            · exact ih.wrapped distinct (distinct.of_find? found).inner (fun _ inner => inner.table origin) changed
          · rename_i last others found
            split at changed
            · cases changed
            · obtain ⟨lastDistinct, othersDistinct⟩ :=
                List.forall_mem_cons.1 (Node.KeysDistinct.elements_iff.1 (distinct.of_find? found))
              refine ih.wrapped distinct lastDistinct (fun after inner => ?_) changed
              exact Node.KeysDistinct.elements_iff.2 (List.forall_mem_cons.2 ⟨inner, othersDistinct⟩)
          · cases changed

/-! ### Complete parts -/

theorem finishMembers_eq_map (members : List (String × Node)) :
    Node.finish.finishMembers members = members.map fun member => (member.1, member.2.finish) := by
  induction members with
  | nil => rfl
  | cons member rest ih => rw [Node.finish.finishMembers, ih, List.map_cons]

theorem finishTables_eq_map (elements : List (List (String × Node))) :
    Node.finish.finishTables elements = elements.map fun members => .table (Node.finish.finishMembers members) := by
  induction elements with
  | nil => rfl
  | cons members rest ih => rw [Node.finish.finishTables, ih, List.map_cons]

theorem keysDistinct_finishMembers {members : List (String × Node)} (keys : (members.map Prod.fst).Nodup)
    (each : ∀ member ∈ members, member.2.finish.KeysDistinct) :
    KeysDistinct (.table (Node.finish.finishMembers members)) := by
  rw [finishMembers_eq_map]
  refine .table ?_ fun finished isFinished => ?_
  · rw [List.map_map]
    exact keys
  · obtain ⟨member, isMember, rfl⟩ := List.mem_map.1 isFinished
    exact each member isMember

theorem Node.KeysDistinct.finish {node : Node} (distinct : node.KeysDistinct) : node.finish.KeysDistinct := by
  induction distinct with
  | value inside =>
      rw [Node.finish]
      exact inside
  | table keys _ ih =>
      rw [Node.finish]
      exact keysDistinct_finishMembers keys ih
  | tables keys _ ih =>
      rw [Node.finish, finishTables_eq_map]
      refine .array fun item isItem => ?_
      obtain ⟨members, isElement, rfl⟩ := List.mem_map.1 (List.mem_reverse.1 isItem)
      exact keysDistinct_finishMembers (keys members isElement) (ih members isElement)

/-! ### Readers -/

namespace Reader

theorem keysDistinct_atom {text rest : List Char} {found : Toml} (read : atom text = some (found, rest)) :
    found.KeysDistinct := by
  unfold atom at read
  obtain ⟨value, isValue, same⟩ := Option.map_eq_some_iff.1 read
  cases same
  split at isValue
  · cases isValue
    exact .bool true
  · cases isValue
    exact .bool false
  · split at isValue
    · cases isValue
      exact .integer _
    · split at isValue
      · cases isValue
        exact .float _
      · obtain ⟨normal, -, rfl⟩ := Option.map_eq_some_iff.1 isValue
        exact .moment _

def Task.Distinct : Task → Prop
  | .value => True
  | .items done => ∀ item ∈ done, item.KeysDistinct
  | .members done => done.Distinct

theorem keysDistinct_array_reverse {done : List Toml} (each : ∀ item ∈ done, item.KeysDistinct) :
    KeysDistinct (.array done.reverse) :=
  .array fun item isItem => each item (List.mem_reverse.1 isItem)

theorem keysDistinct_value {fuel depth : Nat} (task : Task) {text rest : List Char} {found : Toml}
    (sofar : task.Distinct) (read : value fuel depth task text = some (found, rest)) : found.KeysDistinct := by
  induction fuel generalizing depth task text rest found with
  | zero => cases read
  | succ fuel ih =>
      cases task with
      | value =>
          unfold value at read
          split at read
          · obtain ⟨content, -, same⟩ := Option.map_eq_some_iff.1 read
            cases same
            exact .string _
          · obtain ⟨content, -, same⟩ := Option.map_eq_some_iff.1 read
            cases same
            exact .string _
          · split at read
            · exact ih (.items []) nofun read
            · cases read
          · split at read
            · exact ih (.members []) Members.distinct_nil read
            · cases read
          · exact keysDistinct_atom read
      | items done =>
          unfold value at read
          split at read
          · cases read
            exact keysDistinct_array_reverse sofar
          · split at read
            · cases read
            · rename_i item after readItem
              have more : ∀ other ∈ item :: done, other.KeysDistinct :=
                List.forall_mem_cons.2 ⟨ih .value trivial readItem, sofar⟩
              split at read
              · exact ih (.items (item :: done)) more read
              · cases read
                exact keysDistinct_array_reverse more
              · cases read
      | members done =>
          unfold value at read
          split at read
          · cases read
            exact (Members.Distinct.table sofar .header).finish
          · split at read
            · rename_i path rest _
              split at read
              · cases read
              · rename_i item after readItem
                have inside := ih .value trivial readItem
                split at read
                · rename_i more behind put _
                  exact ih (.members more) (keeps_putValue inside path _ _ sofar put) read
                · rename_i more behind put _
                  cases read
                  exact (Members.Distinct.table (keeps_putValue inside path _ _ sofar put) .header).finish
                · cases read
            · cases read

theorem State.distinct_put {state after : State} {path : KeyPath} {found : Toml} (distinct : state.root.Distinct)
    (inside : found.KeysDistinct) (put : state.put path found = some after) : after.root.Distinct := by
  obtain ⟨root, isRoot, rfl⟩ := Option.map_eq_some_iff.1 put
  exact (keeps_putValue inside path).underHeader state.current _ _ distinct isRoot

theorem State.distinct_start {state after : State} {place : String → Members → Option Members} {path : KeyPath}
    (distinct : state.root.Distinct) (keeps : ∀ key, Keeps (place key)) (start : state.start place path = some after) :
    after.root.Distinct := by
  unfold State.start at start
  split at start
  · cases start
  · obtain ⟨root, isRoot, rfl⟩ := Option.map_eq_some_iff.1 start
    exact (keeps _).underHeader path.dropLast _ _ distinct isRoot

theorem distinct_lines {fuel : Nat} {state after : State} {text : List Char} (distinct : state.root.Distinct)
    (read : lines fuel state text = some after) : after.root.Distinct := by
  induction fuel generalizing state text with
  | zero => cases read
  | succ fuel ih =>
      unfold lines at read
      split at read
      · cases read
        exact distinct
      · split at read
        · split at read
          · rename_i started _ start _
            exact ih (State.distinct_start distinct keeps_appendTable start) read
          · cases read
        · cases read
      · split at read
        · split at read
          · rename_i started _ start _
            exact ih (State.distinct_start distinct keeps_openTable start) read
          · cases read
        · cases read
      · split at read
        · split at read
          · rename_i item rest readItem
            split at read
            · rename_i changed _ put _
              exact ih (State.distinct_put distinct (keysDistinct_value .value trivial readItem) put) read
            · cases read
          · cases read
        · cases read

end Reader

theorem keysDistinct_parse? {text : List Char} {document : Toml} (parsed : parse? text = some document) :
    document.KeysDistinct := by
  obtain ⟨state, read, rfl⟩ := Option.map_eq_some_iff.1 parsed
  exact (Members.Distinct.table (Reader.distinct_lines Members.distinct_nil read) .header).finish

end TemplateLint.Toml
