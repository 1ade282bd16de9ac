import TemplateLint.Finding
import TemplateLint.Proofs.Diagnostic

set_option autoImplicit false

/-!
What the linter may print for a list of findings.

Every document that writes the findings is read as those findings, in whichever form each of its records is
written; a document with a fault in one of its records is refused.
-/

namespace TemplateLint

open Json (Slot WritesRecord Demand FaultyRecord)

/-! ### Documents that write findings -/

def LinePosition.slots (place : LinePosition) : List Slot := [
  ⟨"LineNumber", False, (· = Json.ofNat place.line.toNat)⟩,
  ⟨"ColumnNumber", False, (· = Json.ofNat place.column.toNat)⟩]

def LinePosition.WrittenAs (place : LinePosition) : Json → Prop :=
  WritesRecord place.slots

def Location.slots (location : Location) : List Slot := [
  ⟨"Start", False, location.start.WrittenAs⟩,
  ⟨"End", False, location.stop.WrittenAs⟩,
  ⟨"Path", location.path = [], (· = .array location.path)⟩]

def Location.WrittenAs (location : Location) : Json → Prop :=
  WritesRecord location.slots

def Rule.slots (rule : Rule) : List Slot := [
  ⟨"Id", False, (· = Json.ofString rule.id)⟩,
  ⟨"Description", rule.description = "", (· = Json.ofString rule.description)⟩,
  ⟨"ShortDescription", rule.shortDescription = "", (· = Json.ofString rule.shortDescription)⟩,
  ⟨"Source", rule.source = "", (· = Json.ofString rule.source)⟩]

def Rule.WrittenAs (rule : Rule) : Json → Prop :=
  WritesRecord rule.slots

def Finding.slots (finding : Finding) : List Slot := [
  ⟨"Filename", finding.filename = "", (· = Json.ofString finding.filename)⟩,
  ⟨"Level", False, (· = Json.ofString finding.level)⟩,
  ⟨"Location", False, finding.location.WrittenAs⟩,
  ⟨"Message", False, (· = Json.ofString finding.message)⟩,
  ⟨"Rule", False, finding.rule.WrittenAs⟩]

/-- The documents for a finding: each of its records is an object or an array, whatever the others are. -/
def Finding.WrittenAs (finding : Finding) : Json → Prop :=
  WritesRecord finding.slots

inductive FindingsWrittenAs (findings : List Finding) : Json → Prop where
  | array {items : List Json} (each : List.Forall₂ Finding.WrittenAs findings items) :
      FindingsWrittenAs findings (.array items)

/-- The entries of a path through a template: names, and places in a list that fit 64 bits. -/
inductive IsPathEntry : Json → Prop where
  | name (text : String) : IsPathEntry (Json.ofString text)
  | place (n : Int) (least : -9223372036854775808 ≤ n) (greatest : n < 18446744073709551616) :
      IsPathEntry (.number (Json.Numeral.ofInt n))

def Finding.HasPlainPath (finding : Finding) : Prop :=
  ∀ entry ∈ finding.location.path, IsPathEntry entry

/-! ### Reading them -/

theorem exists_of_required {name : String} {writes : Json → Prop} {value : Option Json}
    (holds : (Slot.mk name False writes).Holds value) :
    ∃ document, value = some document ∧ writes document := by
  cases value with
  | none => exact absurd holds id
  | some document => exact ⟨document, rfl, holds⟩

theorem withDefault_of_holds {α : Type} {name : String} {default actual : α} {read : Json → Option α}
    {document : Json} {value : Option Json}
    (holds : (Slot.mk name (actual = default) (· = document)).Holds value)
    (reads : read document = some actual) : withDefault default read value = some actual := by
  cases value with
  | none =>
      have isDefault : actual = default := holds
      rw [isDefault]
      rfl
  | some found =>
      have same : found = document := holds
      rw [same]
      exact reads

theorem LinePosition.ofJson?_of_written {place : LinePosition} {document : Json}
    (written : place.WrittenAs document) : LinePosition.ofJson? document = some place := by
  obtain ⟨values, found, holds⟩ := Json.fields?_of_writes (by simp [slots]) written
  obtain - | ⟨line, - | ⟨column, - | -⟩⟩ := holds
  obtain ⟨lineDocument, rfl, rfl⟩ := exists_of_required line
  obtain ⟨columnDocument, rfl, rfl⟩ := exists_of_required column
  simp only [slots, List.map_cons, List.map_nil] at found
  simp [LinePosition.ofJson?, found, word?_ofNat]

theorem pathElement?_of_entry {entry : Json} (isEntry : IsPathEntry entry) :
    pathElement? entry = some entry := by
  cases isEntry with
  | name text => rfl
  | place n least greatest =>
      obtain ⟨value, known⟩ := Json.Numeral.exists_value?_ofInt least greatest
      simp [pathElement?, Json.depth, Json.plain?, known]

theorem path?_of_entries {path : List Json} (plain : ∀ entry ∈ path, IsPathEntry entry) :
    path? (.array path) = some path := by
  change path.mapM pathElement? = some path
  apply Json.mapM_of_forall₂
  rw [List.forall₂_same]
  exact fun entry isIn => pathElement?_of_entry (plain entry isIn)

theorem Location.ofJson?_of_written {location : Location} {document : Json}
    (plain : ∀ entry ∈ location.path, IsPathEntry entry) (written : location.WrittenAs document) :
    Location.ofJson? document = some location := by
  obtain ⟨values, found, holds⟩ := Json.fields?_of_writes (by simp [slots]) written
  obtain - | ⟨start, - | ⟨stop, - | ⟨path, - | -⟩⟩⟩ := holds
  obtain ⟨startDocument, rfl, startWritten⟩ := exists_of_required start
  obtain ⟨stopDocument, rfl, stopWritten⟩ := exists_of_required stop
  have pathRead := withDefault_of_holds path (path?_of_entries plain)
  simp only [slots, List.map_cons, List.map_nil] at found
  simp [Location.ofJson?, found, LinePosition.ofJson?_of_written startWritten,
    LinePosition.ofJson?_of_written stopWritten, pathRead]

theorem Rule.ofJson?_of_written {rule : Rule} {document : Json} (written : rule.WrittenAs document) :
    Rule.ofJson? document = some rule := by
  obtain ⟨values, found, holds⟩ := Json.fields?_of_writes (by simp [slots]) written
  obtain - | ⟨id, - | ⟨description, - | ⟨short, - | ⟨source, - | -⟩⟩⟩⟩ := holds
  obtain ⟨idDocument, rfl, rfl⟩ := exists_of_required id
  have descriptionRead := withDefault_of_holds description (Json.string?_ofString _)
  have shortRead := withDefault_of_holds short (Json.string?_ofString _)
  have sourceRead := withDefault_of_holds source (Json.string?_ofString _)
  simp only [slots, List.map_cons, List.map_nil] at found
  simp [Rule.ofJson?, found, Json.string?_ofString, descriptionRead, shortRead, sourceRead]

theorem Finding.ofJson?_of_written {finding : Finding} {document : Json} (plain : finding.HasPlainPath)
    (written : finding.WrittenAs document) : Finding.ofJson? document = some finding := by
  obtain ⟨values, found, holds⟩ := Json.fields?_of_writes (by simp [slots]) written
  obtain - | ⟨filename, - | ⟨level, - | ⟨location, - | ⟨message, - | ⟨rule, - | -⟩⟩⟩⟩⟩ := holds
  have filenameRead := withDefault_of_holds filename (Json.string?_ofString _)
  obtain ⟨levelDocument, rfl, rfl⟩ := exists_of_required level
  obtain ⟨locationDocument, rfl, locationWritten⟩ := exists_of_required location
  obtain ⟨messageDocument, rfl, rfl⟩ := exists_of_required message
  obtain ⟨ruleDocument, rfl, ruleWritten⟩ := exists_of_required rule
  simp only [slots, List.map_cons, List.map_nil] at found
  simp [Finding.ofJson?, found, Json.string?_ofString, filenameRead,
    Location.ofJson?_of_written plain locationWritten, Rule.ofJson?_of_written ruleWritten]

theorem findings?_of_written {findings : List Finding} {document : Json}
    (plain : ∀ finding ∈ findings, finding.HasPlainPath) (written : FindingsWrittenAs findings document) :
    findings? document = some findings := by
  cases written with
  | array each =>
      apply Json.mapM_of_forall₂
      induction each with
      | nil => exact .nil
      | cons first others ih =>
          obtain ⟨firstPlain, othersPlain⟩ := List.forall_mem_cons.1 plain
          exact .cons (Finding.ofJson?_of_written firstPlain first) (ih othersPlain)

/-- The text of an array is not blank. -/
theorem not_allBlank_of_array {items : List Json} {text : List Char}
    (spelled : (Json.array items).SpelledBy text) : Text.allBlank text = false := by
  obtain ⟨others, begins⟩ : ∃ others, (Json.array items).tokens = .openArray :: others := by
    cases items with
    | nil => exact ⟨_, rfl⟩
    | cons item rest => exact ⟨_, rfl⟩
  rw [Json.SpelledBy, begins] at spelled
  cases spelled with
  | cons space isBlank first others =>
      cases first
      rw [Text.allBlank, List.all_append, List.all_append]
      simp [Text.isBlank]

theorem parseFindings_of_array {items : List Json} {output : String}
    (spelled : (Json.array items).SpelledBy output.toList) :
    parseFindings output =
      match items.mapM Finding.ofJson? with
      | some findings => .ok findings
      | none => .error .invalidOutput := by
  rw [parseFindings, not_allBlank_of_array spelled, Json.parse?_of_spelling spelled]
  rfl

/-! ### The document with everything in it -/

theorem LinePosition.toJson_written (place : LinePosition) : place.WrittenAs place.toJson :=
  .of_given (.give rfl (.give rfl .nil))

theorem Location.toJson_written (location : Location) : location.WrittenAs location.toJson :=
  .of_given (.give location.start.toJson_written (.give location.stop.toJson_written (.give rfl .nil)))

theorem Rule.toJson_written (rule : Rule) : rule.WrittenAs rule.toJson :=
  .of_given (.give rfl (.give rfl (.give rfl (.give rfl .nil))))

theorem Finding.toJson_written (finding : Finding) : finding.WrittenAs finding.toJson :=
  .of_given (.give rfl (.give rfl (.give finding.location.toJson_written
    (.give rfl (.give finding.rule.toJson_written .nil)))))

theorem LinePosition.toJson_printable (place : LinePosition) : place.toJson.Printable := by
  simp [toJson]

theorem IsPathEntry.printable {entry : Json} (isEntry : IsPathEntry entry) : entry.Printable := by
  cases isEntry with
  | name text => exact Json.printable_ofString text
  | place n least greatest => exact Json.printable_ofInt n

theorem Location.toJson_printable (location : Location) (plain : ∀ entry ∈ location.path, IsPathEntry entry) :
    location.toJson.Printable := by
  have pathPrintable : ∀ entry ∈ location.path, entry.Printable :=
    fun entry isIn => (plain entry isIn).printable
  simpa [toJson, LinePosition.toJson_printable] using pathPrintable

theorem Rule.toJson_printable (rule : Rule) : rule.toJson.Printable := by
  simp [toJson]

theorem Finding.toJson_printable {finding : Finding} (plain : finding.HasPlainPath) :
    finding.toJson.Printable := by
  simp [toJson, Location.toJson_printable finding.location plain, Rule.toJson_printable]

/-! ### Faults -/

inductive IsOutside : Json → Prop where
  | number {numeral : Json.Numeral} {n : Int} (isInteger : numeral.integer? = some n)
      (outside : n < 0 ∨ 4294967295 < n) : IsOutside (.number numeral)

def noFault (_ : Json) : Prop := False

def LinePosition.demands : List Demand := [
  ⟨"LineNumber", true, IsOutside⟩,
  ⟨"ColumnNumber", true, IsOutside⟩]

def Location.demands : List Demand := [
  ⟨"Start", true, FaultyRecord LinePosition.demands⟩,
  ⟨"End", true, FaultyRecord LinePosition.demands⟩,
  ⟨"Path", false, noFault⟩]

def Rule.demands : List Demand := [
  ⟨"Id", true, noFault⟩,
  ⟨"Description", false, noFault⟩,
  ⟨"ShortDescription", false, noFault⟩,
  ⟨"Source", false, noFault⟩]

def Finding.demands : List Demand := [
  ⟨"Filename", false, noFault⟩,
  ⟨"Level", true, noFault⟩,
  ⟨"Location", true, FaultyRecord Location.demands⟩,
  ⟨"Message", true, noFault⟩,
  ⟨"Rule", true, FaultyRecord Rule.demands⟩]

/-- The documents in which some record of some finding has a fault, whatever else they hold. -/
inductive FaultyFindings : Json → Prop where
  | array {items : List Json} {item : Json} (isItem : item ∈ items)
      (faulty : FaultyRecord Finding.demands item) : FaultyFindings (.array items)

theorem word?_of_outside {document : Json} (outside : IsOutside document) : word? document = none := by
  cases outside with
  | number isInteger outside =>
      rw [word?, Json.natBelow?_of_outside isInteger (by unfold wordBound; omega)]
      rfl

theorem not_violated_of_optional {name : String} {value : Option Json} :
    ¬(Demand.mk name false noFault).Violated value := by
  cases value with
  | none => exact nofun
  | some document => exact id

/-- What was read has no fault that keeps it from being read. -/
theorem not_fault_of_read {α : Type} {result : Option α} {isFault : Prop} (refuses : isFault → result = none)
    {found : α} (known : result = some found) : ¬isFault := by
  intro fault
  rw [refuses fault] at known
  cases known

theorem LinePosition.fields_of_read {document : Json} {place : LinePosition}
    (read : LinePosition.ofJson? document = some place) :
    ∃ line column, document.fields? (demands.map Demand.name) = some [some line, some column] ∧
      word? line = some place.line ∧ word? column = some place.column := by
  simp only [LinePosition.ofJson?, bind, Option.bind_eq_some_iff] at read
  obtain ⟨values, found, read⟩ := read
  split at read
  · next line column =>
      obtain ⟨lineWord, lineRead, read⟩ := Option.bind_eq_some_iff.1 read
      obtain ⟨columnWord, columnRead, read⟩ := Option.bind_eq_some_iff.1 read
      cases read
      exact ⟨line, column, found, lineRead, columnRead⟩
  · cases read

theorem LinePosition.ofJson?_of_faulty {document : Json} (faulty : FaultyRecord demands document) :
    LinePosition.ofJson? document = none := by
  rw [Option.eq_none_iff_forall_ne_some]
  intro place read
  obtain ⟨line, column, found, lineRead, columnRead⟩ := fields_of_read read
  have lineInside := not_fault_of_read word?_of_outside lineRead
  have columnInside := not_fault_of_read word?_of_outside columnRead
  exact FaultyRecord.not_of_found found (.cons lineInside (.cons columnInside .nil)) faulty

theorem Location.fields_of_read {document : Json} {location : Location}
    (read : Location.ofJson? document = some location) :
    ∃ start stop path, document.fields? (demands.map Demand.name) = some [some start, some stop, path] ∧
      LinePosition.ofJson? start = some location.start ∧ LinePosition.ofJson? stop = some location.stop := by
  simp only [Location.ofJson?, bind, Option.bind_eq_some_iff] at read
  obtain ⟨values, found, read⟩ := read
  split at read
  · next start stop path =>
      obtain ⟨startPlace, startRead, read⟩ := Option.bind_eq_some_iff.1 read
      obtain ⟨stopPlace, stopRead, read⟩ := Option.bind_eq_some_iff.1 read
      obtain ⟨entries, pathRead, read⟩ := Option.bind_eq_some_iff.1 read
      cases read
      exact ⟨start, stop, path, found, startRead, stopRead⟩
  · cases read

theorem Location.ofJson?_of_faulty {document : Json} (faulty : FaultyRecord demands document) :
    Location.ofJson? document = none := by
  rw [Option.eq_none_iff_forall_ne_some]
  intro location read
  obtain ⟨start, stop, path, found, startRead, stopRead⟩ := fields_of_read read
  have startSound := not_fault_of_read LinePosition.ofJson?_of_faulty startRead
  have stopSound := not_fault_of_read LinePosition.ofJson?_of_faulty stopRead
  exact FaultyRecord.not_of_found found
    (.cons startSound (.cons stopSound (.cons not_violated_of_optional .nil))) faulty

theorem Rule.fields_of_read {document : Json} {rule : Rule} (read : Rule.ofJson? document = some rule) :
    ∃ id description short source,
      document.fields? (demands.map Demand.name) = some [some id, description, short, source] := by
  simp only [Rule.ofJson?, bind, Option.bind_eq_some_iff] at read
  obtain ⟨values, found, read⟩ := read
  split at read
  · next id description short source => exact ⟨id, description, short, source, found⟩
  · cases read

theorem Rule.ofJson?_of_faulty {document : Json} (faulty : FaultyRecord demands document) :
    Rule.ofJson? document = none := by
  rw [Option.eq_none_iff_forall_ne_some]
  intro rule read
  obtain ⟨id, description, short, source, found⟩ := fields_of_read read
  exact FaultyRecord.not_of_found found
    (.cons not_false (.cons not_violated_of_optional (.cons not_violated_of_optional
      (.cons not_violated_of_optional .nil)))) faulty

theorem Finding.fields_of_read {document : Json} {finding : Finding}
    (read : Finding.ofJson? document = some finding) :
    ∃ filename level location message rule,
      document.fields? (demands.map Demand.name) =
          some [filename, some level, some location, some message, some rule] ∧
        Location.ofJson? location = some finding.location ∧ Rule.ofJson? rule = some finding.rule := by
  simp only [Finding.ofJson?, bind, Option.bind_eq_some_iff] at read
  obtain ⟨values, found, read⟩ := read
  split at read
  · next filename level location message rule =>
      obtain ⟨filenameText, filenameRead, read⟩ := Option.bind_eq_some_iff.1 read
      obtain ⟨levelText, levelRead, read⟩ := Option.bind_eq_some_iff.1 read
      obtain ⟨place, locationRead, read⟩ := Option.bind_eq_some_iff.1 read
      obtain ⟨messageText, messageRead, read⟩ := Option.bind_eq_some_iff.1 read
      obtain ⟨broken, ruleRead, read⟩ := Option.bind_eq_some_iff.1 read
      cases read
      exact ⟨filename, level, location, message, rule, found, locationRead, ruleRead⟩
  · cases read

theorem Finding.ofJson?_of_faulty {document : Json} (faulty : FaultyRecord demands document) :
    Finding.ofJson? document = none := by
  rw [Option.eq_none_iff_forall_ne_some]
  intro finding read
  obtain ⟨filename, level, location, message, rule, found, locationRead, ruleRead⟩ := fields_of_read read
  have locationSound := not_fault_of_read Location.ofJson?_of_faulty locationRead
  have ruleSound := not_fault_of_read Rule.ofJson?_of_faulty ruleRead
  exact FaultyRecord.not_of_found found
    (.cons not_violated_of_optional (.cons not_false (.cons locationSound (.cons not_false
      (.cons ruleSound .nil))))) faulty

/-! ### What the linter prints -/

/-- The linter may write its findings in any form and spell what it writes in any way.  A fault in one of its
records makes the output invalid, whatever form that record has and whatever else is printed. -/
theorem parseFindings_of_writing (findings : List Finding)
    (plain : ∀ finding ∈ findings, finding.HasPlainPath) :
    parseFindings (Json.array (findings.map Finding.toJson)).render = .ok findings ∧
    (∀ document output, FindingsWrittenAs findings document → document.SpelledBy output.toList →
      parseFindings output = .ok findings) ∧
    ∀ document output, FaultyFindings document → document.SpelledBy output.toList →
      parseFindings output = .error .invalidOutput := by
  have readsWritten : ∀ document output, FindingsWrittenAs findings document →
      document.SpelledBy output.toList → parseFindings output = .ok findings := by
    intro document output written spelled
    have found := findings?_of_written plain written
    cases written with
    | array each =>
        change List.mapM Finding.ofJson? _ = some findings at found
        rw [parseFindings_of_array spelled, found]
  refine ⟨?_, readsWritten, ?_⟩
  · have printable : (Json.array (findings.map Finding.toJson)).Printable := by
      apply Json.Printable.array
      intro item isItem
      obtain ⟨finding, isIn, rfl⟩ := List.mem_map.1 isItem
      exact Finding.toJson_printable (plain finding isIn)
    have each : List.Forall₂ Finding.WrittenAs findings (findings.map Finding.toJson) := by
      rw [List.forall₂_map_right_iff, List.forall₂_same]
      exact fun finding isIn => finding.toJson_written
    exact readsWritten _ _ (.array each) (Json.render_spells printable)
  · intro document output faulty spelled
    cases faulty with
    | array isItem faulty =>
        rw [parseFindings_of_array spelled, Json.mapM_eq_none_of_mem isItem (Finding.ofJson?_of_faulty faulty)]

def undescribedFinding : Finding := {
  filename := ""
  level := "Warning"
  location := ⟨⟨3, 5⟩, ⟨3, 9⟩, [Json.ofString "Resources", .number (Json.Numeral.ofInt (-1))]⟩
  message := "\"0\"\tis not a size"
  rule := ⟨"W1001", "", "", ""⟩ }

def mixedDocument : Json := .array [Json.ofMembers (List.reverse [
  ("Level", Json.ofString "Warning"),
  ("Location", .array [
    .array [Json.ofNat 3, Json.ofNat 5],
    Json.ofMembers (List.reverse [("LineNumber", Json.ofNat 3), ("ColumnNumber", Json.ofNat 9)]),
    .array undescribedFinding.location.path]),
  ("Message", Json.ofString undescribedFinding.message),
  ("Rule", .array [Json.ofString "W1001"]),
  ("Note", .null)])]

def wideDocument : Json := .array [Json.ofMembers [
  ("Rule", .array [Json.ofString "W1001"]),
  ("Message", Json.ofString undescribedFinding.message),
  ("Location", .array [
    .array [Json.ofNat 4294967296, Json.ofNat 5],
    .array [Json.ofNat 3, Json.ofNat 9]]),
  ("Level", Json.ofString "Warning")]]

theorem undescribedFinding_plain : undescribedFinding.HasPlainPath := by
  intro entry isIn
  rcases List.mem_cons.1 isIn with rfl | isLater
  · exact .name "Resources"
  · cases List.mem_singleton.1 isLater
    exact .place (-1) (by decide) (by decide)

theorem mixedDocument_written : FindingsWrittenAs [undescribedFinding] mixedDocument := by
  have stopWritten : undescribedFinding.location.stop.WrittenAs
      (Json.ofMembers (List.reverse [("LineNumber", Json.ofNat 3), ("ColumnNumber", Json.ofNat 9)])) :=
    .object (.give rfl (.give rfl .nil)) (fun member isAdded => absurd isAdded List.not_mem_nil)
      (List.reverse_perm _)
  have locationWritten : undescribedFinding.location.WrittenAs (.array [.array [Json.ofNat 3, Json.ofNat 5],
      Json.ofMembers (List.reverse [("LineNumber", Json.ofNat 3), ("ColumnNumber", Json.ofNat 9)]),
      .array undescribedFinding.location.path]) :=
    .array (.cons (.array (.cons rfl (.cons rfl (.nil nofun)))) (.cons stopWritten (.cons rfl (.nil nofun))))
  have ruleWritten : undescribedFinding.rule.WrittenAs (.array [Json.ofString "W1001"]) :=
    .array (.cons rfl (.nil (by simp [undescribedFinding])))
  have noteUnknown : ∀ member ∈ [("Note", Json.null)], ∀ slot ∈ undescribedFinding.slots,
      member.1 ≠ slot.name := by
    simp [Finding.slots]
  exact .array (.cons (.object (.leave rfl (.give rfl (.give locationWritten (.give rfl
    (.give ruleWritten .nil))))) noteUnknown (List.reverse_perm _)) .nil)

theorem wideDocument_faulty : FaultyFindings wideDocument := by
  have lineOutside : IsOutside (Json.ofNat 4294967296) := .number rfl (.inr (by decide))
  have startFaulty : FaultyRecord LinePosition.demands (.array [Json.ofNat 4294967296, Json.ofNat 5]) :=
    .item (rfl : LinePosition.demands[0]? = some ⟨"LineNumber", true, IsOutside⟩) rfl lineOutside
  have locationFaulty : FaultyRecord Location.demands (.array [
      .array [Json.ofNat 4294967296, Json.ofNat 5], .array [Json.ofNat 3, Json.ofNat 9]]) :=
    .item (rfl : Location.demands[0]? = some ⟨"Start", true, FaultyRecord LinePosition.demands⟩) rfl startFaulty
  have isLocation : ⟨"Location", true, FaultyRecord Location.demands⟩ ∈ Finding.demands := by
    simp [Finding.demands]
  exact .array List.mem_cons_self (.member isLocation (by simp) locationFaulty)

theorem parseFindings_of_mixedDocument :
    undescribedFinding.HasPlainPath ∧ FindingsWrittenAs [undescribedFinding] mixedDocument ∧
    parseFindings mixedDocument.renderIndented = .ok [undescribedFinding] ∧
    FaultyFindings wideDocument ∧ parseFindings wideDocument.render = .error .invalidOutput := by
  have plain : ∀ finding ∈ [undescribedFinding], finding.HasPlainPath := by
    intro finding isIn
    cases List.mem_singleton.1 isIn
    exact undescribedFinding_plain
  obtain ⟨_, readsWritten, refusesFaulty⟩ := parseFindings_of_writing [undescribedFinding] plain
  have mixedPrintable : mixedDocument.Printable := by
    simp [mixedDocument, undescribedFinding]
  have widePrintable : wideDocument.Printable := by
    simp [wideDocument]
  exact ⟨undescribedFinding_plain, mixedDocument_written,
    readsWritten _ _ mixedDocument_written (Json.renderIndented_spells mixedPrintable),
    wideDocument_faulty, refusesFaulty _ _ wideDocument_faulty (Json.render_spells widePrintable)⟩

end TemplateLint
