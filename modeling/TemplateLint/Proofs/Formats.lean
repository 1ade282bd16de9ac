import TemplateLint.Program
import TemplateLint.Proofs.Check
import TemplateLint.Proofs.Json.Decimal
import TemplateLint.Proofs.Report

set_option autoImplicit false

/-!
What the formats and the exit code say of one check.

Diagnostics are counted in three places: JSON counts in every report, the summary for people only in those of
files that were not skipped, and the exit code asks for an error in any report.  The numbers agree because
nothing is found in a file that is skipped.
-/

namespace TemplateLint

variable {σ : Type}

/-! ### Numbers of diagnostics -/

structure Tally where
  errors : Nat
  warnings : Nat
  infos : Nat
deriving DecidableEq, Repr

namespace Tally

def all (tally : Tally) : Nat :=
  tally.errors + tally.warnings + tally.infos

def ofReports (reports : List Report) : Tally where
  errors := (reports.map fun report => report.count .error).foldr (· + ·) 0
  warnings := (reports.map fun report => report.count .warning).foldr (· + ·) 0
  infos := (reports.map fun report => report.count .information).foldr (· + ·) 0

def spoken (count : Nat) (one many : String) : String :=
  toString count ++ " " ++ if count = 1 then one else many

def words (tally : Tally) : List String :=
  ([(tally.errors, "error", "errors"), (tally.warnings, "warning", "warnings"),
    (tally.infos, "info", "info")].filter fun entry => entry.1 ≠ 0).map
    fun entry => spoken entry.1 entry.2.1 entry.2.2

def summary (tally : Tally) : String :=
  "\n" ++ spoken tally.all "problem" "problems" ++ " (" ++ Text.join ", " tally.words ++ ")\n"

end Tally

/-! ### Numbers that a JSON text states -/

def Json.natural? : Json → Option Nat
  | .number numeral => numeral.integer?.bind Int.toNat?
  | _ => none

def statedSum? (documents : List Json) (name : String) : Option Nat :=
  (documents.mapM fun document : Json => (document.member? name).bind Json.natural?).map (List.foldr (· + ·) 0)

/-- The numbers that the text of a list of reports states, summed over the reports. -/
def statedTally? (text : String) : Option Tally := do
  let documents ← (← Json.parse? text).items?
  pure ⟨← statedSum? documents "errorCount", ← statedSum? documents "warningCount",
    ← statedSum? documents "infoCount"⟩

theorem Json.natural?_ofNat (n : Nat) : (Json.ofNat n).natural? = some n := by
  have integer : (Numeral.ofNat n).integer? = some (n : Int) := by
    rw [Numeral.integer?, if_pos ⟨rfl, rfl⟩]
    exact congrArg (fun value : Nat => some (value : Int)) (Numeral.ofDigits_digitsOf n)
  rw [ofNat, natural?, integer]
  rfl

theorem statedSum?_toJson (reports : List Report) (name : String) (severity : Severity)
    (counts : ∀ report : Report, report.toJson.member? name = some (Json.ofNat (report.count severity))) :
    statedSum? (reports.map Report.toJson) name =
      some ((reports.map fun report => report.count severity).foldr (· + ·) 0) := by
  have read : (reports.map Report.toJson).mapM (fun document => (document.member? name).bind Json.natural?) =
      some (reports.map fun report => report.count severity) := by
    apply Json.mapM_of_forall₂
    rw [List.forall₂_map_left_iff, List.forall₂_map_right_iff, List.forall₂_same]
    intro report _
    rw [counts report]
    exact Json.natural?_ofNat _
  rw [statedSum?, read]
  rfl

theorem statedTally?_json (reports : List Report) :
    statedTally? (Report.json reports) = some (Tally.ofReports reports) := by
  have errors := statedSum?_toJson reports "errorCount" .error fun report => report.toJson_states.errorCount
  have warnings :=
    statedSum?_toJson reports "warningCount" .warning fun report => report.toJson_states.warningCount
  have infos :=
    statedSum?_toJson reports "infoCount" .information fun report => report.toJson_states.infoCount
  rw [statedTally?, Report.parse?_json]
  simp only [Option.bind_eq_bind, Option.bind_some, Json.items?, errors, warnings, infos]
  rfl

/-! ### Skipped files -/

theorem Check.diagnostics_of_skipped {host : Host σ} {settings : Settings} {projectRoot : Path}
    {isForced : Bool} {state : σ} {path : Path} {report : Report}
    (found : finding host settings projectRoot isForced state path = .ok report)
    (skipped : report.skipped = true) : report.diagnostics = [] := by
  unfold finding at found
  split at found
  · cases found
  · obtain ⟨diagnostics, -, rfl⟩ := (map_ok_iff _ _ _).1 found
    cases diagnostics with
    | none => rfl
    | some diagnostics => cases skipped

theorem Check.clean_of_run {host : Host σ} {settings : Settings} {projectRoot : Path} {isForced : Bool}
    {paths : List Path} {world : World σ} {check : Check}
    (checked : (run host settings projectRoot isForced paths world).1 = .ok check) :
    ∀ report ∈ check.reports, report.skipped = true → report.diagnostics = [] := by
  intro report isReport skipped
  obtain ⟨_, -, _, found⟩ := exists_finding_of_mem checked isReport
  exact diagnostics_of_skipped found skipped

theorem Report.any_hasErrors_iff (reports : List Report) :
    reports.any hasErrors = true ↔ 0 < (Tally.ofReports reports).errors := by
  induction reports with
  | nil => exact ⟨nofun, nofun⟩
  | cons report rest ih =>
      have first : report.hasErrors = true ↔ 0 < report.count .error := decide_eq_true_iff
      have added : (Tally.ofReports (report :: rest)).errors =
          report.count .error + (Tally.ofReports rest).errors := rfl
      rw [List.any_cons, Bool.or_eq_true, first, ih, added]
      omega

theorem Report.total_eq_foldr {reports : List Report}
    (clean : ∀ report ∈ reports, report.skipped = true → report.diagnostics = []) (severity : Severity) :
    total reports severity = (reports.map fun report => report.count severity).foldr (· + ·) 0 := by
  induction reports with
  | nil => rfl
  | cons report rest ih =>
      obtain ⟨first, others⟩ := List.forall_mem_cons.1 clean
      have behind := ih others
      rw [List.map_cons, List.foldr_cons, ← behind, total, List.filter_cons]
      cases skipped : report.skipped with
      | false => rfl
      | true =>
          have none : report.count severity = 0 := by
            rw [count, first skipped]
            rfl
          rw [none, Nat.zero_add]
          rfl

/-! ### The text for people -/

inductive Piece where
  | heading (filePath : String)
  | skipped (filePath : String)
  | entry (diagnostic : Diagnostic)
deriving DecidableEq, Repr

def Piece.text : Piece → String
  | .heading filePath => "\n" ++ filePath ++ "\n"
  | .skipped filePath => "\n" ++ filePath ++ " (skipped: not a CloudFormation template)\n"
  | .entry diagnostic =>
      "  " ++ toString diagnostic.shownLine ++ ":" ++ toString diagnostic.shownColumn ++ "  " ++
        diagnostic.severity.label ++ "  " ++ diagnostic.message ++ "\n"

/-- The diagnostics among pieces, each with the file that was named last before it. -/
def attributed (latest : String) : List Piece → List (String × Diagnostic)
  | [] => []
  | .heading filePath :: rest => attributed filePath rest
  | .skipped filePath :: rest => attributed filePath rest
  | .entry diagnostic :: rest => (latest, diagnostic) :: attributed latest rest

/-- Parts joined are all their lines joined. -/
theorem join_of_lines {α β : Type} {part : α → String} {lines : α → List β} {text : β → String}
    (each : ∀ item, part item = String.join ((lines item).map text)) (items : List α) :
    String.join (items.map part) = String.join ((items.flatMap lines).map text) := by
  induction items with
  | nil => rfl
  | cons item rest ih =>
      rw [List.map_cons, String.join_cons, ih, each, List.flatMap_cons, List.map_append, String.join_append]

namespace Report

def located (report : Report) : List (String × Diagnostic) :=
  report.diagnostics.map (report.filePath, ·)

def compactBody (entry : String × Diagnostic) : String :=
  entry.1 ++ ":" ++ toString entry.2.shownLine ++ ":" ++ toString entry.2.shownColumn ++ ": " ++
    entry.2.severity.label ++ " " ++ entry.2.message

def pieces (report : Report) : List Piece :=
  if report.skipped then [.skipped report.filePath]
  else if report.diagnostics.isEmpty then []
  else .heading report.filePath :: report.diagnostics.map .entry

theorem stylishPart_eq_join (report : Report) :
    report.stylishPart false = String.join (report.pieces.map Piece.text) := by
  unfold stylishPart pieces
  split
  · simp [Style.paint, Piece.text, String.append_assoc]
  · split
    · rfl
    · rw [List.map_cons, String.join_cons, List.map_map]
      rfl

theorem compactPart_eq_join (report : Report) :
    report.compactPart = String.join (report.located.map fun entry => compactBody entry ++ "\n") := by
  rw [compactPart, located, List.map_map]
  rfl

theorem attributed_entries (latest : String) (diagnostics : List Diagnostic) (rest : List Piece) :
    attributed latest (diagnostics.map Piece.entry ++ rest) =
      diagnostics.map (latest, ·) ++ attributed latest rest := by
  induction diagnostics with
  | nil => rfl
  | cons diagnostic others ih => exact congrArg ((latest, diagnostic) :: ·) ih

/-- A file without diagnostics is not named, so the file named last may be an earlier one. -/
theorem attributed_pieces_append {report : Report} (clean : report.skipped = true → report.diagnostics = [])
    (latest : String) (rest : List Piece) :
    ∃ named, attributed latest (report.pieces ++ rest) = report.located ++ attributed named rest := by
  unfold pieces located
  split
  · rename_i skipped
    rw [clean skipped]
    exact ⟨report.filePath, rfl⟩
  · split
    · rename_i isEmpty
      rw [List.isEmpty_iff.1 isEmpty]
      exact ⟨latest, rfl⟩
    · exact ⟨report.filePath, attributed_entries report.filePath report.diagnostics rest⟩

theorem attributed_pieces {reports : List Report}
    (clean : ∀ report ∈ reports, report.skipped = true → report.diagnostics = []) (latest : String) :
    attributed latest (reports.flatMap pieces) = reports.flatMap located := by
  induction reports generalizing latest with
  | nil => rfl
  | cons report rest ih =>
      obtain ⟨first, others⟩ := List.forall_mem_cons.1 clean
      obtain ⟨named, read⟩ := attributed_pieces_append first latest (rest.flatMap pieces)
      rw [List.flatMap_cons, List.flatMap_cons, read, ih others named]

theorem length_located (reports : List Report) :
    (reports.flatMap located).length = (Tally.ofReports reports).all := by
  induction reports with
  | nil => rfl
  | cons report rest ih =>
      rw [List.flatMap_cons, List.length_append, ih, located, List.length_map,
        ← report.count_add_count_add_count]
      simp only [Tally.all, Tally.ofReports, List.map_cons, List.foldr_cons]
      omega

theorem diagnostics_of_all_eq_zero {reports : List Report} (nothing : (Tally.ofReports reports).all = 0)
    {report : Report} (isReport : report ∈ reports) : report.diagnostics = [] := by
  rw [← length_located, List.length_eq_zero_iff, List.flatMap_eq_nil_iff] at nothing
  exact List.map_eq_nil_iff.1 (nothing report isReport)

/-! ### The summary -/

theorem plural_eq_spoken (count : Nat) {one many : String} (isMany : one ++ "s" = many) :
    plural count one = Tally.spoken count one many := by
  subst isMany
  unfold plural Tally.spoken
  split
  · rw [String.append_empty]
  · rw [String.append_assoc]

theorem ite_eq_filter (count : Nat) {one many text : String} (isSpoken : text = Tally.spoken count one many) :
    (if 0 < count then [text] else []) =
      ([(count, one, many)].filter fun entry => entry.1 ≠ 0).map
        fun entry => Tally.spoken entry.1 entry.2.1 entry.2.2 := by
  subst isSpoken
  cases count with
  | zero => rfl
  | succ count => rfl

theorem summaryParts_eq_words (tally : Tally) :
    summaryParts tally.errors tally.warnings tally.infos = tally.words := by
  have errors := plural_eq_spoken tally.errors (show "error" ++ "s" = "errors" by decide)
  have warnings := plural_eq_spoken tally.warnings (show "warning" ++ "s" = "warnings" by decide)
  have infos : toString tally.infos ++ " info" = Tally.spoken tally.infos "info" "info" := by
    rw [Tally.spoken, ite_self, String.append_assoc]
    rfl
  rw [summaryParts, ite_eq_filter _ errors, ite_eq_filter _ warnings, ite_eq_filter _ infos, ← List.map_append,
    ← List.filter_append, ← List.map_append, ← List.filter_append]
  rfl

theorem summary_eq (tally : Tally) :
    summary false tally.errors tally.warnings tally.infos = if tally.all = 0 then "" else tally.summary := by
  have problems := plural_eq_spoken tally.all (show "problem" ++ "s" = "problems" by decide)
  rw [summary, summaryParts_eq_words, ← Tally.all, problems]
  rfl

end Report

/-! ### How the text ends -/

def ClosesAfter (letters : List Char) (text : String) : Prop :=
  ∃ front, ∃ letter ∈ letters, text.toList = front ++ [letter, ')', '\n']

theorem ClosesAfter.append {letters : List Char} {text : String} (closes : ClosesAfter letters text)
    (front : String) : ClosesAfter letters (front ++ text) := by
  obtain ⟨before, letter, isLetter, ends⟩ := closes
  refine ⟨front.toList ++ before, letter, isLetter, ?_⟩
  rw [String.toList_append, ends, List.append_assoc]

theorem ClosesAfter.exists_common {letters others : List Char} {text : String}
    (closes : ClosesAfter letters text) (closesToo : ClosesAfter others text) :
    ∃ letter ∈ letters, letter ∈ others := by
  obtain ⟨before, letter, isLetter, ends⟩ := closes
  obtain ⟨beforeToo, letterToo, isOther, endsToo⟩ := closesToo
  obtain ⟨-, same⟩ := List.append_inj' (ends.symm.trans endsToo) rfl
  cases same
  exact ⟨letter, isLetter, isOther⟩

def lastLetters : List Char := ['r', 's', 'g', 'o']

namespace Tally

theorem getLast?_of_mem_words {tally : Tally} {word : String} (isWord : word ∈ tally.words) :
    ∃ letter ∈ lastLetters, word.toList.getLast? = some letter := by
  obtain ⟨⟨count, one, many⟩, isEntry, rfl⟩ := List.mem_map.1 isWord
  have known := (List.mem_filter.1 isEntry).1
  simp only [List.mem_cons, Prod.mk.injEq, List.not_mem_nil, or_false] at known
  obtain ⟨letter, isLetter, ends⟩ :
      ∃ letter ∈ lastLetters, (if count = 1 then one else many).toList.getLast? = some letter := by
    rcases known with ⟨-, rfl, rfl⟩ | ⟨-, rfl, rfl⟩ | ⟨-, rfl, rfl⟩
    · split
      · exact ⟨'r', by decide, by decide⟩
      · exact ⟨'s', by decide, by decide⟩
    · split
      · exact ⟨'g', by decide, by decide⟩
      · exact ⟨'s', by decide, by decide⟩
    · rw [ite_self]
      exact ⟨'o', by decide, by decide⟩
  refine ⟨letter, isLetter, ?_⟩
  rw [spoken, String.toList_append, List.getLast?_append, ends]
  rfl

theorem words_ne_nil {tally : Tally} (counted : tally.all ≠ 0) : tally.words ≠ [] := by
  intro nothing
  apply counted
  rw [words, List.map_eq_nil_iff, List.filter_eq_nil_iff] at nothing
  simpa [all, and_assoc] using nothing

end Tally

theorem Text.exists_join_eq (separator : String) {texts : List String} (nonempty : texts ≠ []) :
    ∃ text ∈ texts, ∃ front, join separator texts = front ++ text := by
  induction texts with
  | nil => exact absurd rfl nonempty
  | cons first rest ih =>
      cases rest with
      | nil => exact ⟨first, List.mem_cons_self, "", String.empty_append.symm⟩
      | cons second others =>
          obtain ⟨text, isText, front, joined⟩ := ih (List.cons_ne_nil second others)
          refine ⟨text, List.mem_cons_of_mem first isText, first ++ separator ++ front, ?_⟩
          change first ++ separator ++ join separator (second :: others) = _
          rw [joined, ← String.append_assoc]

theorem Tally.summary_closesAfter {tally : Tally} (counted : tally.all ≠ 0) :
    ClosesAfter lastLetters tally.summary := by
  obtain ⟨word, isWord, front, joined⟩ := Text.exists_join_eq ", " (words_ne_nil counted)
  obtain ⟨letter, isLetter, ends⟩ := getLast?_of_mem_words isWord
  obtain ⟨before, shape⟩ := List.getLast?_eq_some_iff.1 ends
  have closes : ClosesAfter lastLetters (word ++ ")\n") := by
    refine ⟨before, letter, isLetter, ?_⟩
    rw [String.toList_append, shape, List.append_assoc]
    rfl
  rw [summary, joined, ← String.append_assoc, String.append_assoc]
  exact closes.append _

/-- Without diagnostics there is nothing but the names of files that were skipped. -/
theorem Report.join_stylishPart_closesAfter {reports : List Report}
    (nothing : ∀ report ∈ reports, report.diagnostics = []) :
    String.join (reports.map (stylishPart false)) = "" ∨
      ClosesAfter ['e'] (String.join (reports.map (stylishPart false))) := by
  induction reports with
  | nil => exact .inl rfl
  | cons report rest ih =>
      obtain ⟨first, others⟩ := List.forall_mem_cons.1 nothing
      rw [List.map_cons, String.join_cons]
      rcases ih others with isEmpty | closes
      · rw [isEmpty, String.append_empty, stylishPart]
        split
        · have ends : ClosesAfter ['e'] ("(skipped: not a CloudFormation template)" ++ "\n") :=
            ⟨"(skipped: not a CloudFormation templat".toList, 'e', List.mem_singleton_self 'e', by decide⟩
          rw [String.append_assoc]
          exact .inr (ends.append _)
        · rw [first]
          exact .inl rfl
      · exact .inr (closes.append _)

theorem Report.stylish_eq {reports : List Report}
    (clean : ∀ report ∈ reports, report.skipped = true → report.diagnostics = []) :
    let tally := Tally.ofReports reports
    stylish false reports =
      String.join (reports.map (stylishPart false)) ++ if tally.all = 0 then "" else tally.summary := by
  intro tally
  rw [stylish, total_eq_foldr clean, total_eq_foldr clean, total_eq_foldr clean]
  exact congrArg (String.join (reports.map (stylishPart false)) ++ ·) (summary_eq tally)

theorem Report.ends_with_summary_iff {reports : List Report}
    (clean : ∀ report ∈ reports, report.skipped = true → report.diagnostics = []) :
    (∃ other : Tally, other.all ≠ 0 ∧ ∃ front, stylish false reports = front ++ other.summary) ↔
      0 < (Tally.ofReports reports).all := by
  rw [stylish_eq clean]
  constructor
  · rintro ⟨other, counted, front, ends⟩
    by_contra noneCounted
    have nothing : (Tally.ofReports reports).all = 0 := Nat.eq_zero_of_not_pos noneCounted
    have closes := (other.summary_closesAfter counted).append front
    rw [if_pos nothing, String.append_empty] at ends
    rw [← ends] at closes
    rcases join_stylishPart_closesAfter fun _ => diagnostics_of_all_eq_zero nothing with isEmpty | closesToo
    · rw [isEmpty] at closes
      obtain ⟨before, letter, -, shape⟩ := closes
      exact List.append_ne_nil_of_right_ne_nil before (List.cons_ne_nil letter _) shape.symm
    · obtain ⟨letter, isLast, isOnly⟩ := closes.exists_common closesToo
      cases List.mem_singleton.1 isOnly
      revert isLast
      decide
  · intro counted
    refine ⟨Tally.ofReports reports, Nat.ne_of_gt counted, String.join (reports.map (stylishPart false)), ?_⟩
    rw [if_neg (Nat.ne_of_gt counted)]

/-! ### All formats together -/

def Check.pieces (check : Check) : List Piece :=
  check.reports.flatMap Report.pieces

/-- What is said of one check with the same numbers in every format. -/
structure Check.ToldAlike (check : Check) (tally : Tally) : Prop where
  skipped : ∀ report ∈ check.reports, report.skipped = true → report.diagnostics = []
  json : ∀ isColored, statedTally? (check.output isColored .json) = some tally
  hasErrors : check.hasErrors = true ↔ 0 < tally.errors
  stylish : check.output false .stylish =
    String.join (check.pieces.map Piece.text) ++ if tally.all = 0 then "" else tally.summary
  summary : (∃ other : Tally, other.all ≠ 0 ∧ ∃ front, check.output false .stylish = front ++ other.summary) ↔
    0 < tally.all
  entries : attributed "" check.pieces = check.reports.flatMap Report.located
  counted : (attributed "" check.pieces).length = tally.all
  compact : ∀ isColored, check.output isColored .compact =
    String.join ((attributed "" check.pieces).map fun entry => Report.compactBody entry ++ "\n")

theorem Check.toldAlike_of_clean {check : Check}
    (clean : ∀ report ∈ check.reports, report.skipped = true → report.diagnostics = []) :
    check.ToldAlike (Tally.ofReports check.reports) := by
  have entries := Report.attributed_pieces clean ""
  exact {
    skipped := clean
    json := fun _ => statedTally?_json check.reports
    hasErrors := Report.any_hasErrors_iff check.reports
    stylish := by
      rw [pieces, ← join_of_lines Report.stylishPart_eq_join]
      exact Report.stylish_eq clean
    summary := Report.ends_with_summary_iff clean
    entries := entries
    counted := by
      rw [pieces, entries]
      exact Report.length_located check.reports
    compact := fun _ => by
      rw [pieces, entries]
      exact join_of_lines Report.compactPart_eq_join check.reports }

theorem Program.endingOf_perform_lint {host : Host σ} {settings : Settings} {projectRoot : Path}
    {isForced : Bool} {paths : List Path} {world : World σ} {check : Check}
    (checked : (Check.run host settings projectRoot isForced paths world).1 = .ok check) (isColored : Bool)
    (root : Option Path) (format : ReportFormat) (log : List LogRecord) :
    endingOf (perform host isColored settings projectRoot (.lint paths root format isForced) world).1 log =
      ⟨if check.hasErrors then 1 else 0, check.output isColored format, none, log⟩ := by
  rw [perform]
  dsimp only
  rw [checked]
  cases errors : check.hasErrors with
  | false => simp [Except.map, endingOf, errors]
  | true => simp [Except.map, endingOf, errors]

/-- The exit code does not depend on the format, and all formats tell of the same diagnostics. -/
theorem Check.run_told_alike (host : Host σ) (settings : Settings) (projectRoot : Path) (isForced : Bool)
    (paths : List Path) (world : World σ) (check : Check)
    (checked : (run host settings projectRoot isForced paths world).1 = .ok check) :
    ∃ tally, check.ToldAlike tally ∧ ∀ isColored root format log,
      Program.endingOf
          (Program.perform host isColored settings projectRoot (.lint paths root format isForced) world).1 log =
        ⟨if 0 < tally.errors then 1 else 0, check.output isColored format, none, log⟩ := by
  have told := toldAlike_of_clean (clean_of_run checked)
  refine ⟨Tally.ofReports check.reports, told, ?_⟩
  intro isColored root format log
  rw [Program.endingOf_perform_lint checked]
  simp only [told.hasErrors]

/-! ### A skipped file beside one with an error -/

namespace Check

def notesHost : Host Unit where
  entry _ path :=
    .file (Text.Utf8.bytes
      (if path = Path.ofString "notes.txt" then "Resources" else "AWSTemplateFormatVersion: 1\nResources:\n"))
  start _ _ := (.finished ⟨[], Text.Utf8.bytes "broken", some 1⟩, ())
  currentDirectory := Path.ofString "/work"
  home := none

def notesBesideTemplate : Check where
  reports := [
    ⟨"notes.txt", "file:///work/notes.txt", true, []⟩,
    ⟨"a.yaml", "file:///work/a.yaml", false, [Diagnostic.synthetic errorOutputText]⟩]

theorem notes_told_alike :
    (run notesHost Settings.empty (Path.ofString "/") false [Path.ofString "notes.txt", Path.ofString "a.yaml"]
      ⟨(), []⟩).1 = .ok notesBesideTemplate ∧
    ∃ tally, notesBesideTemplate.ToldAlike tally ∧ ∀ isColored format, (Program.endingOf
      (Program.perform notesHost isColored Settings.empty (Path.ofString "/")
        (.lint [Path.ofString "notes.txt", Path.ofString "a.yaml"] none format false) ⟨(), []⟩).1 []).code = 1 := by
  have checked : (run notesHost Settings.empty (Path.ofString "/") false
      [Path.ofString "notes.txt", Path.ofString "a.yaml"] ⟨(), []⟩).1 = .ok notesBesideTemplate := by
    decide +kernel
  obtain ⟨tally, told, ends⟩ := run_told_alike notesHost Settings.empty (Path.ofString "/") false
    [Path.ofString "notes.txt", Path.ofString "a.yaml"] ⟨(), []⟩ notesBesideTemplate checked
  have positive : 0 < tally.errors := told.hasErrors.1 (by decide +kernel)
  refine ⟨checked, tally, told, ?_⟩
  intro isColored format
  rw [ends isColored none format []]
  exact if_pos positive

example : notesBesideTemplate.output false .stylish =
    "\nnotes.txt (skipped: not a CloudFormation template)\n\na.yaml\n" ++
      "  1:1  error  [cfn-lint] Error occurred. See the log for details\n\n1 problem (1 error)\n" := by
  decide +kernel

end Check

end TemplateLint
