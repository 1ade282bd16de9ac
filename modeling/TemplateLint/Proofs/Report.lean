import TemplateLint.Proofs.Diagnostic
import TemplateLint.Report.Format

set_option autoImplicit false

/-!
Reports as JSON: the text holds every report whole, so it determines the reports.
-/

namespace TemplateLint.Report

def memberNames : List String :=
  ["diagnostics", "errorCount", "filePath", "infoCount", "skipped", "uri", "warningCount"]

/-- What a document says about a report. -/
structure StatedBy (report : Report) (document : Json) : Prop where
  names : document.members?.map (List.map Prod.fst) = some memberNames
  filePath : (document.member? "filePath").bind Json.string? = some report.filePath
  uri : (document.member? "uri").bind Json.string? = some report.uri
  skipped : document.member? "skipped" = some (.bool report.skipped)
  diagnostics : ∃ items, document.member? "diagnostics" = some (.array items) ∧
    items.mapM Diagnostic.ofJson? = some report.diagnostics ∧
    report.count .error + report.count .warning + report.count .information = items.length
  errorCount : document.member? "errorCount" = some (Json.ofNat (report.count .error))
  warningCount : document.member? "warningCount" = some (Json.ofNat (report.count .warning))
  infoCount : document.member? "infoCount" = some (Json.ofNat (report.count .information))

/-- Every diagnostic has one of the three severities. -/
theorem count_add_count_add_count (report : Report) :
    report.count .error + report.count .warning + report.count .information = report.diagnostics.length := by
  unfold count
  induction report.diagnostics with
  | nil => rfl
  | cons diagnostic rest ih =>
      rw [List.length_cons, ← ih]
      cases severity : diagnostic.severity with
      | error => simp [severity]; omega
      | warning => simp [severity]; omega
      | information => simp [severity]; omega

theorem toJson_states (report : Report) : report.StatedBy report.toJson where
  names := by
    rw [toJson, Json.members?_ofMembers]
    rfl
  filePath := rfl
  uri := rfl
  skipped := rfl
  diagnostics := by
    refine ⟨report.diagnostics.map Diagnostic.toJson, rfl, ?_, ?_⟩
    · apply Json.mapM_of_forall₂
      rw [List.forall₂_map_left_iff, List.forall₂_same]
      exact fun diagnostic _ => diagnostic.ofJson?_toJson
    · rw [List.length_map]
      exact report.count_add_count_add_count
  errorCount := rfl
  warningCount := rfl
  infoCount := rfl

theorem toJson_printable (report : Report) : report.toJson.Printable := by
  simp [toJson]

/-- A document speaks of one report. -/
theorem StatedBy.unique {report other : Report} {document : Json} (states : report.StatedBy document)
    (statesOther : other.StatedBy document) : report = other := by
  have samePath : report.filePath = other.filePath :=
    Option.some.inj (states.filePath.symm.trans statesOther.filePath)
  have sameUri : report.uri = other.uri := Option.some.inj (states.uri.symm.trans statesOther.uri)
  have sameSkipped : report.skipped = other.skipped :=
    Json.bool.inj (Option.some.inj (states.skipped.symm.trans statesOther.skipped))
  have sameDiagnostics : report.diagnostics = other.diagnostics := by
    obtain ⟨items, found, read, -⟩ := states.diagnostics
    obtain ⟨otherItems, otherFound, otherRead, -⟩ := statesOther.diagnostics
    cases found.symm.trans otherFound
    exact Option.some.inj (read.symm.trans otherRead)
  cases report
  cases other
  cases samePath
  cases sameUri
  cases sameSkipped
  cases sameDiagnostics
  rfl

theorem parse?_json (reports : List Report) :
    Json.parse? (json reports) = some (.array (reports.map toJson)) := by
  apply Json.parse?_of_spelling
  apply Json.renderIndented_spells
  simp [toJson_printable]

/-- The text for a list of reports holds one object for every report, which says all there is in the report, and
no other list of reports has this text. -/
theorem json_states_reports (reports : List Report) :
    (∃ documents, Json.parse? (json reports) = some (.array documents) ∧
      List.Forall₂ StatedBy reports documents) ∧
    ∀ others, json others = json reports ↔ others = reports := by
  have states (reports : List Report) : List.Forall₂ StatedBy reports (reports.map toJson) := by
    rw [List.forall₂_map_right_iff, List.forall₂_same]
    exact fun report _ => report.toJson_states
  refine ⟨⟨reports.map toJson, parse?_json reports, states reports⟩, ?_⟩
  intro others
  refine ⟨fun sameText => ?_, congrArg json⟩
  have sameDocument : Json.array (others.map toJson) = .array (reports.map toJson) := by
    apply Option.some.inj
    rw [← parse?_json, ← parse?_json, sameText]
  have sameItems : others.map toJson = reports.map toJson := Json.array.inj sameDocument
  apply List.map_injective_iff.2 ?_ sameItems
  intro report other same
  exact report.toJson_states.unique (same ▸ other.toJson_states)

end TemplateLint.Report
