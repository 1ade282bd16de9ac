import TemplateLint.Diagnostic
import TemplateLint.Proofs.Json.Printing
import TemplateLint.Proofs.Json.Record

set_option autoImplicit false

/-!
Diagnostics in JSON: what is written for a diagnostic is read as that diagnostic.
-/

namespace TemplateLint

theorem word?_ofNat (n : UInt32) : word? (Json.ofNat n.toNat) = some n := by
  have below : n.toNat < wordBound := n.toNat_lt
  rw [word?, Json.natBelow?_ofNat below (by decide), Option.map_some, UInt32.ofNat_toNat]

theorem Position.ofJson?_toJson (position : Position) : ofJson? position.toJson = some position := by
  have found : position.toJson.fields? ["line", "character"] =
      some [some (Json.ofNat position.line.toNat), some (Json.ofNat position.character.toNat)] := by
    rw [toJson, Json.fields?_ofMembers]
    rfl
  simp [ofJson?, found, word?_ofNat]

theorem Range.ofJson?_toJson (range : Range) : ofJson? range.toJson = some range := by
  have found : range.toJson.fields? ["start", "end"] =
      some [some range.start.toJson, some range.stop.toJson] := by
    rw [toJson, Json.fields?_ofMembers]
    rfl
  simp [ofJson?, found, Position.ofJson?_toJson]

theorem Severity.ofJson?_toJson (severity : Severity) : ofJson? severity.toJson = some severity := by
  cases severity with
  | error => rfl
  | warning => rfl
  | information => rfl

theorem Diagnostic.ofJson?_toJson (diagnostic : Diagnostic) : ofJson? diagnostic.toJson = some diagnostic := by
  have found : diagnostic.toJson.fields? ["range", "severity", "message", "source"] =
      some [some diagnostic.range.toJson, some diagnostic.severity.toJson,
        some (Json.ofString diagnostic.message), some (Json.ofString diagnostic.source)] := by
    rw [toJson, Json.fields?_ofMembers]
    rfl
  simp [ofJson?, found, Range.ofJson?_toJson, Severity.ofJson?_toJson, Json.string?_ofString]

@[simp]
theorem Position.toJson_printable (position : Position) : position.toJson.Printable := by
  simp [toJson]

@[simp]
theorem Range.toJson_printable (range : Range) : range.toJson.Printable := by
  simp [toJson]

@[simp]
theorem Diagnostic.toJson_printable (diagnostic : Diagnostic) : diagnostic.toJson.Printable := by
  simp [toJson, Severity.toJson]

end TemplateLint
