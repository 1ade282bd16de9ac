import TemplateLint.Proofs.Readiness

set_option autoImplicit false

/-!
The settings that can be read back from the arguments of the linter.

The arguments are cut at the words that are flags.  A piece that begins with a flag holds what one setting passes
on, and every flag belongs to one setting, so the pieces tell the settings apart.  Only a value that is itself
such a word could be taken for the begin of a piece; words such as `--` or `json` could not.
-/

namespace TemplateLint

/-! ### Settings with an effect -/

namespace SettingValue

def HasEffect : SettingValue → Prop
  | .boolean isOn => isOn = true
  | .string text => text ≠ ""
  | .stringList items => items ≠ [] ∧ "" ∉ items
  | .number _ => False

instance : DecidablePred HasEffect
  | .boolean isOn => inferInstanceAs (Decidable (isOn = true))
  | .string text => inferInstanceAs (Decidable (text ≠ ""))
  | .stringList items => inferInstanceAs (Decidable (items ≠ [] ∧ "" ∉ items))
  | .number _ => inferInstanceAs (Decidable False)

def words : SettingValue → List String
  | .boolean _ => []
  | .string text => [text]
  | .stringList items => items
  | .number _ => []

theorem eq_of_words {left right : SettingValue} (sameShape : left.shape = right.shape)
    (leftHas : left.HasEffect) (rightHas : right.HasEffect) (sameWords : left.words = right.words) :
    left = right := by
  cases left with
  | boolean leftOn =>
      cases right with
      | boolean rightOn =>
          have leftIsOn : leftOn = true := leftHas
          have rightIsOn : rightOn = true := rightHas
          rw [leftIsOn, rightIsOn]
      | _ => cases sameShape
  | string leftText =>
      cases right with
      | string rightText =>
          have sameText : [leftText] = [rightText] := sameWords
          cases sameText
          rfl
      | _ => cases sameShape
  | stringList leftItems =>
      cases right with
      | stringList rightItems =>
          have sameItems : leftItems = rightItems := sameWords
          rw [sameItems]
      | _ => cases sameShape
  | number value => cases leftHas

end SettingValue

namespace Settings

def effect? (settings : Settings) (key : String) : Option SettingValue :=
  (settings.get? key).filter fun value => value.HasEffect

theorem effect?_eq_some_iff (settings : Settings) (key : String) (value : SettingValue) :
    settings.effect? key = some value ↔ settings.get? key = some value ∧ value.HasEffect := by
  rw [effect?, Option.filter_eq_some_iff, decide_eq_true_iff]

/-- The settings that are passed on and have an effect, each with its key. -/
def effects (settings : Settings) : List (String × SettingValue) :=
  flagTable.filterMap fun row => (settings.effect? row.key).map (row.key, ·)

/-- No word that is passed on as a value is one of the flags. -/
def AvoidsFlagWords (settings : Settings) : Prop :=
  ∀ entry ∈ settings.effects, ∀ word ∈ entry.2.words, word ∉ flagTable.map FlagRow.flag

instance (settings : Settings) : Decidable settings.AvoidsFlagWords :=
  inferInstanceAs (Decidable (∀ entry ∈ settings.effects, ∀ word ∈ entry.2.words, _))

end Settings

/-! ### Lists of what is there under distinct keys -/

section Keyed

variable {α β κ : Type} {items : List α} {key : α → κ}

theorem mem_filterMap_keyed_iff (distinct : ∀ a ∈ items, ∀ b ∈ items, key a = key b → a = b)
    (found : α → Option β) {a : α} (isItem : a ∈ items) (value : β) :
    (key a, value) ∈ items.filterMap (fun other => (found other).map (key other, ·)) ↔
      found a = some value := by
  rw [List.mem_filterMap]
  constructor
  · rintro ⟨other, isOther, holds⟩
    obtain ⟨otherValue, isFound, same⟩ := Option.map_eq_some_iff.1 holds
    obtain ⟨sameKey, rfl⟩ := Prod.mk.inj same
    rw [← distinct other isOther a isItem sameKey]
    exact isFound
  · intro isFound
    exact ⟨a, isItem, by rw [isFound, Option.map_some]⟩

theorem filterMap_keyed_eq_iff (distinct : ∀ a ∈ items, ∀ b ∈ items, key a = key b → a = b)
    (left right : α → Option β) :
    items.filterMap (fun a => (left a).map (key a, ·)) = items.filterMap (fun a => (right a).map (key a, ·)) ↔
      ∀ a ∈ items, left a = right a := by
  constructor
  · intro same a isItem
    apply Option.ext
    intro value
    rw [← mem_filterMap_keyed_iff distinct left isItem, same, mem_filterMap_keyed_iff distinct right isItem]
  · intro each
    apply List.filterMap_congr
    intro a isItem
    rw [each a isItem]

end Keyed

theorem flagTable_keys_distinct :
    ∀ row ∈ flagTable, ∀ other ∈ flagTable, row.key = other.key → row = other := by
  decide +kernel

theorem flagTable_flags_distinct :
    ∀ row ∈ flagTable, ∀ other ∈ flagTable, row.flag = other.flag → row = other := by
  decide +kernel

theorem Settings.effects_eq_iff (left right : Settings) :
    left.effects = right.effects ↔ ∀ row ∈ flagTable, left.effect? row.key = right.effect? row.key :=
  filterMap_keyed_eq_iff flagTable_keys_distinct _ _

/-! ### The arguments in pieces -/

def FlagRow.piece (settings : Settings) (row : FlagRow) : List String :=
  match settings.effect? row.key with
  | none => []
  | some value => row.flag :: value.words

theorem FlagRow.argumentsFor_eq {row : FlagRow} {value : SettingValue} {arguments : List String}
    (isOk : row.argumentsFor value = .ok arguments) :
    arguments = if value.HasEffect then row.flag :: value.words else [] := by
  have fits := shape_of_argumentsFor isOk
  obtain ⟨key, shape, flag⟩ := row
  cases shape with
  | items =>
      cases value with
      | stringList items =>
          cases isOk
          by_cases has : items ≠ [] ∧ "" ∉ items
          · simp [SettingValue.HasEffect, SettingValue.words, has]
          · have noWords : items = [] ∨ "" ∈ items := by
              rwa [not_and_or, not_not, not_not] at has
            rcases noWords with isEmpty | hasEmpty
            · simp [SettingValue.HasEffect, isEmpty]
            · simp [SettingValue.HasEffect, hasEmpty]
      | _ => cases fits
  | switch =>
      cases value with
      | boolean isOn =>
          cases isOk
          rfl
      | _ => cases fits
  | text =>
      cases value with
      | string text =>
          cases isOk
          by_cases isEmpty : text = ""
          · simp [SettingValue.HasEffect, isEmpty]
          · simp [SettingValue.HasEffect, SettingValue.words, isEmpty]
      | _ => cases fits

theorem FlagRow.arguments_eq_piece {row : FlagRow} {settings : Settings} {arguments : List String}
    (isOk : row.arguments settings = .ok arguments) : arguments = row.piece settings := by
  unfold FlagRow.arguments at isOk
  unfold piece Settings.effect?
  cases found : settings.get? row.key with
  | none =>
      rw [found] at isOk
      cases isOk
      rfl
  | some value =>
      rw [found] at isOk
      rw [argumentsFor_eq isOk, Option.filter_some]
      by_cases has : value.HasEffect
      · simp [has]
      · simp [has]

theorem flagArguments_eq_pieces {settings : Settings} {rows : List FlagRow} {arguments : List String}
    (isOk : flagArguments settings rows = .ok arguments) :
    arguments = rows.flatMap (FlagRow.piece settings) := by
  rw [flagArguments_eq_mapM] at isOk
  obtain ⟨parts, each, rfl⟩ := (map_ok_iff _ _ _).1 isOk
  rw [mapM_ok_iff_forall₂] at each
  clear isOk
  induction each with
  | nil => rfl
  | cons first _ ih => rw [List.flatten_cons, List.flatMap_cons, ih, FlagRow.arguments_eq_piece first]

/-! ### Reading the pieces -/

def readPieces (flags : List String) : List String → List (String × List String)
  | [] => []
  | word :: rest =>
      if word ∈ flags then (word, rest.takeWhile fun other => other ∉ flags) :: readPieces flags rest
      else readPieces flags rest

theorem readPieces_skip {flags words : List String} (avoids : ∀ word ∈ words, word ∉ flags)
    (rest : List String) : readPieces flags (words ++ rest) = readPieces flags rest := by
  induction words with
  | nil => rfl
  | cons word others ih =>
      obtain ⟨notFlag, othersAvoid⟩ := List.forall_mem_cons.1 avoids
      rw [List.cons_append, readPieces, if_neg notFlag, ih othersAvoid]

theorem takeWhile_words {flags words rest : List String} (avoids : ∀ word ∈ words, word ∉ flags)
    (stops : ∀ word ∈ rest.head?, word ∈ flags) :
    (words ++ rest).takeWhile (fun word => word ∉ flags) = words := by
  have stopped : rest.takeWhile (fun word => word ∉ flags) = [] := by
    cases rest with
    | nil => rfl
    | cons word others =>
        have isFlag : word ∈ flags := stops word rfl
        rw [List.takeWhile_cons, if_neg (by simpa using isFlag)]
  rw [List.takeWhile_append_of_pos (fun word isWord => decide_eq_true (avoids word isWord)), stopped,
    List.append_nil]

theorem head?_pieces (settings : Settings) (rows : List FlagRow) :
    ∀ word ∈ (rows.flatMap (FlagRow.piece settings)).head?, word ∈ rows.map FlagRow.flag := by
  induction rows with
  | nil => exact nofun
  | cons row rest ih =>
      intro word isHead
      rw [List.flatMap_cons, FlagRow.piece] at isHead
      cases found : settings.effect? row.key with
      | none =>
          rw [found] at isHead
          exact List.mem_cons_of_mem _ (ih word isHead)
      | some value =>
          rw [found] at isHead
          cases isHead
          exact List.mem_cons_self

theorem readPieces_pieces {settings : Settings} {flags : List String} {rows : List FlagRow}
    (known : ∀ row ∈ rows, row.flag ∈ flags)
    (avoids : ∀ row ∈ rows, ∀ value ∈ settings.effect? row.key, ∀ word ∈ value.words, word ∉ flags) :
    readPieces flags (rows.flatMap (FlagRow.piece settings)) =
      rows.filterMap fun row => ((settings.effect? row.key).map SettingValue.words).map (row.flag, ·) := by
  induction rows with
  | nil => rfl
  | cons row rest ih =>
      obtain ⟨isKnown, othersKnown⟩ := List.forall_mem_cons.1 known
      obtain ⟨rowAvoids, othersAvoid⟩ := List.forall_mem_cons.1 avoids
      have later := ih othersKnown othersAvoid
      rw [List.flatMap_cons, FlagRow.piece, List.filterMap_cons]
      cases found : settings.effect? row.key with
      | none => exact later
      | some value =>
          have wordsAvoid := rowAvoids value found
          have stops : ∀ word ∈ (rest.flatMap (FlagRow.piece settings)).head?, word ∈ flags := by
            intro word isHead
            obtain ⟨other, isOther, rfl⟩ := List.mem_map.1 (head?_pieces settings rest word isHead)
            exact othersKnown other isOther
          dsimp only [Option.map_some]
          rw [List.cons_append, readPieces, if_pos isKnown, takeWhile_words wordsAvoid stops,
            readPieces_skip wordsAvoid, later]

theorem Settings.AvoidsFlagWords.of_row {settings : Settings} (avoids : settings.AvoidsFlagWords) :
    ∀ row ∈ flagTable, ∀ value ∈ settings.effect? row.key, ∀ word ∈ value.words,
      word ∉ flagTable.map FlagRow.flag := by
  intro row isRow value found
  exact avoids (row.key, value)
    ((mem_filterMap_keyed_iff flagTable_keys_distinct _ isRow value).2 found)

/-- Settings that fit the table are told apart by the pieces of their arguments. -/
theorem Settings.effects_eq_of_pieces {left right : Settings} (leftFits : ∀ row ∈ flagTable, row.Fits left)
    (rightFits : ∀ row ∈ flagTable, row.Fits right) (leftAvoids : left.AvoidsFlagWords)
    (rightAvoids : right.AvoidsFlagWords)
    (samePieces : flagTable.flatMap (FlagRow.piece left) = flagTable.flatMap (FlagRow.piece right)) :
    left.effects = right.effects := by
  have known : ∀ row ∈ flagTable, row.flag ∈ flagTable.map FlagRow.flag :=
    fun row isRow => List.mem_map_of_mem isRow
  have sameReading := congrArg (readPieces (flagTable.map FlagRow.flag)) samePieces
  rw [readPieces_pieces known leftAvoids.of_row, readPieces_pieces known rightAvoids.of_row,
    filterMap_keyed_eq_iff flagTable_flags_distinct] at sameReading
  rw [effects_eq_iff]
  intro row isRow
  have sameWords := sameReading row isRow
  cases leftFound : left.effect? row.key with
  | none =>
      rw [leftFound, Option.map_none, eq_comm, Option.map_eq_none_iff] at sameWords
      exact sameWords.symm
  | some leftValue =>
      rw [leftFound, Option.map_some, eq_comm, Option.map_eq_some_iff] at sameWords
      obtain ⟨rightValue, rightFound, same⟩ := sameWords
      obtain ⟨leftPresent, leftHas⟩ := (effect?_eq_some_iff _ _ _).1 leftFound
      obtain ⟨rightPresent, rightHas⟩ := (effect?_eq_some_iff _ _ _).1 rightFound
      have sameShape : leftValue.shape = rightValue.shape :=
        (leftFits row isRow leftValue leftPresent).trans (rightFits row isRow rightValue rightPresent).symm
      rw [rightFound, SettingValue.eq_of_words sameShape leftHas rightHas same.symm]

/-! ### Arguments that are equal -/

theorem linterArguments_ok {settings : Settings} {path : Path} {arguments : List String}
    (made : linterArguments settings path = .ok arguments) :
    (∀ row ∈ flagTable, row.Fits settings) ∧
      arguments = ["--format", "json"] ++ flagTable.flatMap (FlagRow.piece settings) ++ ["--", path.display] := by
  unfold linterArguments at made
  cases flags : flagArguments settings flagTable with
  | error failure =>
      rw [flags] at made
      cases made
  | ok flagTexts =>
      rw [flags] at made
      cases made
      exact ⟨(exists_flagArguments_iff settings flagTable).1 ⟨flagTexts, flags⟩,
        by rw [flagArguments_eq_pieces flags]⟩

theorem arguments_inj {leftFlags rightFlags : List String} {leftPath rightPath : String}
    (same : ["--format", "json"] ++ leftFlags ++ ["--", leftPath] =
      ["--format", "json"] ++ rightFlags ++ ["--", rightPath]) :
    leftPath = rightPath ∧ leftFlags = rightFlags := by
  obtain ⟨sameFront, samePath⟩ := List.append_inj' same rfl
  cases samePath
  exact ⟨rfl, List.append_cancel_left sameFront⟩

/-- The arguments ask for JSON first and end with the path.  They are the same for the same path and the same
settings with an effect, whatever else is set; and when no value is one of the flags, equal arguments come from
nothing else. -/
theorem linterArguments_determine_effects {left right : Settings} {leftPath rightPath : Path}
    {leftArguments rightArguments : List String}
    (leftMade : linterArguments left leftPath = .ok leftArguments)
    (rightMade : linterArguments right rightPath = .ok rightArguments) :
    (∃ flags, leftArguments = ["--format", "json"] ++ flags ++ ["--", leftPath.display]) ∧
    (leftArguments = rightArguments → leftPath.display = rightPath.display ∧
      (left.AvoidsFlagWords → right.AvoidsFlagWords → left.effects = right.effects)) ∧
    (leftPath.display = rightPath.display → left.effects = right.effects → leftArguments = rightArguments) := by
  obtain ⟨leftFits, rfl⟩ := linterArguments_ok leftMade
  obtain ⟨rightFits, rfl⟩ := linterArguments_ok rightMade
  refine ⟨⟨_, rfl⟩, ?_, ?_⟩
  · intro same
    obtain ⟨samePath, samePieces⟩ := arguments_inj same
    exact ⟨samePath, fun leftAvoids rightAvoids =>
      Settings.effects_eq_of_pieces leftFits rightFits leftAvoids rightAvoids samePieces⟩
  · intro samePath sameEffects
    have samePieces : flagTable.flatMap (FlagRow.piece left) = flagTable.flatMap (FlagRow.piece right) := by
      apply List.flatMap_congr
      intro row isRow
      rw [FlagRow.piece, FlagRow.piece, (Settings.effects_eq_iff left right).1 sameEffects row isRow]
    rw [samePath, samePieces]

def settingsWithDash : Settings := Settings.ofList [
  ("regions", .stringList ["--", "json"]), ("overrideSpecPath", .string "us-east-1"), ("lintOnSave", .boolean false)]

def settingsWithDashAndIdleKeys : Settings :=
  (settingsWithDash.set "customRules" (.stringList ["rules", ""])).set "ignoreBadTemplate" (.boolean false)

theorem linterArguments_determine_dash :
    let arguments := ["--format", "json", "--regions", "--", "json", "--override-spec", "us-east-1", "--", "/a.yaml"]
    linterArguments settingsWithDash (Path.ofString "/a.yaml") = .ok arguments ∧
    linterArguments settingsWithDashAndIdleKeys (Path.ofString "/a.yaml") = .ok arguments ∧
    settingsWithDash.AvoidsFlagWords ∧ settingsWithDashAndIdleKeys.AvoidsFlagWords ∧
    settingsWithDash.effects = settingsWithDashAndIdleKeys.effects := by
  intro arguments
  have made : linterArguments settingsWithDash (Path.ofString "/a.yaml") = .ok arguments := by decide +kernel
  have madeToo : linterArguments settingsWithDashAndIdleKeys (Path.ofString "/a.yaml") = .ok arguments := by
    decide +kernel
  have avoids : settingsWithDash.AvoidsFlagWords := by decide +kernel
  have avoidsToo : settingsWithDashAndIdleKeys.AvoidsFlagWords := by decide +kernel
  obtain ⟨-, determine, -⟩ := linterArguments_determine_effects made madeToo
  exact ⟨made, madeToo, avoids, avoidsToo, (determine rfl).2 avoids avoidsToo⟩

/-- A flag among the values cannot be told from a setting of its own. -/
example :
    linterArguments (Settings.ofList [("regions", .stringList ["us-east-1", "--ignore-bad-template"])])
        (Path.ofString "/a.yaml") =
      linterArguments (Settings.ofList [("regions", .stringList ["us-east-1"]), ("ignoreBadTemplate", .boolean true)])
        (Path.ofString "/a.yaml") := by
  decide +kernel

end TemplateLint
