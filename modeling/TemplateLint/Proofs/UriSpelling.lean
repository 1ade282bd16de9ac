import TemplateLint.Proofs.Uri

set_option autoImplicit false

/-!
The URIs of a file, in whichever way they are written.

The authority does not count, and neither does the way in which the characters of the path are spelled.  The URI
that is written for a path is one of these, so what it names differs from the path only in the backslashes and in
the slash before a drive.
-/

namespace TemplateLint

open Text.Percent (Spells)

namespace Uri

/-- The texts that begin like a path on a drive: a slash, an ASCII letter and a colon. -/
def IsDriveLike (text : List Char) : Prop :=
  text[0]? = some '/' ∧ text[1]?.any Char.isAlpha = true ∧ text[2]? = some ':'

instance : DecidablePred IsDriveLike :=
  fun _ => inferInstanceAs (Decidable (_ ∧ _ ∧ _))

def driveStart (text : List Char) : List Char :=
  if IsDriveLike text then text.tail else text

/-! ### Drives -/

theorem isDriveLike_iff (text : List Char) :
    IsDriveLike text ↔ ∃ letter rest, text = '/' :: letter :: ':' :: rest ∧ letter.isAlpha = true := by
  constructor
  · rintro ⟨isSlash, isLetter, isColon⟩
    obtain - | ⟨first, - | ⟨letter, - | ⟨third, rest⟩⟩⟩ := text
    · cases isSlash
    · cases isLetter
    · cases isColon
    · cases isSlash
      cases isColon
      exact ⟨letter, rest, rfl, isLetter⟩
  · rintro ⟨letter, rest, rfl, isLetter⟩
    exact ⟨rfl, isLetter, rfl⟩

theorem dropDriveSlash_eq_driveStart (text : List Char) : dropDriveSlash text = driveStart text := by
  rw [driveStart]
  split
  · next isDrive =>
      obtain ⟨letter, rest, rfl, isLetter⟩ := (isDriveLike_iff text).1 isDrive
      rw [dropDriveSlash, if_pos isLetter]
      rfl
  · next notDrive =>
      apply dropDriveSlash_of_not_drive
      intro letter rest same
      cases isLetter : letter.isAlpha with
      | false => rfl
      | true => exact absurd ((isDriveLike_iff text).2 ⟨letter, rest, same, isLetter⟩) notDrive

theorem driveStart_eq_self_iff {text : List Char} (someText : text ≠ []) :
    driveStart text = text ↔ ¬ IsDriveLike text := by
  rw [driveStart]
  split
  · next isDrive =>
      refine ⟨fun same => ?_, fun notDrive => absurd isDrive notDrive⟩
      have sameLength := congrArg List.length same
      have isPositive := List.length_pos_iff.2 someText
      rw [List.length_tail] at sameLength
      omega
  · next notDrive => exact ⟨fun _ => notDrive, fun _ => rfl⟩

/-! ### Reading and writing -/

theorem path_of_no_scheme {uri : String} (noScheme : ¬ "file://".toList <+: uri.toList) :
    Uri.path uri = Path.ofString uri := by
  have notStarted : afterStart? scheme uri.toList = none := by
    rw [Option.eq_none_iff_forall_ne_some]
    intro rest found
    exact noScheme ⟨rest, ((afterStart?_eq_some_iff scheme uri.toList rest).1 found).symm⟩
  rw [Uri.path, notStarted]

theorem head?_of_isAbsolute {path : Path} {text : List Char} (isAbsolute : path.isAbsolute = true)
    (isText : path.bytes = Text.Utf8.encode text) : text.head? = some '/' := by
  rw [← Path.isAbsolute_encode_iff, ← isText]
  exact isAbsolute

theorem driveStart_map_eq_self_iff (names : List Char) :
    driveStart ('/' :: names.map slashForBackslash) = '/' :: names ↔
      '\\' ∉ names ∧ ¬ IsDriveLike ('/' :: names) := by
  constructor
  · intro same
    have noBackslash : '\\' ∉ names := by
      intro isIn
      have isLeft : '\\' ∈ driveStart ('/' :: names.map slashForBackslash) := by
        rw [same]
        exact List.mem_cons_of_mem _ isIn
      rw [← dropDriveSlash_eq_driveStart] at isLeft
      rcases List.mem_cons.1 (mem_of_mem_dropDriveSlash isLeft) with isSlash | isLater
      · cases isSlash
      · exact backslash_notMem_map names isLater
    rw [(map_slashForBackslash_eq_self_iff names).2 noBackslash,
      driveStart_eq_self_iff (List.cons_ne_nil _ _)] at same
    exact ⟨noBackslash, same⟩
  · rintro ⟨noBackslash, notDrive⟩
    rw [(map_slashForBackslash_eq_self_iff names).2 noBackslash,
      driveStart_eq_self_iff (List.cons_ne_nil _ _)]
    exact notDrive

theorem encode_inj {left right : List Char} (same : Text.Utf8.encode left = Text.Utf8.encode right) :
    left = right := by
  have decoded := congrArg Text.Utf8.decode? same
  rw [Text.Utf8.decode?_encode, Text.Utf8.decode?_encode] at decoded
  exact Option.some.inj decoded

/-! ### Spellings of one path -/

/-- Every spelling of a text behind any authority names the text, without the slash before a drive.  The URI of
an absolute path is such a spelling without an authority, and it names the path itself just when the path has no
backslash and does not begin like a path on a drive.  What has no scheme is the path as it stands. -/
theorem path_of_any_spelling :
    (∀ authority text spelling : List Char, '/' ∉ authority → Spells text spelling →
      Uri.path (String.ofList ("file://".toList ++ authority ++ '/' :: spelling)) =
        ⟨Text.Utf8.encode (driveStart ('/' :: text))⟩) ∧
    (∀ (currentDirectory path : Path) (text : List Char), path.isAbsolute = true →
      path.bytes = Text.Utf8.encode text →
        (∃ spelling, Spells (text.tail.map slashForBackslash) spelling ∧
          ofPath currentDirectory path = String.ofList ("file://".toList ++ '/' :: spelling)) ∧
        Uri.path (ofPath currentDirectory path) =
          ⟨Text.Utf8.encode (driveStart (text.map slashForBackslash))⟩ ∧
        (Uri.path (ofPath currentDirectory path) = path ↔ '\\' ∉ text ∧ ¬ IsDriveLike text)) ∧
    ∀ uri : String, ¬ "file://".toList <+: uri.toList → Uri.path uri = Path.ofString uri := by
  refine ⟨?anySpelling, ?written, fun _ noScheme => path_of_no_scheme noScheme⟩
  case anySpelling =>
    intro authority text spelling noSlash spelled
    rw [path_of_spelling noSlash spelled, dropDriveSlash_eq_driveStart]
  case written =>
    intro currentDirectory path text isAbsolute isText
    have starts := head?_of_isAbsolute isAbsolute isText
    have isRooted := rooted_slashed_of_text isText starts
    rw [← Path.join_of_isAbsolute currentDirectory isAbsolute] at isRooted
    obtain ⟨names, rfl⟩ := List.head?_eq_some_iff.1 starts
    have named : Uri.path (ofPath currentDirectory path) =
        ⟨Text.Utf8.encode (driveStart ('/' :: names.map slashForBackslash))⟩ := by
      rw [path_ofPath, isRooted, dropDriveSlash_eq_driveStart]
      rfl
    refine ⟨⟨_, coded_spells _, ofPath_eq currentDirectory path isRooted⟩, named, ?_⟩
    have noBackslash_iff : '\\' ∉ '/' :: names ↔ '\\' ∉ names := by
      rw [List.mem_cons, or_iff_right (by decide)]
    rw [named, noBackslash_iff, ← driveStart_map_eq_self_iff]
    constructor
    · intro same
      apply encode_inj
      rw [← isText, ← same]
    · intro same
      rw [same, ← isText]

theorem mixed_spelling : Spells "C:/ü%".toList "C%3a/%c3%BC%25".toList := by
  have colon : Text.Percent.Escapes (String.utf8EncodeChar ':') "%3a".toList :=
    .cons (by decide) (by decide) .nil
  have umlaut : Text.Percent.Escapes (String.utf8EncodeChar 'ü') "%c3%BC".toList :=
    .cons (by decide) (by decide) (.cons (by decide) (by decide) .nil)
  have percent : Text.Percent.Escapes (String.utf8EncodeChar '%') "%25".toList :=
    .cons (by decide) (by decide) .nil
  exact .plain (by decide) (.escaped colon (.plain (by decide) (.escaped umlaut (.escaped percent .nil))))

theorem path_of_mixed_spelling :
    let backslashed := Path.ofString "/a\\ü.yaml"
    '/' ∉ "localhost".toList ∧ Spells "C:/ü%".toList "C%3a/%c3%BC%25".toList ∧
    Uri.path "file://localhost/C%3a/%c3%BC%25" = Path.ofString "C:/ü%" ∧
    backslashed.isAbsolute = true ∧
    Uri.path (ofPath (Path.ofString "/work") backslashed) = Path.ofString "/a/ü.yaml" ∧
    Uri.path (ofPath (Path.ofString "/work") backslashed) ≠ backslashed ∧
    ¬ "file://".toList <+: "file:a%20b".toList ∧ Uri.path "file:a%20b" = Path.ofString "file:a%20b" := by
  intro backslashed
  obtain ⟨reads, writes, keeps⟩ := path_of_any_spelling
  have noSlash : '/' ∉ "localhost".toList := by decide
  have isAbsolute : backslashed.isAbsolute = true := by decide
  have noScheme : ¬ "file://".toList <+: "file:a%20b".toList := by decide
  obtain ⟨-, named, itself_iff⟩ :=
    writes (Path.ofString "/work") backslashed "/a\\ü.yaml".toList isAbsolute rfl
  have notItself : Uri.path (ofPath (Path.ofString "/work") backslashed) ≠ backslashed :=
    fun same => absurd (itself_iff.1 same).1 (by decide)
  exact ⟨noSlash, mixed_spelling, reads _ _ _ noSlash mixed_spelling, isAbsolute, named, notItself,
    noScheme, keeps _ noScheme⟩

end Uri

end TemplateLint
