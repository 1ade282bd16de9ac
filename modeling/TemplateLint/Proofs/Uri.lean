import TemplateLint.Document
import TemplateLint.Proofs.Path
import TemplateLint.Proofs.Text.Percent

set_option autoImplicit false

/-!
The path that the URI of a path names.

Percent coding loses nothing.  What is lost on the way is lost before and after it: bytes that are not UTF-8,
backslashes, and the slash before what looks like a drive.
-/

namespace TemplateLint

/-! ### The URI of a path -/

namespace Uri

def coded (c : Char) : List Char :=
  if c = '/' then ['/'] else Text.Percent.encode (String.utf8EncodeChar c)

theorem join_append (front part : String) (others : List String) :
    Text.join "/" ((front ++ part) :: others) = front ++ Text.join "/" (part :: others) := by
  cases others with
  | nil => rfl
  | cons second rest => simp only [Text.join, String.append_assoc]

theorem encodePart_cons (c : Char) (part : List Char) :
    encodePart (c :: part) =
      String.ofList (Text.Percent.encode (String.utf8EncodeChar c)) ++ encodePart part := by
  rw [encodePart, Text.Utf8.encode, List.flatMap_cons, Text.Percent.encode, List.flatMap_append,
    String.ofList_append]
  rfl

theorem splitAt_ne_nil (separator : Char) (text : List Char) : Text.splitAt separator text ≠ [] := by
  cases text with
  | nil => exact List.cons_ne_nil _ _
  | cons c rest =>
      rw [Text.splitAt]
      split
      · exact List.cons_ne_nil _ _
      · split
        · exact List.cons_ne_nil _ _
        · exact List.cons_ne_nil _ _

/-- Slashes stand for themselves, and every other character is coded on its own. -/
theorem toList_join_parts (text : List Char) :
    (Text.join "/" ((Text.splitAt '/' text).map encodePart)).toList = text.flatMap coded := by
  induction text with
  | nil => rfl
  | cons c rest ih =>
      rw [List.flatMap_cons, ← ih, Text.splitAt]
      split
      · next noParts => exact absurd noParts (splitAt_ne_nil '/' rest)
      · next first others parts =>
          rw [parts]
          split
          · next isSlash =>
              rw [isSlash, List.map_cons, List.map_cons]
              simp only [Text.join, String.toList_append]
              rfl
          · next other =>
              rw [List.map_cons, encodePart_cons, join_append, String.toList_append, coded, if_neg other,
                String.toList_ofList]
              rfl

theorem coded_spells (text : List Char) : Text.Percent.Spells text (text.flatMap coded) := by
  induction text with
  | nil => exact .nil
  | cons c rest ih =>
      rw [List.flatMap_cons, coded]
      split
      · next isSlash =>
          rw [isSlash]
          exact .plain (by decide) ih
      · exact ih.cons_encode c

theorem head?_coded {c : Char} (other : c ≠ '/') : ∃ d rest, coded c = d :: rest ∧ d ≠ '/' := by
  have heads : ∀ n : Fin 256, Text.Percent.encodeByte (UInt8.ofNat n.val) ≠ [] ∧
      (Text.Percent.encodeByte (UInt8.ofNat n.val)).head? ≠ some '/' := by
    decide +kernel
  obtain ⟨first, others, bytes⟩ := List.exists_cons_of_ne_nil (String.utf8EncodeChar_ne_nil (c := c))
  have firstHead := heads ⟨first.toNat, first.toNat_lt⟩
  rw [UInt8.ofNat_toNat] at firstHead
  obtain ⟨d, rest, shape⟩ := List.exists_cons_of_ne_nil firstHead.1
  rw [shape] at firstHead
  refine ⟨d, rest ++ Text.Percent.encode others, ?_, fun same => firstHead.2 (congrArg some same)⟩
  rw [coded, if_neg other, bytes, Text.Percent.encode, List.flatMap_cons, shape]
  rfl

theorem head?_flatMap_coded (text : List Char) :
    (text.flatMap coded).head? = some '/' ↔ text.head? = some '/' := by
  cases text with
  | nil => exact Iff.rfl
  | cons c rest =>
      rw [List.flatMap_cons]
      by_cases isSlash : c = '/'
      · rw [isSlash]
        exact ⟨fun _ => rfl, fun _ => rfl⟩
      · obtain ⟨d, others, shape, notSlash⟩ := head?_coded isSlash
        rw [shape]
        constructor
        · intro same
          exact absurd (Option.some.inj same) notSlash
        · intro same
          exact absurd (Option.some.inj same) isSlash

def rooted (text : List Char) : List Char :=
  if text.head? = some '/' then text else '/' :: text

theorem head?_rooted (text : List Char) : (rooted text).head? = some '/' := by
  rw [rooted]
  split
  · assumption
  · rfl

def slashForBackslash (c : Char) : Char :=
  if c = '\\' then '/' else c

theorem backslash_notMem_map (text : List Char) : '\\' ∉ text.map slashForBackslash := by
  intro isIn
  obtain ⟨c, -, same⟩ := List.mem_map.1 isIn
  rw [slashForBackslash] at same
  split at same
  · cases same
  · next other => exact other same

theorem map_slashForBackslash_eq_self_iff (text : List Char) :
    text.map slashForBackslash = text ↔ '\\' ∉ text := by
  constructor
  · intro same isIn
    rw [← same] at isIn
    exact backslash_notMem_map text isIn
  · intro noBackslash
    have kept : ∀ c ∈ text, slashForBackslash c = c :=
      fun c isIn => if_neg fun (same : c = '\\') => noBackslash (same ▸ isIn)
    rw [List.map_congr_left kept, List.map_id']

def slashed (path : Path) : List Char :=
  (Text.Utf8.decodeLossy path.bytes).map fun c => if c = '\\' then '/' else c

theorem slashed_of_text {path : Path} {text : List Char} (isText : path.bytes = Text.Utf8.encode text) :
    slashed path = text.map slashForBackslash := by
  rw [slashed, isText, Text.Utf8.decodeLossy_encode]
  rfl

theorem rooted_slashed_of_text {path : Path} {text : List Char} (isText : path.bytes = Text.Utf8.encode text)
    (starts : text.head? = some '/') : rooted (slashed path) = text.map slashForBackslash := by
  obtain ⟨names, rfl⟩ := List.head?_eq_some_iff.1 starts
  rw [slashed_of_text isText]
  rfl

theorem toList_ofPath (currentDirectory path : Path) :
    (ofPath currentDirectory path).toList =
      scheme ++ (rooted (slashed (currentDirectory.join path))).flatMap coded := by
  have whole : (if path.isAbsolute then path else currentDirectory.join path) = currentDirectory.join path := by
    split
    · next isAbsolute => rw [Path.join, if_pos isAbsolute]
    · rfl
  have parts := toList_join_parts (slashed (currentDirectory.join path))
  unfold ofPath
  dsimp only
  rw [whole]
  change String.toList (if (Text.join "/" ((Text.splitAt '/' (slashed (currentDirectory.join path))).map
    encodePart)).toList.head? = some '/' then _ else _) = _
  rw [parts, rooted]
  by_cases isRooted : (slashed (currentDirectory.join path)).head? = some '/'
  · rw [if_pos ((head?_flatMap_coded _).2 isRooted), if_pos isRooted, String.toList_append]
    exact congrArg (scheme ++ ·) parts
  · rw [if_neg fun same => isRooted ((head?_flatMap_coded _).1 same), if_neg isRooted, String.toList_append]
    exact congrArg ((scheme ++ ['/']) ++ ·) parts

theorem decoded_of_spells {text spelling : List Char} (spelled : Text.Percent.Spells text spelling) :
    decoded spelling = text := by
  rw [decoded, Text.Percent.decode_of_spells spelled, Text.Utf8.decode?_encode, Option.getD_some]

theorem dropAuthority_append {authority : List Char} (noSlash : '/' ∉ authority) (rest : List Char) :
    dropAuthority (authority ++ '/' :: rest) = '/' :: rest := by
  have skipped : (authority ++ '/' :: rest).dropWhile (· != '/') = '/' :: rest := by
    rw [List.dropWhile_append_of_pos]
    · rfl
    · intro c isIn
      exact bne_iff_ne.2 fun (isSlash : c = '/') => noSlash (isSlash ▸ isIn)
  rw [dropAuthority, skipped]

theorem path_of_spelling {authority text spelling : List Char} (noSlash : '/' ∉ authority)
    (spelled : Text.Percent.Spells text spelling) :
    Uri.path (String.ofList ("file://".toList ++ authority ++ '/' :: spelling)) =
      ⟨Text.Utf8.encode (dropDriveSlash ('/' :: text))⟩ := by
  have starts : afterStart? scheme (String.ofList ("file://".toList ++ authority ++ '/' :: spelling)).toList =
      some (authority ++ '/' :: spelling) := by
    rw [afterStart?_eq_some_iff, String.toList_ofList, List.append_assoc]
    rfl
  rw [Uri.path, starts]
  dsimp only
  rw [dropAuthority_append noSlash, decoded_of_spells (.plain (by decide) spelled)]

theorem ofPath_eq (currentDirectory path : Path) {names : List Char}
    (isRooted : rooted (slashed (currentDirectory.join path)) = '/' :: names) :
    ofPath currentDirectory path = String.ofList ("file://".toList ++ '/' :: names.flatMap coded) := by
  have written := toList_ofPath currentDirectory path
  rw [isRooted] at written
  rw [← String.ofList_toList (s := ofPath currentDirectory path), written]
  rfl

/-- What is left of a path in its URI. -/
theorem path_ofPath (currentDirectory path : Path) :
    Uri.path (ofPath currentDirectory path) =
      ⟨Text.Utf8.encode (dropDriveSlash (rooted (slashed (currentDirectory.join path))))⟩ := by
  obtain ⟨names, isRooted⟩ := List.head?_eq_some_iff.1 (head?_rooted (slashed (currentDirectory.join path)))
  have noSlash : '/' ∉ ([] : List Char) := List.not_mem_nil
  rw [ofPath_eq currentDirectory path isRooted, isRooted]
  exact path_of_spelling noSlash (coded_spells names)

end Uri

/-! ### Paths that are kept -/

/-- The absolute paths in UTF-8 without backslashes whose first name does not begin like a drive. -/
def Path.IsPlain (path : Path) : Prop :=
  ∃ text, path.bytes = Text.Utf8.encode text ∧ text.head? = some '/' ∧ '\\' ∉ text ∧
    ∀ letter rest, text = '/' :: letter :: ':' :: rest → letter.isAlpha = false

def passedPath (currentDirectory path : Path) : String :=
  (Document.ofFile currentDirectory path "").path.display

/-- True of a path that leads from the project root to the file that a path in the current directory names. -/
def LeadsToFile (currentDirectory projectRoot path : Path) (passed : String) : Prop :=
  (Path.ofString passed).isAbsolute = true ∧
    (projectRoot.join (Path.ofString passed)).SameFile (currentDirectory.join path)

instance (currentDirectory projectRoot path : Path) (passed : String) :
    Decidable (LeadsToFile currentDirectory projectRoot path passed) :=
  inferInstanceAs (Decidable (_ ∧ _))

namespace Uri

theorem dropDriveSlash_of_not_drive {text : List Char}
    (noDrive : ∀ letter rest, text = '/' :: letter :: ':' :: rest → letter.isAlpha = false) :
    dropDriveSlash text = text := by
  rw [dropDriveSlash.eq_def]
  split
  · next letter rest => rw [noDrive letter rest rfl, if_neg Bool.false_ne_true]
  · rfl

theorem mem_of_mem_dropDriveSlash {text : List Char} {c : Char} (isIn : c ∈ dropDriveSlash text) :
    c ∈ text := by
  rw [dropDriveSlash.eq_def] at isIn
  split at isIn
  · split at isIn
    · exact List.mem_cons_of_mem _ isIn
    · exact isIn
  · exact isIn

theorem backslash_notMem (path : Path) : '\\' ∉ dropDriveSlash (rooted (slashed path)) := by
  have notSlashed : '\\' ∉ slashed path := backslash_notMem_map _
  intro isIn
  have isRooted := mem_of_mem_dropDriveSlash isIn
  rw [rooted] at isRooted
  split at isRooted
  · exact notSlashed isRooted
  · rcases List.mem_cons.1 isRooted with same | isLater
    · cases same
    · exact notSlashed isLater

theorem ofString_passedPath (currentDirectory path : Path) :
    Path.ofString (passedPath currentDirectory path) =
      ⟨Text.Utf8.encode (dropDriveSlash (rooted (slashed (currentDirectory.join path))))⟩ := by
  have kept := path_ofPath currentDirectory path
  rw [passedPath, Document.path, Document.ofFile, kept, Path.ofString, Path.display, Text.Utf8.stringLossy,
    Text.Utf8.decodeLossy_encode, Text.Utf8.bytes, String.toList_ofList]

theorem leadsToFile_passedPath_iff (currentDirectory projectRoot path : Path) :
    LeadsToFile currentDirectory projectRoot path (passedPath currentDirectory path) ↔
      (currentDirectory.join path).IsPlain := by
  rw [LeadsToFile, ofString_passedPath]
  generalize currentDirectory.join path = whole
  constructor
  · rintro ⟨isAbsolute, sameStart, sameNames⟩
    rw [Path.join_of_isAbsolute projectRoot isAbsolute] at sameStart sameNames
    -- what was passed is a text, so the whole path is one: the names that do not count are empty or a dot
    obtain ⟨text, spelled, within⟩ := Path.exists_text_of_names sameNames.symm
    have starts : text.head? = some '/' := by
      rw [← Path.isAbsolute_encode_iff, ← spelled, ← sameStart]
      exact isAbsolute
    have noBackslash : '\\' ∉ text := by
      intro isIn
      rcases within _ isIn with isSlash | isDot | isPassed
      · cases isSlash
      · cases isDot
      · exact backslash_notMem whole isPassed
    refine ⟨text, spelled, starts, noBackslash, ?_⟩
    rintro letter rest rfl
    rw [rooted_slashed_of_text spelled starts, (map_slashForBackslash_eq_self_iff _).2 noBackslash,
      Path.isAbsolute_encode_iff, dropDriveSlash] at isAbsolute
    cases isDrive : letter.isAlpha with
    | false => rfl
    | true =>
        rw [isDrive, if_pos rfl] at isAbsolute
        cases isAbsolute
        cases isDrive
  · rintro ⟨text, spelled, starts, noBackslash, noDrive⟩
    rw [rooted_slashed_of_text spelled starts, (map_slashForBackslash_eq_self_iff _).2 noBackslash,
      dropDriveSlash_of_not_drive noDrive, ← spelled]
    have isAbsolute : whole.isAbsolute = true := by
      rw [← Path.isAbsolute_encode_iff, ← spelled] at starts
      exact starts
    rw [Path.join_of_isAbsolute projectRoot isAbsolute]
    exact ⟨isAbsolute, rfl, rfl⟩

end Uri

end TemplateLint
