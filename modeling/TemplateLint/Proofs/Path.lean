import TemplateLint.Path
import TemplateLint.Proofs.Text.Utf8

set_option autoImplicit false

/-!
The files that paths name.

A path leads through its names in order.  Empty names and single dots lead nowhere, so what counts are the other
names and whether the path starts at the root.
-/

namespace TemplateLint.Path

open Text.Utf8 (encode)

def names (path : Path) : List (List UInt8) :=
  (path.bytes.splitOn separator).filter fun name => name ≠ [] ∧ name ≠ [0x2E]

/-- The paths that lead to the same file, wherever they are looked up. -/
def SameFile (left right : Path) : Prop :=
  left.isAbsolute = right.isAbsolute ∧ left.names = right.names

instance (left right : Path) : Decidable (left.SameFile right) :=
  inferInstanceAs (Decidable (_ ∧ _))

/-! ### Names that are texts -/

theorem splitOn_cons (b : UInt8) (rest : List UInt8) :
    (b :: rest).splitOn separator =
      if b = separator then [] :: rest.splitOn separator else (rest.splitOn separator).modifyHead (b :: ·) := by
  rw [List.splitOn, List.splitOnP_cons_eq_if_modifyHead]
  simp only [beq_iff_eq]
  rfl

theorem splitOn_append {front : List UInt8} (noSeparator : separator ∉ front) (rest : List UInt8) :
    (front ++ rest).splitOn separator = (rest.splitOn separator).modifyHead (front ++ ·) := by
  induction front with
  | nil => exact (congrFun List.modifyHead_id _).symm
  | cons b others ih =>
      rw [List.mem_cons, not_or] at noSeparator
      obtain ⟨isOther, othersFree⟩ := noSeparator
      rw [List.cons_append, splitOn_cons, if_neg (Ne.symm isOther), ih othersFree, List.modifyHead_modifyHead]
      rfl

theorem separator_notMem_encodeChar {c : Char} (other : c ≠ '/') : separator ∉ String.utf8EncodeChar c := by
  intro isIn
  exact other (Text.Utf8.eq_of_mem_encodeChar (d := '/') (by decide) isIn)

/-- The parts of a text are the texts between its slashes. -/
theorem exists_of_mem_splitOn (text : List Char) :
    ∀ part ∈ (encode text).splitOn separator, ∃ name, part = encode name ∧ ∀ c ∈ name, c ∈ text := by
  induction text with
  | nil =>
      intro part isPart
      cases List.mem_singleton.1 isPart
      exact ⟨[], rfl, nofun⟩
  | cons c rest ih =>
      intro part isPart
      rw [Text.Utf8.encode_cons] at isPart
      by_cases isSlash : c = '/'
      · have parts : (String.utf8EncodeChar c ++ encode rest).splitOn separator =
            [] :: (encode rest).splitOn separator := by
          rw [isSlash]
          exact splitOn_cons separator _
        rw [parts] at isPart
        rcases List.mem_cons.1 isPart with rfl | isLater
        · exact ⟨[], rfl, nofun⟩
        · obtain ⟨name, spelled, within⟩ := ih part isLater
          exact ⟨name, spelled, fun d isIn => List.mem_cons_of_mem c (within d isIn)⟩
      · rw [splitOn_append (separator_notMem_encodeChar isSlash)] at isPart
        obtain ⟨first, others, parts⟩ :=
          List.exists_cons_of_ne_nil (List.splitOn_ne_nil separator (encode rest))
        rw [parts] at ih isPart
        rcases List.mem_cons.1 isPart with rfl | isLater
        · obtain ⟨name, rfl, within⟩ := ih first List.mem_cons_self
          refine ⟨c :: name, (Text.Utf8.encode_cons c name).symm, fun d isIn => ?_⟩
          rcases List.mem_cons.1 isIn with rfl | isName
          · exact List.mem_cons_self
          · exact List.mem_cons_of_mem c (within d isName)
        · obtain ⟨name, spelled, within⟩ := ih part (List.mem_cons_of_mem first isLater)
          exact ⟨name, spelled, fun d isIn => List.mem_cons_of_mem c (within d isIn)⟩

theorem exists_of_intercalate {allowed : Char → Prop} (slash : allowed '/') (parts : List (List UInt8))
    (each : ∀ part ∈ parts, ∃ name, part = encode name ∧ ∀ c ∈ name, allowed c) :
    ∃ text, [separator].intercalate parts = encode text ∧ ∀ c ∈ text, allowed c := by
  induction parts with
  | nil => exact ⟨[], rfl, nofun⟩
  | cons part rest ih =>
      obtain ⟨⟨name, rfl, nameAllowed⟩, others⟩ := List.forall_mem_cons.1 each
      cases rest with
      | nil => exact ⟨name, by simp, nameAllowed⟩
      | cons second more =>
          obtain ⟨text, joined, textAllowed⟩ := ih others
          refine ⟨name ++ '/' :: text, ?_, ?_⟩
          · rw [List.intercalate_cons_cons, joined, Text.Utf8.encode_append, List.append_assoc]
            rfl
          · exact List.forall_mem_append.2 ⟨nameAllowed, List.forall_mem_cons.2 ⟨slash, textAllowed⟩⟩

/-- A path is a text when its names are those of a text, and it has no other characters besides slashes and
dots. -/
theorem exists_text_of_names {path : Path} {text : List Char} (sameNames : path.names = names ⟨encode text⟩) :
    ∃ whole, path.bytes = encode whole ∧ ∀ c ∈ whole, c = '/' ∨ c = '.' ∨ c ∈ text := by
  have joined : [separator].intercalate (path.bytes.splitOn separator) = path.bytes :=
    List.intercalate_splitOn separator
  rw [← joined]
  apply exists_of_intercalate (.inl rfl)
  intro part isPart
  by_cases counts : part ≠ [] ∧ part ≠ [0x2E]
  · have isName : part ∈ path.names := List.mem_filter.2 ⟨isPart, decide_eq_true counts⟩
    rw [sameNames] at isName
    obtain ⟨name, spelled, within⟩ := exists_of_mem_splitOn text part (List.mem_filter.1 isName).1
    exact ⟨name, spelled, fun c isIn => .inr (.inr (within c isIn))⟩
  · by_cases isEmpty : part = []
    · exact ⟨[], isEmpty, nofun⟩
    · have isDot : part = [0x2E] := by
        apply Decidable.byContradiction
        exact fun isOther => counts ⟨isEmpty, isOther⟩
      refine ⟨['.'], isDot, ?_⟩
      simp

theorem isAbsolute_encode_iff (text : List Char) :
    (Path.mk (encode text)).isAbsolute = true ↔ text.head? = some '/' := by
  cases text with
  | nil => exact ⟨nofun, nofun⟩
  | cons c rest =>
      by_cases isSlash : c = '/'
      · rw [isSlash]
        exact ⟨fun _ => rfl, fun _ => rfl⟩
      · obtain ⟨first, others, bytes⟩ := List.exists_cons_of_ne_nil (String.utf8EncodeChar_ne_nil (c := c))
        have noSeparator := separator_notMem_encodeChar isSlash
        have shape : encode (c :: rest) = first :: (others ++ encode rest) := by
          rw [Text.Utf8.encode_cons, bytes, List.cons_append]
        rw [bytes, List.mem_cons, not_or] at noSeparator
        rw [isAbsolute, shape, List.head?_cons, beq_iff_eq, List.head?_cons, Option.some.injEq,
          Option.some.injEq]
        exact ⟨fun same => absurd same.symm noSeparator.1, fun same => absurd same isSlash⟩

theorem join_of_isAbsolute (directory : Path) {path : Path} (isAbsolute : path.isAbsolute = true) :
    directory.join path = path := by
  rw [join, if_pos isAbsolute]

end TemplateLint.Path
