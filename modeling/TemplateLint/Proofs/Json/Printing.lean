import TemplateLint.Proofs.Json.Decimal
import TemplateLint.Proofs.Json.Reading

set_option autoImplicit false

/-!
What is printed for a document is one of its texts, on one line as well as over several.
-/

namespace TemplateLint.Json

/-! ### Texts side by side -/

theorem Spelling.behind {tokens : List Token} {text : List Char} (spelled : Spelling tokens text)
    {space : List Char} (isBlank : ∀ c ∈ space, c ∈ blanks) : Spelling tokens (space ++ text) := by
  cases spelled with
  | nil more moreBlank =>
      exact .nil _ (List.forall_mem_append.2 ⟨isBlank, moreBlank⟩)
  | cons more moreBlank first others =>
      rw [← List.append_assoc, ← List.append_assoc]
      exact .cons _ (List.forall_mem_append.2 ⟨isBlank, moreBlank⟩) first others

theorem Spelling.append {before after : List Token} {text rest : List Char} (spelled : Spelling before text)
    (restSpelled : Spelling after rest) : Spelling (before ++ after) (text ++ rest) := by
  induction spelled with
  | nil space isBlank => exact restSpelled.behind isBlank
  | cons space isBlank first others ih =>
      rw [List.append_assoc]
      exact .cons space isBlank first ih

theorem Spelling.token {token : Token} {text : List Char} (first : TokenSpelling token text)
    {tokens : List Token} {rest : List Char} (others : Spelling tokens rest) :
    Spelling (token :: tokens) (text ++ rest) :=
  .cons [] nofun first others

theorem Spelling.single {token : Token} {text : List Char} (spelled : TokenSpelling token text) :
    Spelling [token] text := by
  rw [← List.append_nil text]
  exact .token spelled (.nil [] nofun)

/-! ### Strings and numbers -/

theorem escapeChar_spells (c : Char) :
    ∃ piece, PieceSpelling piece (escapeChar c) ∧
      ∀ pieces text, Denotes pieces text → Denotes (piece :: pieces) (c :: text) := by
  have named (e : Char) (names : (e, c) ∈ letterEscapes) (escaped : escapeChar c = ['\\', e]) :
      ∃ piece, PieceSpelling piece (escapeChar c) ∧
        ∀ pieces text, Denotes pieces text → Denotes (piece :: pieces) (c :: text) := by
    rw [escaped]
    exact ⟨.char c, .letter e c names, fun pieces text others => .char c others⟩
  by_cases short : c ∈ ['"', '\\', '\n', '\r', '\t', '\x08', '\x0C']
  · simp only [List.mem_cons, List.not_mem_nil, or_false] at short
    rcases short with rfl | rfl | rfl | rfl | rfl | rfl | rfl
    · exact named '"' (by decide) rfl
    · exact named '\\' (by decide) rfl
    · exact named 'n' (by decide) rfl
    · exact named 'r' (by decide) rfl
    · exact named 't' (by decide) rfl
    · exact named 'b' (by decide) rfl
    · exact named 'f' (by decide) rfl
  · simp only [List.mem_cons, List.not_mem_nil, or_false, not_or] at short
    by_cases control : c.toNat < 0x20
    · have escaped : escapeChar c =
          ['\\', 'u', hexChar 0, hexChar 0, hexChar (c.toNat / 16), hexChar (c.toNat % 16)] := by
        simp [escapeChar, short, control, hexChar]
      refine ⟨.unit (0 * 4096 + 0 * 256 + c.toNat / 16 * 16 + c.toNat % 16), ?_, ?_⟩
      · rw [escaped]
        exact .unit 0 0 (c.toNat / 16) (c.toNat % 16) (by omega) _ _ _ _
          ⟨List.mem_cons_self, List.mem_cons_self, List.mem_cons_self, List.mem_cons_self⟩
      · intro pieces text others
        have value : 0 * 4096 + 0 * 256 + c.toNat / 16 * 16 + c.toNat % 16 = c.toNat := by omega
        rw [value]
        have meaning := Denotes.unit c.toNat (by unfold isSurrogate; omega) others
        rwa [Char.ofNat_toNat] at meaning
    · have plain : escapeChar c = [c] := by
        simp [escapeChar, short, control]
      rw [plain]
      exact ⟨.char c, .plain c (Nat.not_lt.1 control) short.1 short.2.1,
        fun pieces text others => .char c others⟩

theorem escaped_spells (text : List Char) :
    ∃ pieces, BodySpelling pieces (text.flatMap escapeChar) ∧ Denotes pieces text := by
  induction text with
  | nil => exact ⟨[], .nil, .nil⟩
  | cons c rest ih =>
      obtain ⟨pieces, spelled, denotes⟩ := ih
      obtain ⟨piece, pieceSpelled, means⟩ := escapeChar_spells c
      exact ⟨piece :: pieces, .cons pieceSpelled spelled, means pieces rest denotes⟩

theorem quote_spells (text : String) : TokenSpelling (.string (some text)) (quote text) := by
  obtain ⟨pieces, spelled, denotes⟩ := escaped_spells text.toList
  exact .string denotes spelled

theorem quoteOptional_spells (text : Option String) : TokenSpelling (.string text) (quoteOptional text) := by
  cases text with
  | some text => exact quote_spells text
  | none =>
      have half : PieceSpelling (.unit 0xD800) ['\\', 'u', 'd', '8', '0', '0'] :=
        .unit 13 8 0 0 (by decide) _ _ _ _ (by decide)
      have means : HasText [.unit 0xD800] none := by
        intro text denotes
        cases denotes with
        | unit n alone others => exact alone ⟨by decide, by decide⟩
      exact .string means (.cons half .nil)

theorem text_spells {numeral : Numeral} (writable : numeral.Writable) :
    TokenSpelling (.number numeral) numeral.text := by
  obtain ⟨negative, whole, fraction, exponent⟩ := numeral
  match exponent with
  | none =>
      have spelled := TokenSpelling.number _ writable .absent
      simpa [Numeral.text, Numeral.frontText, digitsText] using spelled
  | some (true, digits) =>
      have spelled := TokenSpelling.number _ writable (.down 'e' (.inl rfl) digits)
      simpa [Numeral.text, Numeral.frontText, digitsText] using spelled
  | some (false, digits) =>
      have spelled := TokenSpelling.number _ writable (.up 'e' (.inl rfl) digits)
      simpa [Numeral.text, Numeral.frontText, digitsText] using spelled

/-! ### Documents -/

/-- The documents that can be printed: every number in them can be written. -/
inductive Printable : Json → Prop where
  | null : Printable .null
  | bool (value : Bool) : Printable (.bool value)
  | number {numeral : Numeral} (writable : numeral.Writable) : Printable (.number numeral)
  | string (text : Option String) : Printable (.string text)
  | array {items : List Json} (each : ∀ item ∈ items, Printable item) : Printable (.array items)
  | object {members : List (Option String × Json)} (each : ∀ member ∈ members, Printable member.2) :
      Printable (.object members)

theorem compactItems_spells (items : List Json) (each : ∀ item ∈ items, Spelling item.tokens item.compact) :
    Spelling (tokens.itemTokens items) (compact.compactItems items) := by
  induction items with
  | nil => exact .single .closeArray
  | cons item rest ih =>
      obtain ⟨first, others⟩ := List.forall_mem_cons.1 each
      exact .token .comma (first.append (ih others))

theorem compactMembers_spells (members : List (Option String × Json))
    (each : ∀ member ∈ members, Spelling member.2.tokens member.2.compact) :
    Spelling (tokens.memberTokens members) (compact.compactMembers members) := by
  induction members with
  | nil => exact .single .closeObject
  | cons member rest ih =>
      obtain ⟨key, value⟩ := member
      obtain ⟨first, others⟩ := List.forall_mem_cons.1 each
      exact .token .comma (.token (quoteOptional_spells key) (.token .colon (first.append (ih others))))

theorem compact_spells {document : Json} (printable : document.Printable) :
    document.SpelledBy document.compact := by
  induction document using document_induction with
  | null => exact .single .null
  | bool value =>
      cases value with
      | true => exact .single .true
      | false => exact .single .false
  | number numeral =>
      cases printable with
      | number writable => exact .single (text_spells writable)
  | string text => exact .single (quoteOptional_spells text)
  | array items ih =>
      cases printable with
      | array each =>
          cases items with
          | nil => exact .token .openArray (.single .closeArray)
          | cons item rest =>
              have spelled : ∀ other ∈ item :: rest, Spelling other.tokens other.compact :=
                fun other isIn => ih other isIn (each other isIn)
              obtain ⟨first, others⟩ := List.forall_mem_cons.1 spelled
              exact .token .openArray (first.append (compactItems_spells rest others))
  | object members ih =>
      cases printable with
      | object each =>
          cases members with
          | nil => exact .token .openObject (.single .closeObject)
          | cons member rest =>
              have spelled : ∀ other ∈ member :: rest, Spelling other.2.tokens other.2.compact :=
                fun other isIn => ih other isIn (each other isIn)
              obtain ⟨key, value⟩ := member
              obtain ⟨first, others⟩ := List.forall_mem_cons.1 spelled
              exact .token .openObject (.token (quoteOptional_spells key)
                (.token .colon (first.append (compactMembers_spells rest others))))

/-! ### Over several lines -/

theorem newLine_blank (level : Nat) : ∀ c ∈ newLine level, c ∈ blanks := by
  intro c isIn
  rw [newLine, List.mem_cons, List.mem_replicate] at isIn
  rcases isIn with rfl | ⟨_, rfl⟩
  · decide
  · decide

/-- A member over several lines: its name, a colon, a blank, and its value. -/
theorem indentedMember_spells (level : Nat) (key : Option String) {tokens : List Token} {text : List Char}
    (others : Spelling tokens text) :
    Spelling (.string key :: .colon :: tokens)
      (newLine level ++ (quoteOptional key ++ (": ".toList ++ text))) := by
  have oneBlank : ∀ c ∈ [' '], c ∈ blanks := by
    intro c isIn
    cases List.mem_singleton.1 isIn
    exact List.mem_cons_self
  exact Spelling.behind (.token (quoteOptional_spells key) (.token .colon (others.behind oneBlank)))
    (newLine_blank level)

theorem indentedItems_spells (level : Nat) (items : List Json)
    (each : ∀ item ∈ items, Spelling item.tokens (item.indented (level + 1))) :
    Spelling (tokens.itemTokens items) (indented.indentedItems level items) := by
  induction items with
  | nil => exact Spelling.behind (.single .closeArray) (newLine_blank level)
  | cons item rest ih =>
      obtain ⟨first, others⟩ := List.forall_mem_cons.1 each
      simp only [indented.indentedItems, List.append_assoc]
      exact .token .comma ((first.append (ih others)).behind (newLine_blank (level + 1)))

theorem indentedMembers_spells (level : Nat) (members : List (Option String × Json))
    (each : ∀ member ∈ members, Spelling member.2.tokens (member.2.indented (level + 1))) :
    Spelling (tokens.memberTokens members) (indented.indentedMembers level members) := by
  induction members with
  | nil => exact Spelling.behind (.single .closeObject) (newLine_blank level)
  | cons member rest ih =>
      obtain ⟨key, value⟩ := member
      obtain ⟨first, others⟩ := List.forall_mem_cons.1 each
      simp only [indented.indentedMembers, List.append_assoc]
      exact .token .comma (indentedMember_spells (level + 1) key (first.append (ih others)))

theorem indented_spells {document : Json} (printable : document.Printable) (level : Nat) :
    document.SpelledBy (document.indented level) := by
  induction document using document_induction generalizing level with
  | null => exact .single .null
  | bool value =>
      cases value with
      | true => exact .single .true
      | false => exact .single .false
  | number numeral =>
      cases printable with
      | number writable => exact .single (text_spells writable)
  | string text => exact .single (quoteOptional_spells text)
  | array items ih =>
      cases printable with
      | array each =>
          cases items with
          | nil => exact .token .openArray (.single .closeArray)
          | cons item rest =>
              have spelled : ∀ other ∈ item :: rest, Spelling other.tokens (other.indented (level + 1)) :=
                fun other isIn => ih other isIn (each other isIn) (level + 1)
              obtain ⟨first, others⟩ := List.forall_mem_cons.1 spelled
              simp only [SpelledBy, tokens, indented, List.append_assoc]
              exact .token .openArray
                ((first.append (indentedItems_spells level rest others)).behind (newLine_blank (level + 1)))
  | object members ih =>
      cases printable with
      | object each =>
          cases members with
          | nil => exact .token .openObject (.single .closeObject)
          | cons member rest =>
              have spelled : ∀ other ∈ member :: rest, Spelling other.2.tokens (other.2.indented (level + 1)) :=
                fun other isIn => ih other isIn (each other isIn) (level + 1)
              obtain ⟨key, value⟩ := member
              obtain ⟨first, others⟩ := List.forall_mem_cons.1 spelled
              simp only [SpelledBy, tokens, indented, List.append_assoc]
              exact .token .openObject (indentedMember_spells (level + 1) key
                (first.append (indentedMembers_spells level rest others)))

/-! ### Reading what was printed -/

theorem parse?_of_spelling {document : Json} {text : String} (spelled : document.SpelledBy text.toList) :
    parse? text = some document :=
  read?_of_spelling spelled

theorem render_spells {document : Json} (printable : document.Printable) :
    document.SpelledBy document.render.toList := by
  rw [render, String.toList_ofList]
  exact compact_spells printable

theorem renderIndented_spells {document : Json} (printable : document.Printable) :
    document.SpelledBy document.renderIndented.toList := by
  rw [renderIndented, String.toList_ofList]
  exact indented_spells printable 0

@[simp]
theorem printable_null : Json.null.Printable := .null

@[simp]
theorem printable_bool (value : Bool) : (Json.bool value).Printable := .bool value

@[simp]
theorem printable_ofString (text : String) : (Json.ofString text).Printable := .string (some text)

@[simp]
theorem printable_ofNat (n : Nat) : (Json.ofNat n).Printable := .number (Numeral.ofNat_writable n)

@[simp]
theorem printable_ofInt (n : Int) : (Json.number (Numeral.ofInt n)).Printable :=
  .number (Numeral.ofInt_writable n)

@[simp]
theorem printable_array_iff (items : List Json) :
    (Json.array items).Printable ↔ ∀ item ∈ items, item.Printable := by
  constructor
  · intro printable
    cases printable with
    | array each => exact each
  · exact .array

@[simp]
theorem printable_ofMembers_iff (members : List (String × Json)) :
    (ofMembers members).Printable ↔ ∀ member ∈ members, member.2.Printable := by
  constructor
  · intro printable member isIn
    cases printable with
    | object each => exact each _ (List.mem_map_of_mem isIn)
  · intro each
    apply Printable.object
    intro member isIn
    obtain ⟨plain, isPlain, rfl⟩ := List.mem_map.1 isIn
    exact each plain isPlain

end TemplateLint.Json
