import WidgetBuilders.Proofs.LinePlaces
import WidgetBuilders.Proofs.TemplateFilling
import WidgetBuilders.Proofs.TemplateKeys

/-!
# A template as a sequence of literals and placeholders

What a template means can be said without a scan. Its text is a sequence of literals and
placeholders. A literal stands for itself, and a placeholder for the value of its key: that of
`indent` is the configured indentation, whatever the bindings say, and any other key has the value
of its first binding. Filling puts these together, in order.

The sequence must be visible in the text. Two opening braces in a row begin a placeholder, so a
literal has none; nor does it end with an opening brace if a placeholder comes next, since three
braces in a row are read from the left. A last literal may end with one. The raw key of a
placeholder keeps the same rule for closing braces. Literals that stand side by side count as one.

A scan that goes wrong does so in one of two ways, and the sequence tells which comes first: the
first placeholder whose key has no value, and only after all of them the placeholder that the text
does not close. The latter is told by its place in bytes.
-/

namespace WidgetBuilders.Template

/-- Two of these braces stand in a row. -/
def Paired (brace : Char) (text : String) : Prop :=
  [brace, brace] <:+: text.toList

/-- The text ends with this brace. -/
def Ends (brace : Char) (text : String) : Prop :=
  [brace] <:+ text.toList

instance (brace : Char) (text : String) : Decidable (Paired brace text) :=
  inferInstanceAs (Decidable ([brace, brace] <:+: text.toList))

instance (brace : Char) (text : String) : Decidable (Ends brace text) :=
  inferInstanceAs (Decidable ([brace] <:+ text.toList))

/-- The pieces can be told from the text that they make. They may be all of a template, or, if
`opened` holds, be followed by the opening braces of a placeholder. -/
inductive Proper (opened : Prop) : List Piece → Prop
  | empty : Proper opened []
  | last {text : String} (single : ¬ Paired '\x7b' text) (apart : opened → ¬ Ends '\x7b' text) :
      Proper opened [.literal text]
  | literal {text raw : String} {rest : List Piece} (single : ¬ Paired '\x7b' text)
      (apart : ¬ Ends '\x7b' text) (others : Proper opened (.placeholder raw :: rest)) :
      Proper opened (.literal text :: .placeholder raw :: rest)
  | placeholder {raw : String} {rest : List Piece} (single : ¬ Paired '\x7d' raw)
      (apart : ¬ Ends '\x7d' raw) (others : Proper opened rest) :
      Proper opened (.placeholder raw :: rest)
  /-- Literals side by side are one literal. -/
  | joined {first second : String} {rest : List Piece}
      (whole : Proper opened (.literal (first ++ second) :: rest)) :
      Proper opened (.literal first :: .literal second :: rest)

/-- The key has a value. -/
def Bound (bindings : List (String × String)) (key : String) : Prop :=
  key = "indent" ∨ key ∈ bindings.map Prod.fst

/-- The value of a key, by the place of its binding. -/
inductive Denotes (indent : String) (bindings : List (String × String)) : String → String → Prop
  | indent : Denotes indent bindings "indent" indent
  | first {key value : String} {before after : List (String × String)} (other : key ≠ "indent")
      (fresh : key ∉ before.map Prod.fst) (placed : bindings = before ++ (key, value) :: after) :
      Denotes indent bindings key value

/-- What a piece gives way to. -/
inductive StandsFor (indent : String) (bindings : List (String × String)) : Piece → String → Prop
  | literal (text : String) : StandsFor indent bindings (.literal text) text
  | placeholder {raw value : String} (denotes : Denotes indent bindings (Text.trim raw) value) :
      StandsFor indent bindings (.placeholder raw) value

/-! ## The scan of a sequence -/

/-- A text is apart if it has no pair and does not end with half of one. -/
theorem apart_iff {brace : Char} {text : List Char} :
    Apart brace text = true ↔ ¬ [brace, brace] <:+: text ∧ ¬ [brace] <:+ text := by
  induction text with
  | nil => simp [Apart]
  | cons c rest ih =>
    cases rest with
    | nil => simp [Apart, List.infix_cons_iff, List.suffix_cons_iff, @eq_comm _ brace]
    | cons second more =>
      have pair : [brace, brace] <:+: c :: second :: more ↔
          (c = brace ∧ second = brace) ∨ [brace, brace] <:+: second :: more := by
        rw [List.infix_cons_iff]
        simp only [List.cons_prefix_cons, List.nil_prefix, and_true, @eq_comm _ brace]
      have ending : [brace] <:+ c :: second :: more ↔ [brace] <:+ second :: more := by
        rw [List.suffix_cons_iff, or_iff_right (by simp)]
      rw [Apart, Bool.and_eq_true, ih, pair, ending, not_or, and_assoc]
      simp [imp_iff_not_or]

/-- A text without a pair is read as a whole, if it is the last one or does not end with half of a
pair. -/
theorem scanFrom_single (offset : Nat) (reading : Reading) {text rest : List Char}
    (single : ¬ [reading.brace, reading.brace] <:+: text)
    (apart : rest = [] ∨ ¬ [reading.brace] <:+ text) :
    scanFrom offset reading (text ++ rest) =
      scanFrom (offset + Text.byteLength text) (reading.push text) rest := by
  rcases apart with rfl | apart
  · induction text generalizing offset reading with
    | nil => cases reading <;> rfl
    | cons c text ih =>
      have sameBrace : (reading.push [c]).brace = reading.brace := by cases reading <;> rfl
      have pushed : (reading.push [c]).push text = reading.push (c :: text) := by
        cases reading <;> simp [Reading.push]
      rw [List.infix_cons_iff, not_or] at single
      have noPair : ¬ (c = reading.brace ∧ text.head? = some reading.brace) := by
        rintro ⟨rfl, next⟩
        obtain ⟨more, rfl⟩ := List.head?_eq_some_iff.mp next
        exact single.1 (by simp [List.cons_prefix_cons])
      rw [List.append_nil, scanFrom_cons offset reading noPair, ← List.append_nil text,
        ih _ _ (sameBrace ▸ single.2), List.append_nil, pushed, Text.byteLength, Nat.add_assoc]
  · exact scanFrom_append offset reading (apart_iff.mpr ⟨single, apart⟩) rest

variable {name : String} {value? : String → Option String}

/-- A literal is filled in as it is, and the scan goes on after it. -/
theorem fill_scanFrom_literal (offset : Nat) {text : String} {rest : List Char}
    (single : ¬ Paired '\x7b' text) (apart : rest = [] ∨ ¬ Ends '\x7b' text) :
    Templates.fill name value? (scanFrom offset (.literal []) (text.toList ++ rest)) =
      (Templates.fill name value?
        (scanFrom (offset + Text.byteLength text.toList) (.literal []) rest)).map (text ++ ·) := by
  rw [scanFrom_single offset (.literal []) single apart, fill_scanFrom_push]

/-- A placeholder that the text does not close. -/
theorem fill_scanFrom_unclosed (offset : Nat) {tail : String} (unended : ¬ Paired '\x7d' tail) :
    Templates.fill name value?
        (scanFrom offset (.literal []) ('\x7b' :: '\x7b' :: tail.toList)) =
      .error (.unclosedPlaceholder name offset) := by
  rw [scanFrom, ← List.append_nil tail.toList,
    scanFrom_single (offset + 2) (.key offset []) unended (.inl rfl), Reading.push, scanFrom]
  rfl

/-- A proper sequence is filled piece by piece, and then what comes after it. -/
theorem fill_scanFrom_proper {opened : Prop} {pieces : List Piece} (proper : Proper opened pieces)
    {rest : List Char} (follows : rest = [] ∨ opened) (offset : Nat) :
    Templates.fill name value?
        (scanFrom offset (.literal []) ((written pieces).toList ++ rest)) =
      (fillPieces name value? pieces).bind fun filled =>
        (Templates.fill name value?
          (scanFrom (offset + Text.byteLength (written pieces).toList) (.literal []) rest)).map
            (filled ++ ·) := by
  -- The induction is on how the sequence is proper. Each case scans its first piece, and the offset
  -- goes on with the bytes of that piece.
  induction proper generalizing offset with
  | empty =>
    simp only [written, List.map_nil, Text.concat, String.toList_empty, List.nil_append,
      Text.byteLength, Nat.add_zero, fillPieces, Except.bind]
    cases Templates.fill name value? (scanFrom offset (.literal []) rest) <;> simp [Except.map]
  | @last text single apart =>
    have text : written [.literal text] = text := by simp [written, Text.concat, Piece.written]
    rw [text, fill_scanFrom_literal offset single (follows.imp_right apart)]
    simp [fillPieces, Except.map, Except.bind]
  | @literal text raw others single apart _ ih =>
    rw [toList_written_cons, Piece.written, List.append_assoc,
      fill_scanFrom_literal offset single (.inr apart), ih, fillPieces, Text.byteLength_append,
      Nat.add_assoc]
    cases fillPieces name value? (.placeholder raw :: others) with
    | error fault => rfl
    | ok filled =>
      simp only [Except.map, Except.bind]
      generalize Templates.fill name value? (scanFrom _ _ rest) = more
      cases more <;> simp [String.append_assoc]
  | @placeholder raw others single apart _ ih =>
    rw [toList_written_cons, List.append_assoc,
      fill_scanFrom_placeholder (apart_iff.mpr ⟨single, apart⟩), fillPieces,
      Text.byteLength_append]
    cases value? (Text.trim raw) with
    | none => rfl
    | some value =>
      rw [← Nat.add_assoc]
      simp only [ih]
      cases fillPieces name value? others with
      | error fault => rfl
      | ok filled =>
        simp only [Except.map, Except.bind]
        generalize Templates.fill name value? (scanFrom _ _ rest) = more
        cases more <;> simp [String.append_assoc]
  | @joined first second others _ ih =>
    have text : written (.literal first :: .literal second :: others) =
        written (.literal (first ++ second) :: others) := by
      simp [written, Text.concat, Piece.written, String.append_assoc]
    have filled : fillPieces name value? (.literal first :: .literal second :: others) =
        fillPieces name value? (.literal (first ++ second) :: others) := by
      simp only [fillPieces]
      cases fillPieces name value? others <;> simp [Except.map, String.append_assoc]
    rw [text, filled]
    exact ih offset

/-! ## What a sequence is filled with -/

/-- What a scan finds in place of a piece. -/
def Piece.segment : Piece → Segment
  | .literal text => .literal text
  | .placeholder raw => .value (Text.trim raw)

/-- Filling the segments of a sequence is filling its pieces. -/
theorem fill_segments (pieces : List Piece) :
    Templates.fill name value? (pieces.map Piece.segment) = fillPieces name value? pieces := by
  induction pieces with
  | nil => rfl
  | cons piece rest ih =>
    cases piece with
    | literal text =>
      rw [List.map_cons, Piece.segment, Templates.fill, ih, fillPieces]
      cases fillPieces name value? rest <;> rfl
    | placeholder raw =>
      rw [List.map_cons, Piece.segment, Templates.fill, ih, fillPieces]
      cases value? (Text.trim raw) with
      | none => rfl
      | some value => cases fillPieces name value? rest <;> rfl

variable {templates : Templates} {bindings : List (String × String)}

/-- The value of a key is that of its first binding, or the indentation for `indent`. -/
theorem value?_eq_some_iff {key value : String} :
    templates.value? bindings key = some value ↔ Denotes templates.indent bindings key value := by
  by_cases isIndent : key = "indent"
  · subst isIndent
    rw [Templates.value?, if_pos rfl, Option.some.injEq]
    constructor
    · rintro rfl
      exact .indent
    · intro denotes
      cases denotes with
      | indent => rfl
      | first other => exact absurd rfl other
  · rw [Templates.value?, if_neg isIndent, List.lookup_eq_some_iff]
    constructor
    · rintro ⟨before, after, placed, fresh⟩
      refine .first isIndent ?_ placed
      rintro member
      obtain ⟨binding, earlier, same⟩ := List.mem_map.mp member
      exact absurd same.symm (by simpa using fresh binding earlier)
    · intro denotes
      cases denotes with
      | indent => exact absurd rfl isIndent
      | @first _ _ before after _ fresh placed =>
        refine ⟨before, after, placed, fun binding earlier => ?_⟩
        rw [bne_iff_ne]
        rintro rfl
        exact fresh (List.mem_map_of_mem earlier)

/-- A key has a value exactly if it is bound. -/
theorem value?_isSome_iff {key : String} :
    (templates.value? bindings key).isSome = true ↔ Bound bindings key := by
  rw [Templates.value?_isSome, Bool.or_eq_true, decide_eq_true_iff, decide_eq_true_iff, Bound]

/-- The fault of a piece, if it is a placeholder without a value. -/
def Piece.fault? (name : String) (value? : String → Option String) (piece : Piece) :
    Option Fault :=
  piece.segment.fault? name fun key => (value? key).isSome

/-- A piece is at fault exactly if it is a placeholder whose key is not bound. -/
theorem Piece.fault?_eq_some_iff {piece : Piece} {fault : Fault} :
    piece.fault? name (templates.value? bindings) = some fault ↔
      ∃ raw, piece = .placeholder raw ∧ ¬ Bound bindings (Text.trim raw) ∧
        fault = .noValue name (Text.trim raw) := by
  cases piece with
  | literal text => simp [Piece.fault?, Piece.segment, Segment.fault?]
  | placeholder raw =>
    simp only [Piece.fault?, Piece.segment, Segment.fault?, value?_isSome_iff,
      Option.ite_none_left_eq_some, Option.some.injEq, Piece.placeholder.injEq, exists_eq_left',
      @eq_comm _ fault]

/-- A piece is without fault if it is a literal, or if its key is bound. -/
theorem Piece.fault?_eq_none_iff {piece : Piece} :
    piece.fault? name (templates.value? bindings) = none ↔
      ∀ raw, piece = .placeholder raw → Bound bindings (Text.trim raw) := by
  cases piece with
  | literal text => simp [Piece.fault?, Piece.segment, Segment.fault?]
  | placeholder raw => simp [Piece.fault?, Piece.segment, Segment.fault?, value?_isSome_iff]

/-- The fault of the first placeholder whose key has no value. -/
def FirstUnbound (name : String) (bindings : List (String × String)) (pieces : List Piece)
    (fault : Fault) : Prop :=
  ∃ before raw after, pieces = before ++ .placeholder raw :: after ∧
    (∀ other, .placeholder other ∈ before → Bound bindings (Text.trim other)) ∧
    ¬ Bound bindings (Text.trim raw) ∧ fault = .noValue name (Text.trim raw)

/-- Filling fails with the fault of the first piece that has one. -/
theorem fillPieces_eq_error_iff_findSome? {pieces : List Piece} {fault : Fault} :
    fillPieces name value? pieces = .error fault ↔
      pieces.findSome? (Piece.fault? name value?) = some fault := by
  rw [← fill_segments, Templates.fill_eq_error_iff, List.findSome?_map]
  rfl

/-- Filling fails exactly for the first placeholder whose key is not bound. -/
theorem fillPieces_eq_error_iff {pieces : List Piece} {fault : Fault} :
    fillPieces name (templates.value? bindings) pieces = .error fault ↔
      FirstUnbound name bindings pieces fault := by
  rw [fillPieces_eq_error_iff_findSome?, List.findSome?_eq_some_iff]
  simp only [Piece.fault?_eq_some_iff, Piece.fault?_eq_none_iff]
  constructor
  · rintro ⟨before, _, after, placed, ⟨raw, rfl, unbound, same⟩, earlier⟩
    exact ⟨before, raw, after, placed, fun other member => earlier _ member other rfl, unbound,
      same⟩
  · rintro ⟨before, raw, after, placed, earlier, unbound, same⟩
    exact ⟨before, _, after, placed, ⟨raw, rfl, unbound, same⟩,
      fun piece member other is => earlier other (is ▸ member)⟩

/-- Filling succeeds exactly if the keys of all placeholders are bound. -/
theorem exists_fillPieces_iff {pieces : List Piece} :
    (∃ text, fillPieces name (templates.value? bindings) pieces = .ok text) ↔
      ∀ raw, .placeholder raw ∈ pieces → Bound bindings (Text.trim raw) := by
  have faultless : (∃ text, fillPieces name (templates.value? bindings) pieces = .ok text) ↔
      pieces.findSome? (Piece.fault? name (templates.value? bindings)) = none := by
    rw [Option.eq_none_iff_forall_ne_some]
    simp only [Ne, ← fillPieces_eq_error_iff_findSome?]
    cases fillPieces name (templates.value? bindings) pieces <;> simp
  rw [faultless, List.findSome?_eq_none_iff]
  simp only [Piece.fault?_eq_none_iff]
  exact ⟨fun all raw member => all _ member raw rfl,
    fun all piece member raw is => all raw (is ▸ member)⟩

/-- What a piece stands for is what it is filled with. -/
theorem standsFor_iff {piece : Piece} {value : String} :
    StandsFor templates.indent bindings piece value ↔
      piece.value? (templates.value? bindings) = some value := by
  constructor
  · intro stands
    cases stands with
    | literal => rfl
    | placeholder denotes => exact value?_eq_some_iff.mpr denotes
  · intro found
    cases piece with
    | literal text =>
      obtain rfl : text = value := Option.some.inj found
      exact .literal text
    | placeholder raw => exact .placeholder (value?_eq_some_iff.mp found)

/-- The filled template is made of what the pieces stand for. -/
theorem fillPieces_eq_ok_iff {pieces : List Piece} {text : String} :
    fillPieces name (templates.value? bindings) pieces = .ok text ↔
      ∃ values, List.Forall₂ (StandsFor templates.indent bindings) pieces values ∧
        text = Text.concat values := by
  constructor
  · intro filled
    induction pieces generalizing text with
    | nil => exact ⟨[], .nil, (Except.ok.inj filled).symm⟩
    | cons piece rest ih =>
      cases piece with
      | literal first =>
        obtain ⟨more, later, rfl⟩ := map_eq_ok_iff.mp filled
        obtain ⟨values, stand, rfl⟩ := ih later
        exact ⟨first :: values, .cons (.literal first) stand, rfl⟩
      | placeholder raw =>
        rw [fillPieces] at filled
        cases found : templates.value? bindings (Text.trim raw) with
        | none =>
          rw [found] at filled
          cases filled
        | some value =>
          rw [found] at filled
          obtain ⟨more, later, rfl⟩ := map_eq_ok_iff.mp filled
          obtain ⟨values, stand, rfl⟩ := ih later
          exact ⟨value :: values, .cons (.placeholder (value?_eq_some_iff.mp found)) stand, rfl⟩
  · rintro ⟨values, stand, rfl⟩
    refine fillPieces_eq_ok ?_
    induction stand with
    | nil => rfl
    | cons stands _ ih => rw [List.map_cons, List.map_cons, standsFor_iff.mp stands, ih]

/-! ## Rendering -/

/-- A text that is a proper sequence. -/
theorem render_proper {pieces : List Piece} (proper : Proper False pieces)
    (defined : templates.text? name = some (written pieces)) :
    templates.render name bindings = fillPieces name (templates.value? bindings) pieces := by
  simp only [Templates.render, defined, segments]
  rw [← List.append_nil (written pieces).toList,
    fill_scanFrom_proper proper (.inl rfl), scanFrom, Templates.fill, Templates.fill]
  cases fillPieces name (templates.value? bindings) pieces <;>
    simp [Except.bind, Except.map, bind, pure, Except.pure]

/-- The bytes of a text are counted character by character. -/
theorem byteLength_toList (text : String) : Text.byteLength text.toList = text.utf8ByteSize := by
  rw [← Text.length_encode, String.ofList_toList]
  simp [Text.Utf8.encode]

/-- A text that ends in a placeholder. -/
theorem render_unclosed {front : List Piece} (proper : Proper True front) {tail : String}
    (unended : ¬ Paired '\x7d' tail)
    (defined : templates.text? name = some (written front ++ "\x7b\x7b" ++ tail)) :
    templates.render name bindings =
      (fillPieces name (templates.value? bindings) front).bind fun _ =>
        .error (.unclosedPlaceholder name (written front).utf8ByteSize) := by
  have text : (written front ++ "\x7b\x7b" ++ tail).toList =
      (written front).toList ++ '\x7b' :: '\x7b' :: tail.toList := by
    simp
  simp only [Templates.render, defined, segments]
  rw [text, fill_scanFrom_proper proper (.inr trivial), Nat.zero_add, byteLength_toList,
    fill_scanFrom_unclosed _ unended]
  rfl

/-- A last literal stands at the end of the text. -/
theorem written_concat_literal (pieces : List Piece) (last : String) :
    written (pieces ++ [.literal last]) = written pieces ++ last := by
  simp [written, Text.concat_append, Text.concat, Piece.written]

/-- A last literal needs no value. -/
theorem fillPieces_concat_literal (pieces : List Piece) (last : String) :
    fillPieces name value? (pieces ++ [.literal last]) =
      (fillPieces name value? pieces).map (· ++ last) := by
  induction pieces with
  | nil => simp [fillPieces, Except.map]
  | cons piece rest ih =>
    cases piece with
    | literal text =>
      rw [List.cons_append, fillPieces, fillPieces, ih]
      cases fillPieces name value? rest <;> simp [Except.map, String.append_assoc]
    | placeholder raw =>
      rw [List.cons_append, fillPieces, fillPieces, ih]
      cases value? (Text.trim raw) with
      | none => rfl
      | some value =>
        dsimp only
        cases fillPieces name value? rest <;> simp [Except.map, String.append_assoc]

/-- Rendering a template that is made of these pieces puts each value in its place, once. The text
may also go on with a literal and with a placeholder that it does not close. -/
structure Substitutes (templates : Templates) (name : String) (bindings : List (String × String))
    (pieces : List Piece) : Prop where
  succeeds (proper : Proper False pieces)
      (defined : templates.text? name = some (written pieces)) :
    (∃ text, templates.render name bindings = .ok text) ↔
      ∀ raw, .placeholder raw ∈ pieces → Bound bindings (Text.trim raw)
  filled (proper : Proper False pieces) (defined : templates.text? name = some (written pieces))
      (text : String) :
    templates.render name bindings = .ok text ↔
      ∃ values, List.Forall₂ (StandsFor templates.indent bindings) pieces values ∧
        text = Text.concat values
  unbound (proper : Proper False pieces) (defined : templates.text? name = some (written pieces))
      (fault : Fault) :
    templates.render name bindings = .error fault ↔ FirstUnbound name bindings pieces fault
  unclosed {last tail : String} (proper : Proper True (pieces ++ [.literal last]))
      (unended : ¬ Paired '\x7d' tail)
      (defined : templates.text? name = some (written pieces ++ last ++ "\x7b\x7b" ++ tail))
      (bound : ∀ raw, .placeholder raw ∈ pieces → Bound bindings (Text.trim raw)) :
    templates.render name bindings =
      .error (.unclosedPlaceholder name (written pieces ++ last).utf8ByteSize)
  /-- A key without a value comes before the placeholder that is not closed. -/
  masked {last tail : String} (proper : Proper True (pieces ++ [.literal last]))
      (unended : ¬ Paired '\x7d' tail)
      (defined : templates.text? name = some (written pieces ++ last ++ "\x7b\x7b" ++ tail))
      {fault : Fault} (missing : FirstUnbound name bindings pieces fault) :
    templates.render name bindings = .error fault

/-- Rendering is substitution in one pass. -/
theorem render_substitutes (templates : Templates) (name : String)
    (bindings : List (String × String)) (pieces : List Piece) :
    Substitutes templates name bindings pieces := by
  constructor
  case succeeds =>
    intro proper defined
    rw [render_proper proper defined, exists_fillPieces_iff]
  case filled =>
    intro proper defined text
    rw [render_proper proper defined, fillPieces_eq_ok_iff]
  case unbound =>
    intro proper defined fault
    rw [render_proper proper defined, fillPieces_eq_error_iff]
  case unclosed =>
    intro last tail proper unended defined bound
    obtain ⟨filled, values⟩ :
        ∃ text, fillPieces name (templates.value? bindings) pieces = .ok text :=
      exists_fillPieces_iff.mpr bound
    rw [← written_concat_literal] at defined ⊢
    rw [render_unclosed proper unended defined, fillPieces_concat_literal, values]
    rfl
  case masked =>
    intro last tail proper unended defined fault missing
    rw [← written_concat_literal] at defined
    rw [render_unclosed proper unended defined, fillPieces_concat_literal,
      fillPieces_eq_error_iff.mpr missing]
    rfl

/-- Three braces in a row, a binding of `indent` and a value that looks like a placeholder; and a
character of two bytes before a placeholder that is not closed. -/
theorem render_substitutes_braces :
    ((Templates.builtin "  ").insert "t"
        "\x7b\x7b indent \x7d\x7df(\x7b\x7b\x7bx\x7d\x7d) \x7b").render "t"
        [("indent", "no"), ("\x7bx", "\x7b\x7by\x7d\x7d"), ("\x7bx", "z")] =
      .ok "  f(\x7b\x7by\x7d\x7d) \x7b" ∧
    ((Templates.builtin "  ").insert "t" "\x7b\x7b indent \x7d\x7dé \x7bf\x7b\x7b x \x7d").render
        "t" [] =
      .error (.unclosedPlaceholder "t" 17) := by
  have indentKey : Text.trim " indent " = "indent" := by decide +kernel
  have braceKey : Text.trim "\x7bx" = "\x7bx" := by decide +kernel
  constructor
  · have proper : Proper False [.placeholder " indent ", .literal "f(", .placeholder "\x7bx",
        .literal ") \x7b"] :=
      .placeholder (by decide +kernel) (by decide +kernel) <|
        .literal (by decide +kernel) (by decide +kernel) <|
        .placeholder (by decide +kernel) (by decide +kernel) <|
        .last (by decide +kernel) False.elim
    refine ((render_substitutes _ _ _ _).filled proper (by decide +kernel) _).mpr
      ⟨["  ", "f(", "\x7b\x7by\x7d\x7d", ") \x7b"], ?_, by decide +kernel⟩
    refine .cons (.placeholder ?_) (.cons (.literal _) (.cons (.placeholder ?_)
      (.cons (.literal _) .nil)))
    · rw [indentKey]
      exact .indent
    · rw [braceKey]
      exact .first (by decide +kernel) (by decide +kernel) (List.singleton_append).symm
  · have proper : Proper True ([.placeholder " indent "] ++ [.literal "é \x7bf"]) :=
      .placeholder (by decide +kernel) (by decide +kernel) <|
        .last (by decide +kernel) fun _ => by decide +kernel
    have bound : ∀ raw, Piece.placeholder raw ∈ [.placeholder " indent "] →
        Bound [] (Text.trim raw) := by
      rintro raw member
      obtain rfl : raw = " indent " := by simpa using member
      exact .inl indentKey
    have unended : ¬ Paired '\x7d' " x \x7d" := by decide +kernel
    exact (render_substitutes _ _ _ _).unclosed proper unended (by decide +kernel) bound

end WidgetBuilders.Template
