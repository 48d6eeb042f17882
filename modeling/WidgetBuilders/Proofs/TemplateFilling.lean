import WidgetBuilders.Template

/-!
# Filling a template that is made of pieces

A template is text, and what it means is found by scanning it. A template that is written from
pieces can be filled without a scan: literals stay, and a placeholder gives way to the value of its
key. Both ways agree if no piece can form a pair of braces that the pieces do not have: a literal
must not hold two opening braces in a row or end with one, since the next piece may begin with one,
and the same goes for the text of a placeholder and closing braces.

The scan moves literals together that stand side by side and counts offsets. Neither can be seen in
a filled template. The first placeholder without a value is the same in both.
-/

namespace WidgetBuilders.Template

/-- No two of these braces stand in a row, and none stands at the end. -/
def Apart (brace : Char) : List Char → Bool
  | [] => true
  | [last] => last ≠ brace
  | first :: second :: rest =>
    !(first = brace && second = brace) && Apart brace (second :: rest)

/-- The piece has no part in a pair of braces, except those around a placeholder. -/
def Piece.isPlain : Piece → Bool
  | .literal text => Apart '\x7b' text.toList
  | .placeholder raw => Apart '\x7d' raw.toList

/-- Fills pieces, up to the first placeholder whose key has no value. -/
def fillPieces (name : String) (value? : String → Option String) :
    List Piece → Except Fault String
  | [] => .ok ""
  | .literal text :: rest => (fillPieces name value? rest).map (text ++ ·)
  | .placeholder raw :: rest =>
    match value? (Text.trim raw) with
    | none => .error (.noValue name (Text.trim raw))
    | some value => (fillPieces name value? rest).map (value ++ ·)

/-- What stands for a piece in a filled template. -/
def Piece.value? (value? : String → Option String) : Piece → Option String
  | .literal text => some text
  | .placeholder raw => value? (Text.trim raw)

/-- If each piece has a value, these make up the filled template. -/
theorem fillPieces_eq_ok {name : String} {value? : String → Option String} {pieces : List Piece}
    {values : List String} (valued : pieces.map (Piece.value? value?) = values.map some) :
    fillPieces name value? pieces = .ok (Text.concat values) := by
  induction pieces generalizing values with
  | nil =>
    cases values with
    | nil => rfl
    | cons value values => cases valued
  | cons piece rest ih =>
    cases values with
    | nil => cases valued
    | cons value values =>
      obtain ⟨first, others⟩ := List.cons.inj valued
      cases piece with
      | literal text =>
        cases first
        simp [fillPieces, ih others, Except.map, Text.concat]
      | placeholder raw =>
        have found : value? (Text.trim raw) = some value := first
        simp [fillPieces, found, ih others, Except.map, Text.concat]

/-! ## Scanning a text without pairs of braces -/

/-- The brace that ends what is being read, if two of them stand in a row. -/
def Reading.brace : Reading → Char
  | .literal _ => '\x7b'
  | .key _ _ => '\x7d'

/-- Reads some more characters. -/
def Reading.push (text : List Char) : Reading → Reading
  | .literal read => .literal (text.reverse ++ read)
  | .key opened read => .key opened (text.reverse ++ read)

/-- A character that begins no pair of braces is read as it is. -/
theorem scanFrom_cons (offset : Nat) (reading : Reading) {c : Char} {rest : List Char}
    (noPair : ¬ (c = reading.brace ∧ rest.head? = some reading.brace)) :
    scanFrom offset reading (c :: rest) =
      scanFrom (offset + c.utf8Size) (reading.push [c]) rest := by
  cases reading with
  | literal read =>
    refine scanFrom.eq_3 offset read c rest ?_
    rintro tail rfl rfl
    exact noPair ⟨rfl, rfl⟩
  | key opened read =>
    refine scanFrom.eq_6 offset opened read c rest ?_
    rintro tail rfl rfl
    exact noPair ⟨rfl, rfl⟩

/-- The first character of an apart text does not begin a pair, whatever comes after the text. -/
theorem noPair_of_apart {brace c : Char} {front : List Char}
    (apart : Apart brace (c :: front) = true) (rest : List Char) :
    ¬ (c = brace ∧ (front ++ rest).head? = some brace) := by
  rintro ⟨rfl, next⟩
  cases front with
  | nil => simp [Apart] at apart
  | cons second front =>
    have same : second = c := by simpa using next
    simp [Apart, same] at apart

/-- The rest of an apart text is apart. -/
theorem apart_of_cons {brace c : Char} {front : List Char}
    (apart : Apart brace (c :: front) = true) : Apart brace front = true := by
  cases front with
  | nil => rfl
  | cons second front =>
    simp only [Apart, Bool.and_eq_true] at apart
    exact apart.2

/-- An apart text is read as a whole, whatever comes after it. -/
theorem scanFrom_append (offset : Nat) (reading : Reading) {front : List Char}
    (apart : Apart reading.brace front = true) (rest : List Char) :
    scanFrom offset reading (front ++ rest) =
      scanFrom (offset + Text.byteLength front) (reading.push front) rest := by
  induction front generalizing offset reading with
  | nil => cases reading <;> rfl
  | cons c front ih =>
    have sameBrace : (reading.push [c]).brace = reading.brace := by cases reading <;> rfl
    have pushed : (reading.push [c]).push front = reading.push (c :: front) := by
      cases reading <;> simp [Reading.push]
    have others : Apart (reading.push [c]).brace front = true := sameBrace ▸ apart_of_cons apart
    rw [List.cons_append, scanFrom_cons offset reading (noPair_of_apart apart rest), ih _ _ others,
      pushed, Text.byteLength, Nat.add_assoc]

/-! ## Filling pieces -/

/-- A placeholder ends the literal before it and starts an empty one. -/
theorem scanFrom_placeholder {raw : String} (plain : (Piece.placeholder raw).isPlain = true)
    (offset : Nat) (read rest : List Char) :
    scanFrom offset (.literal read) ((Piece.placeholder raw).written.toList ++ rest) =
      .literal (String.ofList read.reverse) :: .value (Text.trim raw) ::
        scanFrom (offset + Text.byteLength (Piece.placeholder raw).written.toList)
          (.literal []) rest := by
  have spelled : (Piece.placeholder raw).written.toList =
      '\x7b' :: '\x7b' :: (raw.toList ++ ['\x7d', '\x7d']) := by
    simp [Piece.written]
  have length : Text.byteLength (Piece.placeholder raw).written.toList =
      2 + Text.byteLength raw.toList + 2 := by
    simp only [spelled, Text.byteLength, Text.byteLength_append]
    rw [show '\x7b'.utf8Size = 1 by decide, show '\x7d'.utf8Size = 1 by decide]
    omega
  rw [length, spelled, List.cons_append, List.cons_append, List.append_assoc, scanFrom,
    scanFrom_append _ (.key offset []) plain, Reading.push, List.cons_append, List.cons_append,
    scanFrom]
  simp [Text.trim, Nat.add_assoc]

/-- A literal begins with what was read of it before. -/
theorem scanFrom_read (offset : Nat) (text : List Char) :
    ∃ first others, ∀ read,
      scanFrom offset (.literal read) text =
        .literal (String.ofList read.reverse ++ first) :: others := by
  induction text generalizing offset with
  | nil => exact ⟨"", [], by simp [scanFrom]⟩
  | cons c rest ih =>
    by_cases pair : c = '\x7b' ∧ rest.head? = some '\x7b'
    · obtain ⟨rfl, next⟩ := pair
      obtain ⟨more, rfl⟩ := List.head?_eq_some_iff.mp next
      exact ⟨"", scanFrom (offset + 2) (.key offset []) more, by simp [scanFrom]⟩
    · obtain ⟨first, others, scanned⟩ := ih (offset + c.utf8Size)
      refine ⟨String.ofList [c] ++ first, others, fun read => ?_⟩
      rw [scanFrom_cons offset (.literal read) pair, Reading.push, scanned, List.reverse_append,
        List.reverse_reverse, String.ofList_append, String.append_assoc]

variable {name : String} {value? : String → Option String}

/-- What was read of a literal comes first in the filled template. -/
theorem fill_scanFrom_push (offset : Nat) (text : String) (rest : List Char) :
    Templates.fill name value? (scanFrom offset ((Reading.literal []).push text.toList) rest) =
      (Templates.fill name value? (scanFrom offset (.literal []) rest)).map (text ++ ·) := by
  obtain ⟨first, others, scanned⟩ := scanFrom_read offset rest
  rw [Reading.push, scanned, scanned, Templates.fill, Templates.fill]
  cases Templates.fill name value? others <;>
    simp [Except.map, bind, Except.bind, pure, Except.pure, String.append_assoc]

/-- A placeholder gives way to the value of its key, if there is one. -/
theorem fill_scanFrom_placeholder {raw : String} (plain : (Piece.placeholder raw).isPlain = true)
    (offset : Nat) (rest : List Char) :
    Templates.fill name value?
        (scanFrom offset (.literal []) ((Piece.placeholder raw).written.toList ++ rest)) =
      match value? (Text.trim raw) with
      | none => .error (.noValue name (Text.trim raw))
      | some value =>
        (Templates.fill name value?
          (scanFrom (offset + Text.byteLength (Piece.placeholder raw).written.toList)
            (.literal []) rest)).map (value ++ ·) := by
  rw [scanFrom_placeholder plain, Templates.fill, Templates.fill]
  cases value? (Text.trim raw) with
  | none => rfl
  | some value =>
    dsimp only
    generalize Templates.fill name value? (scanFrom _ _ rest) = filled
    cases filled <;> simp [Except.map, bind, Except.bind, pure, Except.pure]

/-- Pieces are written one after another. -/
theorem toList_written_cons (piece : Piece) (rest : List Piece) :
    (written (piece :: rest)).toList = piece.written.toList ++ (written rest).toList := by
  simp [written, Text.concat]

/-- Filling what is left of a template. -/
theorem fill_scanFrom {pieces : List Piece} (plain : ∀ piece ∈ pieces, piece.isPlain = true)
    (offset : Nat) :
    Templates.fill name value? (scanFrom offset (.literal []) (written pieces).toList) =
      fillPieces name value? pieces := by
  induction pieces generalizing offset with
  | nil => rfl
  | cons piece rest ih =>
    obtain ⟨first, others⟩ := List.forall_mem_cons.mp plain
    rw [toList_written_cons]
    cases piece with
    | literal text =>
      rw [Piece.written, scanFrom_append _ (.literal []) first, fill_scanFrom_push, ih others,
        fillPieces]
    | placeholder raw =>
      rw [fill_scanFrom_placeholder first, fillPieces]
      simp only [ih others]

/-- A template that is written from plain pieces is filled piece by piece. -/
theorem fill_written {pieces : List Piece} (plain : ∀ piece ∈ pieces, piece.isPlain = true)
    (name : String) (value? : String → Option String) :
    Templates.fill name value? (segments (written pieces)) = fillPieces name value? pieces :=
  fill_scanFrom plain 0

/-- The built-in `view` template has no piece that could be misread. -/
theorem viewPieces_plain : ∀ piece ∈ viewPieces, piece.isPlain = true := by
  decide

end WidgetBuilders.Template
