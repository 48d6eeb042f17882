import Mathlib.Data.List.Forall2
import WidgetBuilders.Helper.File
import WidgetBuilders.Proofs.Sequencing
import WidgetBuilders.Proofs.TextCuts

/-!
# The reader accepts exactly its grammar

The grammar is written down here by what it puts together: names with dots between them, a name and
a type around a colon, properties with commas between them, and round brackets around these, with
blank characters wherever two of these meet. It does not say where a reader would look for a
bracket or a comma. That the reader finds the right ones is a matter of characters: no sign of the
grammar may stand in a name, and no blank character may.

The reader trims the list of properties as a whole before it cuts it. This makes no difference,
since each property is trimmed again.
-/

namespace WidgetBuilders.Grammar

open Text

/-! ## The grammar -/

/-- A letter, an underscore or a dollar sign, and then any number of these and of numeric
characters. -/
def Name (text : List Char) : Prop :=
  ∃ first rest, text = first :: rest ∧
    (isAlphabetic first = true ∨ first = '_' ∨ first = '$') ∧
    ∀ c ∈ rest, isAlphabetic c = true ∨ isNumeric c = true ∨ c = '_' ∨ c = '$'

/-- One or more names with dots between them. -/
def QualifiedName (text : List Char) : Prop :=
  ∃ names, names ≠ [] ∧ (∀ name ∈ names, Name name) ∧ text = List.intercalate ['.'] names

/-- A name, a colon and a type, with blank characters around each of them. -/
def PropertyText (text : List Char) (property : Property) : Prop :=
  ∃ before after, text = before ++ ':' :: after ∧
    Name property.name.toList ∧ Padded property.name.toList before ∧
    QualifiedName property.type.toList ∧ Padded property.type.toList after

/-- One or more properties with commas between them. -/
def PropertyList (text : List Char) (properties : List Property) : Prop :=
  ∃ pieces, pieces ≠ [] ∧ List.Forall₂ PropertyText pieces properties ∧
    text = List.intercalate [','] pieces

/-- A qualified name and, in round brackets, a list of properties. -/
def DeclarationText (text : List Char) (widget : String) (properties : List Property) : Prop :=
  ∃ before list after, text = before ++ '(' :: (list ++ ')' :: after) ∧
    QualifiedName widget.toList ∧ Padded widget.toList before ∧
    PropertyList list properties ∧ Blank after

/-! ## Names and their characters -/

/-- The reader tells names by their grammar. -/
theorem isName_iff {text : List Char} : isName text = true ↔ Name text := by
  cases text with
  | nil => simp [isName, Name]
  | cons first rest => simp [isName, Name, beginsName, continuesName, or_assoc]

/-- Every character of a name may continue one; what begins it may, too. -/
theorem continuesName_of_name {text : List Char} (name : Name text) :
    ∀ c ∈ text, continuesName c = true := by
  obtain ⟨first, rest, rfl, begins, continues⟩ := name
  rw [List.forall_mem_cons]
  constructor
  · rcases begins with letter | rfl | rfl <;> simp [continuesName, *]
  · intro c member
    simpa [continuesName, or_assoc] using continues c member

/-- No name holds a dot, so the dots of a qualified name stand between its names. -/
theorem dot_not_mem_name {text : List Char} (name : Name text) : '.' ∉ text := by
  intro member
  have continues := continuesName_of_name name '.' member
  revert continues
  decide

/-- The reader tells qualified names by their grammar: it cuts at every dot. -/
theorem isQualifiedName_iff {text : List Char} :
    isQualifiedName text = true ↔ QualifiedName text := by
  simp only [isQualifiedName, List.all_eq_true, isName_iff, QualifiedName]
  constructor
  · intro names
    exact ⟨partsAt '.' text, partsAt_ne_nil '.' text, names, (intercalate_partsAt '.' text).symm⟩
  · rintro ⟨names, nonempty, named, joined⟩
    have parts : partsAt '.' text = names :=
      partsAt_eq_iff.mpr ⟨nonempty, fun name member => dot_not_mem_name (named name member), joined⟩
    exact parts ▸ named

/-- A qualified name has dots and characters of names, and no others. -/
theorem mem_qualifiedName {text : List Char} (qualified : QualifiedName text) {c : Char}
    (member : c ∈ text) : c = '.' ∨ continuesName c = true := by
  obtain ⟨names, _, named, rfl⟩ := qualified
  rcases mem_intercalate member with dot | ⟨name, among, inside⟩
  · exact Or.inl dot
  · exact Or.inr (continuesName_of_name (named name among) c inside)

/-- The code points of the blank characters. -/
def blankCodes : List Nat :=
  [0x09, 0x0A, 0x0B, 0x0C, 0x0D, 0x20, 0x85, 0xA0, 0x1680, 0x2000, 0x2001, 0x2002, 0x2003, 0x2004,
    0x2005, 0x2006, 0x2007, 0x2008, 0x2009, 0x200A, 0x2028, 0x2029, 0x202F, 0x205F, 0x3000]

/-- The list of blank characters is complete. -/
theorem mem_blankCodes {c : Char} (blank : isBlank c = true) : c.toNat ∈ blankCodes := by
  simp only [isBlank, Bool.or_eq_true, Bool.and_eq_true, decide_eq_true_eq] at blank
  simp only [blankCodes, List.mem_cons, List.not_mem_nil, or_false]
  omega

/-- No blank character is a letter or numeric. -/
theorem not_continuesName_of_isBlank {c : Char} (blank : isBlank c = true) :
    continuesName c = false := by
  have none : ∀ code ∈ blankCodes, continuesName (Char.ofNat code) = false := by decide +kernel
  have ends := none c.toNat (mem_blankCodes blank)
  rwa [Char.ofNat_toNat] at ends

/-- No qualified name holds a blank character. -/
theorem unblank_of_qualifiedName {text : List Char} (qualified : QualifiedName text) :
    ∀ c ∈ text, isBlank c = false := by
  intro c member
  rcases mem_qualifiedName qualified member with rfl | continues
  · decide
  · by_contra blank
    rw [not_continuesName_of_isBlank (by simpa using blank)] at continues
    cases continues

/-- A single name is a qualified name without dots. -/
theorem qualifiedName_of_name {text : List Char} (name : Name text) : QualifiedName text :=
  ⟨[text], by simp, by simpa using name, by simp⟩

/-- The character is neither blank, nor part of a qualified name. -/
def IsSign (c : Char) : Prop := isBlank c = false ∧ c ≠ '.' ∧ continuesName c = false

instance : DecidablePred IsSign := fun _ => inferInstanceAs (Decidable (_ ∧ _ ∧ _))

/-- No sign stands in a qualified name. -/
theorem sign_not_mem_qualifiedName {text : List Char} {sign : Char} (isSign : IsSign sign)
    (qualified : QualifiedName text) : sign ∉ text := by
  obtain ⟨_, noDot, outside⟩ := isSign
  intro member
  rcases mem_qualifiedName qualified member with dot | continues
  · exact noDot dot
  · rw [outside] at continues
    cases continues

/-- No sign is blank. -/
theorem ne_sign_of_isBlank {c sign : Char} (isSign : IsSign sign) (blank : isBlank c = true) :
    c ≠ sign := by
  rintro rfl
  rw [isSign.1] at blank
  cases blank

/-- No sign stands in blank text. -/
theorem sign_not_mem_blank {text : List Char} {sign : Char} (isSign : IsSign sign)
    (blank : Blank text) : sign ∉ text := by
  intro member
  exact ne_sign_of_isBlank isSign (blank sign member) rfl

/-- No sign stands in a qualified name with blank characters around it. -/
theorem sign_not_mem_padded {core text : List Char} {sign : Char} (isSign : IsSign sign)
    (qualified : QualifiedName core) (padded : Padded core text) : sign ∉ text := by
  obtain ⟨front, back, blankFront, blankBack, rfl⟩ := padded
  simp only [List.mem_append, not_or]
  exact ⟨⟨sign_not_mem_blank isSign blankFront, sign_not_mem_qualifiedName isSign qualified⟩,
    sign_not_mem_blank isSign blankBack⟩

/-! ## Properties -/

/-- A property is read exactly from the texts that the grammar gives to it. -/
theorem readProperty_eq_ok_iff {text : List Char} {property : Property} :
    readProperty text = .ok property ↔ PropertyText text property := by
  constructor
  · intro read
    unfold readProperty at read
    split at read
    · cases read
    · next before after cut =>
      dsimp only at read
      split at read
      · cases read
      · next name =>
        split at read
        · cases read
        · next type =>
          cases read
          rw [Bool.not_eq_true, Bool.not_eq_false'] at name type
          refine ⟨before, after, eq_of_cutFirst cut, ?_, ?_, ?_, ?_⟩ <;> rw [String.toList_ofList]
          · exact isName_iff.mp name
          · exact padded_trimmed before
          · exact isQualifiedName_iff.mp type
          · exact padded_trimmed after
  · rintro ⟨before, after, rfl, name, named, type, typed⟩
    have qualified := qualifiedName_of_name name
    have cut := cutFirst_append (sign_not_mem_padded (by decide : IsSign ':') qualified named) after
    have nameText := trimmed_of_padded named (unblank_of_qualifiedName qualified)
    have typeText := trimmed_of_padded typed (unblank_of_qualifiedName type)
    simp only [readProperty, cut, nameText, typeText, isName_iff.mpr name,
      isQualifiedName_iff.mpr type, String.ofList_toList]
    rfl

/-- Blank characters around a property make no difference to the reader. -/
theorem readProperty_cons {c : Char} (blank : isBlank c = true) (text : List Char) :
    readProperty (c :: text) = readProperty text := by
  have noColon : c ≠ ':' := ne_sign_of_isBlank (by decide) blank
  unfold readProperty
  rw [cutFirst, if_neg noColon, trimmed_cons blank]
  cases cutFirst ':' text with
  | none => rfl
  | some cut => simp only [Option.map_some, trimmed_cons blank]

/-- A blank character after a property makes no difference to the reader. -/
theorem readProperty_concat {c : Char} (blank : isBlank c = true) (text : List Char) :
    readProperty (text ++ [c]) = readProperty text := by
  have noColon : c ≠ ':' := ne_sign_of_isBlank (by decide) blank
  unfold readProperty
  rw [cutFirst_concat noColon, trimmed_concat blank]
  cases cutFirst ':' text with
  | none => rfl
  | some cut => simp only [Option.map_some, trimmed_concat blank]

/-- The last piece may be exchanged for one that is read alike. -/
theorem readProperties_last {one other : List Char} (same : readProperty one = readProperty other)
    (front : List (List Char)) :
    readProperties (front ++ [one]) = readProperties (front ++ [other]) := by
  induction front with
  | nil => simp [readProperties, same]
  | cons text rest ih => simp [readProperties, ih]

/-- Trimming the whole list makes no difference to the properties in it. -/
theorem readProperties_trimmed (text : List Char) :
    readProperties (partsAt ',' (trimmed text)) = readProperties (partsAt ',' text) := by
  have noComma {c : Char} (blank : isBlank c = true) : c ≠ ',' :=
    ne_sign_of_isBlank (by decide) blank
  refine (eq_of_padded (fun list => readProperties (partsAt ',' list)) ?_ ?_
    (padded_trimmed text)).symm
  · intro c list blank
    obtain ⟨part, rest, parts, joined⟩ := consHead_eq c (partsAt_ne_nil ',' list)
    rw [partsAt, if_neg (noComma blank), joined, parts, readProperties, readProperties,
      readProperty_cons blank]
  · intro c list blank
    obtain ⟨front, last, parts, longer⟩ := partsAt_concat (noComma blank) list
    rw [parts, longer]
    exact readProperties_last (readProperty_concat blank last) front

/-- Pieces are read one by one, each as a property of its own. -/
theorem readProperties_eq_ok_iff {pieces : List (List Char)} {properties : List Property} :
    readProperties pieces = .ok properties ↔ List.Forall₂ PropertyText pieces properties := by
  induction pieces generalizing properties with
  | nil => cases properties <;> simp [readProperties]
  | cons text rest ih =>
    simp only [readProperties, bind_eq_ok_iff, readProperty_eq_ok_iff, ih,
      List.forall₂_cons_left_iff]
    constructor
    · rintro ⟨property, written, others, writtenOthers, made⟩
      cases made
      exact ⟨property, others, written, writtenOthers, rfl⟩
    · rintro ⟨property, others, written, writtenOthers, rfl⟩
      exact ⟨property, written, others, writtenOthers, rfl⟩

/-- No property holds a comma, so the commas of a list stand between its properties. -/
theorem comma_not_mem_property {text : List Char} {property : Property}
    (written : PropertyText text property) : ',' ∉ text := by
  obtain ⟨before, after, rfl, name, named, type, typed⟩ := written
  have comma : IsSign ',' := by decide
  simp only [List.mem_append, List.mem_cons, not_or]
  exact ⟨sign_not_mem_padded comma (qualifiedName_of_name name) named, by decide,
    sign_not_mem_padded comma type typed⟩

/-- No piece of a list holds a comma. -/
theorem comma_not_mem_pieces {pieces : List (List Char)} {properties : List Property}
    (written : List.Forall₂ PropertyText pieces properties) : ∀ piece ∈ pieces, ',' ∉ piece := by
  induction written with
  | nil => simp
  | cons first _ ih => exact List.forall_mem_cons.mpr ⟨comma_not_mem_property first, ih⟩

/-- A list is cut at its commas exactly where the grammar puts them. -/
theorem readProperties_partsAt_eq_ok_iff {text : List Char} {properties : List Property} :
    readProperties (partsAt ',' text) = .ok properties ↔ PropertyList text properties := by
  rw [readProperties_eq_ok_iff]
  constructor
  · intro written
    exact ⟨partsAt ',' text, partsAt_ne_nil ',' text, written, (intercalate_partsAt ',' text).symm⟩
  · rintro ⟨pieces, nonempty, written, joined⟩
    have parts : partsAt ',' text = pieces :=
      partsAt_eq_iff.mpr ⟨nonempty, comma_not_mem_pieces written, joined⟩
    exact parts ▸ written

/-! ## Declarations -/

/-- A list of blank characters only is no list of properties. -/
theorem trimmed_ne_nil_of_propertyList {text : List Char} {properties : List Property}
    (listed : PropertyList text properties) : trimmed text ≠ [] := by
  intro empty
  have read := readProperties_partsAt_eq_ok_iff.mpr listed
  rw [← readProperties_trimmed, empty] at read
  cases read

/-- What the reader takes for a declaration is one. -/
theorem declarationText_of_readDeclaration {text : List Char} {widget : String}
    {properties : List Property} (read : readDeclaration text = .ok (widget, properties)) :
    DeclarationText text widget properties := by
  unfold readDeclaration at read
  split at read
  · cases read
  · next before inner opened =>
    split at read
    · cases read
    · next list after closed =>
      dsimp only at read
      split at read
      · cases read
      · next trailing =>
        split at read
        · cases read
        · next name =>
          split at read
          · cases read
          · obtain ⟨found, listed, made⟩ := map_eq_ok_iff.mp read
            cases made
            rw [readProperties_trimmed, readProperties_partsAt_eq_ok_iff] at listed
            obtain ⟨rfl, _⟩ := cutLast_eq_some_iff.mp closed
            refine ⟨before, list, after, eq_of_cutFirst opened, ?_, ?_, listed, ?_⟩
            · rw [String.toList_ofList]
              exact isQualifiedName_iff.mp (by simpa using name)
            · rw [String.toList_ofList]
              exact padded_trimmed before
            · exact trimmed_eq_nil_iff.mp (by simpa using trailing)

/-- The reader finds the brackets of a declaration: the first opening one, since the name before it
has none, and the last closing one, since only blank characters follow. -/
theorem readDeclaration_of_declarationText {text : List Char} {widget : String}
    {properties : List Property} (written : DeclarationText text widget properties) :
    readDeclaration text = .ok (widget, properties) := by
  obtain ⟨before, list, after, rfl, name, named, listed, blank⟩ := written
  have opened := cutFirst_append (sign_not_mem_padded (by decide : IsSign '(') name named)
    (list ++ ')' :: after)
  -- Types may not hold a bracket, but the rule for the last one is that only blanks follow it.
  have closed : cutLast ')' (list ++ ')' :: after) = some (list, after) :=
    cutLast_eq_some_iff.mpr ⟨rfl, sign_not_mem_blank (by decide) blank⟩
  have widgetText := trimmed_of_padded named (unblank_of_qualifiedName name)
  have nonempty : (trimmed list).isEmpty = false :=
    List.isEmpty_eq_false_iff.mpr (trimmed_ne_nil_of_propertyList listed)
  have read : readProperties (partsAt ',' (trimmed list)) = .ok properties :=
    (readProperties_trimmed list).trans (readProperties_partsAt_eq_ok_iff.mpr listed)
  simp only [readDeclaration, opened, closed, widgetText, trimmed_eq_nil_iff.mpr blank,
    isQualifiedName_iff.mpr name, nonempty, read, String.ofList_toList]
  rfl

/-- A declaration is read exactly from the texts that the grammar gives to it. -/
theorem readDeclaration_eq_ok_iff {text : List Char} {widget : String}
    {properties : List Property} :
    readDeclaration text = .ok (widget, properties) ↔ DeclarationText text widget properties :=
  ⟨declarationText_of_readDeclaration, readDeclaration_of_declarationText⟩

example : readDeclaration "a.B ( text : T,\tsize: b.$U )".toList =
    .ok ("a.B", [⟨"text", "T"⟩, ⟨"size", "b.$U"⟩]) := by
  decide +kernel

/-! ## Files -/

/-- A line that a file may have, without the blank characters at its ends. -/
inductive AcceptedLine (content : List Char) : Prop
  | nothing (empty : content = [])
  | comment (begins : content.head? = some '#')
  | declaration (widget : String) (properties : List Property)
      (written : DeclarationText content widget properties)
      (distinct : (properties.map (·.name)).Nodup)

/-- No name is found to be repeated exactly if all differ, from each other and from those before. -/
theorem firstRepeated_eq_none_iff {seen names : List String} :
    firstRepeated seen names = none ↔ names.Nodup ∧ ∀ name ∈ names, name ∉ seen := by
  induction names generalizing seen with
  | nil => simp [firstRepeated]
  | cons name rest ih =>
    by_cases repeated : name ∈ seen
    · simp [firstRepeated, repeated]
    · simp only [firstRepeated, List.contains_iff_mem, repeated, if_false, ih]
      rw [List.nodup_cons, List.forall_mem_cons]
      constructor
      · rintro ⟨distinct, fresh⟩
        refine ⟨⟨fun later => fresh name later List.mem_cons_self, distinct⟩, repeated, ?_⟩
        intro other member inSeen
        exact fresh other member (List.mem_cons_of_mem name inSeen)
      · rintro ⟨⟨absent, distinct⟩, _, fresh⟩
        refine ⟨distinct, fun other member clash => ?_⟩
        rcases List.mem_cons.mp clash with rfl | inSeen
        · exact absent member
        · exact fresh other member inSeen

/-- A line that is neither blank nor a comment is accepted for its declaration only. -/
theorem acceptedLine_iff_of_content {content : List Char}
    (isContent : ¬(content.isEmpty || decide (content.head? = some '#')) = true) :
    AcceptedLine content ↔ ∃ widget properties,
      readDeclaration content = .ok (widget, properties) ∧
        firstRepeated [] (properties.map (·.name)) = none := by
  simp only [readDeclaration_eq_ok_iff, firstRepeated_eq_none_iff, List.not_mem_nil,
    not_false_eq_true, implies_true, and_true]
  constructor
  · rintro (empty | begins | ⟨widget, properties, written, distinct⟩)
    · simp [empty] at isContent
    · simp [begins] at isContent
    · exact ⟨widget, properties, written, distinct⟩
  · rintro ⟨widget, properties, written, distinct⟩
    exact .declaration widget properties written distinct

/-- A line is free of faults exactly if it is accepted. -/
theorem error?_read_eq_none_iff (file : SourceFile) (line : SourceLine) :
    (line.read file).error? = none ↔ AcceptedLine line.content := by
  unfold SourceLine.read
  dsimp only
  split
  · next skipped =>
    refine iff_of_true rfl ?_
    rcases Bool.or_eq_true_iff.mp skipped with empty | begins
    · exact .nothing (List.isEmpty_iff.mp empty)
    · exact .comment (by simpa using begins)
  · next isContent =>
    rw [acceptedLine_iff_of_content isContent]
    cases readDeclaration line.content with
    | error fault => simp [LineReading.error?]
    | ok declared =>
      obtain ⟨widget, properties⟩ := declared
      cases repeated : firstRepeated [] (properties.map (·.name)) <;>
        simp [LineReading.error?, repeated]

/-- Numbering the lines leaves their texts alone. -/
theorem map_text_place (number start : Nat) (texts : List (List Char)) :
    (SourceLine.place number start texts).map (·.text) = texts := by
  induction texts generalizing number start with
  | nil => rfl
  | cons text rest ih => rw [SourceLine.place, List.map_cons, ih]

/-- The reader accepts exactly its grammar.

A line is read as a declaration, with just these properties in this order, exactly if the grammar
gives them to its text. A file is read exactly if each of its lines is blank, a comment, or a
declaration that names no property twice. -/
theorem accepts_exactly :
    (∀ text widget properties, readDeclaration text = .ok (widget, properties) ↔
      DeclarationText text widget properties) ∧
    ∀ (registry : Registry) (file : SourceFile),
      (∃ outcome, registry.readFile file = .ok outcome) ↔
        ∀ text ∈ Text.lines file.text.toList, AcceptedLine (trimmed text) := by
  refine ⟨fun _ _ _ => readDeclaration_eq_ok_iff, fun registry file => ?_⟩
  have faultless : (∃ outcome, registry.readFile file = .ok outcome) ↔ file.lineErrors = [] := by
    unfold Registry.readFile
    cases file.lineErrors <;> simp
  have texts : Text.lines file.text.toList = file.lines.map (·.text) :=
    (map_text_place 1 0 _).symm
  rw [faultless, texts]
  simp only [SourceFile.lineErrors, SourceFile.readings, List.filterMap_map,
    List.filterMap_eq_nil_iff, List.forall_mem_map, Function.comp_apply, error?_read_eq_none_iff,
    SourceLine.content]

end WidgetBuilders.Grammar
