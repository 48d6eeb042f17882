import Mathlib.Data.List.Nodup
import WidgetBuilders.Proofs.AddedFiles

/-!
# A registry that is printed reads back

A declaration is printed in diagnostics and in the log as it would be written in a file, and the
reader was made without regard to the printer. Here they meet: a file of printed declarations, one
on each line, gives the registry that was printed.

The order of the lines is free as long as the helper constructors of each widget keep theirs, since
no lookup shows more than that. Places are lost: the lines of the new file have their own. For the
reader to take each line for what was printed, names have to be names and no property may be named
twice; and no helper constructor may repeat the properties of another one of the same widget, or it
would be left out. These are also the registries that files can make.
-/

namespace WidgetBuilders

open Grammar Text

/-! ## What can be printed -/

/-- The declaration could have been written in a file. -/
structure Declaration.WellFormed (declaration : Declaration) : Prop where
  widget : QualifiedName declaration.widget.toList
  nonempty : declaration.spec.properties ≠ []
  names : ∀ property ∈ declaration.spec.properties, Name property.name.toList
  types : ∀ property ∈ declaration.spec.properties, QualifiedName property.type.toList
  distinct : (declaration.spec.properties.map (·.name)).Nodup

instance (text : List Char) : Decidable (Name text) :=
  decidable_of_iff _ isName_iff

instance (text : List Char) : Decidable (QualifiedName text) :=
  decidable_of_iff _ isQualifiedName_iff

instance (declaration : Declaration) : Decidable declaration.WellFormed :=
  decidable_of_iff
    (QualifiedName declaration.widget.toList ∧ declaration.spec.properties ≠ [] ∧
      (∀ property ∈ declaration.spec.properties, Name property.name.toList) ∧
      (∀ property ∈ declaration.spec.properties, QualifiedName property.type.toList) ∧
      (declaration.spec.properties.map (·.name)).Nodup)
    ⟨fun ⟨widget, nonempty, names, types, distinct⟩ => ⟨widget, nonempty, names, types, distinct⟩,
      fun ⟨widget, nonempty, names, types, distinct⟩ => ⟨widget, nonempty, names, types, distinct⟩⟩

namespace Registry

/-- All declarations could have been written in files, and none of them repeats another. -/
structure WellFormed (registry : Registry) : Prop where
  declared : ∀ widget, ∀ spec ∈ registry.specsOf widget, Declaration.WellFormed ⟨widget, spec⟩
  distinct : ∀ widget, ((registry.specsOf widget).map (·.properties)).Nodup

/-- What a lookup gives, without places: the properties of each helper constructor. -/
def propertiesOf (registry : Registry) (widget : String) : Option (List (List Property)) :=
  (registry.lookup widget).map fun specs => specs.map (·.properties)

/-- Declarations, one on each line; `ending` comes after the last one. -/
def printed (ending : String) : List Declaration → String
  | [] => ""
  | [declaration] => declaration.line ++ ending
  | declaration :: rest => declaration.line ++ "\n" ++ printed ending rest

end Registry

/-! ## A printed declaration is a declaration -/

namespace Grammar

/-- A property is printed as the grammar has it, without blank characters around its name. -/
theorem propertyText_declaration {property : Property} (name : Name property.name.toList)
    (type : QualifiedName property.type.toList) :
    PropertyText property.declaration.toList property := by
  refine ⟨property.name.toList, ' ' :: property.type.toList, ?_, name,
    ⟨[], [], by simp [Blank], by simp [Blank], by simp⟩, type,
    ⟨[' '], [], ?_, by simp [Blank], by simp⟩⟩
  · simp [Property.declaration]
  · intro c member
    rw [List.mem_singleton.mp member]
    decide

/-- A blank character may come before a property. -/
theorem PropertyText.cons {c : Char} (blank : isBlank c = true) {text : List Char}
    {property : Property} (written : PropertyText text property) :
    PropertyText (c :: text) property := by
  obtain ⟨before, after, rfl, name, ⟨front, back, blankFront, blankBack, rfl⟩, type, typed⟩ :=
    written
  refine ⟨c :: (front ++ property.name.toList ++ back), after, rfl, name, ?_, type, typed⟩
  exact ⟨c :: front, back, List.forall_mem_cons.mpr ⟨blank, blankFront⟩, blankBack, rfl⟩

/-- One property more may come before a list, with a comma and a blank character between them. -/
theorem PropertyList.cons {c : Char} (blank : isBlank c = true) {piece text : List Char}
    {property : Property} {properties : List Property} (written : PropertyText piece property)
    (listed : PropertyList text properties) :
    PropertyList (piece ++ ',' :: c :: text) (property :: properties) := by
  obtain ⟨pieces, nonempty, others, rfl⟩ := listed
  cases others with
  | nil => exact absurd rfl nonempty
  | @cons next _ more _ first later =>
    refine ⟨piece :: (c :: next) :: more, by simp,
      .cons written (.cons (first.cons blank) later), ?_⟩
    cases more with
    | nil => simp [List.intercalate_cons_cons]
    | cons third more => simp [List.intercalate_cons_cons]

/-- Properties are printed as the grammar has a list of them. -/
theorem propertyList_parameterList {properties : List Property} (nonempty : properties ≠ [])
    (names : ∀ property ∈ properties, Name property.name.toList)
    (types : ∀ property ∈ properties, QualifiedName property.type.toList) :
    PropertyList (commaSeparated (properties.map Property.declaration)).toList properties := by
  induction properties with
  | nil => exact absurd rfl nonempty
  | cons property rest ih =>
    obtain ⟨name, laterNames⟩ := List.forall_mem_cons.mp names
    obtain ⟨type, laterTypes⟩ := List.forall_mem_cons.mp types
    have first := propertyText_declaration name type
    cases rest with
    | nil =>
      exact ⟨[property.declaration.toList], by simp, .cons first .nil, by simp [commaSeparated]⟩
    | cons next more =>
      have later := ih (by simp) laterNames laterTypes
      have joined := PropertyList.cons (by decide : isBlank ' ' = true) first later
      simpa [commaSeparated] using joined

end Grammar

namespace Declaration

variable {declaration : Declaration}

/-- The line of a declaration, character by character. -/
theorem toList_line : declaration.line.toList =
    declaration.widget.toList ++ '(' :: (declaration.spec.parameterList.toList ++ [')']) := by
  simp [line]

/-- A printed declaration is derived by the grammar. -/
theorem WellFormed.written (wellFormed : declaration.WellFormed) :
    DeclarationText declaration.line.toList declaration.widget declaration.spec.properties := by
  refine ⟨declaration.widget.toList, declaration.spec.parameterList.toList, [], toList_line,
    wellFormed.widget, ⟨[], [], by simp [Blank], by simp [Blank], by simp⟩, ?_, by simp [Blank]⟩
  exact propertyList_parameterList wellFormed.nonempty wellFormed.names wellFormed.types

/-- No name holds a line feed, so a declaration is printed on one line. -/
theorem feed_not_mem_qualifiedName {text : List Char} (qualified : QualifiedName text) :
    '\n' ∉ text := by
  intro member
  have unblank := unblank_of_qualifiedName qualified '\n' member
  revert unblank
  decide

/-- A printed declaration stands on one line. -/
theorem WellFormed.single (wellFormed : declaration.WellFormed) :
    '\n' ∉ declaration.line.toList := by
  have properties : '\n' ∉ declaration.spec.parameterList.toList := by
    intro member
    rcases mem_commaSeparated member with comma | space | ⟨text, among, inside⟩
    · exact absurd comma (by decide)
    · exact absurd space (by decide)
    · obtain ⟨property, present, rfl⟩ := List.mem_map.mp among
      have name := qualifiedName_of_name (wellFormed.names property present)
      have type := wellFormed.types property present
      simp [Property.declaration, feed_not_mem_qualifiedName name,
        feed_not_mem_qualifiedName type] at inside
  simp [toList_line, properties, feed_not_mem_qualifiedName wellFormed.widget]

/-- A printed declaration begins with a character of a name. -/
theorem WellFormed.begins (wellFormed : declaration.WellFormed) :
    ∃ first rest, declaration.line.toList = first :: (rest ++ [')']) ∧
      isBlank first = false ∧ first ≠ '#' := by
  have qualified := wellFormed.widget
  have sign : '#' ∉ declaration.widget.toList :=
    sign_not_mem_qualifiedName (by decide) qualified
  cases shape : declaration.widget.toList with
  | nil =>
    rw [shape] at qualified
    exact absurd (isQualifiedName_iff.mpr qualified) (by decide)
  | cons first rest =>
    refine ⟨first, rest ++ '(' :: declaration.spec.parameterList.toList, ?_, ?_, ?_⟩
    · simp [toList_line, shape]
    · exact unblank_of_qualifiedName qualified first (by simp [shape])
    · rintro rfl
      simp [shape] at sign

/-- Nothing is trimmed off a printed declaration, but the line feed after it is. -/
theorem WellFormed.trimmed_line (wellFormed : declaration.WellFormed) :
    trimmed declaration.line.toList = declaration.line.toList ∧
      trimmed (declaration.line.toList ++ ['\n']) = declaration.line.toList := by
  obtain ⟨first, rest, shape, unblank, _⟩ := wellFormed.begins
  have whole : trimmed declaration.line.toList = declaration.line.toList := by
    rw [shape]
    exact trimmed_of_ends unblank (by decide) rest
  exact ⟨whole, (trimmed_concat (by decide) _).trans whole⟩

end Declaration

/-! ## Reading what was printed -/

/-- The declaration without its place. -/
def Declaration.unplaced (declaration : Declaration) : String × List Property :=
  (declaration.widget, declaration.spec.properties)

/-- A line with a printed declaration is read as this declaration. -/
theorem SourceLine.read_of_printed (file : SourceFile) {line : SourceLine}
    {declaration : Declaration} (wellFormed : declaration.WellFormed)
    (content : line.content = declaration.line.toList) :
    line.read file = .declares
      ⟨declaration.widget, ⟨declaration.spec.properties, some (line.span file)⟩⟩ := by
  have written := wellFormed.written
  rw [← content] at written
  have said := line.read_of file
  generalize line.read file = reading at said
  cases said with
  | nothing skipped =>
    obtain ⟨first, rest, shape, _, noComment⟩ := wellFormed.begins
    rw [SourceLine.Skipped, content, shape] at skipped
    simp [noComment] at skipped
  | declares speaks other distinct =>
    have same := readDeclaration_of_declarationText other
    rw [readDeclaration_of_declarationText written] at same
    cases same
    rfl
  | faulty refused holds =>
    exact absurd (.declaration _ _ written wellFormed.distinct) refused

namespace SourceFile

/-- A file whose lines are printed declarations has no faults, and declares what was printed. -/
theorem declarations_of_printed {file : SourceFile} {order : List Declaration}
    (wellFormed : ∀ declaration ∈ order, declaration.WellFormed)
    (contents : file.lines.map (·.content) = order.map (·.line.toList)) :
    file.lineErrors = [] ∧
      file.declarations.map Declaration.unplaced = order.map Declaration.unplaced := by
  unfold lineErrors declarations readings
  generalize file.lines = lines at contents
  induction lines generalizing order with
  | nil =>
    cases order with
    | nil => exact ⟨rfl, rfl⟩
    | cons => cases contents
  | cons line rest ih =>
    cases order with
    | nil => cases contents
    | cons declaration others =>
      obtain ⟨content, later⟩ := List.cons.inj contents
      obtain ⟨first, wellFormedLater⟩ := List.forall_mem_cons.mp wellFormed
      obtain ⟨free, declared⟩ := ih wellFormedLater later
      have read := SourceLine.read_of_printed file first content
      constructor
      · simpa [read, LineReading.error?] using free
      · simpa [read, LineReading.declaration?, Declaration.unplaced] using declared

end SourceFile

namespace Registry

/-- The lines of what was printed are the printed declarations. -/
theorem contents_printed {order : List Declaration} {ending : String}
    (wellFormed : ∀ declaration ∈ order, declaration.WellFormed)
    (ends : ending = "" ∨ ending = "\n") :
    (lines (printed ending order).toList).map trimmed = order.map (·.line.toList) := by
  induction order with
  | nil => rfl
  | cons declaration rest ih =>
    obtain ⟨first, later⟩ := List.forall_mem_cons.mp wellFormed
    have single := first.single
    obtain ⟨whole, fed⟩ := first.trimmed_line
    cases rest with
    | nil =>
      -- Without a line feed, the last line is cut off by the end of the text.
      rcases ends with rfl | rfl
      · obtain ⟨c, others, shape, _⟩ := first.begins
        have cut := lines_of_not_mem (by simp [shape]) single
        simp [printed, cut, whole]
      · have cut := lines_append single []
        simp [printed, cut, fed, lines]
    | cons next more =>
      have cut := lines_append single (printed ending (next :: more)).toList
      have shape : (printed ending (declaration :: next :: more)).toList =
          declaration.line.toList ++ '\n' :: (printed ending (next :: more)).toList := by
        simp [printed]
      rw [shape, cut, List.map_cons, fed, ih later]
      rfl

/-! ## Adding what was read -/

/-- What is declared later for a widget comes after what was declared before. -/
theorem specsOf_append (front back : List Declaration) (widget : String) :
    specsOf ⟨front ++ back⟩ widget = specsOf ⟨front⟩ widget ++ specsOf ⟨back⟩ widget := by
  simp [specsOf]

/-- Declarations that repeat neither each other nor the registry are all added. -/
theorem addAll_of_distinct (registry : Registry) (declarations : List Declaration)
    (distinct : ∀ widget, ((specsOf ⟨registry.declarations ++ declarations⟩ widget).map
      (·.properties)).Nodup) :
    registry.addAll declarations =
      (⟨registry.declarations ++ declarations⟩, declarations.map Entry.added) := by
  induction declarations generalizing registry with
  | nil => simp [addAll]
  | cons declaration rest ih =>
    have new : ¬registry.holds declaration = true := by
      rw [holds_iff]
      rintro ⟨spec, member, same⟩
      have apart := distinct declaration.widget
      rw [specsOf_append, List.map_append, List.nodup_append] at apart
      refine apart.2.2 spec.properties (List.mem_map_of_mem member)
        declaration.spec.properties ?_ same
      simp [specsOf]
    have grown : (registry.insert declaration.widget declaration.spec).declarations ++ rest =
        registry.declarations ++ declaration :: rest := by
      simp [insert]
    rw [addAll, if_neg new, ih _ (by rw [grown]; exact distinct), grown]
    rfl

/-- What is found for a widget depends on nothing but the declarations without their places. -/
theorem map_properties_specsOf (declarations : List Declaration) (widget : String) :
    (specsOf ⟨declarations⟩ widget).map (·.properties) =
      ((declarations.map Declaration.unplaced).filter (·.1 = widget)).map (·.2) := by
  rw [specsOf, List.filter_map, List.map_map, List.map_map]
  rfl

/-- Lookups without places agree if the helper constructors do, in number and in properties. -/
theorem propertiesOf_eq_of_map {registry other : Registry} {widget : String}
    (same : (registry.specsOf widget).map (·.properties) =
      (other.specsOf widget).map (·.properties)) :
    registry.propertiesOf widget = other.propertiesOf widget := by
  unfold propertiesOf lookup
  cases own : registry.specsOf widget <;> cases others : other.specsOf widget <;>
    simp_all

/-- What was printed of a registry is added to the empty one as a whole. -/
theorem readFile_of_printed {registry : Registry} (wellFormed : registry.WellFormed)
    {order : List Declaration} (each : ∀ declaration ∈ order, declaration.WellFormed)
    (kept : ∀ widget, specsOf ⟨order⟩ widget = registry.specsOf widget)
    {file : SourceFile} (contents : file.lines.map (·.content) = order.map (·.line.toList)) :
    empty.readFile file = .ok (⟨file.declarations⟩, file.declarations.map Entry.added) ∧
      ∀ widget, (specsOf ⟨file.declarations⟩ widget).map (·.properties) =
        (registry.specsOf widget).map (·.properties) := by
  obtain ⟨free, declared⟩ := SourceFile.declarations_of_printed each contents
  have found : ∀ widget, (specsOf ⟨file.declarations⟩ widget).map (·.properties) =
      (registry.specsOf widget).map (·.properties) := by
    intro widget
    rw [map_properties_specsOf, declared, ← map_properties_specsOf, kept]
  refine ⟨?_, found⟩
  rw [readFile_of_faultless free, addAll_of_distinct]
  · simp [empty]
  · intro widget
    simpa [empty, found] using wellFormed.distinct widget

/-- A registry is well-formed if its declarations are and no two of them say the same. -/
theorem wellFormed_of_unplaced {registry : Registry}
    (each : ∀ declaration ∈ registry.declarations, declaration.WellFormed)
    (distinct : (registry.declarations.map Declaration.unplaced).Nodup) : registry.WellFormed := by
  constructor
  case declared => exact fun widget spec member => each _ (mem_specsOf.mp member)
  case distinct =>
    intro widget
    rw [map_properties_specsOf]
    refine List.Nodup.map_on ?_ (distinct.filter _)
    intro one member other also same
    have own : one.1 = widget := by simpa using (List.mem_filter.mp member).2
    have others : other.1 = widget := by simpa using (List.mem_filter.mp also).2
    exact Prod.ext (own.trans others.symm) same

/-! ## What files make -/

/-- Nothing is declared that could not have been written. -/
theorem wellFormed_empty : empty.WellFormed where
  declared := by simp [empty, specsOf]
  distinct := by simp [empty, specsOf]

/-- A declaration that is new to the registry may be added to it. -/
theorem WellFormed.insert {registry : Registry} (wellFormed : registry.WellFormed)
    {declaration : Declaration} (own : declaration.WellFormed) (new : ¬registry.Has declaration) :
    (registry.insert declaration.widget declaration.spec).WellFormed := by
  obtain ⟨atOwn, atOthers, _⟩ := registry.grows_insert declaration
  constructor
  case declared =>
    intro widget spec member
    by_cases same : widget = declaration.widget
    · rw [same, atOwn] at member
      rw [same]
      rcases List.mem_append.mp member with before | added
      · exact wellFormed.declared _ spec before
      · rw [List.mem_singleton.mp added]
        exact own
    · rw [atOthers widget same] at member
      exact wellFormed.declared widget spec member
  case distinct =>
    intro widget
    by_cases same : widget = declaration.widget
    · rw [same, atOwn, List.map_append, List.map_singleton, List.nodup_append]
      refine ⟨wellFormed.distinct _, by simp, ?_⟩
      intro properties member other added equal
      obtain ⟨spec, present, rfl⟩ := List.mem_map.mp member
      rw [List.mem_singleton.mp added] at equal
      exact new ⟨spec, present, equal⟩
    · rw [atOthers widget same]
      exact wellFormed.distinct widget

/-- A registry to which declarations that could be written are added stays well formed. -/
theorem WellFormed.addAll {registry : Registry} (wellFormed : registry.WellFormed)
    {declarations : List Declaration}
    (each : ∀ declaration ∈ declarations, declaration.WellFormed) :
    (registry.addAll declarations).1.WellFormed := by
  induction declarations generalizing registry with
  | nil => exact wellFormed
  | cons declaration rest ih =>
    obtain ⟨first, later⟩ := List.forall_mem_cons.mp each
    by_cases known : registry.holds declaration = true
    · rw [Registry.addAll, if_pos known]
      exact ih wellFormed later
    · rw [Registry.addAll, if_neg known]
      exact ih (wellFormed.insert first fun has => known (holds_iff.mpr has)) later

end Registry

/-- Properties that the grammar gives have names and types that can be printed. -/
theorem Grammar.named_and_typed {pieces : List (List Char)} {properties : List Property}
    (written : List.Forall₂ PropertyText pieces properties) :
    ∀ property ∈ properties, Name property.name.toList ∧ QualifiedName property.type.toList := by
  induction written with
  | nil => simp
  | cons first _ ih =>
    obtain ⟨_, _, _, name, _, type, _⟩ := first
    exact List.forall_mem_cons.mpr ⟨⟨name, type⟩, ih⟩

/-- What the grammar gives to a text could be printed. -/
theorem Declaration.wellFormed_of_written {declaration : Declaration} {text : List Char}
    (written : DeclarationText text declaration.widget declaration.spec.properties)
    (distinct : (declaration.spec.properties.map (·.name)).Nodup) : declaration.WellFormed := by
  obtain ⟨_, _, _, _, widget, _, ⟨pieces, nonempty, each, _⟩, _⟩ := written
  constructor
  case widget => exact widget
  case nonempty =>
    intro empty
    rw [empty] at each
    cases each
    exact nonempty rfl
  case names => exact fun property member => (named_and_typed each property member).1
  case types => exact fun property member => (named_and_typed each property member).2
  case distinct => exact distinct

namespace Registry

/-- A registry to which a file is added stays well formed, whatever the file holds. -/
theorem WellFormed.after {registry : Registry} (wellFormed : registry.WellFormed)
    (file : SourceFile) : (registry.after file).WellFormed := by
  by_cases free : file.lineErrors = []
  · rw [Registry.after, readFile_of_faultless free]
    refine wellFormed.addAll fun declaration member => ?_
    obtain ⟨_, _, _, written, distinct⟩ := SourceFile.exists_line_of_declares member
    exact Declaration.wellFormed_of_written written distinct
  · rw [Registry.after, readFile_of_faulty free]
    exact wellFormed

/-- Whatever files make of the empty registry could be printed. -/
theorem wellFormed_ofFiles (files : List SourceFile) : (ofFiles files).WellFormed := by
  induction files using List.reverseRecOn with
  | nil => exact wellFormed_empty
  | append_singleton files file ih =>
    rw [ofFiles_append_singleton]
    exact ih.after file

/-- A registry that is printed reads back.

The declarations of a well-formed registry are printed one on each line, in any order that keeps
those of each widget in theirs; the last line may go without a line feed. The empty registry takes
the file, nothing is reported, and a lookup for any widget, known or not, then gives what it gave in
the registry that was printed, up to places. Registries that files make, in any number, with faults
or not, are well-formed. -/
theorem reads_back_as_printed :
    (∀ (registry : Registry) (order : List Declaration) (ending fileName : String),
      registry.WellFormed → (∀ widget, specsOf ⟨order⟩ widget = registry.specsOf widget) →
      (ending = "" ∨ ending = "\n") →
      let file : SourceFile := ⟨fileName, printed ending order⟩
      (∃ outcome, empty.readFile file = .ok outcome) ∧ empty.reported file = [] ∧
        ∀ widget, (empty.after file).propertiesOf widget = registry.propertiesOf widget) ∧
    ∀ files : List SourceFile, (ofFiles files).WellFormed := by
  refine ⟨?_, wellFormed_ofFiles⟩
  intro registry order ending fileName wellFormed kept ends file
  have each : ∀ declaration ∈ order, declaration.WellFormed := by
    intro declaration member
    apply wellFormed.declared
    rw [← kept]
    exact mem_specsOf.mpr member
  have contents : file.lines.map (·.content) = order.map (·.line.toList) := by
    rw [← contents_printed each ends, ← map_text_place 1 0 (lines (printed ending order).toList),
      List.map_map]
    rfl
  obtain ⟨read, found⟩ := readFile_of_printed wellFormed each kept contents
  refine ⟨⟨_, read⟩, ?_, ?_⟩
  · rw [reported, read]
    simp [List.filterMap_map, Function.comp_def, Entry.warning?]
  · intro widget
    rw [Registry.after, read]
    exact propertiesOf_eq_of_map (found widget)

end Registry

/-- Helper constructors of two widgets, one of them between those of the other. -/
def interleaved : Registry :=
  ((Registry.empty.insert "a.B" ⟨[⟨"text", "T"⟩], none⟩).insert
      "a.C" ⟨[⟨"text", "T"⟩], none⟩).insert
    "a.B" ⟨[⟨"size", "int"⟩, ⟨"text", "b.$U"⟩], none⟩

/-- The same helper constructors, with the lone one at the end. -/
def gathered : List Declaration :=
  [⟨"a.B", ⟨[⟨"text", "T"⟩], none⟩⟩, ⟨"a.B", ⟨[⟨"size", "int"⟩, ⟨"text", "b.$U"⟩], none⟩⟩,
    ⟨"a.C", ⟨[⟨"text", "T"⟩], none⟩⟩]

/-- Declarations of two widgets, one among the others, are printed widget by widget and read back.
-/
theorem Registry.reads_back_as_printed_of_interleaved :
    let file : SourceFile :=
      ⟨"printed", "a.B(text: T)\na.B(size: int, text: b.$U)\na.C(text: T)"⟩
    printed "" gathered = file.text ∧ interleaved.WellFormed ∧
      (∀ widget, specsOf ⟨gathered⟩ widget = interleaved.specsOf widget) ∧
      (∃ outcome, empty.readFile file = .ok outcome) ∧ empty.reported file = [] ∧
      ∀ widget, (empty.after file).propertiesOf widget = interleaved.propertiesOf widget := by
  intro file
  have text : printed "" gathered = file.text := by decide +kernel
  have wellFormed : interleaved.WellFormed :=
    wellFormed_of_unplaced (by decide +kernel) (by decide +kernel)
  have kept : ∀ widget, specsOf ⟨gathered⟩ widget = interleaved.specsOf widget := by
    intro widget
    by_cases first : "a.B" = widget
    · subst first
      decide +kernel
    · by_cases second : "a.C" = widget
      · subst second
        decide +kernel
      · simp [specsOf, gathered, interleaved, insert, empty, first, second]
  have read :=
    reads_back_as_printed.1 interleaved gathered "" "printed" wellFormed kept (Or.inl rfl)
  dsimp only at read
  rw [text] at read
  exact ⟨text, wellFormed, kept, read⟩

end WidgetBuilders
