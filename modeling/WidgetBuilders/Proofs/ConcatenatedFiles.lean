import WidgetBuilders.Proofs.PrintedRegistry

/-!
# Files one after another

A file that is cut between two lines adds up to the same registry as before. What a line says
depends on its content alone, and its content on the characters between two line feeds; so the lines
of a text are those of its two parts, provided that the first part ends where a line ends. Without a
line feed there, the last line of the first part and the first line of the second would become one.

Whether a declaration is added depends on all that came before it, in this file or in another one.
So both ways are compared with a list of declarations without their places, which takes in whatever
it does not hold yet. The registry and its warnings follow that list step by step, and the list
cannot tell where it was interrupted.

Nothing is ever taken out of the list. A file that was added can therefore be read again at any
time: all that it declares is there, and it is warned of each of its declarations.
-/

namespace WidgetBuilders

open Grammar Text

/-! ## Texts in two parts -/

/-- Text that is not empty has a line. -/
theorem Text.lines_ne_nil {text : List Char} (nonempty : text ≠ []) : lines text ≠ [] := by
  cases text with
  | nil => exact absurd rfl nonempty
  | cons c rest =>
    rw [lines]
    split
    · simp
    · cases lines rest <;> simp [consHead]

/-- A text can be cut after any of its line feeds. -/
theorem Text.lines_append_after_feed (front back : List Char) :
    lines (front ++ '\n' :: back) = lines (front ++ ['\n']) ++ lines back := by
  induction front with
  | nil => simp [lines]
  | cons c rest ih =>
    rw [List.cons_append, List.cons_append, lines, lines, ih]
    split
    · rfl
    · have nonempty : lines (rest ++ ['\n']) ≠ [] := lines_ne_nil (by simp)
      cases first : lines (rest ++ ['\n']) with
      | nil => exact absurd first nonempty
      | cons line more => rfl

namespace SourceFile

/-- The lines of the file without blank characters at their ends. -/
def contents (file : SourceFile) : List (List Char) :=
  (Text.lines file.text.toList).map trimmed

/-- Numbering the lines leaves their contents alone. -/
theorem map_content_lines (file : SourceFile) : file.lines.map (·.content) = file.contents := by
  rw [contents, ← map_text_place 1 0 (Text.lines file.text.toList), List.map_map]
  rfl

/-- A text that ends where a line ends, or is empty, and another one after it. -/
theorem contents_concatenated {first : String}
    (ended : first = "" ∨ ∃ front, first = front ++ "\n")
    (second name firstName secondName : String) :
    contents ⟨name, first ++ second⟩ =
      contents ⟨firstName, first⟩ ++ contents ⟨secondName, second⟩ := by
  rcases ended with rfl | ⟨front, rfl⟩
  · simp [contents, Text.lines]
  · have cut := lines_append_after_feed front.toList second.toList
    simp [contents, cut]

end SourceFile

/-! ## What is declared, without places -/

/-- What a line with this content declares, wherever it stands. -/
def Grammar.declared? (content : List Char) : Option (String × List Property) :=
  if content.isEmpty || content.head? = some '#' then
    none
  else
    match readDeclaration content with
    | .error _ => none
    | .ok (widget, properties) =>
      match firstRepeated [] (properties.map (·.name)) with
      | some _ => none
      | none => some (widget, properties)

namespace SourceFile

/-- What a line declares, but for its place, is told by its content. -/
theorem unplaced_declaration?_read (file : SourceFile) (line : SourceLine) :
    (line.read file).declaration?.map Declaration.unplaced = declared? line.content := by
  unfold SourceLine.read declared?
  dsimp only
  split
  · rfl
  · cases readDeclaration line.content with
    | error fault => rfl
    | ok declared =>
      dsimp only
      cases firstRepeated [] (declared.2.map (·.name)) <;> rfl

/-- What a file declares, but for places, is told by the contents of its lines. -/
theorem unplaced_declarations (file : SourceFile) :
    file.declarations.map Declaration.unplaced = file.contents.filterMap declared? := by
  rw [← map_content_lines, declarations, readings, List.filterMap_map, List.map_filterMap,
    List.filterMap_map]
  exact List.filterMap_congr fun line _ => file.unplaced_declaration?_read line

end SourceFile

namespace Registry

/-- The declarations of a registry without their places. -/
def unplaced (registry : Registry) : List (String × List Property) :=
  registry.declarations.map Declaration.unplaced

/-- Registries with the same declarations, but for places, answer lookups alike. -/
theorem propertiesOf_eq_of_unplaced {registry other : Registry}
    (same : registry.unplaced = other.unplaced) (widget : String) :
    registry.propertiesOf widget = other.propertiesOf widget := by
  apply propertiesOf_eq_of_map
  have own := map_properties_specsOf registry.declarations widget
  have others := map_properties_specsOf other.declarations widget
  rw [unplaced, unplaced] at same
  rw [same] at own
  exact own.trans others.symm

/-- A declaration is left out exactly if it is there, wherever it was declared. -/
theorem holds_iff_mem_unplaced {registry : Registry} {declaration : Declaration} :
    registry.holds declaration = true ↔ declaration.unplaced ∈ registry.unplaced := by
  rw [holds_iff, unplaced, List.mem_map]
  constructor
  · rintro ⟨spec, member, same⟩
    exact ⟨_, mem_specsOf.mp member, by rw [Declaration.unplaced, same, Declaration.unplaced]⟩
  · rintro ⟨⟨widget, spec⟩, member, same⟩
    obtain ⟨rfl, properties⟩ := Prod.mk.inj same
    exact ⟨spec, mem_specsOf.mpr member, properties⟩

/-! ## Growing without repetitions -/

section Growing

variable {α : Type} [DecidableEq α]

/-- A list that takes in each item that it does not hold by then. -/
def grown (known : List α) : List α → List α
  | [] => known
  | item :: rest => if item ∈ known then grown known rest else grown (known ++ [item]) rest

/-- The items that the list holds when it comes to them. -/
def repeats (known : List α) : List α → List α
  | [] => []
  | item :: rest =>
    if item ∈ known then item :: repeats known rest else repeats (known ++ [item]) rest

/-- It makes no difference where the growth is interrupted. -/
theorem grown_append (known front back : List α) :
    grown known (front ++ back) = grown (grown known front) back := by
  induction front generalizing known with
  | nil => rfl
  | cons item rest ih =>
    rw [List.cons_append, grown, grown]
    split <;> exact ih _

/-- A list repeats what its first part repeats, and then what its second part does after that. -/
theorem repeats_append (known front back : List α) :
    repeats known (front ++ back) = repeats known front ++ repeats (grown known front) back := by
  induction front generalizing known with
  | nil => rfl
  | cons item rest ih =>
    rw [List.cons_append, repeats, repeats, grown]
    split
    · rw [ih, List.cons_append]
    · exact ih _

/-- In the end, the list holds what it held and all items. -/
theorem mem_grown {known items : List α} {item : α} :
    item ∈ grown known items ↔ item ∈ known ∨ item ∈ items := by
  induction items generalizing known with
  | nil => simp [grown]
  | cons first rest ih =>
    rw [grown]
    by_cases held : first ∈ known
    · rw [if_pos held, ih, List.mem_cons]
      constructor
      · rintro (before | later)
        · exact Or.inl before
        · exact Or.inr (Or.inr later)
      · rintro (before | rfl | later)
        · exact Or.inl before
        · exact Or.inl held
        · exact Or.inr later
    · rw [if_neg held, ih, List.mem_append, List.mem_singleton, List.mem_cons, or_assoc]

end Growing

/-! ## Adding declarations -/

/-- The warning about a declaration that is left out. -/
def repeatWarning (declaration : Declaration) : Diagnostic :=
  .warning ("helper constructor `" ++ declaration.line ++ "` is declared for multiple times")
    declaration.spec.span

/-- The message of that warning, which does not depend on the place. -/
def repeatMessage (declared : String × List Property) : String :=
  (repeatWarning ⟨declared.1, ⟨declared.2, none⟩⟩).message

/-- Up to places, a registry grows without repetitions, and warns of them. -/
theorem unplaced_addAll (registry : Registry) (declarations : List Declaration) :
    (registry.addAll declarations).1.unplaced =
        grown registry.unplaced (declarations.map Declaration.unplaced) ∧
      ((registry.addAll declarations).2.filterMap Entry.warning?).map (·.message) =
        (repeats registry.unplaced (declarations.map Declaration.unplaced)).map repeatMessage := by
  induction declarations generalizing registry with
  | nil => exact ⟨rfl, rfl⟩
  | cons declaration rest ih =>
    rw [List.map_cons, grown, repeats]
    by_cases known : registry.holds declaration = true
    · have member := holds_iff_mem_unplaced.mp known
      obtain ⟨registries, messages⟩ := ih registry
      rw [addAll, if_pos known, if_pos member, if_pos member]
      refine ⟨registries, ?_⟩
      rw [List.map_cons, ← messages]
      rfl
    · have new := mt holds_iff_mem_unplaced.mpr known
      have inserted : (registry.insert declaration.widget declaration.spec).unplaced =
          registry.unplaced ++ [declaration.unplaced] := by
        simp [unplaced, insert]
      rw [addAll, if_neg known, if_neg new, if_neg new, ← inserted]
      exact ih _

/-- Declarations that are all there change nothing, and each of them is warned of. -/
theorem addAll_of_held {registry : Registry} {declarations : List Declaration}
    (held : ∀ declaration ∈ declarations, declaration.unplaced ∈ registry.unplaced) :
    registry.addAll declarations = (registry, declarations.map Entry.repeated) := by
  induction declarations with
  | nil => rfl
  | cons declaration rest ih =>
    obtain ⟨first, later⟩ := List.forall_mem_cons.mp held
    rw [addAll, if_pos (holds_iff_mem_unplaced.mpr first), ih later]
    rfl

/-! ## Adding files -/

/-- The registry takes the file. -/
def Accepts (registry : Registry) (file : SourceFile) : Prop :=
  ∃ outcome, registry.readFile file = .ok outcome

/-- A file is accepted exactly if no line of it is at fault. -/
theorem accepts_iff_faultless {registry : Registry} {file : SourceFile} :
    registry.Accepts file ↔ file.lineErrors = [] := by
  constructor
  · rintro ⟨outcome, read⟩
    by_contra faulty
    rw [readFile_of_faulty faulty] at read
    cases read
  · exact fun free => ⟨_, readFile_of_faultless free⟩

/-- Whether a file is taken depends on the contents of its lines, and not on the registry. -/
theorem accepts_iff {registry : Registry} {file : SourceFile} :
    registry.Accepts file ↔ ∀ content ∈ file.contents, AcceptedLine content := by
  rw [accepts_iff_faultless, SourceFile.lineErrors_eq_nil_iff, ← SourceFile.map_content_lines,
    List.forall_mem_map]

/-- What an accepted file adds, and what it warns of, depends on the contents of its lines. -/
theorem unplaced_after {registry : Registry} {file : SourceFile}
    (accepted : registry.Accepts file) :
    (registry.after file).unplaced = grown registry.unplaced (file.contents.filterMap declared?) ∧
      (registry.reported file).map (·.message) =
        (repeats registry.unplaced (file.contents.filterMap declared?)).map repeatMessage := by
  have read : registry.readFile file = .ok (registry.addAll file.declarations) :=
    readFile_of_faultless (accepts_iff_faultless.mp accepted)
  have added := registry.unplaced_addAll file.declarations
  rw [SourceFile.unplaced_declarations] at added
  rw [after, reported, read]
  exact added

/-- An accepted file is reported by warnings only. -/
theorem isError_eq_false_of_accepts {registry : Registry} {file : SourceFile}
    (accepted : registry.Accepts file) :
    ∀ diagnostic ∈ registry.reported file, diagnostic.isError = false :=
  (admits_of_faultless (accepts_iff_faultless.mp accepted)).warned

/-- Files take nothing away, whether they are added or not. -/
theorem unplaced_subset_foldl_after (registry : Registry) (files : List SourceFile) :
    registry.unplaced ⊆ (files.foldl after registry).unplaced := by
  induction files generalizing registry with
  | nil => exact List.Subset.refl _
  | cons file rest ih =>
    obtain ⟨added, _, longer⟩ := registry.after_declarations file
    have kept : registry.unplaced ⊆ (registry.after file).unplaced := by
      rw [unplaced, unplaced, longer, List.map_append]
      exact List.subset_append_left _ _
    exact List.Subset.trans kept (ih _)

/-- A file whose declarations are all there changes nothing, and is warned of each of them. -/
theorem after_of_held {registry : Registry} {file : SourceFile} (accepted : registry.Accepts file)
    (held : file.contents.filterMap declared? ⊆ registry.unplaced) :
    registry.after file = registry ∧
      registry.reported file = file.declarations.map repeatWarning := by
  have each : ∀ declaration ∈ file.declarations, declaration.unplaced ∈ registry.unplaced := by
    intro declaration member
    apply held
    rw [← SourceFile.unplaced_declarations]
    exact List.mem_map_of_mem member
  have read : registry.readFile file = .ok (registry.addAll file.declarations) :=
    readFile_of_faultless (accepts_iff_faultless.mp accepted)
  rw [addAll_of_held each] at read
  rw [after, reported, read]
  refine ⟨rfl, ?_⟩
  dsimp only
  rw [List.filterMap_map, ← List.filterMap_eq_map]
  rfl

/-- Files that are read one after another add up to one file.

A text that is empty or ends with a line feed is followed by another text. The whole is accepted
exactly if both parts are, by whatever registries. Then each way of reading them leads to the same
helper constructors of every widget, in the same order and up to their places, and to the same
warnings, up to theirs.

A file that has been accepted can be read again, under any name and after any other files. It is
accepted, it leaves the registry as it is, and it is reported by one warning for each line that
declares something. -/
theorem readFile_concatenated (registry : Registry) {first : String}
    (ended : first = "" ∨ ∃ front, first = front ++ "\n")
    (second name firstName secondName : String) :
    let whole : SourceFile := ⟨name, first ++ second⟩
    let one : SourceFile := ⟨firstName, first⟩
    let other : SourceFile := ⟨secondName, second⟩
    (∀ fromFirst fromSecond : Registry,
      registry.Accepts whole ↔ fromFirst.Accepts one ∧ fromSecond.Accepts other) ∧
    (registry.Accepts whole →
      (∀ widget, (registry.after whole).propertiesOf widget =
        ((registry.after one).after other).propertiesOf widget) ∧
      (registry.reported whole).map (·.message) =
        (registry.reported one ++ (registry.after one).reported other).map (·.message) ∧
      ∀ diagnostic ∈
        registry.reported whole ++ registry.reported one ++ (registry.after one).reported other,
        diagnostic.isError = false) ∧
    ∀ file : SourceFile, registry.Accepts file → ∀ (between : List SourceFile) (again : SourceFile),
      again.text = file.text →
      let later : Registry := between.foldl after (registry.after file)
      later.Accepts again ∧ later.after again = later ∧
        ∃ entries, again.EntriesIn again.lines entries ∧
          later.reported again = entries.map repeatWarning := by
  intro whole one other
  have contents : whole.contents = one.contents ++ other.contents :=
    SourceFile.contents_concatenated ended second name firstName secondName
  have acceptance (fromFirst fromSecond : Registry) :
      registry.Accepts whole ↔ fromFirst.Accepts one ∧ fromSecond.Accepts other := by
    rw [accepts_iff, accepts_iff, accepts_iff, contents, List.forall_mem_append]
  refine ⟨acceptance, ?_, ?_⟩
  -- Both ways follow the same list of declarations without places, which is cut where the text is.
  · intro accepted
    obtain ⟨acceptedOne, acceptedOther⟩ := (acceptance registry (registry.after one)).mp accepted
    obtain ⟨wholeGrown, wholeMessages⟩ := unplaced_after accepted
    obtain ⟨oneGrown, oneMessages⟩ := unplaced_after acceptedOne
    obtain ⟨otherGrown, otherMessages⟩ := unplaced_after acceptedOther
    rw [contents, List.filterMap_append] at wholeGrown wholeMessages
    refine ⟨?_, ?_, ?_⟩
    · apply propertiesOf_eq_of_unplaced
      rw [wholeGrown, grown_append, otherGrown, oneGrown]
    · rw [wholeMessages, repeats_append, List.map_append, List.map_append, oneMessages,
        otherMessages, oneGrown]
    · rw [List.forall_mem_append, List.forall_mem_append]
      exact ⟨⟨isError_eq_false_of_accepts accepted, isError_eq_false_of_accepts acceptedOne⟩,
        isError_eq_false_of_accepts acceptedOther⟩
  · intro file accepted between again sameText later
    have sameContents : again.contents = file.contents := by
      rw [SourceFile.contents, SourceFile.contents, sameText]
    have acceptedAgain : later.Accepts again := by
      rw [accepts_iff, sameContents]
      exact accepts_iff.mp accepted
    -- Whatever was read in between, the registry still holds what the file has declared before.
    have held : again.contents.filterMap declared? ⊆ later.unplaced := by
      intro declared member
      apply unplaced_subset_foldl_after (registry.after file) between
      rw [(unplaced_after accepted).1, ← sameContents]
      exact mem_grown.mpr (Or.inr member)
    obtain ⟨unchanged, warned⟩ := after_of_held acceptedAgain held
    have free := SourceFile.lineErrors_eq_nil_iff.mp (accepts_iff_faultless.mp acceptedAgain)
    exact ⟨acceptedAgain, unchanged, _, SourceFile.entriesIn_declarations free, warned⟩

end Registry

/-- The second text repeats what was inserted and what the first text declares, and in between it
declares something new. Then the first text is read again. -/
theorem Registry.readFile_concatenated_of_repeating :
    let first : String := "a.B(size: int)\n# a.B\n"
    let second : String := "a.B(text: T)\na.C(text: T)\n\ta.B( size : int )"
    let whole : SourceFile := ⟨"whole", first ++ second⟩
    let one : SourceFile := ⟨"one", first⟩
    let other : SourceFile := ⟨"other", second⟩
    let later : Registry := (oneInserted.after one).after other
    (∃ front, first = front ++ "\n") ∧ oneInserted.Accepts whole ∧
      (oneInserted.Accepts one ∧ (oneInserted.after one).Accepts other) ∧
      (∀ widget, (oneInserted.after whole).propertiesOf widget = later.propertiesOf widget) ∧
      (oneInserted.reported whole).length = 2 ∧ (later.unplaced.length = 3 ∧
        later.after one = later ∧ (later.reported one).length = 1) := by
  intro first second whole one other later
  have ended : ∃ front, first = front ++ "\n" := ⟨"a.B(size: int)\n# a.B", rfl⟩
  have accepted : oneInserted.Accepts whole := accepts_iff_faultless.mpr (by decide +kernel)
  obtain ⟨parts, adds, again⟩ :=
    readFile_concatenated oneInserted (Or.inr ended) second "whole" "one" "other"
  have both := (parts oneInserted (oneInserted.after one)).mp accepted
  obtain ⟨sameProperties, _, _⟩ := adds accepted
  obtain ⟨_, unchanged, _⟩ := again one both.1 [other] one rfl
  exact ⟨ended, accepted, both, sameProperties, by decide +kernel, by decide +kernel, unchanged,
    by decide +kernel⟩

end WidgetBuilders
