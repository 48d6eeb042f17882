import WidgetBuilders.Job.Run
import WidgetBuilders.Proofs.DeclarationGrammar

/-!
# A file is added as a whole or not at all

What becomes of a file is told line by line, without running the reader. A line is blank or a
comment, or it declares a helper constructor, or it is at fault: then the grammar does not give any
declaration to it, or the declaration names a property twice. If any line is at fault, the file
leaves the registry alone, and exactly these lines are reported. Otherwise its declarations are
walked in the order of their lines. Each of them goes to the end of its widget's list, unless the
list has its properties by then, and that may be because of an earlier line of the same file.

The walk is described by lookups only: which helper constructors a widget has before and after each
declaration. How the registry keeps them cannot be seen.
-/

namespace WidgetBuilders

open Grammar

namespace Registry

/-- The registry after a file, whether the file was added or not. -/
def after (registry : Registry) (file : SourceFile) : Registry :=
  match registry.readFile file with
  | .error _ => registry
  | .ok (next, _) => next

/-- What is reported when a file is added, or not added. -/
def reported (registry : Registry) (file : SourceFile) : List Diagnostic :=
  match registry.readFile file with
  | .error errors => errors.map LineError.diagnostic
  | .ok (_, entries) => entries.filterMap Entry.warning?

end Registry

/-- A run that loads a file goes on with the registry after it, and reports each diagnostic by
itself. -/
theorem Job.readHelperFile_of_text {files : FileTree} {path text : String}
    (loaded : files.readText path = .ok text) (registry : Registry) :
    let reading := readHelperFile files registry path
    reading.registry = registry.after ⟨path, text⟩ ∧
      reading.diagnostics = (registry.reported ⟨path, text⟩).map ([·]) := by
  simp only [readHelperFile, loaded, Registry.after, Registry.reported]
  cases registry.readFile ⟨path, text⟩ with
  | error errors => simp
  | ok outcome => exact ⟨rfl, rfl⟩

/-! ## What a line says -/

/-- The content of a line has this fault. -/
def LineFault.Holds (content : List Char) : LineFault → Prop
  | .malformed fault =>
    readDeclaration content = .error fault ∧
      ∀ widget properties, ¬DeclarationText content widget properties
  | .repeatedProperty name =>
    ∃ widget properties front back, DeclarationText content widget properties ∧
      properties.map (·.name) = front ++ name :: back ∧ front.Nodup ∧ name ∈ front

/-- The line says nothing. -/
def SourceLine.Skipped (line : SourceLine) : Prop :=
  line.content = [] ∨ line.content.head? = some '#'

/-- What a line says, by its content. The place of what it says is always its own. -/
inductive LineReading.Of (file : SourceFile) (line : SourceLine) : LineReading → Prop
  | nothing (skipped : line.Skipped) : Of file line .nothing
  | declares {widget : String} {properties : List Property} (speaks : ¬line.Skipped)
      (written : DeclarationText line.content widget properties)
      (distinct : (properties.map (·.name)).Nodup) :
      Of file line (.declares ⟨widget, ⟨properties, some (line.span file)⟩⟩)
  | faulty {fault : LineFault} (refused : ¬AcceptedLine line.content)
      (holds : fault.Holds line.content) : Of file line (.faulty ⟨fault, line.span file⟩)

/-- The first name that stood before: the names in front of it are all new. -/
theorem firstRepeated_eq_some {seen names : List String} {name : String}
    (repeated : firstRepeated seen names = some name) :
    ∃ front back, names = front ++ name :: back ∧ front.Nodup ∧ (∀ other ∈ front, other ∉ seen) ∧
      (name ∈ seen ∨ name ∈ front) := by
  induction names generalizing seen with
  | nil => cases repeated
  | cons first rest ih =>
    by_cases known : first ∈ seen
    · simp only [firstRepeated, List.contains_iff_mem, known, if_true, Option.some.injEq]
        at repeated
      subst repeated
      exact ⟨[], rest, rfl, List.nodup_nil, by simp, Or.inl known⟩
    · simp only [firstRepeated, List.contains_iff_mem, known, if_false] at repeated
      obtain ⟨front, back, rfl, distinct, new, member⟩ := ih repeated
      have apart : first ∉ front := fun inside => new first inside List.mem_cons_self
      refine ⟨first :: front, back, rfl, List.nodup_cons.mpr ⟨apart, distinct⟩, ?_, ?_⟩
      · rw [List.forall_mem_cons]
        exact ⟨known, fun other inside before => new other inside (List.mem_cons_of_mem _ before)⟩
      · rcases member with before | inside
        · rcases List.mem_cons.mp before with rfl | earlier
          · exact Or.inr List.mem_cons_self
          · exact Or.inl earlier
        · exact Or.inr (List.mem_cons_of_mem _ inside)

/-- The reader takes each line for what it says. -/
theorem SourceLine.read_of (file : SourceFile) (line : SourceLine) :
    LineReading.Of file line (line.read file) := by
  have free := error?_read_eq_none_iff file line
  unfold SourceLine.read at free ⊢
  dsimp only at free ⊢
  -- The cases are those of the reader: a line is skipped, cannot be read, repeats a property, or
  -- declares.
  by_cases skipped : line.Skipped
  · have blank : (line.content.isEmpty || decide (line.content.head? = some '#')) = true := by
      simpa [SourceLine.Skipped] using skipped
    rw [if_pos blank]
    exact .nothing skipped
  · have speaks : ¬(line.content.isEmpty || decide (line.content.head? = some '#')) = true := by
      simpa [SourceLine.Skipped] using skipped
    rw [if_neg speaks] at free ⊢
    cases read : readDeclaration line.content with
    | error fault =>
      simp only [read, LineReading.error?, reduceCtorEq, false_iff] at free
      refine .faulty free ⟨read, fun widget properties written => ?_⟩
      rw [readDeclaration_of_declarationText written] at read
      cases read
    | ok declared =>
      obtain ⟨widget, properties⟩ := declared
      have written := declarationText_of_readDeclaration read
      cases repeated : firstRepeated [] (properties.map (·.name)) with
      | none =>
        simp only [repeated]
        exact .declares skipped written (firstRepeated_eq_none_iff.mp repeated).1
      | some name =>
        simp only [read, repeated, LineReading.error?, reduceCtorEq, false_iff] at free
        obtain ⟨front, back, names, distinct, _, member⟩ := firstRepeated_eq_some repeated
        have before : name ∈ front := member.resolve_left List.not_mem_nil
        simp only [repeated]
        exact .faulty free ⟨widget, properties, front, back, written, names, distinct, before⟩

/-! ## What the lines of a file say -/

namespace SourceFile

variable (file : SourceFile)

/-- What is reported of some lines: of each line that is at fault one error, with its place. -/
inductive ErrorsIn : List SourceLine → List Diagnostic → Prop
  | done : ErrorsIn [] []
  | accepted {line : SourceLine} {rest : List SourceLine} {errors : List Diagnostic}
      (accepted : AcceptedLine line.content) (others : ErrorsIn rest errors) :
      ErrorsIn (line :: rest) errors
  | refused {line : SourceLine} {fault : LineFault} {rest : List SourceLine}
      {errors : List Diagnostic} (refused : ¬AcceptedLine line.content)
      (holds : fault.Holds line.content) (others : ErrorsIn rest errors) :
      ErrorsIn (line :: rest) (.error fault.message (some (line.span file)) :: errors)

/-- The declarations on some lines without faults: one on each line that says something, with its
place. -/
inductive EntriesIn : List SourceLine → List Declaration → Prop
  | done : EntriesIn [] []
  | skipped {line : SourceLine} {rest : List SourceLine} {entries : List Declaration}
      (skipped : line.Skipped) (others : EntriesIn rest entries) : EntriesIn (line :: rest) entries
  | declared {line : SourceLine} {widget : String} {properties : List Property}
      {rest : List SourceLine} {entries : List Declaration} (speaks : ¬line.Skipped)
      (written : DeclarationText line.content widget properties)
      (distinct : (properties.map (·.name)).Nodup) (others : EntriesIn rest entries) :
      EntriesIn (line :: rest) (⟨widget, ⟨properties, some (line.span file)⟩⟩ :: entries)

variable {file}

/-- A line that is skipped is accepted. -/
theorem acceptedLine_of_skipped {line : SourceLine} (skipped : line.Skipped) :
    AcceptedLine line.content := by
  rcases skipped with empty | begins
  · exact .nothing empty
  · exact .comment begins

/-- The errors of a file are those in its lines. -/
theorem errorsIn_lineErrors :
    file.ErrorsIn file.lines (file.lineErrors.map LineError.diagnostic) := by
  unfold lineErrors readings
  induction file.lines with
  | nil => exact .done
  | cons line rest ih =>
    have said := line.read_of file
    rw [List.map_cons, List.filterMap_cons]
    generalize line.read file = reading at said ⊢
    cases said with
    | nothing skipped => exact .accepted (acceptedLine_of_skipped skipped) ih
    | declares speaks written distinct => exact .accepted (.declaration _ _ written distinct) ih
    | faulty refused holds => exact .refused refused holds ih

/-- If no line is at fault, the declarations of a file are those in its lines. -/
theorem entriesIn_declarations (accepted : ∀ line ∈ file.lines, AcceptedLine line.content) :
    file.EntriesIn file.lines file.declarations := by
  unfold declarations readings
  generalize file.lines = lines at accepted ⊢
  induction lines with
  | nil => exact .done
  | cons line rest ih =>
    obtain ⟨first, later⟩ := List.forall_mem_cons.mp accepted
    have said := line.read_of file
    rw [List.map_cons, List.filterMap_cons]
    generalize line.read file = reading at said ⊢
    cases said with
    | nothing skipped => exact .skipped skipped (ih later)
    | declares speaks written distinct => exact .declared speaks written distinct (ih later)
    | faulty refused holds => exact absurd first refused

/-- A file is free of faults exactly if its lines are accepted. -/
theorem lineErrors_eq_nil_iff :
    file.lineErrors = [] ↔ ∀ line ∈ file.lines, AcceptedLine line.content := by
  simp only [lineErrors, readings, List.filterMap_map, List.filterMap_eq_nil_iff,
    Function.comp_apply, error?_read_eq_none_iff]

/-- Whatever is read of a file is read of one of its lines. -/
theorem exists_line_of_reading {reading : LineReading} (member : reading ∈ file.readings) :
    ∃ line ∈ file.lines, LineReading.Of file line reading := by
  obtain ⟨line, present, rfl⟩ := List.mem_map.mp member
  exact ⟨line, present, line.read_of file⟩

/-- Whatever a file declares, one of its lines declares. -/
theorem exists_line_of_declares {declaration : Declaration}
    (member : declaration ∈ file.declarations) :
    ∃ line ∈ file.lines, declaration.spec.span = some (line.span file) ∧
      DeclarationText line.content declaration.widget declaration.spec.properties ∧
      (declaration.spec.properties.map (·.name)).Nodup := by
  obtain ⟨reading, among, declares⟩ := List.mem_filterMap.mp member
  obtain ⟨line, present, said⟩ := exists_line_of_reading among
  cases said with
  | nothing skipped => cases declares
  | declares speaks written distinct =>
    cases declares
    exact ⟨line, present, rfl, written, distinct⟩
  | faulty refused holds => cases declares

end SourceFile

/-! ## The walk over declarations -/

namespace Registry

/-- The widget of the declaration has a helper constructor with the same properties. -/
def Has (registry : Registry) (declaration : Declaration) : Prop :=
  ∃ spec ∈ registry.specsOf declaration.widget, spec.properties = declaration.spec.properties

/-- The declaration goes to the end of its widget's list. -/
structure Grows (registry : Registry) (declaration : Declaration) (next : Registry) : Prop where
  own : next.specsOf declaration.widget =
    registry.specsOf declaration.widget ++ [declaration.spec]
  others : ∀ widget, widget ≠ declaration.widget → next.specsOf widget = registry.specsOf widget
  size : next.size = registry.size + 1

/-- Declarations are taken in order, each into the registry that those before it leave. One that
the registry has by then leaves a warning, any other one is added. -/
inductive Walk : Registry → List Declaration → Registry → List Diagnostic → Prop
  | done (registry : Registry) : Walk registry [] registry []
  | added {registry next final : Registry} {declaration : Declaration} {rest : List Declaration}
      {warnings : List Diagnostic} (new : ¬registry.Has declaration)
      (grown : registry.Grows declaration next) (others : Walk next rest final warnings) :
      Walk registry (declaration :: rest) final warnings
  | repeated {registry final : Registry} {declaration : Declaration} {rest : List Declaration}
      {warnings : List Diagnostic} (known : registry.Has declaration)
      (others : Walk registry rest final warnings) :
      Walk registry (declaration :: rest) final
        (.warning
          ("helper constructor `" ++ declaration.line ++ "` is declared for multiple times")
          declaration.spec.span :: warnings)

/-- The check before an insertion looks for a declaration with the same properties. -/
theorem holds_iff {registry : Registry} {declaration : Declaration} :
    registry.holds declaration = true ↔ registry.Has declaration := by
  simp [holds, Has]

/-- An insertion adds one declaration, at the end of those of its widget. -/
theorem grows_insert (registry : Registry) (declaration : Declaration) :
    registry.Grows declaration (registry.insert declaration.widget declaration.spec) := by
  constructor
  case own => simp [specsOf_insert]
  case others =>
    intro widget different
    simp [specsOf_insert, Ne.symm different]
  case size => simp [size, insert]

/-- Adding declarations is a walk over them, and warns as the walk does. -/
theorem walk_addAll (registry : Registry) (declarations : List Declaration) :
    Walk registry declarations (registry.addAll declarations).1
      ((registry.addAll declarations).2.filterMap Entry.warning?) := by
  induction declarations generalizing registry with
  | nil => exact .done registry
  | cons declaration rest ih =>
    by_cases known : registry.holds declaration = true
    · rw [addAll, if_pos known]
      exact .repeated (holds_iff.mp known) (ih registry)
    · rw [addAll, if_neg known]
      exact .added (fun has => known (holds_iff.mpr has)) (registry.grows_insert declaration) (ih _)

/-- A walk changes nothing that was there: each list keeps its front. -/
theorem Walk.specsOf_prefix {registry final : Registry} {declarations : List Declaration}
    {warnings : List Diagnostic} (walk : Walk registry declarations final warnings)
    (widget : String) : registry.specsOf widget <+: final.specsOf widget := by
  induction walk with
  | done registry => exact List.prefix_rfl
  | @added registry next final declaration rest warnings new grown others ih =>
    refine List.IsPrefix.trans ?_ ih
    by_cases same : widget = declaration.widget
    · rw [same, grown.own]
      exact List.prefix_append _ _
    · exact grown.others widget same ▸ List.prefix_rfl
  | repeated known others ih => exact ih

/-- Each declaration is counted once, in the registry or by its warning. -/
theorem Walk.size_add {registry final : Registry} {declarations : List Declaration}
    {warnings : List Diagnostic} (walk : Walk registry declarations final warnings) :
    final.size + warnings.length = registry.size + declarations.length := by
  induction walk with
  | done registry => rfl
  | added new grown others ih =>
    rw [grown.size] at ih
    rw [List.length_cons]
    omega
  | repeated known others ih =>
    simp only [List.length_cons]
    omega

/-- A warning is no error. -/
theorem Walk.isError_eq_false {registry final : Registry} {declarations : List Declaration}
    {warnings : List Diagnostic} (walk : Walk registry declarations final warnings) :
    ∀ warning ∈ warnings, warning.isError = false := by
  induction walk with
  | done registry => simp
  | added new grown others ih => exact ih
  | repeated known others ih => exact List.forall_mem_cons.mpr ⟨rfl, ih⟩

/-! ## The file -/

variable (registry : Registry) (file : SourceFile)

/-- The file is not added. -/
structure Refuses : Prop where
  fails : ∃ errors, registry.readFile file = .error errors
  kept : registry.after file = registry
  errors : file.ErrorsIn file.lines (registry.reported file)

/-- The file is added, and this is how. -/
structure Admits (entries : List Declaration) (warnings : List Diagnostic) : Prop where
  succeeds : ∃ outcome, registry.readFile file = .ok outcome
  declared : file.EntriesIn file.lines entries
  walk : Walk registry entries (registry.after file) warnings
  reported : registry.reported file = warnings
  warned : ∀ warning ∈ warnings, warning.isError = false
  kept : ∀ widget, registry.specsOf widget <+: (registry.after file).specsOf widget
  size : (registry.after file).size + warnings.length = registry.size + entries.length

variable {registry} {file}

/-- A file with a line at fault is refused with the faults of all its lines. -/
theorem readFile_of_faulty (faulty : file.lineErrors ≠ []) :
    registry.readFile file = .error file.lineErrors := by
  unfold readFile
  split
  · next free => exact absurd free faulty
  · rfl

/-- A file without a line at fault is added declaration by declaration. -/
theorem readFile_of_faultless (free : file.lineErrors = []) :
    registry.readFile file = .ok (registry.addAll file.declarations) := by
  simp [readFile, free]

/-- What is refused leaves the registry as it is, with an error for each line at fault. -/
theorem refuses_of_faulty (faulty : file.lineErrors ≠ []) : registry.Refuses file := by
  have read : registry.readFile file = .error file.lineErrors := readFile_of_faulty faulty
  constructor
  case fails => exact ⟨_, read⟩
  case kept => rw [after, read]
  case errors =>
    rw [reported, read]
    exact SourceFile.errorsIn_lineErrors

/-- What is not refused is added, with a warning for each repeated declaration. -/
theorem admits_of_faultless (free : file.lineErrors = []) :
    registry.Admits file file.declarations (registry.reported file) := by
  have read : registry.readFile file = .ok (registry.addAll file.declarations) :=
    readFile_of_faultless free
  have walk : Walk registry file.declarations (registry.after file) (registry.reported file) := by
    rw [after, reported, read]
    exact registry.walk_addAll file.declarations
  constructor
  case succeeds => exact ⟨_, read⟩
  case declared =>
    exact SourceFile.entriesIn_declarations (SourceFile.lineErrors_eq_nil_iff.mp free)
  case walk => exact walk
  case reported => rfl
  case warned => exact walk.isError_eq_false
  case kept => exact walk.specsOf_prefix
  case size => exact walk.size_add

/-- Declarations are added behind all others, and nothing else is. -/
theorem addAll_declarations (registry : Registry) (declarations : List Declaration) :
    ∃ added, added.Sublist declarations ∧
      (registry.addAll declarations).1.declarations = registry.declarations ++ added := by
  induction declarations generalizing registry with
  | nil => exact ⟨[], List.Sublist.slnil, by simp [addAll]⟩
  | cons declaration rest ih =>
    by_cases known : registry.holds declaration = true
    · obtain ⟨added, within, grown⟩ := ih registry
      rw [addAll, if_pos known]
      exact ⟨added, within.cons _, grown⟩
    · obtain ⟨added, within, grown⟩ := ih (registry.insert declaration.widget declaration.spec)
      rw [addAll, if_neg known]
      refine ⟨declaration :: added, within.cons_cons _, ?_⟩
      dsimp only
      rw [grown]
      simp [insert]

/-- Whatever a file adds, it declares. -/
theorem after_declarations (registry : Registry) (file : SourceFile) :
    ∃ added, added.Sublist file.declarations ∧
      (registry.after file).declarations = registry.declarations ++ added := by
  by_cases free : file.lineErrors = []
  · rw [after, readFile_of_faultless free]
    exact registry.addAll_declarations file.declarations
  · rw [after, readFile_of_faulty free]
    exact ⟨[], List.nil_sublist _, by simp⟩

/-- The registry that files make, one after another. -/
def ofFiles (files : List SourceFile) : Registry :=
  files.foldl after .empty

/-- One more file is added to what the files before it have made. -/
theorem ofFiles_append_singleton (files : List SourceFile) (file : SourceFile) :
    ofFiles (files ++ [file]) = (ofFiles files).after file := by
  simp [ofFiles]

/-- A file is added as a whole or not at all.

If some line of a file is at fault, the file is refused: the registry stays as it was, and what is
reported is one error for each such line, in the order of the lines. Otherwise the file is added:
nothing but warnings is reported, the declarations are walked in the order of their lines, what was
there before stays where it was, and each declaration is either counted or warned of. A run that
loads the file does the same. -/
theorem file_added_or_refused (registry : Registry) (file : SourceFile) :
    ((∃ line ∈ file.lines, ¬AcceptedLine line.content) → registry.Refuses file) ∧
    ((∀ line ∈ file.lines, AcceptedLine line.content) →
      ∃ entries warnings, registry.Admits file entries warnings) ∧
    ∀ files, files.readText file.name = .ok file.text →
      let reading := Job.readHelperFile files registry file.name
      reading.registry = registry.after file ∧
        reading.diagnostics = (registry.reported file).map ([·]) := by
  refine ⟨?_, ?_, ?_⟩
  · rintro ⟨line, member, refused⟩
    apply refuses_of_faulty
    intro free
    exact refused (SourceFile.lineErrors_eq_nil_iff.mp free line member)
  · intro accepted
    exact ⟨_, _, admits_of_faultless (SourceFile.lineErrors_eq_nil_iff.mpr accepted)⟩
  · intro files loaded
    exact Job.readHelperFile_of_text loaded registry

end Registry

/-- A registry to which one helper constructor was added directly. -/
def oneInserted : Registry :=
  Registry.empty.insert "a.B" { properties := [⟨"text", "T"⟩], span := none }

/-- One line has no closing bracket and one names a property twice; the others are blank, a comment,
and a declaration that is not added. -/
def faultyFile : SourceFile where
  name := "faulty"
  text := "a.B(size: int\n\n# a.B\na.B(text: T, text: U)\r\na.C(text: T)"

/-- The first line repeats what was inserted, the last one repeats the line before it. -/
def repeatingFile : SourceFile where
  name := "repeating"
  text := "a.B(text: T)\na.C(size: int)\n\ta.C( size : int )"

/-- The first file changes nothing and is reported twice; of the second one, the declaration between
two warnings is added. -/
theorem Registry.file_added_or_refused_of_both :
    (∃ line ∈ faultyFile.lines, ¬AcceptedLine line.content) ∧ oneInserted.Refuses faultyFile ∧
      (oneInserted.reported faultyFile).length = 2 ∧
      (∀ line ∈ repeatingFile.lines, AcceptedLine line.content) ∧
      (∃ entries warnings, oneInserted.Admits repeatingFile entries warnings) ∧
      (oneInserted.reported repeatingFile).length = 2 ∧
      (oneInserted.after repeatingFile).size = 2 := by
  have faulty : ∃ line ∈ faultyFile.lines, ¬AcceptedLine line.content := by
    by_contra none
    have free := SourceFile.lineErrors_eq_nil_iff.mpr fun line member =>
      by_contra fun refused => none ⟨line, member, refused⟩
    revert free
    decide +kernel
  have accepted : ∀ line ∈ repeatingFile.lines, AcceptedLine line.content :=
    SourceFile.lineErrors_eq_nil_iff.mp (by decide +kernel)
  exact ⟨faulty, (file_added_or_refused oneInserted faultyFile).1 faulty, by decide +kernel,
    accepted,
    (file_added_or_refused oneInserted repeatingFile).2.1 accepted, by decide +kernel,
    by decide +kernel⟩

end WidgetBuilders
