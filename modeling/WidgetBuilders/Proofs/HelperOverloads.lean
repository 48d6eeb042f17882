import WidgetBuilders.Proofs.DeclaredPlaces
import WidgetBuilders.Proofs.HelperSelection
import WidgetBuilders.Proofs.HelperTexts
import WidgetBuilders.Proofs.PrintedRegistry

/-!
# The parameters of helper functions

A helper constructor has two functions, and both name their parameters after its properties, in the
order in which it declares them. Before these stands the theme, and in one of the functions the init
block comes after them. A file names no property twice, so the names can only meet where a property
is called `theme` or `init`. The reader does not know of these two names, and the writer does not
look at the names of the properties: a property `theme` gives both functions two parameters of this
name, and a property `init` gives them to the second function alone.

What is said here of functions is said of the text of a family. After the factory object, this text
is made widget by widget: first the builder functions, and then, for each helper constructor that
was looked up, its two functions and an empty line.
-/

namespace WidgetBuilders

/-- A parameter as it is declared. The type comes with a default value, if there is one. -/
structure DeclaredParameter where
  name : String
  type : String
  deriving DecidableEq

/-- A parameter as it is written: its name, a colon and its type. -/
def DeclaredParameter.written (parameter : DeclaredParameter) : String :=
  parameter.name ++ ": " ++ parameter.type

/-- The function declares these parameters. -/
def EmittedFunction.Takes (function : EmittedFunction) (parameters : List DeclaredParameter) :
    Prop :=
  function.parameters = Text.commaSeparated (parameters.map DeclaredParameter.written)

instance (function : EmittedFunction) (parameters : List DeclaredParameter) :
    Decidable (function.Takes parameters) :=
  inferInstanceAs (Decidable (_ = _))

namespace HelperFunctions

variable (functions : HelperFunctions)

/-- The function without an init block. -/
def plain : EmittedFunction :=
  functions.function "" (functions.assignments.map Assignment.call)

/-- The function with an init block. -/
def full : EmittedFunction :=
  functions.function (", init: " ++ functions.type ++ ".() -> Unit")
    ("init()" :: functions.assignments.map Assignment.call)

/-- The theme and the values of the properties. -/
def plainParameters : List DeclaredParameter :=
  ⟨"theme", "Int = 0"⟩ :: functions.assignments.map fun assignment =>
    ⟨assignment.property, assignment.type⟩

/-- The same parameters, and the init block. -/
def fullParameters : List DeclaredParameter :=
  functions.plainParameters ++ [⟨"init", functions.type ++ ".() -> Unit"⟩]

/-- What is known of the parameters of the functions that a helper constructor has. -/
structure HasParameters (spec : HelperSpec) : Prop where
  plain : functions.plain.Takes functions.plainParameters
  full : functions.full.Takes functions.fullParameters
  plainNames : functions.plainParameters.map (·.name) =
    "theme" :: spec.properties.map (·.name)
  fullNames : functions.fullParameters.map (·.name) =
    "theme" :: spec.properties.map (·.name) ++ ["init"]
  plainDistinct : (functions.plainParameters.map (·.name)).Nodup ↔
    "theme" ∉ spec.properties.map (·.name)
  fullDistinct : (functions.fullParameters.map (·.name)).Nodup ↔
    "theme" ∉ spec.properties.map (·.name) ∧ "init" ∉ spec.properties.map (·.name)

end HelperFunctions

/-- The functions that a helper constructor has in a family, if its setters are found. -/
inductive Widget.Generates (context : Context) (family : Family) (widget : Widget) :
    HelperSpec → HelperFunctions → Prop
  | intro {spec : HelperSpec} {setters : List Method}
      (found : Setter.ofSpec widget spec = .ok setters) :
      Generates context family widget spec (widget.helperFunctions context family spec setters)

/-- The helper constructors that are looked up for a widget. -/
def Context.specsFor (context : Context) (widget : Widget) : List HelperSpec :=
  if widget.isAbstract then []
  else (context.helpersUnder? widget).elim [] context.registry.specsOf

namespace Sheet

/-- The text of all functions that are not helper functions. -/
def buildersText (sheet : Sheet) : String :=
  Text.concat ((sheet.blocks.filter (·.helperFunctions?.isNone)).map (·.text))

/-- The text of the helper functions. -/
def helpersText (indent : String) (sheet : Sheet) : String :=
  Text.concat (sheet.helperFunctions.map fun functions =>
    functions.plain.written indent 0 ++ functions.full.written indent 0 ++ "\n")

end Sheet

/-! ## The text of a family -/

/-- A block that has no helper functions. -/
def Block.IsBuilders (block : Block) : Prop := block.helperFunctions? = none

namespace Construction

variable (context : Context) (construction : Construction) (factory : String) (level : Nat)

/-- Of the two parts of a contribution, the first has builder functions only. -/
theorem isBuilders_of_builderContribution :
    ∀ block ∈ (construction.builderContribution context factory level).blocks,
      block.IsBuilders := by
  unfold builderContribution
  split
  · next blocks filled =>
    exact List.filterMap_eq_nil_iff.mp (Block.helperFunctions?_of_ofBuilders filled)
  · simp

/-- Of the two parts of a contribution, the second has helper constructors only. -/
theorem helpersPart_blocks :
    ∃ helpers : List HelperFunctions,
      (construction.helpersPart context factory level).blocks = helpers.map fun functions =>
        ⟨.helpers functions,
          (Functions.helpers functions).written context.templates.indent level⟩ := by
  unfold helpersPart
  split
  · exact ⟨[], rfl⟩
  · next key _ =>
    refine ⟨(context.registry.specsOf key).filterMap fun spec =>
      (Setter.ofSpec construction.widget spec).toOption.map
        (construction.helperFunctions factory spec), ?_⟩
    rw [helperContribution_blocks, helpersOf, List.map_filterMap, List.map_filterMap]
    refine List.filterMap_congr fun spec _ => ?_
    cases Setter.ofSpec construction.widget spec <;> rfl

end Construction

namespace Sheet

variable (context : Context) (family : Family) (widget : Widget)

/-- Builder functions come first, and then helper functions. -/
theorem alone_blocks_split :
    ∃ builders : List Block, ∃ helpers : List HelperFunctions,
      (∀ block ∈ builders, block.IsBuilders) ∧
        (ofWidgets context family [widget]).blocks = builders ++ helpers.map fun functions =>
          ⟨.helpers functions,
            (Functions.helpers functions).written context.templates.indent 0⟩ := by
  cases decided : plan context family widget with
  | «omit» => exact ⟨[], [], by simp, by simp [ofWidgets, take, decided]⟩
  | unusable => exact ⟨[], [], by simp, by simp [ofWidgets, take, decided, add]⟩
  | fault fault => exact ⟨[], [], by simp, by simp [ofWidgets, take, decided, add]⟩
  | construct construction =>
    let factory : String := Factory.reference
      (Factory.objectName context.options.artifact family) construction.entry.key
    obtain ⟨helpers, written⟩ := construction.helpersPart_blocks context factory 0
    refine ⟨_, helpers, construction.isBuilders_of_builderContribution context factory 0, ?_⟩
    rw [(alone_of_construct decided).1, Construction.contribution_eq_append, Contribution.append,
      written]

/-- What a widget has in the text of a family. -/
theorem alone_functionsText :
    (ofWidgets context family [widget]).functionsText =
      (ofWidgets context family [widget]).buildersText
        ++ (ofWidgets context family [widget]).helpersText context.templates.indent := by
  obtain ⟨builders, helpers, plain, blocks⟩ := alone_blocks_split context family widget
  have kept : builders.filter (·.helperFunctions?.isNone) = builders :=
    List.filter_eq_self.mpr fun block member => by rw [plain block member]; rfl
  have none : builders.filterMap Block.helperFunctions? = [] :=
    List.filterMap_eq_nil_iff.mpr plain
  simp only [functionsText, buildersText, helpersText, helperFunctions, blocks, List.filter_append,
    kept, List.filterMap_append, none, List.map_append, Text.concat_append, List.filter_map,
    List.filterMap_map, List.map_map, Function.comp_def, HelperFunctions.written_eq]
  simp [Block.helperFunctions?, HelperFunctions.plain, HelperFunctions.full, Text.concat]

/-- The text of a family, widget by widget. -/
theorem text_of_rendered {context : Context} {family : Family} {widgets : List Widget}
    {text : String} (rendered : renderFamily context family widgets = .ok text) :
    text = (ofWidgets context family widgets).factory.declaration context.templates.indent
      ++ Text.concat (widgets.map fun widget =>
        (ofWidgets context family [widget]).buildersText
          ++ (ofWidgets context family [widget]).helpersText context.templates.indent) := by
  obtain ⟨faultless, rfl⟩ := (renderFamily_eq_ok_iff_faultless _ _ _ _).mp rendered
  have together := concat_functionsText
    (widgets.map fun widget => ofWidgets context family [widget])
  rw [List.flatMap_map, ← blocks_of_faultless faultless, List.map_map] at together
  simp only [← alone_functionsText]
  rw [Sheet.text, ← together]
  rfl

end Sheet

/-! ## The helper constructors of a widget -/

section Alone

variable {context : Context} {family : Family} {widget : Widget}

/-- Where each helper constructor resolves, the functions stand in the places of these. -/
theorem forall₂_generates {specs : List HelperSpec}
    (found : ∀ spec ∈ specs, ∃ setters, Setter.ofSpec widget spec = .ok setters) :
    List.Forall₂ (widget.Generates context family) specs
      (specs.filterMap fun spec => (Setter.ofSpec widget spec).toOption.map
        (widget.helperFunctions context family spec)) := by
  induction specs with
  | nil => exact .nil
  | cons spec rest ih =>
    obtain ⟨⟨setters, first⟩, later⟩ := List.forall_mem_cons.mp found
    rw [List.filterMap_cons, first]
    exact .cons (.intro first) (ih later)

/-- Where nothing is reported, the setters are found. -/
theorem Setter.exists_of_reported_eq_nil {spec : HelperSpec}
    (none : reported widget spec spec.properties = []) :
    ∃ setters, ofSpec widget spec = .ok setters := by
  rw [ofSpec, findAll_eq, if_pos none]
  exact ⟨_, rfl⟩

/-- Helper constructors without faults have their setters. -/
theorem Context.exists_setters (faultless : context.helperFaults widget = []) :
    ∀ spec ∈ (context.helpersUnder? widget).elim [] context.registry.specsOf,
      ∃ setters, Setter.ofSpec widget spec = .ok setters := by
  intro spec member
  cases under : context.helpersUnder? widget with
  | none => simp [under] at member
  | some key =>
    rw [under] at member
    refine Setter.exists_of_reported_eq_nil
      (List.eq_nil_iff_forall_not_mem.mpr fun fault told => ?_)
    have declared : context.registry.contains key = true := by
      rw [← Bool.not_eq_false, ← Registry.specsOf_eq_nil_iff]
      exact List.ne_nil_of_mem member
    have reported : fault ∈ context.helperFaults widget :=
      Context.mem_helperFaults.mpr ⟨key, under, by rw [if_pos declared]; exact ⟨spec, member, told⟩⟩
    simp [faultless] at reported

/-- Where nothing is reported, each helper constructor that is looked up has its functions. -/
theorem Sheet.helperFunctions_of_faultless
    (faultless : (ofWidgets context family [widget]).faults = []) :
    List.Forall₂ (widget.Generates context family) (context.specsFor widget)
      (ofWidgets context family [widget]).helperFunctions := by
  unfold Context.specsFor
  split
  · next isAbstract =>
    rw [helperFunctions, alone_blocks_of_unusable (by simp [isAbstract])]
    exact .nil
  · next concrete =>
    rw [Bool.not_eq_true] at concrete
    by_cases constructible : widget.Constructible
    · obtain ⟨faults, functions⟩ :=
        @alone_of_constructible context family widget concrete constructible
      rw [faults, List.append_eq_nil_iff] at faultless
      rw [functions]
      exact forall₂_generates (Context.exists_setters faultless.2)
    · have rendered := (renderFamily_eq_ok_iff_faultless _ _ _ _).mpr ⟨faultless, rfl⟩
      rw [renderFamily_of_not_constructible concrete constructible] at rendered
      rw [helperFunctions, alone_blocks_of_unusable fun usable => constructible usable.2]
      cases under : context.helpersUnder? widget with
      | none => exact .nil
      | some key =>
        rw [under] at rendered
        cases rendered

end Alone

/-- In a family that is rendered, each helper constructor that is looked up has its functions. -/
theorem Sheet.helperFunctions_of_rendered {context : Context} {family : Family}
    {widgets : List Widget} {text : String}
    (rendered : renderFamily context family widgets = .ok text) {widget : Widget}
    (among : widget ∈ widgets) :
    List.Forall₂ (widget.Generates context family) (context.specsFor widget)
      (ofWidgets context family [widget]).helperFunctions := by
  have faultless := ((renderFamily_eq_ok_iff_faultless _ _ _ _).mp rendered).1
  exact helperFunctions_of_faultless (((faults_eq_nil_iff widgets).mp faultless).1 widget among)

/-! ## Parameters -/

section Parameters

variable {context : Context} {family : Family} {widget : Widget} {spec : HelperSpec}
  {functions : HelperFunctions}

/-- The values are named after the properties. -/
theorem Widget.Generates.properties_eq
    (generates : widget.Generates context family spec functions) :
    functions.assignments.map (·.property) = spec.properties.map (·.name) := by
  cases generates with
  | @intro setters found =>
    have lengths := (Setter.forall₂_isOnly_iff.mpr found).length_eq
    refine List.ext_getElem ?_ fun index _ _ => ?_
    · simp [helperFunctions, HelperFunctions.ofSetters, lengths]
    · simp [helperFunctions, HelperFunctions.ofSetters]

/-- The first function has a theme and then the properties. -/
theorem HelperFunctions.names_plainParameters (functions : HelperFunctions) :
    functions.plainParameters.map (·.name) =
      "theme" :: functions.assignments.map (·.property) := by
  rw [plainParameters, List.map_cons, List.map_map]
  rfl

/-- Each parameter of the first function is written as it is declared. -/
theorem HelperFunctions.written_plainParameters (functions : HelperFunctions) :
    functions.plainParameters.map DeclaredParameter.written =
      "theme: Int = 0" :: functions.assignments.map Assignment.parameter := by
  have theme : DeclaredParameter.written ⟨"theme", "Int = 0"⟩ = "theme: Int = 0" := by decide
  rw [plainParameters, List.map_cons, List.map_map, theme]
  rfl

/-- With values, the separator after the theme is in its place. -/
theorem HelperFunctions.plain_takes (some : functions.assignments ≠ []) :
    functions.plain.Takes functions.plainParameters := by
  have values : functions.assignments.map Assignment.parameter ≠ [] := by simpa using some
  have joined := Text.commaSeparated_append (List.cons_ne_nil "theme: Int = 0" []) values
  rw [EmittedFunction.Takes, written_plainParameters]
  refine Eq.trans ?_ joined.symm
  simp [plain, function, parameters, Text.commaSeparated]

/-- The init block comes last. -/
theorem HelperFunctions.full_takes (some : functions.assignments ≠ []) :
    functions.full.Takes functions.fullParameters := by
  have front := functions.plain_takes some
  have nonempty : functions.plainParameters.map DeclaredParameter.written ≠ [] := by
    simp [plainParameters]
  rw [EmittedFunction.Takes] at front
  rw [EmittedFunction.Takes, fullParameters, List.map_append,
    Text.commaSeparated_append nonempty (by simp), ← front]
  have seam : ", init: " = ", " ++ ("init" ++ ": ") := by decide
  simp only [full, plain, function, seam, DeclaredParameter.written, Text.commaSeparated,
    List.map_cons, List.map_nil, String.append_assoc, String.append_empty]

/-- The parameters of both functions, for a helper constructor that a file could declare. -/
theorem Widget.Generates.hasParameters (generates : widget.Generates context family spec functions)
    (nonempty : spec.properties ≠ []) (distinct : (spec.properties.map (·.name)).Nodup) :
    functions.HasParameters spec := by
  have properties := generates.properties_eq
  have some : functions.assignments ≠ [] := by
    intro none
    rw [none, List.map_nil, eq_comm, List.map_eq_nil_iff] at properties
    exact nonempty properties
  have plainNames : functions.plainParameters.map (·.name) =
      "theme" :: spec.properties.map (·.name) := by
    rw [functions.names_plainParameters, properties]
  have fullNames : functions.fullParameters.map (·.name) =
      "theme" :: spec.properties.map (·.name) ++ ["init"] := by
    rw [HelperFunctions.fullParameters, List.map_append, plainNames]
    rfl
  constructor
  case plain => exact HelperFunctions.plain_takes some
  case full => exact HelperFunctions.full_takes some
  case plainNames => exact plainNames
  case fullNames => exact fullNames
  case plainDistinct => rw [plainNames, List.nodup_cons, and_iff_left distinct]
  case fullDistinct =>
    have apart : "init" ≠ "theme" := by decide
    rw [fullNames, List.nodup_append_comm, List.singleton_append, List.nodup_cons, List.nodup_cons,
      and_iff_left distinct, List.mem_cons, not_or, and_iff_right apart, and_comm]

/-- What is looked up for a widget is all that is declared under one name, if anything is. -/
theorem Context.specsFor_eq (context : Context) (widget : Widget) :
    context.specsFor widget = [] ∨
      ∃ name, context.specsFor widget = context.registry.specsOf name := by
  unfold specsFor
  split
  · exact .inl rfl
  · cases context.helpersUnder? widget with
    | none => exact .inl rfl
    | some name => exact .inr ⟨name, rfl⟩

/-- In a registry that files have made, what is looked up for a widget could be printed. -/
theorem Context.wellFormed_specsFor {context : Context} (declared : context.registry.WellFormed)
    (widget : Widget) :
    ((context.specsFor widget).map (·.properties)).Nodup ∧
      ∀ spec ∈ context.specsFor widget, ∃ name, Declaration.WellFormed ⟨name, spec⟩ := by
  rcases context.specsFor_eq widget with none | ⟨name, own⟩
  · simp [none]
  · rw [own]
    exact ⟨declared.distinct name, fun spec member => ⟨name, declared.declared name spec member⟩⟩

end Parameters

/-- The names of the parameters of helper functions.

The text of a family ends, for each widget, with the two functions of each helper constructor that
is looked up. They declare the theme, the properties in their order and, in the second function, the
init block. Where files declare the helper constructors, the names are pairwise different in the
first function exactly if no property is called `theme`, and in the second one exactly if none is
called `theme` or `init`. -/
theorem renderFamily_helperParameters {files : List SourceFile} {options : Options}
    {templates : Templates} {family : Family} {widgets : List Widget} {text : String}
    (rendered :
      renderFamily ⟨options, Registry.ofFiles files, templates⟩ family widgets = .ok text) :
    let context : Context := ⟨options, Registry.ofFiles files, templates⟩
    let alone (widget : Widget) : Sheet := Sheet.ofWidgets context family [widget]
    text = (Sheet.ofWidgets context family widgets).factory.declaration templates.indent
        ++ Text.concat (widgets.map fun widget =>
          (alone widget).buildersText ++ (alone widget).helpersText templates.indent) ∧
      ∀ widget ∈ widgets,
        List.Forall₂
          (fun spec functions =>
            widget.Generates context family spec functions ∧ functions.HasParameters spec)
          (context.specsFor widget) (alone widget).helperFunctions := by
  intro context alone
  refine ⟨Sheet.text_of_rendered rendered, fun widget among => ?_⟩
  have each := Sheet.helperFunctions_of_rendered rendered among
  have wellFormed := @Context.wellFormed_specsFor context (Registry.wellFormed_ofFiles files) widget
  refine ((List.forall₂_and_left _ _).mpr ⟨wellFormed.2, each⟩).imp ?_
  rintro spec functions ⟨⟨name, declared⟩, generates⟩
  exact ⟨generates, generates.hasParameters declared.nonempty declared.distinct⟩

/-- A helper constructor for a text names all parameters differently. -/
theorem renderFamily_helperParameters_of_text :
    let file : SourceFile := ⟨"helpers.txt", "a.B(text: CharSequence)\n"⟩
    let context : Context := ⟨helpersOnly, Registry.ofFiles [file], .builtin "    "⟩
    let widget : Widget := textWidget "a.B" "B"
    ∃ text functions, renderFamily context .view [widget] = .ok text ∧
      (Sheet.ofWidgets context .view [widget]).helperFunctions = [functions] ∧
      (functions.plainParameters.map (·.name)).Nodup ∧
      (functions.fullParameters.map (·.name)).Nodup := by
  intro file context widget
  have faultless : (Sheet.ofWidgets context .view [widget]).faults = [] := by decide +kernel
  have rendered := (renderFamily_eq_ok_iff_faultless _ _ _ _).mpr ⟨faultless, rfl⟩
  have specs : context.specsFor widget =
      [⟨[⟨"text", "CharSequence"⟩], some ⟨file, 0, 23⟩⟩] := by decide +kernel
  obtain ⟨_, each⟩ := renderFamily_helperParameters rendered
  have holds := each widget (List.mem_singleton_self _)
  rw [specs, List.forall₂_cons_left_iff] at holds
  obtain ⟨functions, rest, ⟨_, names⟩, others, only⟩ := holds
  cases others
  exact ⟨_, functions, rendered, only, names.plainDistinct.mpr (by decide),
    names.fullDistinct.mpr (by decide)⟩

/-- A property may be called as the first parameter is. -/
theorem renderFamily_of_theme_twice :
    let file : SourceFile := ⟨"helpers.txt", "a.B(theme: int)\n"⟩
    let context : Context := ⟨helpersOnly, Registry.ofFiles [file], .builtin "    "⟩
    let widget : Widget := { textWidget "a.B" "B" with methods := [⟨"setTheme", ["int"]⟩] }
    file.lineErrors = [] ∧ (∃ text, renderFamily context .view [widget] = .ok text) ∧
      ∃ functions ∈ (Sheet.ofWidgets context .view [widget]).helperFunctions,
        functions.plain.parameters = "theme: Int = 0, theme: Int" ∧
          functions.plain.Takes functions.plainParameters ∧
          ¬(functions.plainParameters.map (·.name)).Nodup := by
  intro file context widget
  have faultless : (Sheet.ofWidgets context .view [widget]).faults = [] := by decide +kernel
  have rendered := (renderFamily_eq_ok_iff_faultless _ _ _ _).mpr ⟨faultless, rfl⟩
  have helpers : ∃ functions ∈ (Sheet.ofWidgets context .view [widget]).helperFunctions,
      functions.plain.parameters = "theme: Int = 0, theme: Int" ∧
        functions.plain.Takes functions.plainParameters ∧
        ¬(functions.plainParameters.map (·.name)).Nodup := by
    decide +kernel
  exact ⟨by decide +kernel, ⟨_, rendered⟩, helpers⟩

end WidgetBuilders
