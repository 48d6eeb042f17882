import WidgetBuilders.Proofs.FactoryReferences
import WidgetBuilders.Proofs.NestedLines
import WidgetBuilders.Proofs.ReportedFaults

/-!
# Generated files are well nested

A generated file is a head, and for each family a factory object and functions. All of these stand
where no brace is open, if the names in them move no brace. The names are made from texts of the
library, the registry and the options, by cutting, joining and changes of letter case. So it is
enough that those texts move no brace, which platform metadata never does.

Only with the built-in templates is anything known of the lines. Indentation has to be blank: a line
is told by what follows its margin.
-/

namespace WidgetBuilders

open Text

/-! ## Texts that are put in -/

/-- Every one of the texts is inert. -/
def AllInert (texts : List String) : Prop :=
  ∀ text ∈ texts, Inert text.toList

instance (texts : List String) : Decidable (AllInert texts) :=
  List.decidableBAll _ texts

/-- The texts in a widget. -/
def Widget.strings (widget : Widget) : List String :=
  [widget.qualifiedName, widget.simpleName] ++ widget.constructors.flatten
    ++ widget.methods.flatMap fun method => method.name :: method.parameters

/-- The texts in the widgets of a library. -/
def Library.strings (library : Library) : List String :=
  (library.views ++ library.viewGroups).flatMap Widget.strings

/-- The texts in the declarations of a registry. Their places are none of it. -/
def Registry.strings (registry : Registry) : List String :=
  registry.declarations.flatMap fun declaration =>
    declaration.widget :: declaration.spec.properties.flatMap fun property =>
      [property.name, property.type]

/-- The texts in the options. -/
def Options.strings (options : Options) : List String :=
  [options.artifact, options.package, options.tint.lead, options.tint.basePackage]

/-- The properties of a helper constructor are among the texts of the registry. -/
theorem Registry.inert_propertyNames {registry : Registry} (inert : AllInert registry.strings)
    {widget : String} {spec : HelperSpec} (member : spec ∈ registry.specsOf widget) :
    ∀ property ∈ spec.properties, Inert property.name.toList := by
  intro property among
  refine inert property.name (List.mem_flatMap.mpr ⟨_, mem_specsOf.mp member, ?_⟩)
  exact List.mem_cons_of_mem _ (List.mem_flatMap.mpr ⟨property, among, by simp⟩)

/-! ## Names -/

namespace Tint

variable {tint : Tint} {widget : Widget}

/-- The name of a base is a part of the name of its widget. -/
theorem inert_baseName {base : String} (name : Inert widget.qualifiedName.toList)
    (found : tint.baseName? widget = some base) : Inert base.toList := by
  unfold baseName? at found
  split at found
  · next c rest dropped =>
    split at found
    · cases found
    · cases found
      rw [String.toList_ofList]
      exact name.of_subset (subset_of_dropLead dropped)
  · cases found

/-- A base is qualified by the base package and a dot. -/
theorem inert_qualify (package : Inert tint.basePackage.toList) {base : String}
    (name : Inert base.toList) : Inert (tint.qualify base).toList := by
  simp only [qualify, String.toList_append, inert_append]
  exact ⟨⟨package, by decide⟩, name⟩

/-- The type of a widget is its own name, or that of its base. -/
theorem inert_typeOf (package : Inert tint.basePackage.toList)
    (name : Inert widget.qualifiedName.toList) : Inert (tint.typeOf widget).toList := by
  unfold typeOf baseOf?
  cases found : tint.baseName? widget with
  | none => exact name
  | some base => exact inert_qualify package (inert_baseName name found)

/-- The name of a builder function is made from a name of the widget. -/
theorem inert_functionName (name : Inert widget.qualifiedName.toList)
    (simple : Inert widget.simpleName.toList) : Inert (tint.functionName widget).toList := by
  unfold functionName
  split
  · next base found =>
    rw [String.toList_append]
    exact inert_append.mpr ⟨by decide, inert_baseName name found⟩
  · exact inert_decapitalize simple

end Tint

/-- The class that is constructed is named after the widget, for containers with an underscore. -/
theorem Family.inert_className {qualifiedName simpleName : String} (family : Family)
    (name : Inert qualifiedName.toList) (simple : Inert simpleName.toList) :
    Inert (family.className qualifiedName simpleName).toList := by
  cases family with
  | view => exact name
  | viewGroup =>
    rw [className, String.toList_append]
    exact inert_append.mpr ⟨by decide, simple⟩

/-- The arguments of a constructor are a few fixed words. -/
theorem WidgetClass.inert_arguments {c : WidgetClass} {arguments : String}
    (callable : c.arguments? = some arguments) : Inert arguments.toList := by
  obtain ⟨parameters, found, rfl⟩ := Option.map_eq_some_iff.mp callable
  have all : ∀ parameters ∈ callableConstructors,
      Inert (commaSeparated (parameters.map Parameter.argument)).toList := by decide
  exact all parameters (List.mem_of_find?_eq_some found)

namespace Factory

/-- The name of a factory object is made of the artifact and fixed words. -/
theorem inert_objectName {artifact : String} (inert : Inert artifact.toList) (family : Family) :
    Inert (objectName artifact family).toList := by
  have suffix : Inert family.suffix.toList := by
    cases family with
    | view => exact (by decide : Inert "View".toList)
    | viewGroup => exact (by decide : Inert "ViewGroup".toList)
  unfold objectName
  simp only [String.toList_append, inert_append]
  exact ⟨⟨⟨by decide, inert_pascalCase inert⟩, suffix⟩, by decide⟩

/-- The key of a property is made from the name of its function by a change of case. -/
theorem inert_keyOf {name : String} (inert : Inert name.toList) : Inert (keyOf name).toList :=
  inert_constantCase (inert_capitalize inert)

/-- A reference is an object, a dot and a key. -/
theorem inert_referenceTo {object key : String} (inertObject : Inert object.toList)
    (inertKey : Inert key.toList) : Inert (reference object key).toList := by
  simp only [reference, String.toList_append, inert_append]
  exact ⟨⟨inertObject, by decide⟩, inertKey⟩

end Factory

/-- The texts from which the names of a construction are made are inert. -/
structure Construction.IsInert (construction : Construction) : Prop where
  qualifiedName : Inert construction.widget.qualifiedName.toList
  simpleName : Inert construction.widget.simpleName.toList
  basePackage : Inert construction.tint.basePackage.toList
  arguments : Inert construction.arguments.toList

namespace Construction.IsInert

variable {construction : Construction} (inert : construction.IsInert)

include inert

/-- The name of the builder functions is inert. -/
theorem functionName : Inert construction.functionName.toList :=
  Tint.inert_functionName inert.qualifiedName inert.simpleName

/-- The class that is constructed has an inert name. -/
theorem className : Inert construction.className.toList :=
  construction.family.inert_className inert.qualifiedName inert.simpleName

/-- The type that is returned has an inert name. -/
theorem typeOf : Inert (construction.tint.typeOf construction.widget).toList :=
  Tint.inert_typeOf inert.basePackage inert.qualifiedName

/-- The class that is constructed on older platforms has an inert name. -/
theorem baseClassName {base : String} (found : construction.baseClassName? = some base) :
    Inert base.toList := by
  obtain ⟨name, named, rfl⟩ := Option.map_eq_some_iff.mp found
  have inertName := Tint.inert_baseName inert.qualifiedName named
  exact construction.family.inert_className (Tint.inert_qualify inert.basePackage inertName)
    inertName

/-- A call of a constructor adds only brackets and the arguments. -/
theorem call {className : String} (name : Inert className.toList) :
    Inert (construction.call className).toList := by
  simp only [Construction.call, String.toList_append, inert_append]
  exact ⟨⟨⟨name, by decide⟩, inert.arguments⟩, by decide⟩

/-- The expression that constructs the widget is inert, with a check of the platform version or
without. -/
theorem expression : Inert construction.expression.toList := by
  unfold Construction.expression
  split
  · exact inert.call inert.className
  · next base found =>
    simp only [String.toList_append, inert_append]
    exact ⟨⟨⟨⟨⟨by decide, inert_toString _⟩, by decide⟩, inert.call (inert.baseClassName found)⟩,
      by decide⟩, inert.call inert.className⟩

end Construction.IsInert

/-! ## Functions -/

/-- The names that a builder holds are inert. -/
structure Builder.IsInert (builder : Builder) : Prop where
  receiver : Inert builder.receiver.toList
  functionName : Inert builder.functionName.toList
  initReceiver : Inert builder.initReceiver.toList
  returnType : Inert builder.returnType.toList
  factory : Inert builder.factory.toList

/-- All four functions of a builder are inert. -/
theorem Builder.emitted_inert {builder : Builder} (inert : builder.IsInert) :
    ∀ function ∈ (Functions.builders builder).emitted, function.IsInert := by
  have themed : Inert builder.themedFunctionName.toList := by
    unfold themedFunctionName
    rw [String.toList_append]
    exact inert_append.mpr ⟨by decide, inert_capitalize inert.functionName⟩
  have init : Inert ("init: " ++ builder.initReceiver ++ ".() -> Unit").toList := by
    simp only [String.toList_append, inert_append]
    exact ⟨⟨by decide, inert.initReceiver⟩, by decide⟩
  have themedInit : Inert ("theme: Int = 0, " ++
      ("init: " ++ builder.initReceiver ++ ".() -> Unit")).toList := by
    rw [String.toList_append]
    exact inert_append.mpr ⟨by decide, init⟩
  simp only [Functions.emitted, Functions.paragraphs, paragraphs, List.flatten_cons,
    List.flatten_nil, List.append_nil, List.cons_append, List.nil_append, List.forall_mem_cons]
  refine ⟨?_, ?_, ?_, ?_, by simp⟩
  · exact ⟨inert.receiver, inert.functionName, (by decide : Inert "".toList), inert.returnType,
      (by decide : Inert "".toList)⟩
  · exact ⟨inert.receiver, inert.functionName, init, inert.returnType,
      inert.factory, (by decide : Inert "theme = 0".toList)⟩
  · exact ⟨inert.receiver, themed, (by decide : Inert "theme: Int = 0".toList), inert.returnType,
      (by decide : Inert "theme".toList)⟩
  · exact ⟨inert.receiver, themed, themedInit, inert.returnType,
      inert.factory, (by decide : Inert "theme".toList)⟩

/-- The names that the functions of a helper constructor hold are inert. -/
structure HelperFunctions.IsInert (functions : HelperFunctions) : Prop where
  functionName : Inert functions.functionName.toList
  type : Inert functions.type.toList
  factory : Inert functions.factory.toList
  assignments : ∀ assignment ∈ functions.assignments,
    Inert assignment.property.toList ∧ Inert assignment.setter.name.toList ∧
      Inert (assignment.setter.parameters.headD "").toList

namespace HelperFunctions

variable {functions : HelperFunctions}

/-- The parameters of a helper constructor are its properties with the types of their setters. -/
theorem IsInert.parameters (inert : functions.IsInert) : Inert functions.parameters.toList := by
  apply inert_commaSeparated
  rw [List.forall_mem_map]
  intro assignment member
  obtain ⟨property, _, type⟩ := inert.assignments assignment member
  simp only [Assignment.parameter, String.toList_append, inert_append]
  exact ⟨⟨property, by decide⟩, Kotlin.inert_typeOf type⟩

/-- The calls of setters are lines of their own: they begin with `set`. -/
theorem IsInert.calls (inert : functions.IsInert) (named : functions.SettersNamed) :
    ∀ call ∈ functions.assignments.map Assignment.call,
      Inert call.toList ∧ beginsLine call.toList = true := by
  rw [List.forall_mem_map]
  intro assignment member
  obtain ⟨property, setter, _⟩ := inert.assignments assignment member
  obtain ⟨rest, name⟩ := named assignment member
  constructor
  · simp only [Assignment.call, String.toList_append, inert_append]
    exact ⟨⟨⟨setter, by decide⟩, property⟩, by decide⟩
  · simp only [Assignment.call, name, String.toList_append, List.append_assoc]
    exact beginsLine_append (by decide) _

/-- A function of a helper constructor is inert, if what is added to its parameters and its lines
are. -/
theorem function_inert (inert : functions.IsInert) {more : String} (moreInert : Inert more.toList)
    {statements : List String}
    (lines : ∀ statement ∈ statements,
      Inert statement.toList ∧ beginsLine statement.toList = true) :
    (functions.function more statements).IsInert := by
  constructor
  case receiver => exact (by decide : Inert "ViewManager".toList)
  case name => exact inert.functionName
  case parameters =>
    simp only [function, String.toList_append, inert_append]
    exact ⟨⟨by decide, inert.parameters⟩, moreInert⟩
  case returnType => exact inert.type
  case body => exact ⟨inert.factory, lines⟩

/-- Both functions of a helper constructor are inert. -/
theorem emitted_inert (inert : functions.IsInert) (named : functions.SettersNamed) :
    ∀ function ∈ (Functions.helpers functions).emitted, function.IsInert := by
  have calls := inert.calls named
  have init : Inert (", init: " ++ functions.type ++ ".() -> Unit").toList := by
    simp only [String.toList_append, inert_append]
    exact ⟨⟨by decide, inert.type⟩, by decide⟩
  have initCalls : ∀ call ∈ "init()" :: functions.assignments.map Assignment.call,
      Inert call.toList ∧ beginsLine call.toList = true :=
    List.forall_mem_cons.mpr ⟨⟨by decide, by decide⟩, calls⟩
  simp only [Functions.emitted, Functions.paragraphs, paragraphs, List.flatten_cons,
    List.flatten_nil, List.append_nil, List.forall_mem_cons]
  exact ⟨function_inert inert (by decide) calls, function_inert inert init initCalls, by simp⟩

end HelperFunctions

/-! ## Widgets -/

namespace Construction

variable {construction : Construction} {factory : String}

/-- The builders of a widget differ by a fixed receiver; all else comes from the construction. -/
theorem builders_inert (inert : construction.IsInert) (inertFactory : Inert factory.toList)
    (flags : Flags) : ∀ builder ∈ construction.builders flags factory, builder.IsInert := by
  intro builder built
  obtain ⟨known, shape⟩ := eq_of_mem_builders built
  have all : ∀ receiver ∈ ["ViewManager", "Context", "Activity"], Inert receiver.toList := by
    decide
  rw [shape]
  refine ⟨all builder.receiver known, inert.functionName, ?_, inert.typeOf, inertFactory⟩
  cases found : construction.baseClassName? with
  | none => exact inert.className
  | some base => exact inert.baseClassName found

/-- What a helper constructor brings in is names of properties and what their setters declare. -/
theorem helperFunctions_inert (inert : construction.IsInert) (inertFactory : Inert factory.toList)
    {spec : HelperSpec} (properties : ∀ property ∈ spec.properties, Inert property.name.toList)
    (methods : ∀ method ∈ construction.widget.methods,
      Inert method.name.toList ∧ ∀ type ∈ method.parameters, Inert type.toList)
    {setters : List Method} (found : Setter.ofSpec construction.widget spec = .ok setters) :
    (construction.helperFunctions factory spec setters).IsInert := by
  constructor
  case functionName => exact inert.functionName
  case type => exact inert.typeOf
  case factory => exact inertFactory
  case assignments =>
    intro assignment member
    obtain ⟨property, among, same, only⟩ :=
      HelperFunctions.assigned_of_ofSpec found _ _ factory assignment member
    obtain ⟨name, types⟩ := methods _ only.listed
    obtain ⟨type, takes, _⟩ := only.sets.typed
    refine ⟨same ▸ properties property among, name, ?_⟩
    rw [takes, List.headD_cons]
    exact types type (by simp [takes])

/-- All functions of a widget are inert. -/
theorem functions_inert {context : Context} (inert : construction.IsInert)
    (inertFactory : Inert factory.toList)
    (methods : ∀ method ∈ construction.widget.methods,
      Inert method.name.toList ∧ ∀ type ∈ method.parameters, Inert type.toList)
    (registry : AllInert context.registry.strings) :
    ∀ functions ∈ construction.functions factory context,
      ∀ function ∈ functions.emitted, function.IsInert := by
  intro functions member
  cases makes_of_mem_functions member with
  | builders built => exact Builder.emitted_inert (builders_inert inert inertFactory _ _ built)
  | helpers _ declared chosen =>
    have named := construction.helperFunctions_named chosen factory
    have helpers := helperFunctions_inert inert inertFactory
      (Registry.inert_propertyNames registry declared) methods chosen
    exact HelperFunctions.emitted_inert helpers named

end Construction

/-- The methods of a widget are among its texts. -/
theorem Widget.inert_methods {widget : Widget} (inert : AllInert widget.strings) :
    ∀ method ∈ widget.methods,
      Inert method.name.toList ∧ ∀ type ∈ method.parameters, Inert type.toList := by
  intro method member
  have within {text : String} (among : text ∈ method.name :: method.parameters) :
      text ∈ widget.strings :=
    List.mem_append_right _ (List.mem_flatMap.mpr ⟨method, member, among⟩)
  exact ⟨inert _ (within List.mem_cons_self),
    fun type among => inert type (within (List.mem_cons_of_mem _ among))⟩

/-- A construction holds only texts of the widget and of the options. -/
theorem Construction.Decided.isInert {context : Context} {family : Family} {widget : Widget}
    {construction : Construction} (decided : construction.Decided context family widget)
    (options : AllInert context.options.strings) (inert : AllInert widget.strings) :
    construction.IsInert := by
  obtain ⟨_, sameTint, rfl, callable, _, _⟩ := decided
  constructor
  case qualifiedName => exact inert _ (by simp [Widget.strings])
  case simpleName => exact inert _ (by simp [Widget.strings])
  case basePackage =>
    rw [sameTint]
    exact options _ (by simp [Options.strings])
  case arguments => exact WidgetClass.inert_arguments callable

namespace Sheet

variable {context : Context} {family : Family}

/-- The text of a family stands where no brace is open: its object first, then its functions. -/
theorem stands {widgets : List Widget}
    (builtin : context.templates.text? "view" = some (Template.written Template.viewPieces))
    (faultless : (ofWidgets context family widgets).faults = [])
    (options : AllInert context.options.strings) (registry : AllInert context.registry.strings)
    (each : ∀ widget ∈ widgets, AllInert widget.strings) :
    Stands context.templates.indent
      ((ofWidgets context family widgets).text context.templates.indent) := by
  have object : Inert (Factory.objectName context.options.artifact family).toList :=
    Factory.inert_objectName (options _ (by simp [Options.strings])) family
  have name := (ofWidgets_steady context family widgets).name
  rw [text, blocks_of_faultless faultless]
  apply Stands.append
  · apply Factory.stands
    · rw [name]
      exact object
    · intro entry member
      obtain ⟨widget, among, asked⟩ := request_of_mem_entries member
      obtain ⟨construction, planned, rfl⟩ := construct_of_request asked
      have inert := (decided_of_plan planned).isInert options (each widget among)
      exact ⟨Factory.inert_keyOf inert.functionName, inert.expression⟩
  -- The blocks are those of the widgets alone, so each function can be traced to its widget.
  · simp only [alone_blocks builtin, ← List.map_flatMap, List.map_map]
    apply Stands.concat_of_all
    rw [List.forall_mem_map]
    intro functions member
    obtain ⟨widget, among, made⟩ := List.mem_flatMap.mp member
    obtain ⟨construction, planned, ofConstruction⟩ := construct_of_functionsOf made
    have decided := decided_of_plan planned
    have inert := decided.isInert options (each widget among)
    have reference := Factory.inert_referenceTo object (Factory.inert_keyOf inert.functionName)
    have methods := Widget.inert_methods (each widget among)
    rw [← decided.sameWidget] at methods
    exact Functions.stands
      (Construction.functions_inert inert reference methods registry functions ofConstruction) _

end Sheet

/-! ## The file -/

/-- The lines of a file that follow the line with its package, up to the factory objects. -/
def importLines : List String :=
  [ "", "import android.app.Activity", "import android.content.Context", "import android.os.Build",
    "import android.view.ViewManager", "import org.jetbrains.anko.custom.ankoView", "" ]

/-- The lines of a file before its first factory object. -/
def headLines (package : String) : List String :=
  ["@file:JvmName(\"ViewsKt\")", "package " ++ package] ++ importLines

/-- The built-in `file` template has no piece that could be misread. -/
theorem filePieces_plain : ∀ piece ∈ Template.filePieces, piece.isPlain = true := by
  decide +kernel

/-- The built-in template puts the bodies between the head and an empty line. -/
theorem renderFile_of_builtin {context : Context}
    (builtin : context.templates.text? "file" = some (Template.written Template.filePieces))
    (bodies : List String) :
    renderFile context bodies =
      .ok (concat ((headLines context.options.package).map (· ++ "\n")) ++ concat bodies
        ++ "\n") := by
  have filled : Template.fillPieces "file" (context.templates.value?
        [("package", context.options.package), ("body", concat bodies)]) Template.filePieces =
      .ok (concat ["@file:JvmName(\"ViewsKt\")\npackage ", context.options.package,
        "\n\nimport android.app.Activity\nimport android.content.Context\n",
        "import android.os.Build\nimport android.view.ViewManager\n",
        "import org.jetbrains.anko.custom.ankoView\n\n", concat bodies, "\n"]) :=
    Template.fillPieces_eq_ok rfl
  rw [renderFile, Templates.render, builtin]
  dsimp only
  rw [Template.fill_written filePieces_plain, filled]
  have first : "@file:JvmName(\"ViewsKt\")\npackage " =
      "@file:JvmName(\"ViewsKt\")" ++ "\n" ++ "package " := by decide +kernel
  have imports : "\n\nimport android.app.Activity\nimport android.content.Context\n"
        ++ "import android.os.Build\nimport android.view.ViewManager\n"
        ++ "import org.jetbrains.anko.custom.ankoView\n\n" =
      "\n" ++ concat (importLines.map (· ++ "\n")) := by decide +kernel
  apply congrArg Except.ok
  calc concat _
    _ = "@file:JvmName(\"ViewsKt\")\npackage " ++ (context.options.package
        ++ ("\n\nimport android.app.Activity\nimport android.content.Context\n"
          ++ "import android.os.Build\nimport android.view.ViewManager\n"
          ++ "import org.jetbrains.anko.custom.ankoView\n\n" ++ (concat bodies ++ "\n"))) := by
      simp only [concat, String.append_assoc, String.append_empty]
    _ = concat ((headLines context.options.package).map (· ++ "\n")) ++ concat bodies ++ "\n" := by
      rw [first, imports, headLines, List.map_append, concat_append]
      simp only [List.map_cons, List.map_nil, concat, String.append_assoc, String.empty_append]

/-- The head of a file stands where no brace is open; its only text from outside is the package. -/
theorem headLines_stand {package : String} (inert : Inert package.toList) (indent : String) :
    Stands indent (concat ((headLines package).map (· ++ "\n"))) := by
  have packageLine : LineBody ("package " ++ package) 0 := by
    apply LineBody.of_inert
    · rw [String.toList_append]
      exact beginsLine_append (by decide) _
    · rw [String.toList_append]
      exact inert_append.mpr ⟨by decide, inert⟩
  have fixed : ∀ line ∈ ["@file:JvmName(\"ViewsKt\")", "import android.app.Activity",
      "import android.content.Context", "import android.os.Build",
      "import android.view.ViewManager", "import org.jetbrains.anko.custom.ankoView"],
      beginsLine line.toList = true ∧ Inert line.toList := by decide
  apply Stands.concat_lines
  intro line member
  by_cases own : line = "package " ++ package
  · exact Or.inr (own ▸ packageLine)
  · by_cases empty : line = ""
    · exact Or.inl empty
    · obtain ⟨begins, inertLine⟩ := fixed line (by
        simpa [headLines, importLines, own, empty] using member)
      exact Or.inr (.of_inert begins inertLine)

/-- With the built-in templates, nothing but the widgets can be at fault. -/
theorem generate_of_builtin_eq_ok_iff {options : Options} {registry : Registry} {indent : String}
    {library : Library} {text : String} :
    let context : Context := ⟨options, registry, .builtin indent⟩
    let sheet (family : Family) : Sheet := .ofWidgets context family (family.widgets library)
    generate context library = .ok text ↔
      ((sheet .view).faults = [] ∧ (sheet .viewGroup).faults = []) ∧
        text = concat ((headLines options.package).map (· ++ "\n"))
          ++ concat [(sheet .view).text indent, (sheet .viewGroup).text indent] ++ "\n" := by
  intro context sheet
  have split : sheets context library = [sheet .view, sheet .viewGroup] := rfl
  have file : renderFile context
        ([sheet .view, sheet .viewGroup].map (·.text context.templates.indent)) =
      .ok (concat ((headLines options.package).map (· ++ "\n"))
        ++ concat [(sheet .view).text indent, (sheet .viewGroup).text indent] ++ "\n") :=
    renderFile_of_builtin rfl _
  unfold generate
  rw [split]
  dsimp only
  rw [file]
  cases views : (sheet .view).faults <;> cases groups : (sheet .viewGroup).faults <;>
    simp [views, groups, Except.mapError, eq_comm]

/-- A generated file is well nested.

With the built-in templates, blank indentation, and texts that hold neither braces nor line feeds,
every line of a generated file stands at its depth: behind one level of indentation for each brace
that is open before it, or one less if it closes a brace first, there is something that is not
blank, or else the line is empty and its depth is zero. No depth is negative, and at the end of the
file no brace is open. This holds for any number of widgets, receivers and helper constructors. -/
theorem generate_wellNested (library : Library) (registry : Registry) (options : Options)
    (indent text : String)
    (inert : AllInert (library.strings ++ registry.strings ++ options.strings ++ [indent]))
    (blank : Blank indent.toList)
    (generated : generate ⟨options, registry, .builtin indent⟩ library = .ok text) :
    WellNested indent text := by
  simp only [AllInert, List.forall_mem_append, List.forall_mem_singleton] at inert
  obtain ⟨⟨⟨ofLibrary, ofRegistry⟩, ofOptions⟩, ofIndent⟩ := inert
  have each : ∀ widget ∈ library.views ++ library.viewGroups, AllInert widget.strings :=
    fun widget member text among => ofLibrary text (List.mem_flatMap.mpr ⟨widget, member, among⟩)
  have body (family : Family)
      (within : family.widgets library ⊆ library.views ++ library.viewGroups)
      (faultless : (Sheet.ofWidgets ⟨options, registry, .builtin indent⟩ family
        (family.widgets library)).faults = []) :=
    Sheet.stands rfl faultless ofOptions ofRegistry fun widget member => each widget (within member)
  obtain ⟨⟨views, groups⟩, rfl⟩ := generate_of_builtin_eq_ok_iff.mp generated
  have viewsStand := body .view (List.subset_append_left _ _) views
  have groupsStand := body .viewGroup (List.subset_append_right _ _) groups
  have head := headLines_stand (ofOptions options.package (by simp [Options.strings])) indent
  have bodies := viewsStand.append (groupsStand.append .nothing)
  exact ((head.append bodies).append .emptyLine).wellNested blank ofIndent

/-- A tinted button, and a container. -/
def buttonAndFrame : Library where
  views := [textWidget "android.support.v7.widget.AppCompatButton" "AppCompatButton"]
  viewGroups := [{ textWidget "android.widget.FrameLayout" "FrameLayout" with isContainer := true }]

/-- One helper constructor, for the base of the button. -/
def oneHelper : Registry :=
  Registry.empty.insert "android.widget.Button" ⟨[⟨"text", "CharSequence"⟩], none⟩

/-- The file has builder functions on three receivers, and a helper constructor. -/
theorem generate_wellNested_of_buttonAndFrame :
    AllInert (buttonAndFrame.strings ++ oneHelper.strings ++ Options.standard.strings ++ ["\t"]) ∧
      Blank "\t".toList ∧
      ∃ text, generate ⟨.standard, oneHelper, .builtin "\t"⟩ buttonAndFrame = .ok text ∧
        WellNested "\t" text := by
  have inert : AllInert
      (buttonAndFrame.strings ++ oneHelper.strings ++ Options.standard.strings ++ ["\t"]) := by
    decide +kernel
  have blank : Blank "\t".toList := by simp [Blank, isBlank]
  let context : Context := ⟨.standard, oneHelper, .builtin "\t"⟩
  have views : (Sheet.ofWidgets context .view buttonAndFrame.views).faults = [] := by
    have planned : plan context .view
        (textWidget "android.support.v7.widget.AppCompatButton" "AppCompatButton") =
          .construct ⟨.view, .standard,
            textWidget "android.support.v7.widget.AppCompatButton" "AppCompatButton", "ctx",
            some "android.widget.Button"⟩ := by decide +kernel
    rw [buttonAndFrame, (Sheet.alone_of_construct planned).2, Construction.contribution,
      Construction.builderContribution_of_builtin rfl]
    decide +kernel
  have groups : (Sheet.ofWidgets context .viewGroup buttonAndFrame.viewGroups).faults = [] :=
    Sheet.alone_faults_of_undeclared rfl (by decide +kernel)
  have generated := generate_of_builtin_eq_ok_iff.mpr ⟨⟨views, groups⟩, rfl⟩
  exact ⟨inert, blank, _, generated,
    generate_wellNested buttonAndFrame oneHelper .standard "\t" _ inert blank generated⟩

end WidgetBuilders
