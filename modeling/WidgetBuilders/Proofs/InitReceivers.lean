import WidgetBuilders.Proofs.FactoryReferences

/-!
# The types in the functions of a widget

A widget has builder functions and helper constructors, and a reader takes them for one set of
overloads: they have the same names or related ones, return the widget, and may run an init block on
it. The types are computed twice, though. What is returned is in both cases the type of the widget,
that of its base if it is tinted. The init block of a builder function runs on the class by which
the widget, or its base, is constructed; that of a helper constructor runs on the type that is
returned.

For views this is the same. A group is constructed through a subclass, with an underscore before its
simple name, and only builder functions show this subclass to the init block: in a helper
constructor of a group, the init block sees the class without what the subclass adds. The two could
agree only for a class without a package whose name begins with an underscore that its simple name
does not have.
-/

namespace WidgetBuilders

open Template

/-- The class by which a widget is constructed, or its base if it is tinted. -/
def Family.initReceiver (family : Family) (tint : Tint) (widget : Widget) : String :=
  match tint.baseName? widget with
  | none => family.className widget.qualifiedName widget.simpleName
  | some base => family.className (tint.qualify base) base

/-- Two overloads of a function. Both return `type`; the second one takes an init block that runs on
`receiver`, after the parameters of the first one. -/
structure EmittedFunction.Overloads (receiver type : String) (plain full : EmittedFunction) :
    Prop where
  sameName : full.name = plain.name
  parameters : full.parameters =
    (if plain.parameters = "" then "" else plain.parameters ++ ", ") ++ "init: " ++ receiver
      ++ ".() -> Unit"
  plainType : plain.returnType = type
  fullType : full.returnType = type

/-- The paragraphs of a block are pairs of overloads, all with the types that the block is kept
with. -/
theorem Functions.overloads_of_paragraph {functions : Functions} {paragraph : List EmittedFunction}
    (member : paragraph ∈ functions.paragraphs) :
    ∃ plain full, paragraph = [plain, full] ∧
      EmittedFunction.Overloads functions.initReceiver functions.returnType plain full := by
  cases functions with
  | builders builder =>
    simp only [paragraphs, Builder.paragraphs, List.mem_cons, List.not_mem_nil, or_false] at member
    rcases member with rfl | rfl
    · refine ⟨_, _, rfl, rfl, ?_, rfl, rfl⟩
      simp [initReceiver]
    · refine ⟨_, _, rfl, rfl, ?_, rfl, rfl⟩
      apply String.toList_injective
      simp [initReceiver]
  | helpers functions =>
    rw [paragraphs, HelperFunctions.paragraphs, List.mem_singleton] at member
    refine ⟨_, _, member, rfl, ?_, rfl, rfl⟩
    have nonempty : "theme: Int = 0, " ++ functions.parameters ≠ "" := by
      simp [String.append_eq_empty_iff]
    simp [HelperFunctions.function, initReceiver, nonempty, String.append_assoc]

namespace Family

variable {tint : Tint} {widget : Widget}

/-- The class of a view is its type. -/
theorem initReceiver_view : Family.view.initReceiver tint widget = tint.typeOf widget := by
  unfold initReceiver Tint.typeOf Tint.baseOf?
  cases tint.baseName? widget <;> rfl

/-- The subclass of a group is its type in one case only. The base of a tinted group has a dot in
its name where the subclass has an underscore. -/
theorem initReceiver_viewGroup_eq_iff :
    Family.viewGroup.initReceiver tint widget = tint.typeOf widget ↔
      tint.baseName? widget = none ∧ "_" ++ widget.simpleName = widget.qualifiedName := by
  unfold initReceiver Tint.typeOf Tint.baseOf?
  cases tint.baseName? widget with
  | none => simp [className]
  | some base =>
    have differ : "_" ++ base ≠ tint.qualify base := by
      intro same
      have cut : "_".toList = tint.basePackage.toList ++ ".".toList := by
        have lists := congrArg String.toList same
        simp only [Tint.qualify, String.toList_append] at lists
        exact List.append_cancel_right lists
      have last := congrArg List.getLast? cut
      simp at last
    simpa [className] using differ

/-- No name is its own last segment after an underscore. -/
theorem underscore_lastSegment_ne (name : String) : "_" ++ lastSegment name ≠ name := by
  intro same
  have reversed : name.toList.reverse.takeWhile (· ≠ '.') ++ ['_'] = name.toList.reverse := by
    have lists := congrArg (fun text => text.toList.reverse) same
    simpa [lastSegment] using lists
  -- The underscore is no dot, so the last segment goes on with it.
  have longer : name.toList.reverse.takeWhile (· ≠ '.') =
      name.toList.reverse.takeWhile (· ≠ '.') ++ ['_'] := by
    conv => lhs; rw [← reversed]
    rw [List.takeWhile_append_of_pos fun c member =>
      List.all_eq_true.mp List.all_takeWhile c member]
    rfl
  simp at longer

end Family

/-! ## The functions of a widget -/

namespace Construction

variable {context : Context} {construction : Construction} {factory : String}

/-- All builders of a widget return its type, and their init blocks run on one receiver. -/
theorem types_of_builder {builder : Builder}
    (member : builder ∈ construction.builders context.options.flags factory) :
    builder.returnType = construction.tint.typeOf construction.widget ∧
      builder.initReceiver =
        construction.family.initReceiver construction.tint construction.widget := by
  rw [(eq_of_mem_builders member).2]
  refine ⟨rfl, ?_⟩
  dsimp only
  unfold baseClassName? Family.initReceiver
  cases construction.tint.baseName? construction.widget <;> rfl

/-- The builders of a widget are among its functions whether or not there are helper constructors.
-/
theorem builder_mem_functions {builder : Builder} :
    .builders builder ∈ construction.functions factory context ↔
      builder ∈ construction.builders context.options.flags factory := by
  constructor
  · intro member
    cases makes_of_mem_functions member with
    | builders built => exact built
  · intro built
    exact List.mem_append_left _ (List.mem_map_of_mem built)

/-- The functions of all helper constructors return the type of the widget. -/
theorem type_of_helpers {helpers : HelperFunctions}
    (member : .helpers helpers ∈ construction.functions factory context) :
    helpers.type = construction.tint.typeOf construction.widget := by
  cases makes_of_mem_functions member with
  | helpers => rfl

end Construction

/-- The types in the functions of a widget, and when the receivers of the init blocks agree. -/
structure InitReceivers (context : Context) (family : Family) (widget : Widget) : Prop where
  /-- Builder functions run the init block on the class that is constructed. -/
  ofBuilders : ∀ builder, .builders builder ∈ Sheet.functionsOf context family widget →
    ∀ paragraph ∈ builder.paragraphs, ∃ plain full, paragraph = [plain, full] ∧
      EmittedFunction.Overloads (family.initReceiver context.options.tint widget)
        (context.options.tint.typeOf widget) plain full
  /-- Helper constructors run it on the type that all functions return. -/
  ofHelpers : ∀ helpers, .helpers helpers ∈ Sheet.functionsOf context family widget →
    ∀ paragraph ∈ helpers.paragraphs, ∃ plain full, paragraph = [plain, full] ∧
      EmittedFunction.Overloads (context.options.tint.typeOf widget)
        (context.options.tint.typeOf widget) plain full
  /-- No helper constructor is without builder functions beside it, if these are wanted. -/
  together : context.options.flags.views = true →
    Sheet.functionsOf context family widget ≠ [] →
      ∃ builder, .builders builder ∈ Sheet.functionsOf context family widget
  agree : family.initReceiver context.options.tint widget = context.options.tint.typeOf widget ↔
    family = .view ∨ context.options.tint.baseName? widget = none ∧
      "_" ++ widget.simpleName = widget.qualifiedName
  /-- They differ for every group whose simple name is the end of its qualified name. -/
  differ : family = .viewGroup → widget.simpleName = lastSegment widget.qualifiedName →
    family.initReceiver context.options.tint widget ≠ context.options.tint.typeOf widget

/-- Both kinds of functions return the same type, and their init blocks run on receivers that may
differ. -/
theorem initReceivers (context : Context) (family : Family) (widget : Widget) :
    InitReceivers context family widget := by
  constructor
  case ofBuilders =>
    intro builder member paragraph among
    obtain ⟨construction, planned, made⟩ := Sheet.construct_of_functionsOf member
    obtain ⟨rfl, sameTint, rfl, _, _, _⟩ := decided_of_plan planned
    obtain ⟨returned, receiver⟩ :=
      Construction.types_of_builder (Construction.builder_mem_functions.mp made)
    rw [← sameTint, ← receiver, ← returned]
    exact @Functions.overloads_of_paragraph (.builders builder) _ among
  case ofHelpers =>
    intro helpers member paragraph among
    obtain ⟨construction, planned, made⟩ := Sheet.construct_of_functionsOf member
    obtain ⟨rfl, sameTint, rfl, _, _, _⟩ := decided_of_plan planned
    rw [← sameTint, ← Construction.type_of_helpers made]
    exact @Functions.overloads_of_paragraph (.helpers helpers) _ among
  case together =>
    intro views nonempty
    obtain ⟨functions, member⟩ := List.exists_mem_of_ne_nil _ nonempty
    obtain ⟨construction, planned, _⟩ := Sheet.construct_of_functionsOf member
    obtain ⟨builder, built⟩ :=
      List.exists_mem_of_ne_nil _ (Construction.builders_ne_nil_iff.mpr views)
    refine ⟨builder, ?_⟩
    rw [Sheet.functionsOf, planned]
    exact Construction.builder_mem_functions.mpr built
  case agree =>
    cases family with
    | view => simp [Family.initReceiver_view]
    | viewGroup => simp [Family.initReceiver_viewGroup_eq_iff]
  case differ =>
    rintro rfl named same
    obtain ⟨_, own⟩ := Family.initReceiver_viewGroup_eq_iff.mp same
    rw [named] at own
    exact Family.underscore_lastSegment_ne _ own

/-- In a family that is rendered with the built-in template, all overloads of a widget return the
same type, and its init blocks run on the same receiver unless the widget is a group. -/
theorem renderFamily_initReceivers (context : Context) (family : Family) (widgets : List Widget)
    (text : String)
    (builtin : context.templates.text? "view" = some (Template.written viewPieces))
    (rendered : renderFamily context family widgets = .ok text) :
    text = (Sheet.ofWidgets context family widgets).factory.declaration context.templates.indent
        ++ Text.concat ((widgets.flatMap (Sheet.functionsOf context family)).map
            (Functions.written context.templates.indent 0)) ∧
      ∀ widget ∈ widgets, InitReceivers context family widget := by
  obtain ⟨faultless, rfl⟩ := (renderFamily_eq_ok_iff_faultless _ _ _ _).mp rendered
  exact ⟨Sheet.text_of_faultless builtin faultless,
    fun widget _ => initReceivers context family widget⟩

/-- Builder functions and helper constructors, declared for two classes with one setter. -/
def helpersOfButtonAndPanel : Context where
  options := .standard
  registry :=
    (Registry.empty.insert "android.widget.Button" ⟨[⟨"text", "CharSequence"⟩], none⟩).insert
      "a.Panel" ⟨[⟨"text", "CharSequence"⟩], none⟩
  templates := .builtin "    "

/-- A tinted button has the receiver of its base in all functions. -/
theorem renderFamily_initReceivers_of_tinted :
    let button : Widget := textWidget "android.support.v7.widget.AppCompatButton" "AppCompatButton"
    helpersOfButtonAndPanel.templates.text? "view" = some (Template.written viewPieces) ∧
      ∃ text, renderFamily helpersOfButtonAndPanel .view [button] = .ok text ∧
        InitReceivers helpersOfButtonAndPanel .view button := by
  intro button
  have planned : plan helpersOfButtonAndPanel .view button =
      .construct ⟨.view, .standard, button, "ctx", some "android.widget.Button"⟩ := by
    decide +kernel
  have faultless : (Sheet.ofWidgets helpersOfButtonAndPanel .view [button]).faults = [] := by
    rw [(Sheet.alone_of_construct planned).2, Construction.contribution,
      Construction.builderContribution_of_builtin rfl]
    decide +kernel
  have rendered := (renderFamily_eq_ok_iff_faultless _ _ _ _).mpr ⟨faultless, rfl⟩
  exact ⟨rfl, _, rendered, (renderFamily_initReceivers helpersOfButtonAndPanel .view [button] _ rfl
    rendered).2 button List.mem_cons_self⟩

/-- A group with a helper constructor: the init block of a builder function runs on the subclass,
that of the helper constructor on the class itself. -/
theorem panel_initReceivers_differ :
    let panel : Widget := { textWidget "a.Panel" "Panel" with isContainer := true }
    helpersOfButtonAndPanel.options.flags = .all ∧
      (∃ text, renderFamily helpersOfButtonAndPanel .viewGroup [panel] = .ok text) ∧
      ∃ builder helpers,
        .builders builder ∈ Sheet.functionsOf helpersOfButtonAndPanel .viewGroup panel ∧
        .helpers helpers ∈ Sheet.functionsOf helpersOfButtonAndPanel .viewGroup panel ∧
        (Functions.builders builder).initReceiver = "_Panel" ∧
        (Functions.helpers helpers).initReceiver = "a.Panel" ∧
        (Functions.helpers helpers).initReceiver ≠ (Functions.builders builder).initReceiver := by
  intro panel
  have planned : plan helpersOfButtonAndPanel .viewGroup panel =
      .construct ⟨.viewGroup, .standard, panel, "ctx", some "a.Panel"⟩ := by
    decide +kernel
  have faultless : (Sheet.ofWidgets helpersOfButtonAndPanel .viewGroup [panel]).faults = [] := by
    rw [(Sheet.alone_of_construct planned).2, Construction.contribution,
      Construction.builderContribution_of_builtin rfl]
    decide +kernel
  have rendered := (renderFamily_eq_ok_iff_faultless _ _ _ _).mpr ⟨faultless, rfl⟩
  let factory : String := "`$$Anko$$Factories$$Sdk15ViewGroup`.PANEL"
  let builder : Builder := ⟨"ViewManager", "panel", "_Panel", "_Panel", "a.Panel", factory⟩
  let helpers : HelperFunctions :=
    ⟨"panel", "a.Panel", factory, [⟨"text", ⟨"setText", ["java.lang.CharSequence"]⟩⟩]⟩
  exact ⟨rfl, ⟨_, rendered⟩, builder, helpers, by decide +kernel, by decide +kernel, rfl, rfl,
    by decide⟩

end WidgetBuilders
