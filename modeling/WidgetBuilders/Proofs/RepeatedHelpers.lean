import WidgetBuilders.Proofs.HelperOverloads
import WidgetBuilders.Proofs.InertText
import WidgetBuilders.Proofs.SharedSetters

/-!
# Helper functions that are declared twice

A declaration that repeats the properties of an earlier one is left out, whatever file it is in. It
repeats them only if it spells them in the same way: `CharSequence` and `java.lang.CharSequence` are
two types for the reader, and both find the setter of a text. So a widget may have several helper
constructors that come to the same functions.

This module tells when two helper functions of a widget are the same text. Both have the same kind,
so with an init block or both without one, since the first call of a block tells the kinds apart.
The calls show the names of the properties and the header shows the types of the parameters; there
is nothing else in which two helper constructors of one widget could differ.
-/

namespace WidgetBuilders

open Grammar Text

/-- The text of both functions. -/
def HelperFunctions.declarations (indent : String) (functions : HelperFunctions) : List String :=
  [functions.plain.written indent 0, functions.full.written indent 0]

/-- The names of the properties, in order. -/
def HelperFunctions.propertyNames (functions : HelperFunctions) : List String :=
  functions.assignments.map (·.property)

/-- The functions set the same properties and have parameters of the same text. -/
structure HelperFunctions.Repeats (first second : HelperFunctions) : Prop where
  properties : first.propertyNames = second.propertyNames
  parameters : first.parameters = second.parameters

/-- The property has the same name, and more or less of the same type is written. -/
structure Property.Respells (property other : Property) : Prop where
  named : property.name = other.name
  typed : property.type.toList <:+ other.type.toList ∨ other.type.toList <:+ property.type.toList

/-! ## Calls -/

/-- A line that ends with a call shows in round brackets what is passed. -/
theorem append_call_inj {front other name another : String} (unopened : '(' ∉ name.toList)
    (unopenedToo : '(' ∉ another.toList)
    (same : front ++ "(" ++ name ++ ")\n" = other ++ "(" ++ another ++ ")\n") :
    front = other ∧ name = another := by
  have cut (front name : String) (unopened : '(' ∉ name.toList) :
      cutLast '(' (front ++ "(" ++ name ++ ")\n").toList =
        some (front.toList, name.toList ++ [')', '\n']) :=
    cutLast_eq_some_iff.mpr ⟨by simp, by simp [unopened]⟩
  have cuts := cut front name unopened
  rw [same, cut other another unopenedToo] at cuts
  obtain ⟨fronts, names⟩ := Prod.mk.inj (Option.some.inj cuts)
  exact ⟨String.toList_inj.mp fronts.symm,
    String.toList_inj.mp (List.append_cancel_right names).symm⟩

/-- A line that ends with a brace is no line that ends with a call. -/
theorem append_brace_ne_append_call (front other : String) :
    front ++ "\x7b\n" ≠ other ++ ")\n" := by
  intro same
  have lists := congrArg String.toList same
  rw [String.toList_append, String.toList_append] at lists
  exact absurd (List.append_inj' lists rfl).2 (by decide)

section Calls

variable {called : String → String}

/-- The line of a call. What is passed settles which function is called. -/
def callLine (called : String → String) (name : String) : String :=
  called name ++ "(" ++ name ++ ")\n"

/-- The last of several lines stands at the end. -/
theorem concat_callLines_append_singleton (names : List String) (name : String) :
    concat ((names ++ [name]).map (callLine called)) =
      concat (names.map (callLine called)) ++ callLine called name := by
  rw [List.map_append, concat_append, List.map_singleton, concat, concat, String.append_empty]

/-- Lines of calls after a brace tell what they pass, and what stands before the brace. -/
theorem concat_callLines_inj {names namesToo : List String} {front frontToo : String}
    (unopened : ∀ name ∈ names, '(' ∉ name.toList)
    (unopenedToo : ∀ name ∈ namesToo, '(' ∉ name.toList)
    (same : front ++ "\x7b\n" ++ concat (names.map (callLine called)) =
      frontToo ++ "\x7b\n" ++ concat (namesToo.map (callLine called))) :
    front = frontToo ∧ names = namesToo := by
  -- The last lines are compared first: a line that ends with a call is no line with a brace.
  induction names using List.reverseRecOn generalizing namesToo with
  | nil =>
    rcases List.eq_nil_or_concat' namesToo with rfl | ⟨others, other, rfl⟩
    · exact ⟨by simpa [concat] using same, rfl⟩
    · rw [concat_callLines_append_singleton, callLine, ← String.append_assoc,
        ← String.append_assoc, List.map_nil, concat, String.append_empty] at same
      exact absurd same (append_brace_ne_append_call _ _)
  | append_singleton names name ih =>
    rw [concat_callLines_append_singleton] at same
    rcases List.eq_nil_or_concat' namesToo with rfl | ⟨others, other, rfl⟩
    · rw [callLine, ← String.append_assoc, ← String.append_assoc, List.map_nil, concat,
        String.append_empty] at same
      exact absurd same.symm (append_brace_ne_append_call _ _)
    · rw [concat_callLines_append_singleton] at same
      obtain ⟨before, last⟩ := List.forall_mem_append.mp unopened
      obtain ⟨beforeToo, lastToo⟩ := List.forall_mem_append.mp unopenedToo
      have lines := same
      simp only [callLine, ← String.append_assoc] at lines
      obtain ⟨_, rfl⟩ := append_call_inj (last name (by simp)) (lastToo other (by simp)) lines
      rw [← String.append_assoc, ← String.append_assoc, String.append_left_inj] at same
      obtain ⟨fronts, rfl⟩ := ih before beforeToo same
      exact ⟨fronts, rfl⟩

end Calls

/-! ## The functions of a widget -/

/-- What is called with a value: its setter or, for no value, the init block. -/
def calledWith (name : String) : String :=
  if name = "" then "init" else "set" ++ capitalize name

/-- The functions call these, with these values. -/
def callsOf (names : List String) : List String :=
  names.map fun name => calledWith name ++ "(" ++ name ++ ")"

namespace HelperFunctions

variable {first second : HelperFunctions} {indent : String} {level : Nat}

/-- The functions belong to one widget: they may differ in what they set, and in nothing else. -/
structure SharesFrame (first second : HelperFunctions) : Prop where
  functionName : first.functionName = second.functionName
  type : first.type = second.type
  factory : first.factory = second.factory

/-- It makes no difference which of the two comes first. -/
theorem SharesFrame.symm (frame : first.SharesFrame second) : second.SharesFrame first :=
  ⟨frame.functionName.symm, frame.type.symm, frame.factory.symm⟩

/-- The assignments are those of properties with names, each with its setter. -/
def WellNamed (functions : HelperFunctions) : Prop :=
  ∀ assignment ∈ functions.assignments,
    assignment.setter.name = "set" ++ capitalize assignment.property ∧
      Name assignment.property.toList

/-- The calls of setters show nothing but the names of the properties. -/
theorem WellNamed.calls_eq {functions : HelperFunctions} (named : functions.WellNamed) :
    functions.assignments.map Assignment.call = callsOf functions.propertyNames := by
  rw [callsOf, propertyNames, List.map_map]
  refine List.map_congr_left fun assignment member => ?_
  obtain ⟨setter, name⟩ := named assignment member
  have nonempty : assignment.property ≠ "" := by
    rintro empty
    simp [empty, Name] at name
  simp [Assignment.call, calledWith, setter, nonempty]

/-- No name of a property holds a round bracket. -/
theorem WellNamed.unopened {functions : HelperFunctions} (named : functions.WellNamed) :
    ∀ name ∈ functions.propertyNames, '(' ∉ name.toList := by
  intro name member
  obtain ⟨assignment, among, rfl⟩ := List.mem_map.mp member
  exact sign_not_mem_qualifiedName (by decide) (qualifiedName_of_name (named assignment among).2)

/-- A function in terms of the values that it passes. -/
theorem function_written_of_calls (functions : HelperFunctions) (more : String)
    (names : List String) (indent : String) (level : Nat) :
    (functions.function more (callsOf names)).written indent level =
      repeated level indent ++ "inline fun ViewManager." ++ functions.functionName
          ++ "(theme: Int = 0, " ++ (functions.parameters ++ more)
          ++ ("): " ++ functions.type ++ " \x7b\n" ++ repeated (level + 1) indent
            ++ "return ankoView(" ++ functions.factory ++ ", theme) ")
        ++ "\x7b\n"
        ++ concat (names.map (callLine fun name => repeated (level + 2) indent ++ calledWith name))
        ++ (repeated (level + 1) indent ++ "\x7d\n" ++ repeated level indent ++ "\x7d\n") := by
  have lines : (callsOf names).map
        (fun statement => repeated (level + 2) indent ++ statement ++ "\n") =
      names.map (callLine fun name => repeated (level + 2) indent ++ calledWith name) := by
    have seam : ")\n" = ")" ++ "\n" := by decide
    rw [callsOf, List.map_map]
    refine List.map_congr_left fun name _ => ?_
    simp only [Function.comp_apply, callLine, seam, String.append_assoc]
  unfold function EmittedFunction.written
  dsimp only
  rw [lines]
  apply String.toList_injective
  simp [EmittedFunction.toList_header]

/-- What the text of a function tells of it. -/
theorem function_written_inj (frame : first.SharesFrame second) {more moreToo : String}
    {names namesToo : List String} (unopened : ∀ name ∈ names, '(' ∉ name.toList)
    (unopenedToo : ∀ name ∈ namesToo, '(' ∉ name.toList)
    (same : (first.function more (callsOf names)).written indent level =
      (second.function moreToo (callsOf namesToo)).written indent level) :
    first.parameters ++ more = second.parameters ++ moreToo ∧ names = namesToo := by
  rw [function_written_of_calls, function_written_of_calls, String.append_left_inj] at same
  obtain ⟨fronts, rfl⟩ := concat_callLines_inj unopened unopenedToo same
  rw [frame.functionName, frame.type, frame.factory, String.append_left_inj,
    String.append_right_inj] at fronts
  exact ⟨fronts, rfl⟩

/-- The first function, in terms of the values that it passes. -/
theorem WellNamed.plain_eq {functions : HelperFunctions} (named : functions.WellNamed) :
    functions.plain = functions.function "" (callsOf functions.propertyNames) := by
  rw [plain, named.calls_eq]

/-- The call of the init block passes nothing. -/
theorem WellNamed.full_eq {functions : HelperFunctions} (named : functions.WellNamed) :
    functions.full = functions.function (", init: " ++ functions.type ++ ".() -> Unit")
      (callsOf ("" :: functions.propertyNames)) := by
  have init : calledWith "" ++ "(" ++ "" ++ ")" = "init()" := by decide
  rw [full, named.calls_eq]
  unfold callsOf
  rw [List.map_cons, init]

section Frame

variable (frame : first.SharesFrame second) (named : first.WellNamed) (namedToo : second.WellNamed)

include frame named namedToo

/-- The first functions have one text exactly if one repeats the other. -/
theorem plain_written_eq_iff :
    first.plain.written indent level = second.plain.written indent level ↔
      first.Repeats second := by
  rw [named.plain_eq, namedToo.plain_eq]
  constructor
  · intro same
    obtain ⟨parameters, properties⟩ :=
      function_written_inj frame named.unopened namedToo.unopened same
    exact ⟨properties, by simpa using parameters⟩
  · rintro ⟨properties, parameters⟩
    unfold function
    rw [frame.functionName, frame.type, frame.factory, properties, parameters]

/-- The second functions have one text exactly if one repeats the other. -/
theorem full_written_eq_iff :
    first.full.written indent level = second.full.written indent level ↔
      first.Repeats second := by
  rw [named.full_eq, namedToo.full_eq]
  constructor
  · intro same
    obtain ⟨parameters, properties⟩ := function_written_inj frame
      (List.forall_mem_cons.mpr ⟨by simp, named.unopened⟩)
      (List.forall_mem_cons.mpr ⟨by simp, namedToo.unopened⟩) same
    rw [frame.type, String.append_left_inj] at parameters
    exact ⟨(List.cons.inj properties).2, parameters⟩
  · rintro ⟨properties, parameters⟩
    unfold function
    rw [frame.functionName, frame.type, frame.factory, properties, parameters]

/-- The first call tells a function with an init block from one without. -/
theorem plain_written_ne_full :
    first.plain.written indent level ≠ second.full.written indent level := by
  rw [named.plain_eq, namedToo.full_eq]
  intro same
  obtain ⟨_, properties⟩ := function_written_inj frame named.unopened
    (List.forall_mem_cons.mpr ⟨by simp, namedToo.unopened⟩) same
  have unnamed : "" ∈ first.propertyNames := by
    rw [properties]
    exact List.mem_cons_self
  obtain ⟨assignment, among, empty⟩ := List.mem_map.mp unnamed
  obtain ⟨_, name⟩ := named assignment among
  simp [empty, Name] at name

/-- Two helper constructors have no text in common unless one repeats the other. -/
theorem disjoint_declarations_iff :
    List.Disjoint (first.declarations indent) (second.declarations indent) ↔
      ¬first.Repeats second := by
  have plains := @plain_written_eq_iff first second indent 0 frame named namedToo
  have fulls := @full_written_eq_iff first second indent 0 frame named namedToo
  have apart := @plain_written_ne_full first second indent 0 frame named namedToo
  have apartToo := (@plain_written_ne_full second first indent 0 frame.symm namedToo named).symm
  simp only [declarations, List.disjoint_cons_left, List.disjoint_nil_left, List.mem_cons,
    List.not_mem_nil, plains, fulls, apart, apartToo, or_false, false_or, and_true, and_self]

end Frame

/-- The texts of several helper constructors of a widget are pairwise different exactly if none of
them repeats another. -/
theorem nodup_declarations_iff {helpers : List HelperFunctions}
    (frames : ∀ first ∈ helpers, ∀ second ∈ helpers, first.SharesFrame second)
    (named : ∀ functions ∈ helpers, functions.WellNamed) :
    (helpers.flatMap (declarations indent)).Nodup ↔
      helpers.Pairwise fun first second => ¬first.Repeats second := by
  have own : ∀ functions ∈ helpers, (functions.declarations indent).Nodup := by
    intro functions member
    have apart := @plain_written_ne_full functions functions indent 0 ⟨rfl, rfl, rfl⟩
      (named functions member) (named functions member)
    simpa [declarations] using apart
  rw [List.nodup_flatMap, and_iff_right own]
  refine List.Pairwise.iff_of_mem fun {first second} one another => ?_
  exact disjoint_declarations_iff (frames first one second another) (named first one)
    (named second another)

end HelperFunctions

/-! ## Parameters without commas -/

/-- Texts without commas are told from what they are joined to. -/
theorem commaSeparated_inj {texts others : List String}
    (uncut : ∀ text ∈ texts, ',' ∉ text.toList) (uncutToo : ∀ text ∈ others, ',' ∉ text.toList)
    (lengths : texts.length = others.length)
    (same : commaSeparated texts = commaSeparated others) : texts = others := by
  induction texts generalizing others with
  | nil => exact (List.length_eq_zero_iff.mp lengths.symm).symm
  | cons text rest ih =>
    obtain ⟨here, later⟩ := List.forall_mem_cons.mp uncut
    match others, rest with
    | [other], [] => simpa [commaSeparated] using same
    | other :: next :: more, second :: rest =>
      obtain ⟨hereToo, laterToo⟩ := List.forall_mem_cons.mp uncutToo
      have lists := congrArg String.toList same
      have seam : ", ".toList = [',', ' '] := by decide
      simp only [commaSeparated, String.toList_append, seam, List.append_assoc, List.cons_append,
        List.nil_append] at lists
      obtain ⟨first, others⟩ := append_separator_inj here hereToo lists
      have joined : commaSeparated (second :: rest) = commaSeparated (next :: more) :=
        String.toList_inj.mp (List.cons.inj others).2
      rw [String.toList_inj.mp first, ih later laterToo (by simpa using lengths) joined]

/-- Where the names are the same, the types can be read off. -/
theorem DeclaredParameter.eq_of_written {parameters others : List DeclaredParameter}
    (names : parameters.map (·.name) = others.map (·.name))
    (texts : parameters.map written = others.map written) : parameters = others := by
  induction parameters generalizing others with
  | nil => exact (List.map_eq_nil_iff.mp names.symm).symm
  | cons parameter rest ih =>
    cases others with
    | nil => cases names
    | cons other more =>
      obtain ⟨name, laterNames⟩ := List.cons.inj names
      obtain ⟨text, laterTexts⟩ := List.cons.inj texts
      dsimp only at name
      rw [written, written, name, String.append_right_inj] at text
      rw [ih laterNames laterTexts, List.cons.injEq, and_iff_left rfl]
      cases parameter
      cases other
      exact (DeclaredParameter.mk.injEq _ _ _ _).mpr ⟨name, text⟩

namespace HelperFunctions

variable {first second : HelperFunctions}

/-- The types of the values have no commas. -/
def Uncut (functions : HelperFunctions) : Prop :=
  ∀ assignment ∈ functions.assignments, ',' ∉ assignment.type.toList

/-- No parameter holds a comma, so the commas of a list stand between its parameters. -/
theorem Uncut.parameters {functions : HelperFunctions} (uncut : functions.Uncut)
    (named : functions.WellNamed) :
    ∀ text ∈ functions.assignments.map Assignment.parameter, ',' ∉ text.toList := by
  intro text member
  obtain ⟨assignment, among, rfl⟩ := List.mem_map.mp member
  have name : ',' ∉ assignment.property.toList :=
    sign_not_mem_qualifiedName (by decide) (qualifiedName_of_name (named assignment among).2)
  simp [Assignment.parameter, name, uncut assignment among]

/-- Without commas in types, a helper constructor repeats another exactly if its functions have the
same parameters, by their names and types. -/
theorem repeats_iff_of_uncut (named : first.WellNamed) (namedToo : second.WellNamed)
    (uncut : first.Uncut) (uncutToo : second.Uncut) :
    first.Repeats second ↔ first.plainParameters = second.plainParameters := by
  constructor
  · rintro ⟨properties, parameters⟩
    have lengths := congrArg List.length properties
    rw [propertyNames, propertyNames, List.length_map, List.length_map] at lengths
    have texts := commaSeparated_inj (uncut.parameters named) (uncutToo.parameters namedToo)
      (by simpa using lengths) parameters
    refine DeclaredParameter.eq_of_written ?_ ?_
    · exact (first.names_plainParameters.trans (congrArg _ properties)).trans
        second.names_plainParameters.symm
    · rw [written_plainParameters, written_plainParameters, texts]
  · intro same
    have names := congrArg (List.map (·.name)) same
    have texts := congrArg (List.map DeclaredParameter.written) same
    rw [names_plainParameters, names_plainParameters] at names
    rw [written_plainParameters, written_plainParameters] at texts
    exact ⟨(List.cons.inj names).2, congrArg commaSeparated (List.cons.inj texts).2⟩

end HelperFunctions

/-! ## The helper constructors of a widget -/

section Widget

variable {context : Context} {family : Family} {widget : Widget} {spec other : HelperSpec}
  {functions others : HelperFunctions}

/-- Two helper constructors of a widget are written in the same frame. -/
theorem Widget.Generates.sharesFrame (generates : widget.Generates context family spec functions)
    (generatesToo : widget.Generates context family other others) :
    functions.SharesFrame others := by
  cases generates
  cases generatesToo
  exact ⟨rfl, rfl, rfl⟩

/-- Each assignment is that of a property, with its only setter. -/
theorem Widget.Generates.assigned (generates : widget.Generates context family spec functions) :
    ∀ assignment ∈ functions.assignments, ∃ property ∈ spec.properties,
      assignment.property = property.name ∧
        Setter.IsOnly widget property assignment.setter := by
  cases generates with
  | intro found => exact HelperFunctions.assigned_of_ofSpec found _ _ _

/-- What is generated for properties with names sets them by these names. -/
theorem Widget.Generates.wellNamed (generates : widget.Generates context family spec functions)
    (names : ∀ property ∈ spec.properties, Name property.name.toList) : functions.WellNamed := by
  intro assignment member
  obtain ⟨property, among, same, only⟩ := generates.assigned assignment member
  rw [same]
  exact ⟨only.sets.name_eq, names property among⟩

/-- Types of setters without commas make parameters without commas. -/
theorem Widget.Generates.uncut (generates : widget.Generates context family spec functions)
    (uncut : ∀ method ∈ widget.methods, ∀ type ∈ method.parameters, ',' ∉ type.toList) :
    functions.Uncut := by
  intro assignment member
  obtain ⟨property, among, same, only⟩ := generates.assigned assignment member
  obtain ⟨type, takes, _⟩ := only.sets.typed
  rw [Assignment.type, takes, List.headD_cons]
  intro comma
  rcases Kotlin.mem_typeOf comma with inside | own
  · exact uncut _ only.listed type (by simp [takes]) inside
  · exact absurd own (by decide)

/-- The assignments show whether a property is respelled. -/
theorem assignments_eq_iff {properties propertiesToo : List Property}
    {setters settersToo : List Method}
    (each : List.Forall₂ (Setter.IsOnly widget) properties setters)
    (eachToo : List.Forall₂ (Setter.IsOnly widget) propertiesToo settersToo) :
    List.zipWith (fun property setter => Assignment.mk property.name setter) properties setters =
        List.zipWith (fun property setter => ⟨property.name, setter⟩) propertiesToo settersToo ↔
      List.Forall₂ Property.Respells properties propertiesToo := by
  induction each generalizing propertiesToo settersToo with
  | nil => cases eachToo <;> simp
  | @cons property setter _ _ only _ ih =>
    cases eachToo with
    | nil => simp
    | @cons another _ _ _ onlyToo others =>
      have first : property.name = another.name ∧ property.SharesSetter another ↔
          property.Respells another :=
        ⟨fun ⟨named, shares⟩ => ⟨named, shares.typed⟩,
          fun ⟨named, typed⟩ => ⟨named, congrArg capitalize named, typed⟩⟩
      rw [List.zipWith_cons_cons, List.zipWith_cons_cons, List.cons.injEq, Assignment.mk.injEq,
        only.eq_iff onlyToo, ih others, List.forall₂_cons, first]

/-- Two helper constructors of a widget have the same functions exactly if one respells the other.
-/
theorem Widget.Generates.eq_iff (generates : widget.Generates context family spec functions)
    (generatesToo : widget.Generates context family other others) :
    functions = others ↔ List.Forall₂ Property.Respells spec.properties other.properties := by
  cases generates with
  | intro found =>
    cases generatesToo with
    | intro foundToo =>
      rw [← assignments_eq_iff (Setter.forall₂_isOnly_iff.mpr found)
        (Setter.forall₂_isOnly_iff.mpr foundToo)]
      simp [helperFunctions, HelperFunctions.ofSetters]

/-- What is known of the declarations of a widget's helper functions. -/
structure Widget.DeclaresHelpers (context : Context) (family : Family) (widget : Widget)
    (helpers : List HelperFunctions) : Prop where
  generated : List.Forall₂ (widget.Generates context family) (context.specsFor widget) helpers
  /-- None of the helper constructors that are looked up has the properties of another. -/
  unrepeated : ((context.specsFor widget).map (·.properties)).Nodup
  respelled : ∀ first ∈ (context.specsFor widget).zip helpers,
    ∀ second ∈ (context.specsFor widget).zip helpers,
      first.2 = second.2 ↔ List.Forall₂ Property.Respells first.1.properties second.1.properties
  distinct : (helpers.flatMap (·.declarations context.templates.indent)).Nodup ↔
    helpers.Pairwise fun first second => ¬first.Repeats second
  distinctParameters
      (uncut : ∀ method ∈ widget.methods, ∀ type ∈ method.parameters, ',' ∉ type.toList) :
    (helpers.flatMap (·.declarations context.templates.indent)).Nodup ↔
      (helpers.map (·.plainParameters)).Nodup

/-- Helper functions that are generated for what files could declare. -/
theorem Widget.declaresHelpers_of_generates {helpers : List HelperFunctions}
    (generated : List.Forall₂ (widget.Generates context family) (context.specsFor widget) helpers)
    (unrepeated : ((context.specsFor widget).map (·.properties)).Nodup)
    (names : ∀ spec ∈ context.specsFor widget, ∀ property ∈ spec.properties,
      Name property.name.toList) :
    widget.DeclaresHelpers context family helpers := by
  have each : ∀ functions ∈ helpers, ∃ spec ∈ context.specsFor widget,
      widget.Generates context family spec functions := by
    intro functions member
    obtain ⟨index, inside, rfl⟩ := List.mem_iff_getElem.mp member
    have place : index < (context.specsFor widget).length := generated.length_eq ▸ inside
    exact ⟨_, List.getElem_mem place, generated.get place inside⟩
  -- All of them belong to one widget, so what is not about properties is the same in each.
  have frames : ∀ first ∈ helpers, ∀ second ∈ helpers, first.SharesFrame second := by
    intro first one second another
    obtain ⟨_, _, generates⟩ := each first one
    obtain ⟨_, _, generatesToo⟩ := each second another
    exact generates.sharesFrame generatesToo
  have named : ∀ functions ∈ helpers, functions.WellNamed := by
    intro functions member
    obtain ⟨spec, among, generates⟩ := each functions member
    exact generates.wellNamed (names spec among)
  have distinct := @HelperFunctions.nodup_declarations_iff context.templates.indent helpers frames
    named
  constructor
  case generated => exact generated
  case unrepeated => exact unrepeated
  case distinct => exact distinct
  case respelled =>
    intro first one second another
    obtain ⟨_, zipped⟩ := List.forall₂_iff_zip.mp generated
    exact (zipped one).eq_iff (zipped another)
  case distinctParameters =>
    intro uncut
    rw [distinct, List.Nodup, List.pairwise_map]
    refine List.Pairwise.iff_of_mem fun {first second} one another => not_congr ?_
    obtain ⟨_, _, generates⟩ := each first one
    obtain ⟨_, _, generatesToo⟩ := each second another
    exact HelperFunctions.repeats_iff_of_uncut (named first one) (named second another)
      (generates.uncut uncut) (generatesToo.uncut uncut)

end Widget

/-- When helper functions are declared twice.

In the text of a family, where files declare the helper constructors, the texts of all helper
functions of a widget are pairwise different exactly if no helper constructor repeats another by the
names of its properties and the text of its parameters; with parameter types that have no commas,
exactly if the parameters are pairwise different, by their names and types. Declarations that only
spell their types differently are an instance: exactly these come to the same setters for the same
properties. A declaration that repeats an earlier one as it stands is never looked up. -/
theorem renderFamily_helperDeclarations {files : List SourceFile} {options : Options}
    {templates : Templates} {family : Family} {widgets : List Widget} {text : String}
    (rendered :
      renderFamily ⟨options, Registry.ofFiles files, templates⟩ family widgets = .ok text) :
    let context : Context := ⟨options, Registry.ofFiles files, templates⟩
    let alone (widget : Widget) : Sheet := Sheet.ofWidgets context family [widget]
    text = (Sheet.ofWidgets context family widgets).factory.declaration templates.indent
        ++ concat (widgets.map fun widget =>
          (alone widget).buildersText ++ (alone widget).helpersText templates.indent) ∧
      ∀ widget ∈ widgets,
        widget.DeclaresHelpers context family (alone widget).helperFunctions := by
  intro context alone
  refine ⟨Sheet.text_of_rendered rendered, fun widget among => ?_⟩
  have generated := Sheet.helperFunctions_of_rendered rendered among
  obtain ⟨unrepeated, wellFormed⟩ :=
    @Context.wellFormed_specsFor context (Registry.wellFormed_ofFiles files) widget
  refine widget.declaresHelpers_of_generates generated unrepeated fun spec member => ?_
  obtain ⟨name, declared⟩ := wellFormed spec member
  exact declared.names

/-- Of three declarations the last repeats the first, and the two that are left have different
functions. -/
theorem renderFamily_helperDeclarations_of_text :
    let file : SourceFile := ⟨"helpers.txt",
      "a.B(text: CharSequence)\na.B(text: CharSequence, size: int)\na.B(text: CharSequence)\n"⟩
    let context : Context := ⟨helpersOnly, Registry.ofFiles [file], .builtin "    "⟩
    let widget : Widget := { textWidget "a.B" "B" with
      methods := [⟨"setText", ["java.lang.CharSequence"]⟩, ⟨"setSize", ["int"]⟩] }
    let helpers : List HelperFunctions := (Sheet.ofWidgets context .view [widget]).helperFunctions
    (∃ text, renderFamily context .view [widget] = .ok text) ∧ helpers.length = 2 ∧
      (helpers.flatMap (·.declarations "    ")).Nodup := by
  intro file context widget helpers
  have faultless : (Sheet.ofWidgets context .view [widget]).faults = [] := by decide +kernel
  have rendered := (renderFamily_eq_ok_iff_faultless _ _ _ _).mpr ⟨faultless, rfl⟩
  obtain ⟨_, each⟩ := renderFamily_helperDeclarations rendered
  have declares := each widget (List.mem_singleton_self _)
  have uncut : ∀ method ∈ widget.methods, ∀ type ∈ method.parameters, ',' ∉ type.toList := by
    decide +kernel
  exact ⟨⟨_, rendered⟩, by decide +kernel,
    (declares.distinctParameters uncut).mpr (by decide +kernel)⟩

/-- Two spellings of one helper constructor have the same functions. -/
theorem renderFamily_of_text_spelled_twice :
    let file : SourceFile := ⟨"helpers.txt",
      "a.B(text: CharSequence)\na.B(text: java.lang.CharSequence)\n"⟩
    let context : Context := ⟨helpersOnly, Registry.ofFiles [file], .builtin "    "⟩
    let widget : Widget := textWidget "a.B" "B"
    file.lineErrors = [] ∧ widget.methods.Nodup ∧
      (∃ text, renderFamily context .view [widget] = .ok text) ∧
      ¬((Sheet.ofWidgets context .view [widget]).helperFunctions.flatMap
        (·.declarations "    ")).Nodup := by
  intro file context widget
  have faultless : (Sheet.ofWidgets context .view [widget]).faults = [] := by decide +kernel
  have rendered := (renderFamily_eq_ok_iff_faultless _ _ _ _).mpr ⟨faultless, rfl⟩
  exact ⟨by decide +kernel, by decide +kernel, ⟨_, rendered⟩, by decide +kernel⟩

end WidgetBuilders
