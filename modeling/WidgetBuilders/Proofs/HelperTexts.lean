import WidgetBuilders.Proofs.FactoryReferences

/-!
# The text of helper constructors

A helper constructor is two functions, and what they are made of can be told property by property:
the only setter of a property gives a parameter, with the type of the setter's own parameter, and a
call. The text is that of two functions with nested braces, each line at the level at which the
functions begin, or one or two levels deeper. It does not matter here how a writer finds these
levels. It looks at both ends of each line, but no name of a widget, a property or a method ever
stands at an end where it could be taken for a brace.

A helper constructor without its setters leaves its faults. Nothing is written in its place, and
those after it are written as if it were not there.

The separator after the first parameter is written in any case. With properties after it, that makes
no difference. No file can declare a helper constructor without properties, but one can be inserted,
and in its functions an empty parameter stands where the properties would.
-/

namespace WidgetBuilders

/-- What a function has for a property: a parameter for the value, and a call that passes it on. -/
structure Application where
  parameter : String
  call : String

/-- The only setter of a property gives both. -/
inductive Property.Applies (widget : Widget) (property : Property) : Application → Prop
  | intro {setter : Method} {type : String} (only : Setter.IsOnly widget property setter)
      (typed : setter.parameters = [type]) :
      Applies widget property
        ⟨property.name ++ ": " ++ Kotlin.typeOf type, setter.name ++ "(" ++ property.name ++ ")"⟩

/-- The parameters of a helper function: the theme, the values of the properties, and any more. -/
def listedParameters (values more : List String) : String :=
  Text.commaSeparated ("theme: Int = 0" :: values ++ more)

/-- The same parameters, with an empty one in the place of the properties if there are none. -/
def spacedParameters (values more : List String) : String :=
  listedParameters (if values = [] then [""] else values) more

namespace Construction

section Text

variable (join : List String → List String → String) (construction : Construction)
  (factory : String)

/-- A function that constructs the widget and passes on the values of the properties. -/
def helperFunction (applications : List Application) (more statements : List String) :
    EmittedFunction where
  receiver := "ViewManager"
  name := construction.functionName
  parameters := join (applications.map (·.parameter)) more
  returnType := construction.tint.typeOf construction.widget
  body := .constructs factory (statements ++ applications.map (·.call))

/-- The function without and the one with an init block, and an empty line. -/
def helperText (indent : String) (level : Nat) (applications : List Application) : String :=
  let init : String :=
    "init: " ++ construction.tint.typeOf construction.widget ++ ".() -> Unit"
  (construction.helperFunction join factory applications [] []).written indent level
    ++ (construction.helperFunction join factory applications [init] ["init()"]).written indent
        level
    ++ "\n"

/-- What is written for some helper constructors, block by block, and what is reported. -/
inductive Writes (indent : String) (level : Nat) :
    List HelperSpec → List String → List Fault → Prop
  | none : Writes indent level [] [] []
  | written {spec : HelperSpec} {rest : List HelperSpec} {applications : List Application}
      {texts : List String} {faults : List Fault}
      (applies : List.Forall₂ (Property.Applies construction.widget) spec.properties applications)
      (others : Writes indent level rest texts faults) :
      Writes indent level (spec :: rest)
        (construction.helperText join factory indent level applications :: texts) faults
  | reported {spec : HelperSpec} {rest : List HelperSpec} {texts : List String}
      {own faults : List Fault}
      (lacks : ∃ property ∈ spec.properties, ¬ Setter.HasOnly construction.widget property)
      (told : List.Forall₂ (Setter.Lacks construction.widget spec)
        (spec.properties.filter fun property => ¬ Setter.HasOnly construction.widget property) own)
      (others : Writes indent level rest texts faults) :
      Writes indent level (spec :: rest) texts (own ++ faults)

end Text

end Construction

/-! ## Properties and their setters -/

/-- What a function has for an assignment. -/
def Assignment.application (assignment : Assignment) : Application :=
  ⟨assignment.parameter, assignment.call⟩

/-- What a property applies is settled by its only setter. -/
theorem Property.applies_iff {widget : Widget} {property : Property} {application : Application} :
    property.Applies widget application ↔
      ∃ setter, Setter.IsOnly widget property setter ∧
        application = (Assignment.mk property.name setter).application := by
  constructor
  · rintro ⟨only, typed⟩
    refine ⟨_, only, ?_⟩
    simp [Assignment.application, Assignment.parameter, Assignment.type, Assignment.call, typed]
  · rintro ⟨setter, only, rfl⟩
    obtain ⟨type, typed, _⟩ := only.sets.typed
    have applies := Property.Applies.intro only typed
    simpa [Assignment.application, Assignment.parameter, Assignment.type, Assignment.call, typed]
      using applies

/-- What functions have for all properties of a helper constructor. -/
def HelperSpec.applications (spec : HelperSpec) (setters : List Method) : List Application :=
  (List.zipWith (fun property setter => Assignment.mk property.name setter)
    spec.properties setters).map Assignment.application

/-- Each property applies something exactly if the helper constructor resolves. -/
theorem forall₂_applies_iff {widget : Widget} {spec : HelperSpec}
    {applications : List Application} :
    List.Forall₂ (Property.Applies widget) spec.properties applications ↔
      ∃ setters, Setter.ofSpec widget spec = .ok setters ∧
        applications = spec.applications setters := by
  simp only [Setter.ofSpec, ← Setter.forall₂_isOnly_iff, HelperSpec.applications]
  induction spec.properties generalizing applications with
  | nil => simp
  | cons property rest ih =>
    simp only [List.forall₂_cons_left_iff, ih, Property.applies_iff]
    constructor
    · rintro ⟨_, _, ⟨setter, only, rfl⟩, ⟨setters, others, rfl⟩, rfl⟩
      exact ⟨setter :: setters, ⟨setter, setters, only, others, rfl⟩, rfl⟩
    · rintro ⟨_, ⟨setter, setters, only, others, rfl⟩, rfl⟩
      exact ⟨_, _, ⟨setter, only, rfl⟩, ⟨setters, others, rfl⟩, rfl⟩

/-- Nothing is reported for a helper constructor that has its setters. -/
theorem Setter.reported_of_ofSpec {widget : Widget} {spec : HelperSpec} {setters : List Method}
    (found : ofSpec widget spec = .ok setters) : reported widget spec spec.properties = [] := by
  rw [ofSpec, findAll_eq] at found
  by_contra some
  rw [if_neg some] at found
  cases found

/-- Functions have nothing to pass on exactly if there are no properties. -/
theorem HelperSpec.applications_eq_nil_iff {widget : Widget} {spec : HelperSpec}
    {setters : List Method} (found : Setter.ofSpec widget spec = .ok setters) :
    spec.applications setters = [] ↔ spec.properties = [] := by
  have lengths := (forall₂_applies_iff.mpr ⟨setters, found, rfl⟩).length_eq
  rw [← List.length_eq_zero_iff, ← lengths, List.length_eq_zero_iff]

/-- Both functions of a helper constructor, and an empty line. -/
theorem HelperFunctions.written_eq (functions : HelperFunctions) (indent : String)
    (level : Nat) :
    (Functions.helpers functions).written indent level =
      (functions.function "" (functions.assignments.map Assignment.call)).written indent level
        ++ (functions.function (", init: " ++ functions.type ++ ".() -> Unit")
            ("init()" :: functions.assignments.map Assignment.call)).written indent level
        ++ "\n" := by
  simp [Functions.written, Functions.paragraphs, HelperFunctions.paragraphs, Text.concat,
    String.append_assoc]

namespace Construction

variable {join : List String → List String → String} {construction : Construction}
  {factory indent : String} {level : Nat}

/-- The texts of the helper constructors that have their setters. -/
def helperTexts (join : List String → List String → String) (construction : Construction)
    (factory indent : String) (level : Nat) (specs : List HelperSpec) : List String :=
  specs.filterMap fun spec =>
    (Setter.ofSpec construction.widget spec).toOption.map fun setters =>
      construction.helperText join factory indent level (spec.applications setters)

/-- What is written and reported is no choice. -/
theorem writes_iff {specs : List HelperSpec} {texts : List String} {faults : List Fault} :
    construction.Writes join factory indent level specs texts faults ↔
      texts = construction.helperTexts join factory indent level specs ∧
        faults = specs.flatMap fun spec =>
          Setter.reported construction.widget spec spec.properties := by
  unfold helperTexts
  induction specs generalizing texts faults with
  | nil =>
    constructor
    · rintro ⟨⟩
      exact ⟨rfl, rfl⟩
    · rintro ⟨rfl, rfl⟩
      exact .none
  | cons spec rest ih =>
    rw [List.filterMap_cons, List.flatMap_cons]
    constructor
    · intro writes
      cases writes with
      | written applies others =>
        obtain ⟨setters, found, rfl⟩ := forall₂_applies_iff.mp applies
        obtain ⟨rfl, rfl⟩ := ih.mp others
        rw [found, Setter.reported_of_ofSpec found]
        exact ⟨rfl, rfl⟩
      | @reported _ _ _ own _ lacks told others =>
        obtain ⟨rfl, rfl⟩ := ih.mp others
        have same : Setter.reported construction.widget spec spec.properties = own :=
          Setter.forall₂_lacks_iff.mp told
        -- A helper constructor that is reported has something to report, so it is not written.
        have some : own ≠ [] := by
          rw [← same, Ne, Setter.reported_eq_nil_iff]
          simpa using lacks
        rw [Setter.ofSpec, Setter.findAll_eq_error_iff.mpr ⟨some, same⟩, same]
        exact ⟨rfl, rfl⟩
    · rintro ⟨rfl, rfl⟩
      have others := ih.mpr ⟨rfl, rfl⟩
      cases found : Setter.ofSpec construction.widget spec with
      | ok setters =>
        rw [Setter.reported_of_ofSpec found]
        exact .written (forall₂_applies_iff.mpr ⟨setters, found, rfl⟩) others
      | error own =>
        obtain ⟨some, same⟩ := Setter.findAll_eq_error_iff.mp found
        rw [same]
        refine .reported ?_ (Setter.forall₂_lacks_iff.mpr same) others
        rw [← same, Ne, Setter.reported_eq_nil_iff] at some
        simpa using some

/-! ## The two functions -/

/-- Without a last parameter, the values follow the theme and its comma, if there are any. -/
theorem spacedParameters_nil (values : List String) :
    spacedParameters values [] = "theme: Int = 0, " ++ Text.commaSeparated values := by
  cases values <;> simp [spacedParameters, listedParameters, Text.commaSeparated]

/-- A last parameter follows the values, after a comma of its own even if there are none. -/
theorem spacedParameters_singleton (values : List String) (last : String) :
    spacedParameters values [last] =
      "theme: Int = 0, " ++ Text.commaSeparated values ++ (", " ++ last) := by
  have some : "theme: Int = 0" :: (if values = [] then [""] else values) ≠ [] :=
    List.cons_ne_nil _ _
  have alone := spacedParameters_nil values
  rw [spacedParameters, listedParameters, List.append_nil] at alone
  rw [spacedParameters, listedParameters, Text.commaSeparated_append some (List.cons_ne_nil _ _),
    alone, Text.commaSeparated, String.append_assoc]

/-- The functions of a helper constructor, written at a level. -/
theorem written_helperFunctions (construction : Construction) (factory indent : String)
    (level : Nat) (spec : HelperSpec) (setters : List Method) :
    (Functions.helpers (construction.helperFunctions factory spec setters)).written indent level =
      construction.helperText spacedParameters factory indent level
        (spec.applications setters) := by
  let functions : HelperFunctions := construction.helperFunctions factory spec setters
  have parameters : (spec.applications setters).map (·.parameter) =
      functions.assignments.map Assignment.parameter := List.map_map
  have calls : (spec.applications setters).map (·.call) =
      functions.assignments.map Assignment.call := List.map_map
  have seam : ", init: " = ", " ++ "init: " := by decide
  have plain : functions.function "" (functions.assignments.map Assignment.call) =
      construction.helperFunction spacedParameters factory (spec.applications setters) [] [] := by
    rw [helperFunction, parameters, calls, spacedParameters_nil, HelperFunctions.function,
      String.append_empty]
    rfl
  have full : functions.function (", init: " ++ functions.type ++ ".() -> Unit")
        ("init()" :: functions.assignments.map Assignment.call) =
      construction.helperFunction spacedParameters factory (spec.applications setters)
        ["init: " ++ construction.tint.typeOf construction.widget ++ ".() -> Unit"]
        ["init()"] := by
    rw [helperFunction, parameters, calls, spacedParameters_singleton, HelperFunctions.function,
      seam, @String.append_assoc ", ", @String.append_assoc ", "]
    rfl
  rw [helperText, ← plain, ← full]
  exact functions.written_eq indent level

/-- The first line, up to what follows the parameters. -/
theorem helperText_begins (join : List String → List String → String) (construction : Construction)
    (factory indent : String) (level : Nat) (applications : List Application) :
    ∃ rest, construction.helperText join factory indent level applications =
      Text.repeated level indent ++ ("inline fun ViewManager." ++ construction.functionName ++ "(")
        ++ (join (applications.map (·.parameter)) [] ++ ("): " ++ rest)) := by
  have seam : "inline fun ViewManager." = "inline fun " ++ ("ViewManager" ++ ".") := by decide
  unfold helperText helperFunction EmittedFunction.written EmittedFunction.header
  simp only [seam, Nat.add_zero, String.append_assoc]
  exact ⟨_, rfl⟩

/-- The two ways to put parameters together differ exactly if there are no properties. -/
theorem helperText_listed_eq_iff {applications : List Application} :
    construction.helperText listedParameters factory indent level applications =
        construction.helperText spacedParameters factory indent level applications ↔
      applications ≠ [] := by
  constructor
  · rintro same rfl
    obtain ⟨rest, listed⟩ :=
      helperText_begins listedParameters construction factory indent level []
    obtain ⟨others, spaced⟩ :=
      helperText_begins spacedParameters construction factory indent level []
    have first : listedParameters [] [] = "theme: Int = 0" := rfl
    have second : spacedParameters [] [] = "theme: Int = 0" ++ ", " := by decide
    rw [listed, spaced, String.append_right_inj, List.map_nil, first, second, String.append_assoc,
      String.append_right_inj] at same
    simpa using congrArg (·.toList.head?) same
  · intro some
    have kept : applications.map (·.parameter) ≠ [] := by simpa using some
    simp [helperText, helperFunction, spacedParameters, kept]

/-- The blocks of some helper constructors have their texts. -/
theorem specContributions_texts (indent : String) (construction : Construction) (factory : String)
    (level : Nat) (specs : List HelperSpec) :
    (construction.specContributions indent factory level specs).blocks.map (·.text) =
      construction.helperTexts spacedParameters factory indent level specs := by
  rw [specContributions_blocks, List.map_map, helpersOf, List.map_filterMap, helperTexts]
  refine List.filterMap_congr fun spec _ => ?_
  cases Setter.ofSpec construction.widget spec with
  | error faults => rfl
  | ok setters =>
    exact congrArg some (written_helperFunctions construction factory indent level spec setters)

/-- The texts are the same in both ways exactly if each helper constructor has a property. -/
theorem helperTexts_listed_eq_iff {specs : List HelperSpec} :
    construction.helperTexts listedParameters factory indent level specs =
        construction.helperTexts spacedParameters factory indent level specs ↔
      ∀ spec ∈ specs, spec.properties ≠ [] := by
  induction specs with
  | nil => simp [helperTexts]
  | cons spec rest ih =>
    unfold helperTexts at ih ⊢
    rw [List.filterMap_cons, List.filterMap_cons, List.forall_mem_cons, ← ih]
    cases found : Setter.ofSpec construction.widget spec with
    | error faults =>
      have some : spec.properties ≠ [] := by
        rintro none
        rw [Setter.ofSpec, none] at found
        cases found
      exact (and_iff_right some).symm
    | ok setters =>
      simp only [Except.toOption, Option.map_some, List.cons.injEq, helperText_listed_eq_iff, Ne,
        HelperSpec.applications_eq_nil_iff found]

/-- What helper constructors come to, for any widget, at any level.

The level is kept. One block is written for each helper constructor that has its setters, and the
faults of the others are reported, both in the order of declaration; with an empty parameter in the
place of properties, this is exactly what is written. Without it, the same holds exactly if each
helper constructor has a property. -/
theorem helperContribution_writes (context : Context) (construction : Construction)
    (factory key : String) (level : Nat) {specs : List HelperSpec}
    (found : context.registry.lookup key = some specs) :
    let contribution := construction.helperContribution context factory key level
    let texts : List String := contribution.blocks.map (·.text)
    let indent : String := context.templates.indent
    contribution.level = level ∧
      (∀ others faults,
        construction.Writes spacedParameters factory indent level specs others faults ↔
          others = texts ∧ faults = contribution.faults) ∧
      (construction.Writes listedParameters factory indent level specs texts contribution.faults ↔
        ∀ spec ∈ specs, spec.properties ≠ []) := by
  have written : construction.helperContribution context factory key level =
      construction.specContributions context.templates.indent factory level specs := by
    rw [helperContribution, found]
  rw [written]
  dsimp only
  rw [specContributions_texts, specContributions_faults]
  refine ⟨construction.specContributions_level _ _ _ _, fun others faults => writes_iff, ?_⟩
  rw [writes_iff, and_iff_left rfl, eq_comm, helperTexts_listed_eq_iff]

/-- A panel with one setter, for which three helper constructors are declared. The second one has a
property that cannot be set. -/
def panelHelpers : Context where
  options := .standard
  registry :=
    ((Registry.empty.insert "a.Panel" ⟨[⟨"text", "CharSequence"⟩], none⟩).insert
      "a.Panel" ⟨[⟨"width", "int"⟩, ⟨"text", "CharSequence"⟩], none⟩).insert
      "a.Panel" ⟨[⟨"text", "Sequence"⟩], none⟩
  templates := .builtin "  "

/-- The functions of the panel, two levels deep. -/
theorem helperContribution_writes_of_panel :
    let construction : Construction :=
      ⟨.view, .standard, textWidget "a.Panel" "Panel", "ctx", some "a.Panel"⟩
    let contribution := construction.helperContribution panelHelpers "F.PANEL" "a.Panel" 2
    contribution.level = 2 ∧ contribution.blocks.length = 2 ∧
      contribution.faults =
        [.noSetter "a.Panel" "width" "setWidth"
          ⟨[⟨"width", "int"⟩, ⟨"text", "CharSequence"⟩], none⟩] ∧
      construction.Writes listedParameters "F.PANEL" "  " 2
        (panelHelpers.registry.specsOf "a.Panel") (contribution.blocks.map (·.text))
        contribution.faults := by
  intro construction contribution
  have found : panelHelpers.registry.lookup "a.Panel" =
      some (panelHelpers.registry.specsOf "a.Panel") := by decide +kernel
  obtain ⟨level, _, listed⟩ :=
    helperContribution_writes panelHelpers construction "F.PANEL" "a.Panel" 2 found
  exact ⟨level, by decide +kernel, by decide +kernel, listed.mpr (by decide +kernel)⟩

/-- A helper constructor without properties has an empty parameter after the theme. -/
theorem parameters_of_propertyless_panel :
    let construction : Construction :=
      ⟨.view, .standard, textWidget "a.Panel" "Panel", "ctx", some "a.Panel"⟩
    let context : Context :=
      ⟨.standard, Registry.empty.insert "a.Panel" ⟨[], none⟩, .builtin "  "⟩
    let contribution := construction.helperContribution context "F.PANEL" "a.Panel" 0
    let head : String := "inline fun ViewManager.panel(theme: Int = 0, "
    context.registry.lookup "a.Panel" = some [⟨[], none⟩] ∧
      contribution.blocks.map (·.text) =
        [head ++ "): a.Panel \x7b\n  return ankoView(F.PANEL, theme) \x7b\n  \x7d\n\x7d\n"
          ++ head ++ ", init: a.Panel.() -> Unit): a.Panel \x7b\n"
          ++ "  return ankoView(F.PANEL, theme) \x7b\n    init()\n  \x7d\n\x7d\n\n"] ∧
      ¬ construction.Writes listedParameters "F.PANEL" "  " 0 [⟨[], none⟩]
        (contribution.blocks.map (·.text)) contribution.faults := by
  intro construction context contribution head
  refine ⟨by decide +kernel, by decide +kernel, fun writes => ?_⟩
  have same := (writes_iff.mp writes).1
  have texts : contribution.blocks.map (·.text) =
      construction.helperTexts spacedParameters "F.PANEL" "  " 0 [⟨[], none⟩] :=
    specContributions_texts "  " construction "F.PANEL" 0 [⟨[], none⟩]
  rw [texts, eq_comm, helperTexts_listed_eq_iff] at same
  exact same ⟨[], none⟩ List.mem_cons_self rfl

end Construction

end WidgetBuilders
