import Mathlib.Data.List.Induction
import WidgetBuilders.Job

/-!
# What a job keeps of its settings

Settings come in any order and any number. Of three kinds a job keeps every one, in the order in
which they came: linked libraries, loaded libraries, and files of helper constructors. Of the other
kinds it keeps the last one, or a standard value if there is none. The settings of one kind do not
see those of another; in particular a setting of one option leaves the other options alone.

So two sequences of settings describe the same job if they have the same settings of the first three
kinds, kind by kind, and the same last setting of every other kind.
-/

namespace WidgetBuilders

namespace Setting

/-- The kinds of settings. -/
inductive Kind
  | link | widgets | registry | helperFile | templateDirectory | outputFile | outputStream
  | keepDiagnostics | artifact | package | indent | flags | tint
  deriving DecidableEq

/-- The kind of a setting. -/
def kind : Setting → Kind
  | .link _ _ => .link
  | .widgets _ => .widgets
  | .registry _ => .registry
  | .helperFile _ => .helperFile
  | .templateDirectory _ => .templateDirectory
  | .outputFile _ => .outputFile
  | .outputStream => .outputStream
  | .keepDiagnostics => .keepDiagnostics
  | .artifact _ => .artifact
  | .package _ => .package
  | .indent _ => .indent
  | .flags _ => .flags
  | .tint _ => .tint

/-- Every setting of the kind counts. Of the other kinds, only the last one does. -/
def Kind.addsUp : Kind → Bool
  | .link | .widgets | .helperFile => true
  | _ => false

/-- The settings of one kind, in the order in which they came. -/
def ofKind (kind : Kind) (settings : List Setting) : List Setting :=
  settings.filter (·.kind = kind)

/-- All settings agree that add up, and the last ones of the other kinds. -/
def SameEffect (one other : List Setting) : Prop :=
  ∀ kind : Kind,
    if kind.addsUp then ofKind kind one = ofKind kind other
    else (ofKind kind one).getLast? = (ofKind kind other).getLast?

/-! ## The values of settings -/

/-- The name and the bytes of a library that is linked. -/
def link? : Setting → Option (String × List UInt8)
  | .link name bytes => some (name, bytes)
  | _ => none

/-- A library that is loaded. -/
def widgets? : Setting → Option Library
  | .widgets library => some library
  | _ => none

/-- The registry to begin with. -/
def registry? : Setting → Option Registry
  | .registry given => some given
  | _ => none

/-- The path of a file of helper constructors. -/
def helperFile? : Setting → Option String
  | .helperFile path => some path
  | _ => none

/-- The directory of overrides. -/
def templateDirectory? : Setting → Option String
  | .templateDirectory path => some path
  | _ => none

/-- The path of the output file. -/
def outputFile? : Setting → Option String
  | .outputFile path => some path
  | _ => none

/-- The name of the artifact. -/
def artifact? : Setting → Option String
  | .artifact name => some name
  | _ => none

/-- The package of the generated file. -/
def package? : Setting → Option String
  | .package name => some name
  | _ => none

/-- One level of indentation. -/
def indent? : Setting → Option String
  | .indent text => some text
  | _ => none

/-- Which functions are generated. -/
def flags? : Setting → Option Flags
  | .flags chosen => some chosen
  | _ => none

/-- Which widgets are tinted. -/
def tint? : Setting → Option Tint
  | .tint chosen => some chosen
  | _ => none

/-- The value of the last setting that has one. -/
def last? {α : Type} (value? : Setting → Option α) (settings : List Setting) : Option α :=
  (settings.filterMap value?).getLast?

/-- The options that the settings describe. -/
def options (settings : List Setting) : Options where
  flags := (last? flags? settings).getD Options.standard.flags
  artifact := (last? artifact? settings).getD Options.standard.artifact
  package := (last? package? settings).getD Options.standard.package
  tint := (last? tint? settings).getD Options.standard.tint

/-- The libraries one after another, each kind of widget by itself. -/
def library (libraries : List Library) : Library :=
  ⟨libraries.flatMap (·.views), libraries.flatMap (·.viewGroups)⟩

/-! ## Values by kind -/

/-- The settings of the kind have values, and no others do. -/
def ReadsKind {α : Type} (value? : Setting → Option α) (kind : Kind) : Prop :=
  ∀ setting : Setting, (value? setting).isSome = decide (setting.kind = kind)

variable {α : Type} {value? : Setting → Option α} {kind : Kind}

/-- The values that settings of one kind have are found among the settings of that kind. -/
theorem filterMap_ofKind (reads : ReadsKind value? kind) (settings : List Setting) :
    settings.filterMap value? = (ofKind kind settings).filterMap value? := by
  induction settings with
  | nil => rfl
  | cons setting rest ih =>
    have found := reads setting
    by_cases same : setting.kind = kind
    · simp only [ofKind, List.filter_cons, same, decide_true, if_true, List.filterMap_cons] at ih ⊢
      rw [ih]
    · have none : value? setting = none := by simpa [same] using found
      simp only [ofKind, List.filter_cons, same, decide_false, Bool.false_eq_true, if_false,
        List.filterMap_cons, none] at ih ⊢
      exact ih

/-- The value of the last setting of a kind is the last value of that kind. -/
theorem last?_ofKind (reads : ReadsKind value? kind) (settings : List Setting) :
    last? value? settings = (ofKind kind settings).getLast?.bind value? := by
  rw [last?, filterMap_ofKind reads]
  rcases List.eq_nil_or_concat (ofKind kind settings) with none | ⟨before, final, shape⟩
  · rw [none]
    rfl
  · have member : final ∈ ofKind kind settings := by simp [shape]
    have found : (value? final).isSome = true := by
      rw [reads final]
      exact (List.mem_filter.mp member).2
    obtain ⟨value, valued⟩ := Option.isSome_iff_exists.mp found
    simp [shape, valued]

/-- A setting without a value was given if the last setting of its kind is there. -/
theorem contains_ofKind {setting : Setting}
    (alone : ∀ other : Setting, other.kind = setting.kind → other = setting)
    (settings : List Setting) :
    settings.contains setting = (ofKind setting.kind settings).getLast?.isSome := by
  rw [Bool.eq_iff_iff, List.contains_iff_mem, List.getLast?_isSome]
  constructor
  · intro member
    exact List.ne_nil_of_mem (List.mem_filter.mpr ⟨member, by simp⟩)
  · intro some
    obtain ⟨other, member⟩ := List.exists_mem_of_ne_nil _ some
    obtain ⟨given, named⟩ := List.mem_filter.mp member
    exact alone other (by simpa using named) ▸ given

/-- A later setting takes the place of earlier ones if it has a value at all. -/
theorem last?_append_singleton (settings : List Setting) (setting : Setting) :
    last? value? (settings ++ [setting]) = (value? setting).or (last? value? settings) := by
  cases value : value? setting <;> simp [last?, value]

end Setting

namespace Job

/-- What every sequence of settings describes. -/
theorem ofSettings_eq (settings : List Setting) :
    ofSettings settings =
      { library := Setting.library (settings.filterMap Setting.widgets?)
        links := settings.filterMap Setting.link?
        registry := (Setting.last? Setting.registry? settings).getD .empty
        helperFiles := settings.filterMap Setting.helperFile?
        templateDirectory? := Setting.last? Setting.templateDirectory? settings
        outputFile? := Setting.last? Setting.outputFile? settings
        toStream := settings.contains .outputStream
        keepsDiagnostics := settings.contains .keepDiagnostics
        options := Setting.options settings
        indent? := Setting.last? Setting.indent? settings } := by
  induction settings using List.reverseRecOn with
  | nil => rfl
  | append_singleton settings setting ih =>
    have step : ofSettings (settings ++ [setting]) = (ofSettings settings).set setting := by
      simp [ofSettings]
    rw [step, ih]
    cases setting <;>
      simp [set, Setting.options, Setting.last?_append_singleton, Setting.library,
        Library.append, Setting.widgets?, Setting.link?, Setting.registry?, Setting.helperFile?,
        Setting.templateDirectory?, Setting.outputFile?, Setting.artifact?, Setting.package?,
        Setting.indent?, Setting.flags?, Setting.tint?]

/-- Settings with the same effect describe the same job. -/
theorem ofSettings_of_sameEffect {one other : List Setting}
    (same : Setting.SameEffect one other) : ofSettings one = ofSettings other := by
  have last (kind : Setting.Kind) (replaces : kind.addsUp = false) :
      (Setting.ofKind kind one).getLast? = (Setting.ofKind kind other).getLast? := by
    have effect := same kind
    rwa [if_neg (by simp [replaces])] at effect
  -- What a job keeps is read off the settings of one kind at a time, in one of three ways.
  have values {α : Type} (value? : Setting → Option α) (kind : Setting.Kind)
      (adds : kind.addsUp = true) (reads : Setting.ReadsKind value? kind) :
      one.filterMap value? = other.filterMap value? := by
    have effect := same kind
    rw [if_pos adds] at effect
    rw [Setting.filterMap_ofKind reads one, Setting.filterMap_ofKind reads other, effect]
  have lastValue {α : Type} (value? : Setting → Option α) (kind : Setting.Kind)
      (replaces : kind.addsUp = false) (reads : Setting.ReadsKind value? kind) :
      Setting.last? value? one = Setting.last? value? other := by
    rw [Setting.last?_ofKind reads one, Setting.last?_ofKind reads other, last kind replaces]
  have given (setting : Setting) (replaces : setting.kind.addsUp = false)
      (alone : ∀ other : Setting, other.kind = setting.kind → other = setting) :
      one.contains setting = other.contains setting := by
    rw [Setting.contains_ofKind alone one, Setting.contains_ofKind alone other, last _ replaces]
  have options : Setting.options one = Setting.options other := by
    simp only [Setting.options,
      lastValue Setting.flags? .flags rfl (by rintro ⟨⟩ <;> rfl),
      lastValue Setting.artifact? .artifact rfl (by rintro ⟨⟩ <;> rfl),
      lastValue Setting.package? .package rfl (by rintro ⟨⟩ <;> rfl),
      lastValue Setting.tint? .tint rfl (by rintro ⟨⟩ <;> rfl)]
  rw [ofSettings_eq one, ofSettings_eq other, options,
    values Setting.widgets? .widgets rfl (by rintro ⟨⟩ <;> rfl),
    values Setting.link? .link rfl (by rintro ⟨⟩ <;> rfl),
    values Setting.helperFile? .helperFile rfl (by rintro ⟨⟩ <;> rfl),
    lastValue Setting.registry? .registry rfl (by rintro ⟨⟩ <;> rfl),
    lastValue Setting.templateDirectory? .templateDirectory rfl
      (by rintro ⟨⟩ <;> rfl),
    lastValue Setting.outputFile? .outputFile rfl (by rintro ⟨⟩ <;> rfl),
    lastValue Setting.indent? .indent rfl (by rintro ⟨⟩ <;> rfl),
    given .outputStream rfl (by rintro ⟨⟩ <;> simp [Setting.kind]),
    given .keepDiagnostics rfl (by rintro ⟨⟩ <;> simp [Setting.kind])]

end Job

end WidgetBuilders
