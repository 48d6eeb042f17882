import WidgetBuilders.Proofs.DistinctReferences
import WidgetBuilders.Proofs.FewerFlags
import WidgetBuilders.Proofs.NestedFile
import WidgetBuilders.Proofs.ReplacedTemplates
import WidgetBuilders.Proofs.SetterFaults

/-!
# Which templates are at fault

A template is filled at two places: for the builder functions of a widget, and for the file. Both
places give values to the same keys each time, so whatever is filled in, and whatever braces it
holds, the outcome is settled by the text of the template. A `view` template is at fault for every
builder or for none, and always with the same fault.

A widget that has several receivers fills the template several times, but stops at the first fault.
So each widget that gets its factory property adds the fault once, if builder functions are wanted.
The rest of what it contributes has to do with helper constructors, and a widget that gets no
property has nothing to do with templates at all. The built-in texts are without fault, and a
template that is not there cannot be met, since no change takes one away.
-/

namespace WidgetBuilders

open Template

/-! ## The two templates -/

/-- The keys that have values when builder functions are made. -/
def Builder.keys : List String :=
  ["receiver", "functionName", "themedFunctionName", "className", "lambdaArgType", "returnType",
    "factory"]

/-- The fault of the `view` template, for every builder. -/
def Templates.viewFault? (templates : Templates) : Option Fault :=
  templates.fault? "view" Builder.keys

/-- The fault of the `file` template, around any functions. -/
def Templates.fileFault? (templates : Templates) : Option Fault :=
  templates.fault? "file" ["package", "body"]

/-- A builder cannot be rendered exactly if the `view` template is at fault. -/
theorem Builder.render_eq_error_iff {templates : Templates} {builder : Builder} {fault : Fault} :
    builder.render templates = .error fault ↔ templates.viewFault? = some fault :=
  Templates.render_eq_error_iff

/-- A file cannot be rendered exactly if the `file` template is at fault. -/
theorem renderFile_eq_error_iff {context : Context} {bodies : List String} {fault : Fault} :
    renderFile context bodies = .error fault ↔ context.templates.fileFault? = some fault :=
  Templates.render_eq_error_iff

/-- The built-in `view` template is without fault. -/
theorem Templates.viewFault?_of_builtin {templates : Templates}
    (builtin : templates.text? "view" = some (written viewPieces)) :
    templates.viewFault? = none :=
  exists_render_iff.mp ⟨_, Builder.render_of_builtin builtin ⟨"", "", "", "", "", ""⟩⟩

/-- The built-in `file` template is without fault. -/
theorem fileFault?_of_builtin {context : Context}
    (builtin : context.templates.text? "file" = some (written filePieces)) :
    context.templates.fileFault? = none :=
  Templates.exists_render_iff.mp ⟨_, renderFile_of_builtin builtin []⟩

/-- Neither template is ever missing. -/
theorem Templates.fault?_changed_ne_noTemplate {name : String} (builtin : name ∈ builtinNames)
    (indent : String) (changes : List TemplateChange) (keys : List String) (missing : String) :
    (changed indent changes).fault? name keys ≠ some (.noTemplate missing) := by
  intro faulty
  obtain ⟨text, found⟩ := Option.isSome_iff_exists.mp (text?_changed_isSome builtin indent changes)
  rcases unfilled_of_fault? found faulty with ⟨_, unfilled⟩ | ⟨_, unfilled⟩ <;> cases unfilled

/-! ## One widget -/

/-- Several builders fail as one of them does. -/
theorem Block.ofBuilders_eq_error_iff {templates : Templates} {builders : List Builder}
    {fault : Fault} :
    ofBuilders templates builders = .error fault ↔
      builders ≠ [] ∧ templates.viewFault? = some fault := by
  induction builders with
  | nil => simp [ofBuilders]
  | cons builder rest ih =>
    rw [ofBuilders, bind_eq_error_iff, Builder.render_eq_error_iff]
    constructor
    · rintro (first | ⟨text, _, later⟩)
      · exact ⟨List.cons_ne_nil _ _, first⟩
      · rcases bind_eq_error_iff.mp later with others | ⟨blocks, _, done⟩
        · exact ⟨List.cons_ne_nil _ _, (ih.mp others).2⟩
        · cases done
    · rintro ⟨_, faulty⟩
      exact .inl faulty

namespace Construction

variable {context : Context} {construction : Construction} {factory : String} {level : Nat}

/-- The builder functions of a widget, if they are wanted, have the fault of the template once. -/
theorem builderContribution_faults (context : Context) (construction : Construction)
    (factory : String) (level : Nat) :
    (construction.builderContribution context factory level).faults =
      if context.options.flags.views then context.templates.viewFault?.toList else [] := by
  have failing {fault : Fault} : Block.ofBuilders context.templates
      (construction.builders context.options.flags factory) = .error fault ↔
        context.options.flags.views = true ∧ context.templates.viewFault? = some fault := by
    rw [Block.ofBuilders_eq_error_iff, builders_ne_nil_iff]
  unfold builderContribution
  cases outcome : Block.ofBuilders context.templates
      (construction.builders context.options.flags factory) with
  | error fault =>
    obtain ⟨views, faulty⟩ := failing.mp outcome
    simp [views, faulty]
  | ok blocks =>
    by_cases views : context.options.flags.views = true
    · cases faulty : context.templates.viewFault? with
      | none => simp
      | some fault =>
        rw [failing.mpr ⟨views, faulty⟩] at outcome
        cases outcome
    · simp [views]

/-- Helper constructors have nothing to do with templates. -/
theorem not_isAboutTemplates_of_helpersPart {fault : Fault}
    (member : fault ∈ (construction.helpersPart context factory level).faults) :
    fault.isAboutTemplates = false := by
  unfold helpersPart at member
  split at member
  · cases member
  · unfold helperContribution at member
    split at member
    · rw [List.mem_singleton.mp member]
      rfl
    · obtain ⟨spec, _, concerns⟩ := concerns_of_specContributions member
      cases concerns <;> rfl

/-- Among the faults of a contribution, the one about templates is that of the `view` template. -/
theorem templateFaults_contribution (context : Context) (construction : Construction)
    (factory : String) (level : Nat) :
    (construction.contribution context factory level).faults.filter Fault.isAboutTemplates =
      if context.options.flags.views then context.templates.viewFault?.toList else [] := by
  have helpers : (construction.helpersPart context factory level).faults.filter
      Fault.isAboutTemplates = [] := by
    rw [List.filter_eq_nil_iff]
    intro fault member
    simp [not_isAboutTemplates_of_helpersPart member]
  have builders : ∀ fault ∈ (construction.builderContribution context factory level).faults,
      fault.isAboutTemplates = true := by
    intro fault member
    rw [builderContribution_faults] at member
    split at member
    · exact Templates.isAboutTemplates_of_fault? (Option.mem_toList.mp member)
    · cases member
  rw [contribution_eq_append, Contribution.append, List.filter_append, helpers, List.append_nil,
    List.filter_eq_self.mpr builders, builderContribution_faults]

end Construction

namespace Sheet

variable {context : Context} {family : Family}

/-- By itself, a widget has a fault about templates if it asks for a factory property. -/
theorem templateFaults_alone (context : Context) (family : Family) (widget : Widget) :
    (ofWidgets context family [widget]).faults.filter Fault.isAboutTemplates =
      if context.options.flags.views ∧ (request? context family widget).isSome then
        context.templates.viewFault?.toList
      else [] := by
  cases decided : plan context family widget with
  | «omit» => simp [ofWidgets, take, request?, decided]
  | unusable => simp [ofWidgets, take, request?, decided, add]
  | fault fault =>
    obtain ⟨key, span, rfl⟩ := fault_of_plan decided
    simp [ofWidgets, take, request?, decided, add, Fault.isAboutTemplates]
  | construct construction =>
    rw [(alone_of_construct decided).2, Construction.templateFaults_contribution]
    simp [request?, decided]

/-- A widget gets a reference if the property that it asks for is free, or bound to the same
expression. -/
theorem referenceAfter?_isSome_iff {before : List Widget} {widget : Widget} :
    (referenceAfter? context family before widget).isSome = true ↔
      ∃ entry, request? context family widget = some entry ∧
        ∀ existing, boundBy? context family before entry.key = some existing →
          existing = entry.expression := by
  rw [Option.isSome_iff_exists]
  simp only [referenceAfter?_eq_some_iff]
  constructor
  · rintro ⟨_, entry, asked, free, _⟩
    exact ⟨entry, asked, free⟩
  · rintro ⟨entry, asked, free⟩
    exact ⟨_, entry, asked, free, rfl⟩

/-- A widget reports the fault of the `view` template once if builder functions are wanted and it
gets its factory property, and otherwise no fault about templates. -/
theorem templateFaults_reports (context : Context) (family : Family) (before : List Widget)
    (widget : Widget) :
    (reports context family before widget).filter Fault.isAboutTemplates =
      if context.options.flags.views ∧ (referenceAfter? context family before widget).isSome then
        context.templates.viewFault?.toList
      else [] := by
  have alone := templateFaults_alone context family widget
  rw [← faultsOf_renderFamily] at alone
  simp only [referenceAfter?_isSome_iff]
  unfold reports
  cases asked : request? context family widget with
  | none => simpa [asked] using alone
  | some entry =>
    dsimp only
    cases bound : boundBy? context family before entry.key with
    | none => simpa [asked, bound] using alone
    | some existing =>
      by_cases same : existing = entry.expression
      · simpa [asked, bound, same] using alone
      · simp [bound, same, Fault.isAboutTemplates]

/-- The only fault about templates in the report of a family is that of the `view` template. -/
theorem viewFault?_of_mem_allReports {widgets : List Widget} {fault : Fault}
    (about : fault.isAboutTemplates = true) (member : fault ∈ allReports context family widgets) :
    context.templates.viewFault? = some fault := by
  obtain ⟨⟨widget, place⟩, _, reported⟩ := List.mem_flatMap.mp member
  have among := List.mem_filter.mpr ⟨reported, about⟩
  rw [templateFaults_reports] at among
  split at among
  · exact Option.mem_toList.mp among
  · cases among

/-- Without a fault of the `view` template, a family has no fault about templates. -/
theorem not_isAboutTemplates_of_mem_allReports {widgets : List Widget} {fault : Fault}
    (faultless : context.templates.viewFault? = none)
    (member : fault ∈ allReports context family widgets) : fault.isAboutTemplates = false := by
  refine Bool.eq_false_iff.mpr fun about => ?_
  have faulty := viewFault?_of_mem_allReports about member
  rw [faultless] at faulty
  cases faulty

end Sheet

/-! ## A generation -/

/-- The report of a generation is that of both families or, if they have none, the fault of the
`file` template. -/
theorem faultsOf_generate (context : Context) (library : Library) :
    faultsOf (generate context library) =
      match Sheet.allReports context .view library.views
        ++ Sheet.allReports context .viewGroup library.viewGroups with
      | [] => context.templates.fileFault?.toList
      | faults => faults := by
  have split : (sheets context library).flatMap (·.faults) =
      Sheet.allReports context .view library.views
        ++ Sheet.allReports context .viewGroup library.viewGroups := by
    simp [sheets, Family.all, Family.widgets, Sheet.faults_eq_allReports]
  unfold generate
  dsimp only
  rw [split]
  cases Sheet.allReports context .view library.views
      ++ Sheet.allReports context .viewGroup library.viewGroups with
  | cons fault rest => rfl
  | nil =>
    dsimp only
    cases file : renderFile context ((sheets context library).map
        (·.text context.templates.indent)) with
    | error fault =>
      rw [renderFile_eq_error_iff.mp file]
      rfl
    | ok text =>
      have faultless : context.templates.fileFault? = none :=
        Templates.exists_render_iff.mp ⟨text, file⟩
      rw [faultless]
      rfl

/-- A fault about templates that a generation reports is that of one of the two templates. -/
theorem faulty_of_mem_generate {context : Context} {library : Library} {fault : Fault}
    (about : fault.isAboutTemplates = true) (member : fault ∈ faultsOf (generate context library)) :
    context.templates.viewFault? = some fault ∨ context.templates.fileFault? = some fault := by
  rw [faultsOf_generate] at member
  split at member
  · exact .inr (Option.mem_toList.mp member)
  · left
    rcases List.mem_append.mp member with views | groups
    · exact Sheet.viewFault?_of_mem_allReports about views
    · exact Sheet.viewFault?_of_mem_allReports about groups

/-- Without faults of the two templates, a generation has no fault about templates. -/
theorem not_isAboutTemplates_of_mem_generate {context : Context} {library : Library} {fault : Fault}
    (viewFaultless : context.templates.viewFault? = none)
    (fileFaultless : context.templates.fileFault? = none)
    (member : fault ∈ faultsOf (generate context library)) : fault.isAboutTemplates = false := by
  refine Bool.eq_false_iff.mpr fun about => ?_
  rcases faulty_of_mem_generate about member with faulty | faulty
  · rw [viewFaultless] at faulty
    cases faulty
  · rw [fileFaultless] at faulty
    cases faulty

/-- Which faults about templates can be reported, after any changes of the built-in templates.

No template is ever missing. If no change replaces the `view` template, the families have no fault
about templates, and if none replaces the `file` template either, a generation has none, whatever is
filled in. If the `view` template cannot be filled, each widget that gets its factory property
reports this once, if builder functions are wanted; no other widget reports a fault about
templates. -/
theorem generate_templateFaults (indent : String) (changes : List TemplateChange)
    (options : Options) (registry : Registry) :
    let context : Context := ⟨options, registry, .changed indent changes⟩
    (∀ name,
      (∀ family widgets, .noTemplate name ∉ faultsOf (renderFamily context family widgets)) ∧
      ∀ library, .noTemplate name ∉ faultsOf (generate context library)) ∧
    ((∀ change ∈ changes, change.Keeps "view") →
      (∀ family widgets, ∀ fault ∈ faultsOf (renderFamily context family widgets),
        fault.isAboutTemplates = false) ∧
      ((∀ change ∈ changes, change.Keeps "file") →
        ∀ library, ∀ fault ∈ faultsOf (generate context library),
          fault.isAboutTemplates = false)) ∧
    ∀ builder fault, Builder.render context.templates builder = .error fault →
      (∀ family before widget,
        (Sheet.reports context family before widget).filter Fault.isAboutTemplates =
          if options.flags.views ∧ (Sheet.referenceAfter? context family before widget).isSome then
            [fault]
          else []) ∧
      (∀ family widgets,
        faultsOf (renderFamily context family widgets) =
          Sheet.allReports context family widgets) ∧
      ∀ library,
        let reported := Sheet.allReports context .view library.views
          ++ Sheet.allReports context .viewGroup library.viewGroups
        reported ≠ [] → faultsOf (generate context library) = reported := by
  intro context
  have rendered (family : Family) (widgets : List Widget) :
      faultsOf (renderFamily context family widgets) = Sheet.allReports context family widgets := by
    rw [Sheet.faultsOf_renderFamily, Sheet.faults_eq_allReports]
  refine ⟨fun name => ?defined, ?builtin, ?faulty⟩
  -- No change takes a text away, so the fault of neither template is that it is missing.
  case defined =>
    have view := Templates.fault?_changed_ne_noTemplate (by decide : "view" ∈ builtinNames) indent
      changes Builder.keys name
    have file := Templates.fault?_changed_ne_noTemplate (by decide : "file" ∈ builtinNames) indent
      changes ["package", "body"] name
    constructor
    · intro family widgets member
      rw [rendered] at member
      exact view (Sheet.viewFault?_of_mem_allReports rfl member)
    · intro library member
      exact (faulty_of_mem_generate rfl member).elim view file
  case builtin =>
    intro keepView
    have viewFaultless : context.templates.viewFault? = none :=
      Templates.viewFault?_of_builtin (Templates.text?_changed_of_keeps keepView indent)
    constructor
    · intro family widgets fault member
      rw [rendered] at member
      exact Sheet.not_isAboutTemplates_of_mem_allReports viewFaultless member
    · intro keepFile library fault member
      have fileFaultless : context.templates.fileFault? = none :=
        fileFault?_of_builtin (Templates.text?_changed_of_keeps keepFile indent)
      exact not_isAboutTemplates_of_mem_generate viewFaultless fileFaultless member
  case faulty =>
    intro builder fault failed
    have faulty : context.templates.viewFault? = some fault :=
      Builder.render_eq_error_iff.mp failed
    -- The file is filled only if the families have no fault, so its template cannot add another
    -- one.
    refine ⟨fun family before widget => ?_, rendered, fun library reported => ?_⟩
    · rw [Sheet.templateFaults_reports, faulty]
      rfl
    · rw [faultsOf_generate]
      split
      · next none => exact absurd none reported
      · rfl

/-- A directory whose `view` override is no text. The one for `file` comes after it. -/
def unreadableOverrides : FileTree where
  working := []
  nodes :=
    [ (["overrides", "view.kt.tmpl"], .file [0xff]),
      (["overrides", "file.kt.tmpl"], .file [0x7b, 0x7b]) ]
  room? := none

/-- The override that cannot be read ends the loading, so neither template is replaced. -/
theorem unreadableOverrides_keeps {name : String} :
    (TemplateChange.override unreadableOverrides "overrides").Keeps name := by
  have present : unreadableOverrides.isFile (Templates.overridePath "overrides" "view") = true := by
    decide +kernel
  have unreadable : unreadableOverrides.readText (Templates.overridePath "overrides" "view") =
      .error .notText := by decide +kernel
  intro text replaces
  cases replaces with
  | loaded loads =>
    cases loads with
    | here _ readable =>
      rw [unreadable] at readable
      cases readable
    | past absent _ =>
      rw [present] at absent
      cases absent
    | after _ readable _ =>
      rw [unreadable] at readable
      cases readable

/-- Loading that fails and a template that nothing uses do no harm. A key that has no value is one
fault of a container with three receivers. -/
theorem generate_templateFaults_of_frame :
    let harmless : List TemplateChange :=
      [.insert "note" "\x7b\x7b", .override unreadableOverrides "overrides"]
    let harmful : List TemplateChange := [.insert "view" "\x7b\x7b width \x7d\x7d"]
    let frame : Widget :=
      { textWidget "android.widget.FrameLayout" "FrameLayout" with isContainer := true }
    let builder : Builder := ⟨"ViewManager", "frameLayout", "_FrameLayout", "_FrameLayout",
      "android.widget.FrameLayout", "FRAME_LAYOUT"⟩
    ((∀ change ∈ harmless, change.Keeps "view") ∧ (∀ change ∈ harmless, change.Keeps "file") ∧
      ∀ library, ∀ fault ∈ faultsOf (generate ⟨.standard, .empty, .changed "\t" harmless⟩ library),
        fault.isAboutTemplates = false) ∧
    builder.render (.changed "\t" harmful) = .error (.noValue "view" "width") ∧
      (Sheet.reports ⟨.standard, .empty, .changed "\t" harmful⟩ .viewGroup [] frame).filter
          Fault.isAboutTemplates = [.noValue "view" "width"] := by
  intro harmless harmful frame builder
  have keep (name : String) (other : name ≠ "note") : ∀ change ∈ harmless, change.Keeps name := by
    intro change member
    simp only [harmless, List.mem_cons, List.not_mem_nil, or_false] at member
    rcases member with rfl | rfl
    · rintro text ⟨⟩
      exact other rfl
    · exact unreadableOverrides_keeps
  have failed : builder.render (.changed "\t" harmful) = .error (.noValue "view" "width") := by
    decide +kernel
  have once := ((generate_templateFaults "\t" harmful .standard .empty).2.2 builder _ failed).1
    .viewGroup [] frame
  have registered : (Sheet.referenceAfter? ⟨.standard, .empty, .changed "\t" harmful⟩ .viewGroup []
      frame).isSome = true := by decide +kernel
  refine ⟨⟨keep "view" (by decide), keep "file" (by decide), ?_⟩, failed, ?_⟩
  · exact ((generate_templateFaults "\t" harmless .standard .empty).2.1
      (keep "view" (by decide))).2 (keep "file" (by decide))
  · rw [once, if_pos ⟨rfl, registered⟩]

end WidgetBuilders
