import WidgetBuilders.Proofs.FamilyComposition

/-!
# Which faults are reported, and in which order

A report is put together from what each widget reports. Almost always that is what the widget
reports when it is alone in its family. The one exception is a clash: a widget whose key an earlier
widget has bound to another expression reports the clash, and nothing that it would report alone.
An earlier widget binds its key as soon as it is constructed; that it reports faults of its own
after that does not release the key.

The file adds no fault unless both families are free of them. Then its template may fail, with one
fault.
-/

namespace WidgetBuilders

/-- The faults of an outcome. -/
def faultsOf {α : Type} : Except Report α → List Fault
  | .ok _ => []
  | .error report => report.faults

namespace Sheet

variable (context : Context) (family : Family)

/-- The expression to which some widgets have bound a key: that of the first of them to ask for the
key, whatever became of that widget later. -/
def boundBy? (before : List Widget) (key : String) : Option String :=
  ((before.filterMap (request? context family)).find? (·.key = key)).map (·.expression)

/-- What a widget reports when others come before it. -/
def reports (before : List Widget) (widget : Widget) : List Fault :=
  let alone : List Fault := faultsOf (renderFamily context family [widget])
  match request? context family widget with
  | none => alone
  | some entry =>
    match boundBy? context family before entry.key with
    | none => alone
    | some existing =>
      if existing = entry.expression then alone
      else
        [.keyTaken (Factory.objectName context.options.artifact family) entry.key existing
          entry.expression]

/-- What all widgets report, each with the widgets before it. -/
def allReports (widgets : List Widget) : List Fault :=
  widgets.zipIdx.flatMap fun (widget, place) =>
    reports context family (widgets.take place) widget

end Sheet

/-- Leaving out repetitions keeps the first entry of a key. -/
theorem Factory.find?_firstOfEachKey (entries : List FactoryEntry) (key : String) :
    (firstOfEachKey entries).find? (·.key = key) = entries.find? (·.key = key) := by
  induction entries with
  | nil => rfl
  | cons entry rest ih =>
    by_cases same : entry.key = key
    · simp [firstOfEachKey, same]
    · have kept : ∀ other : FactoryEntry,
          (other.key ≠ entry.key ∧ other.key = key) = (other.key = key) := by
        intro other
        refine propext (and_iff_right_of_imp fun named clash => ?_)
        exact same (clash.symm.trans named)
      simp only [firstOfEachKey, List.find?_cons, same, decide_false, List.find?_filter,
        decide_eq_true_eq, kept, ih]

namespace Sheet

variable {context : Context} {family : Family}

/-- The faults of a rendering are those of its sheet. -/
theorem faultsOf_renderFamily (widgets : List Widget) :
    faultsOf (renderFamily context family widgets) =
      (ofWidgets context family widgets).faults := by
  unfold renderFamily Sheet.result Report.check
  cases faults : (ofWidgets context family widgets).faults with
  | nil => rfl
  | cons fault rest => simp [faultsOf]

/-- The factory object binds a key as the widgets have. -/
theorem expression?_ofWidgets (widgets : List Widget) (key : String) :
    (ofWidgets context family widgets).factory.expression? key =
      boundBy? context family widgets key := by
  rw [Factory.expression?_eq_find?, boundBy?, ofWidgets_entries, Factory.find?_firstOfEachKey]

/-- The last of some widgets adds what it reports. -/
theorem faults_append_singleton (widgets : List Widget) (widget : Widget) :
    (ofWidgets context family (widgets ++ [widget])).faults =
      (ofWidgets context family widgets).faults ++ reports context family widgets widget := by
  have name := (ofWidgets_steady context family widgets).name
  have alone : (take context family (blank context family) widget).faults =
      faultsOf (renderFamily context family [widget]) := (faultsOf_renderFamily [widget]).symm
  rw [(ofWidgets_adds context family widgets widget).faults, alone]
  congr 1
  unfold clashIn? reports
  cases request? context family widget with
  | none => rfl
  | some entry =>
    simp only [Option.bind_some, Factory.clash?, expression?_ofWidgets, name]
    cases boundBy? context family widgets entry.key with
    | none => rfl
    | some existing => by_cases same : existing = entry.expression <;> simp [same]

/-- What all widgets report, one more widget at a time: it does not change what those before it
report. -/
theorem allReports_append_singleton (widgets : List Widget) (widget : Widget) :
    allReports context family (widgets ++ [widget]) =
      allReports context family widgets ++ reports context family widgets widget := by
  have unchanged : ∀ placed ∈ widgets.zipIdx,
      reports context family ((widgets ++ [widget]).take placed.2) placed.1 =
        reports context family (widgets.take placed.2) placed.1 := by
    rintro ⟨other, place⟩ member
    have bound : place < widgets.length := by simpa using (List.mem_zipIdx member).2.1
    rw [List.take_append_of_le_length (Nat.le_of_lt bound)]
  simp only [allReports, List.zipIdx_append, List.flatMap_append, List.flatMap_congr unchanged]
  simp

/-- The faults of a family are what its widgets report, in their order. -/
theorem faults_eq_allReports (widgets : List Widget) :
    (ofWidgets context family widgets).faults = allReports context family widgets := by
  induction widgets using List.reverseRecOn with
  | nil => rfl
  | append_singleton widgets widget ih =>
    rw [faults_append_singleton, allReports_append_singleton, ih]

/-- What a widget reports is in the report of its family. -/
theorem exists_report_of_mem {widgets : List Widget} {fault : Fault}
    (reported : fault ∈ allReports context family widgets) :
    ∃ report, renderFamily context family widgets = .error report ∧ fault ∈ report.faults := by
  rw [← faults_eq_allReports, ← faultsOf_renderFamily] at reported
  cases outcome : renderFamily context family widgets with
  | ok text =>
    rw [outcome] at reported
    cases reported
  | error report =>
    rw [outcome] at reported
    exact ⟨report, rfl, reported⟩

end Sheet

/-- A generation is a rendering of each family, and then of the file around their texts. -/
theorem generate_eq (context : Context) (library : Library) :
    generate context library =
      match renderFamily context .view library.views,
        renderFamily context .viewGroup library.viewGroups with
      | .ok views, .ok groups => (renderFile context [views, groups]).mapError .ofFault
      | views, groups => .error ⟨faultsOf views ++ faultsOf groups⟩ := by
  have split : sheets context library =
      [.ofWidgets context .view library.views, .ofWidgets context .viewGroup library.viewGroups] :=
    rfl
  unfold generate renderFamily Sheet.result Report.check
  rw [split]
  cases views : (Sheet.ofWidgets context .view library.views).faults <;>
    cases groups : (Sheet.ofWidgets context .viewGroup library.viewGroups).faults <;>
      simp [views, groups, faultsOf]

/-- No fault is lost, invented or moved.

A family is rendered exactly if its widgets report nothing, and otherwise the report of the family
is what they report, in their order. A file is generated unless a family or the `file` template
fails. Then the report holds the faults of the first family and after them those of the second or,
only if both have been rendered, the one fault of the template. -/
theorem generate_reports (context : Context) :
    (∀ family widgets,
      ((∃ text, renderFamily context family widgets = .ok text) ↔
        Sheet.allReports context family widgets = []) ∧
      faultsOf (renderFamily context family widgets) = Sheet.allReports context family widgets) ∧
    ∀ library report,
      let views := renderFamily context .view library.views
      let groups := renderFamily context .viewGroup library.viewGroups
      generate context library = .error report ↔
        (((∃ fromViews, views = .error fromViews) ∨ ∃ fromGroups, groups = .error fromGroups) ∧
          report.faults = faultsOf views ++ faultsOf groups) ∨
        ∃ viewText groupText fault, views = .ok viewText ∧ groups = .ok groupText ∧
          renderFile context [viewText, groupText] = .error fault ∧ report.faults = [fault] := by
  constructor
  · intro family widgets
    rw [← Sheet.faults_eq_allReports, Sheet.faultsOf_renderFamily]
    simp only [renderFamily_eq_ok_iff_faultless, exists_and_left, exists_eq', and_true]
  · rintro library ⟨faults⟩
    dsimp only
    rw [generate_eq]
    cases renderFamily context .view library.views with
    | error fromViews => simp [eq_comm]
    | ok viewText =>
      cases renderFamily context .viewGroup library.viewGroups with
      | error fromGroups => simp [eq_comm]
      | ok groupText =>
        cases file : renderFile context [viewText, groupText] with
        | error fault => simp [file, Except.mapError, Report.ofFault, eq_comm]
        | ok text => simp [file, Except.mapError]

end WidgetBuilders
