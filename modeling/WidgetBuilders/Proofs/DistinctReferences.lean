import WidgetBuilders.Proofs.DeclarationGrammar
import WidgetBuilders.Proofs.FactoryReferences
import WidgetBuilders.Proofs.ReportedFaults

/-!
# When two widgets share a factory property

Two widgets may want the same key, because letter case is all that their names differ in, or because
they have the same simple name in different packages. Then the expressions that construct them
decide. An expression does not mention the widget; it mentions a class. From the class the widget
can be told, with one exception: a group that is not tinted is constructed through a subclass that
is named after its simple name, so groups of one simple name share the subclass, the property and
the reference.

Apart from this exception, different widgets never get the same reference. If their keys clash, the
later one is rejected, and the family is not rendered.
-/

namespace WidgetBuilders

open Text

/-! ## What an expression tells -/

/-- The widget has a valid qualified name, and the end of it for its simple name. -/
def Widget.WellNamed (widget : Widget) : Prop :=
  Grammar.QualifiedName widget.qualifiedName.toList ∧
    widget.simpleName = lastSegment widget.qualifiedName

/-- Both widgets are groups that are not tinted, and they have the same simple name. -/
def Family.SharesSubclass (family : Family) (tint : Tint) (one other : Widget) : Prop :=
  family = .viewGroup ∧ tint.baseName? one = none ∧ tint.baseName? other = none ∧
    one.simpleName = other.simpleName

/-- The qualified name of a tinted widget ends with the simple name of its base. -/
theorem Tint.qualifiedName_of_baseName? {tint : Tint} {widget : Widget} {base : String}
    (tinted : tint.baseName? widget = some base) :
    widget.qualifiedName.toList = tint.lead.toList ++ base.toList := by
  unfold baseName? at tinted
  split at tinted
  · next c rest dropped =>
    split at tinted
    · cases tinted
    · cases tinted
      rw [String.toList_ofList]
      exact dropLead_eq_some_iff.mp dropped
  · cases tinted

/-- What stands before the name of the base in the class by which it is constructed. -/
def Family.qualifier (family : Family) (tint : Tint) : String :=
  match family with
  | .view => tint.basePackage ++ "."
  | .viewGroup => "_"

/-- The class of a base is the qualifier of the family and the name of the base. -/
theorem Family.className_qualify (family : Family) (tint : Tint) (base : String) :
    family.className (tint.qualify base) base = family.qualifier tint ++ base := by
  cases family <;> rfl

/-- The last segment of a name brings no new characters. -/
theorem mem_lastSegment {name : String} {c : Char} (member : c ∈ (lastSegment name).toList) :
    c ∈ name.toList := by
  rw [lastSegment, String.toList_ofList, List.mem_reverse] at member
  exact List.mem_reverse.mp ((List.takeWhile_prefix _).subset member)

/-- The class by which a widget is constructed has no bracket and no space in its name. -/
theorem Widget.WellNamed.not_mem_className {widget : Widget} (named : widget.WellNamed)
    (family : Family) :
    '(' ∉ (family.className widget.qualifiedName widget.simpleName).toList ∧
      ' ' ∉ (family.className widget.qualifiedName widget.simpleName).toList := by
  obtain ⟨qualified, simple⟩ := named
  have within : ∀ c ∈ (family.className widget.qualifiedName widget.simpleName).toList,
      c = '_' ∨ c ∈ widget.qualifiedName.toList := by
    intro c member
    cases family with
    | view => exact Or.inr member
    | viewGroup =>
      rw [Family.className, String.toList_append, List.mem_append, simple] at member
      rcases member with underscore | segment
      · exact Or.inl (List.mem_singleton.mp underscore)
      · exact Or.inr (mem_lastSegment segment)
  constructor
  · intro bracket
    rcases within '(' bracket with same | inName
    · cases same
    · exact Grammar.sign_not_mem_qualifiedName (by decide) qualified inName
  · intro space
    rcases within ' ' space with same | inName
    · cases same
    · cases Grammar.unblank_of_qualifiedName qualified ' ' inName

/-- The name of a base has no bracket, being a part of the name of its widget. -/
theorem Widget.WellNamed.bracket_not_mem_base {tint : Tint} {widget : Widget} {base : String}
    (named : widget.WellNamed) (tinted : tint.baseName? widget = some base) :
    '(' ∉ base.toList := by
  intro bracket
  refine Grammar.sign_not_mem_qualifiedName (by decide : Grammar.IsSign '(') named.1 ?_
  rw [Tint.qualifiedName_of_baseName? tinted]
  exact List.mem_append_right _ bracket

namespace Family

variable (family : Family) {tint : Tint} {widget : Widget} (arguments : String)

/-- The expression of a widget that is not tinted begins with its class. -/
theorem construction_plain (plain : tint.baseName? widget = none) :
    ∃ rest, (family.construction tint widget arguments).toList =
      (family.className widget.qualifiedName widget.simpleName).toList ++ '(' :: rest := by
  refine ⟨arguments.toList ++ [')'], ?_⟩
  simp [construction, plain]

/-- The expression of a tinted widget begins with the check of the platform. -/
theorem construction_tinted {base : String} (tinted : tint.baseName? widget = some base) :
    ∃ rest, (family.construction tint widget arguments).toList =
      ("if (Build.VERSION.SDK_INT < " ++ toString tint.minSdk ++ ") "
        ++ family.qualifier tint).toList ++ (base.toList ++ '(' :: rest) := by
  refine ⟨(arguments ++ ") else " ++ family.className widget.qualifiedName widget.simpleName
    ++ "(" ++ arguments ++ ")").toList, ?_⟩
  simp [construction, tinted, className_qualify]

/-- Before its first bracket, the expression of a tinted widget has a space. -/
theorem construction_guarded {base : String} (tinted : tint.baseName? widget = some base) :
    ∃ rest, (family.construction tint widget arguments).toList = "if ".toList ++ '(' :: rest := by
  obtain ⟨rest, shape⟩ := construction_tinted family arguments tinted
  exact ⟨_, by simpa using shape⟩

variable {family}

/-- Expressions differ if one widget is tinted and the other is not. -/
theorem construction_plain_ne_tinted {one other : Widget} {base first second : String}
    (named : one.WellNamed) (plain : tint.baseName? one = none)
    (tinted : tint.baseName? other = some base) :
    family.construction tint one first ≠ family.construction tint other second := by
  intro same
  obtain ⟨_, plainShape⟩ := construction_plain family first plain
  obtain ⟨_, guardShape⟩ := construction_guarded family second tinted
  obtain ⟨noBracket, noSpace⟩ := named.not_mem_className family
  rw [same, guardShape] at plainShape
  obtain ⟨guarded, _⟩ := append_separator_inj (by decide) noBracket plainShape
  rw [← guarded] at noSpace
  exact noSpace (by decide)

/-- Equal expressions construct the same widget, or two groups through their common subclass. -/
theorem eq_or_sharesSubclass_of_construction {one other : Widget} {first second : String}
    (named : one.WellNamed) (otherNamed : other.WellNamed)
    (same : family.construction tint one first = family.construction tint other second) :
    one.qualifiedName = other.qualifiedName ∨ family.SharesSubclass tint one other := by
  -- An expression with a check of the platform version is no plain call, so both widgets are tinted
  -- or neither is. What stands before the bracket is the class.
  cases tinted : tint.baseName? one with
  | none =>
    cases otherTinted : tint.baseName? other with
    | none =>
      obtain ⟨_, shape⟩ := construction_plain family first tinted
      obtain ⟨_, otherShape⟩ := construction_plain family second otherTinted
      rw [same, otherShape] at shape
      obtain ⟨classes, _⟩ := append_separator_inj (otherNamed.not_mem_className family).1
        (named.not_mem_className family).1 shape
      have sameClass := String.toList_inj.mp classes
      cases family with
      | view => exact Or.inl sameClass.symm
      | viewGroup =>
        refine Or.inr ⟨rfl, tinted, otherTinted, ?_⟩
        exact ((String.append_right_inj "_").mp sameClass).symm
    | some base => exact absurd same (construction_plain_ne_tinted named tinted otherTinted)
  | some base =>
    cases otherTinted : tint.baseName? other with
    | none => exact absurd same.symm (construction_plain_ne_tinted otherNamed otherTinted tinted)
    | some otherBase =>
      obtain ⟨_, shape⟩ := construction_tinted family first tinted
      obtain ⟨_, otherShape⟩ := construction_tinted family second otherTinted
      rw [same, otherShape] at shape
      obtain ⟨bases, _⟩ := append_separator_inj (otherNamed.bracket_not_mem_base otherTinted)
        (named.bracket_not_mem_base tinted) (List.append_cancel_left shape)
      refine Or.inl (String.toList_inj.mp ?_)
      rw [Tint.qualifiedName_of_baseName? tinted, Tint.qualifiedName_of_baseName? otherTinted,
        bases]

end Family

/-! ## References -/

namespace Sheet

variable (context : Context) (family : Family)

/-- The reference that a widget gets when some widgets come before it. A widget that is not
constructed gets none, nor does one whose key is taken. -/
def referenceAfter? (before : List Widget) (widget : Widget) : Option String :=
  match plan context family widget with
  | .construct construction =>
    match (ofWidgets context family before).factory.bind construction.functionName
        construction.expression with
    | .ok (_, reference) => some reference
    | .error _ => none
  | _ => none

variable {context : Context} {family : Family}

/-- A key is free for an entry if it is unbound or bound to the same expression. -/
theorem clash?_ofWidgets_eq_none_iff {before : List Widget} {entry : FactoryEntry} :
    (ofWidgets context family before).factory.clash? entry = none ↔
      ∀ existing, boundBy? context family before entry.key = some existing →
        existing = entry.expression := by
  rw [Factory.clash?, expression?_ofWidgets]
  cases boundBy? context family before entry.key with
  | none => simp
  | some existing => by_cases same : existing = entry.expression <;> simp [same]

/-- A widget gets a reference to the key that it asks for, unless the key is taken. -/
theorem referenceAfter?_eq_some_iff {before : List Widget} {widget : Widget} {reference : String} :
    referenceAfter? context family before widget = some reference ↔
      ∃ entry, request? context family widget = some entry ∧
        (∀ existing, boundBy? context family before entry.key = some existing →
          existing = entry.expression) ∧
        Factory.reference (Factory.objectName context.options.artifact family) entry.key =
          reference := by
  have name := (ofWidgets_steady context family before).name
  simp only [← clash?_ofWidgets_eq_none_iff]
  unfold referenceAfter? request?
  cases plan context family widget with
  | construct construction =>
    have entry : (⟨Factory.keyOf construction.functionName, construction.expression⟩ :
        FactoryEntry) = construction.entry := rfl
    have key : construction.entry.key = Factory.keyOf construction.functionName := rfl
    dsimp only
    rw [Factory.bind_eq, name, entry]
    cases clash : (ofWidgets context family before).factory.clash? construction.entry with
    | none => simp [clash, key]
    | some fault => simp [clash]
  | _ => simp

/-- The widget asks for the property that constructs it. -/
theorem expression_of_request {widget : Widget} {entry : FactoryEntry}
    (asked : request? context family widget = some entry) :
    ∃ arguments, entry.expression =
      family.construction context.options.tint widget arguments := by
  obtain ⟨construction, planned, rfl⟩ := construct_of_request asked
  exact ⟨construction.arguments, (decided_of_plan planned).expression⟩

/-- Who binds a key first keeps it. -/
theorem boundBy?_append (before later : List Widget) (key : String) :
    boundBy? context family (before ++ later) key =
      (boundBy? context family before key).or (boundBy? context family later key) := by
  simp [boundBy?, Option.map_or]

/-- The first of some widgets has its key bound to its own expression. -/
theorem boundBy?_cons {widget : Widget} {entry : FactoryEntry}
    (asked : request? context family widget = some entry) (later : List Widget) :
    boundBy? context family (widget :: later) entry.key = some entry.expression := by
  simp [boundBy?, asked]

/-- A widget whose key is taken reports this and nothing else. -/
theorem reports_of_taken {before : List Widget} {widget : Widget} {entry : FactoryEntry}
    {existing : String} (asked : request? context family widget = some entry)
    (bound : boundBy? context family before entry.key = some existing)
    (taken : existing ≠ entry.expression) :
    reports context family before widget =
      [.keyTaken (Factory.objectName context.options.artifact family) entry.key existing
        entry.expression] := by
  simp [reports, asked, bound, taken]

/-- Nothing that a widget reports is left out. -/
theorem mem_allReports {before : List Widget} {widget : Widget} {fault : Fault}
    (reported : fault ∈ reports context family before widget) (after : List Widget) :
    fault ∈ allReports context family (before ++ widget :: after) := by
  refine List.mem_flatMap.mpr ⟨(widget, before.length), ?_, ?_⟩
  · simp [List.zipIdx_append, List.zipIdx_cons]
  · simpa using reported

/-- Where a widget asks for a key, and for the same key a later request has another expression, one
of the two is refused. -/
theorem exists_taken {before between : List Widget} {one : Widget}
    {entry otherEntry : FactoryEntry} (asked : request? context family one = some entry)
    (sameKey : entry.key = otherEntry.key) (differ : entry.expression ≠ otherEntry.expression) :
    (∃ existing, boundBy? context family before entry.key = some existing ∧
        existing ≠ entry.expression) ∨
      ∃ existing,
        boundBy? context family (before ++ one :: between) otherEntry.key = some existing ∧
          existing ≠ otherEntry.expression := by
  have later : boundBy? context family (before ++ one :: between) otherEntry.key =
      (boundBy? context family before entry.key).or (some entry.expression) := by
    rw [boundBy?_append, ← sameKey, boundBy?_cons asked]
  cases bound : boundBy? context family before entry.key with
  | none =>
    rw [bound] at later
    exact Or.inr ⟨entry.expression, later, differ⟩
  | some existing =>
    rw [bound] at later
    by_cases agrees : existing = entry.expression
    · exact Or.inr ⟨existing, later, agrees ▸ differ⟩
    · exact Or.inl ⟨existing, rfl, agrees⟩

end Sheet

/-- References into one object tell their keys. -/
theorem Factory.reference_inj {object key other : String}
    (same : reference object key = reference object other) : key = other :=
  (String.append_right_inj _).mp same

/-- A widget asks for the key of its functions. -/
theorem Sheet.key_of_request {context : Context} {family : Family} {widget : Widget}
    {entry : FactoryEntry} (asked : request? context family widget = some entry) :
    entry.key = Factory.keyOf (context.options.tint.functionName widget) := by
  obtain ⟨construction, planned, rfl⟩ := construct_of_request asked
  have decided := decided_of_plan planned
  rw [← decided.sameTint, ← decided.sameWidget]
  rfl

/-- Groups that share a subclass have functions of one name. -/
theorem Family.SharesSubclass.functionName_eq {family : Family} {tint : Tint} {one other : Widget}
    (shares : family.SharesSubclass tint one other) :
    tint.functionName one = tint.functionName other := by
  obtain ⟨_, plain, otherPlain, sameName⟩ := shares
  rw [Tint.functionName, Tint.functionName, plain, otherPlain, sameName]

namespace Sheet

variable {context : Context} {family : Family} {one other : Widget}

/-- Different widgets ask for one expression only if they share a subclass. -/
theorem sharesSubclass_of_requests {entry otherEntry : FactoryEntry} (named : one.WellNamed)
    (otherNamed : other.WellNamed) (different : one.qualifiedName ≠ other.qualifiedName)
    (asked : request? context family one = some entry)
    (otherAsked : request? context family other = some otherEntry)
    (same : entry.expression = otherEntry.expression) :
    family.SharesSubclass context.options.tint one other := by
  obtain ⟨_, shape⟩ := expression_of_request asked
  obtain ⟨_, otherShape⟩ := expression_of_request otherAsked
  rw [shape, otherShape] at same
  exact (Family.eq_or_sharesSubclass_of_construction named otherNamed same).resolve_left different

/-- Different widgets that both get references get the same one exactly if they share a subclass. -/
theorem referenceAfter?_eq_iff_sharesSubclass {before between : List Widget}
    {reference otherReference : String} (named : one.WellNamed) (otherNamed : other.WellNamed)
    (different : one.qualifiedName ≠ other.qualifiedName)
    (got : referenceAfter? context family before one = some reference)
    (otherGot : referenceAfter? context family (before ++ one :: between) other =
      some otherReference) :
    reference = otherReference ↔ family.SharesSubclass context.options.tint one other := by
  obtain ⟨entry, asked, free, rfl⟩ := referenceAfter?_eq_some_iff.mp got
  obtain ⟨otherEntry, otherAsked, otherFree, rfl⟩ := referenceAfter?_eq_some_iff.mp otherGot
  constructor
  · intro same
    refine sharesSubclass_of_requests named otherNamed different asked otherAsked ?_
    by_contra differ
    rcases exists_taken asked (Factory.reference_inj same) differ with
      ⟨existing, bound, taken⟩ | ⟨existing, bound, taken⟩
    · exact taken (free existing bound)
    · exact taken (otherFree existing bound)
  · intro sharing
    rw [key_of_request asked, key_of_request otherAsked, sharing.functionName_eq]

/-- Where one key is requested with two expressions, its clash is reported. -/
theorem keyTaken_reported {before between : List Widget} {entry otherEntry : FactoryEntry}
    (asked : request? context family one = some entry)
    (otherAsked : request? context family other = some otherEntry)
    (sameKey : entry.key = otherEntry.key) (differ : entry.expression ≠ otherEntry.expression)
    (after : List Widget) :
    ∃ report, renderFamily context family (before ++ one :: (between ++ other :: after)) =
        .error report ∧
      ∃ existing rejected,
        .keyTaken (Factory.objectName context.options.artifact family) entry.key existing
          rejected ∈ report.faults := by
  rcases exists_taken asked sameKey differ with
    ⟨existing, bound, taken⟩ | ⟨existing, bound, taken⟩
  · have reported := reports_of_taken asked bound taken
    obtain ⟨report, failed, among⟩ := exists_report_of_mem
      (mem_allReports (reported ▸ List.mem_singleton_self _) (between ++ other :: after))
    exact ⟨report, failed, _, _, among⟩
  · have reported := reports_of_taken otherAsked bound taken
    obtain ⟨report, failed, among⟩ := exists_report_of_mem
      (mem_allReports (reported ▸ List.mem_singleton_self _) after)
    rw [List.append_assoc, List.cons_append] at failed
    exact ⟨report, failed, _, _, sameKey ▸ among⟩

end Sheet

/-- Different widgets get different references.

Two widgets of different qualified names that get references get different ones, unless they are
groups that share a subclass; these get the same. If two other widgets ask for one key, the family
is not rendered, and a clash is reported. -/
theorem references_distinct (context : Context) (family : Family)
    (before between after : List Widget) (one other : Widget) (named : one.WellNamed)
    (otherNamed : other.WellNamed) (different : one.qualifiedName ≠ other.qualifiedName) :
    (∀ reference otherReference,
      Sheet.referenceAfter? context family before one = some reference →
      Sheet.referenceAfter? context family (before ++ one :: between) other =
        some otherReference →
      (reference = otherReference ↔ family.SharesSubclass context.options.tint one other)) ∧
    (∀ entry otherEntry, Sheet.request? context family one = some entry →
      Sheet.request? context family other = some otherEntry → entry.key = otherEntry.key →
      ¬family.SharesSubclass context.options.tint one other →
      ∃ report, renderFamily context family (before ++ one :: (between ++ other :: after)) =
          .error report ∧
        ∃ existing rejected,
          .keyTaken (Factory.objectName context.options.artifact family) entry.key existing
            rejected ∈ report.faults) := by
  constructor
  · intro reference otherReference got otherGot
    exact Sheet.referenceAfter?_eq_iff_sharesSubclass named otherNamed different got otherGot
  · intro entry otherEntry asked otherAsked sameKey apart
    refine Sheet.keyTaken_reported asked otherAsked sameKey ?_ after
    intro same
    exact apart
      (Sheet.sharesSubclass_of_requests named otherNamed different asked otherAsked same)

/-- A view that is constructed from its context. -/
def simpleWidget (qualifiedName : String) : Widget :=
  { WidgetClass.named qualifiedName with
    constructors := [["android.content.Context"]]
    isContainer := false }

/-- The options of the tool, no declarations, and its own templates. -/
def standardContext : Context where
  options := .standard
  registry := .empty
  templates := .builtin "    "

/-- Two views of one package get two references. With a view of the same simple name from another
package between them, the family is not rendered. -/
theorem references_distinct_of_views :
    let panel := simpleWidget "a.Panel"
    let button := simpleWidget "a.Button"
    let otherPanel := simpleWidget "b.Panel"
    (panel.WellNamed ∧ button.WellNamed ∧ otherPanel.WellNamed) ∧
      (∃ reference otherReference,
        Sheet.referenceAfter? standardContext .view [] panel = some reference ∧
        Sheet.referenceAfter? standardContext .view [panel] button = some otherReference ∧
        reference ≠ otherReference) ∧
      ∃ report, renderFamily standardContext .view [panel, otherPanel, button] = .error report ∧
        ∃ existing rejected,
          .keyTaken "`$$Anko$$Factories$$Sdk15View`" "PANEL" existing rejected ∈
            report.faults := by
  intro panel button otherPanel
  have wellNamed (name : String)
      (valid : Grammar.QualifiedName name.toList) : (simpleWidget name).WellNamed := ⟨valid, rfl⟩
  have panelNamed : panel.WellNamed :=
    wellNamed _ (Grammar.isQualifiedName_iff.mp (by decide +kernel))
  have buttonNamed : button.WellNamed :=
    wellNamed _ (Grammar.isQualifiedName_iff.mp (by decide +kernel))
  have otherNamed : otherPanel.WellNamed :=
    wellNamed _ (Grammar.isQualifiedName_iff.mp (by decide +kernel))
  refine ⟨⟨panelNamed, buttonNamed, otherNamed⟩, ?_, ?_⟩
  · have got : Sheet.referenceAfter? standardContext .view [] panel =
        some "`$$Anko$$Factories$$Sdk15View`.PANEL" := by decide +kernel
    have otherGot : Sheet.referenceAfter? standardContext .view [panel] button =
        some "`$$Anko$$Factories$$Sdk15View`.BUTTON" := by decide +kernel
    have apart := (references_distinct standardContext .view [] [] [] panel button panelNamed
      buttonNamed (by decide)).1 _ _ got otherGot
    refine ⟨_, _, got, otherGot, fun same => ?_⟩
    cases (apart.mp same).1
  · have asked : Sheet.request? standardContext .view panel = some ⟨"PANEL", "a.Panel(ctx)"⟩ := by
      decide +kernel
    have otherAsked :
        Sheet.request? standardContext .view otherPanel = some ⟨"PANEL", "b.Panel(ctx)"⟩ := by
      decide +kernel
    have object : Factory.objectName standardContext.options.artifact .view =
        "`$$Anko$$Factories$$Sdk15View`" := by decide +kernel
    have clash := (references_distinct standardContext .view [] [] [button] panel otherPanel
      panelNamed otherNamed (by decide)).2 _ _ asked otherAsked rfl
        (fun sharing => Family.noConfusion sharing.1)
    rw [object] at clash
    exact clash

/-- Two groups of one simple name get one reference, and the family is rendered. -/
theorem groups_share_reference :
    let panel := { simpleWidget "a.Panel" with isContainer := true }
    let otherPanel := { simpleWidget "b.Panel" with isContainer := true }
    (panel.WellNamed ∧ otherPanel.WellNamed ∧ panel.qualifiedName ≠ otherPanel.qualifiedName) ∧
      (∃ text, renderFamily standardContext .viewGroup [panel, otherPanel] = .ok text) ∧
      ∃ reference, Sheet.referenceAfter? standardContext .viewGroup [] panel = some reference ∧
        Sheet.referenceAfter? standardContext .viewGroup [panel] otherPanel = some reference := by
  intro panel otherPanel
  have panelName : Grammar.QualifiedName "a.Panel".toList :=
    Grammar.isQualifiedName_iff.mp (by decide +kernel)
  have otherName : Grammar.QualifiedName "b.Panel".toList :=
    Grammar.isQualifiedName_iff.mp (by decide +kernel)
  have requests : [panel, otherPanel].filterMap (Sheet.request? standardContext .viewGroup) =
      List.replicate 2 ⟨"PANEL", "_Panel(ctx)"⟩ := by decide +kernel
  have faultless :
      (Sheet.ofWidgets standardContext .viewGroup [panel, otherPanel]).faults = [] := by
    refine (Sheet.faults_eq_nil_iff _).mpr ⟨?_, ?_⟩
    · intro widget _
      exact Sheet.alone_faults_of_undeclared rfl (hasHelpers_empty _ _)
    · rw [requests]
      intro one member other otherMember _
      rw [List.eq_of_mem_replicate member, List.eq_of_mem_replicate otherMember]
  refine ⟨⟨⟨panelName, rfl⟩, ⟨otherName, rfl⟩, by decide⟩,
    ⟨_, (renderFamily_eq_ok_iff_faultless _ _ _ _).mpr ⟨faultless, rfl⟩⟩,
    "`$$Anko$$Factories$$Sdk15ViewGroup`.PANEL", ?_, ?_⟩
  · decide +kernel
  · decide +kernel

end WidgetBuilders
