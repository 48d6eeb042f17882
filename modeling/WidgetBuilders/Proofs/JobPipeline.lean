import Mathlib.Data.List.Basic
import WidgetBuilders.Job.Run
import WidgetBuilders.Proofs.JobSettings

/-!
# A run is a generation from what its settings name

A run with an output stream comes down to one generation. Its library holds the loaded widgets and
then the linked ones, its registry the helper constructors of all files after those that were given,
its templates the built-in ones with the overrides of the last directory. In which order settings of
different kinds were mixed cannot be seen.

What a run reads is described by relations, step by step, that do not mention the run: a linked
library has been decoded, a file has been added to a registry without a fault, templates have been
replaced. Warnings do not stand in the way of a generation, and nothing is read twice or left out.
-/

namespace WidgetBuilders

/-- What is left of the templates of a directory: those that could all be loaded. Without a
directory, nothing is replaced. -/
def Templates.Overridden (builtin : Templates) (files : FileTree) :
    Option String → Templates → Prop
  | none, templates => templates = builtin
  | some directory, templates =>
    (builtin.overrideFrom files directory).fault? = none ∧
      (builtin.overrideFrom files directory).templates = templates

/-- Files of helper constructors are added to a registry one after another. Each of them is there,
is text, and has no faulty line. -/
inductive Registry.Reads (files : FileTree) : Registry → List String → Registry → Prop
  | done (registry : Registry) : Reads files registry [] registry
  | file {registry next final : Registry} {path text : String} {rest : List String}
      {entries : List Registry.Entry} (loaded : files.readText path = .ok text)
      (read : registry.readFile { name := path, text } = .ok (next, entries))
      (others : Reads files next rest final) : Reads files registry (path :: rest) final

/-- Everything that the settings name can be read, and this is what it comes to. -/
structure Setting.Loads (settings : List Setting) (files : FileTree) (linked : List Library)
    (registry : Registry) (templates : Templates) : Prop where
  links : List.Forall₂ (fun link library => Library.ofBytes link.2 = .ok library)
    (settings.filterMap link?) linked
  helpers : Registry.Reads files ((last? registry? settings).getD .empty)
    (settings.filterMap helperFile?) registry
  templates : (Templates.builtin ((last? indent? settings).getD "    ")).Overridden files
    (last? templateDirectory? settings) templates

namespace Job

/-- After a step with a result, the next one decides. -/
theorem Step.andThen_result {α β : Type} {first : Step α} {value : α}
    (reached : first.result = .ok value) (next : α → Step β) :
    (first.andThen next).result = (next value).result := by
  simp [andThen, reached]

/-! ## The linked libraries -/

/-- Decoded libraries are added after those that are there, in the order of their links. -/
theorem linkAll_of_decoded {links : List (String × List UInt8)} {linked : List Library}
    (decoded : List.Forall₂ (fun link library => Library.ofBytes link.2 = .ok library)
      links linked) (loaded : List Library) :
    (linkAll (Setting.library loaded) links).result =
      .ok (Setting.library (loaded ++ linked)) := by
  induction decoded generalizing loaded with
  | nil => simp [linkAll, Step.done]
  | @cons link library _ others decoded _ ih =>
    have added : (Setting.library loaded).append library =
        Setting.library (loaded ++ [library]) := by
      simp [Setting.library, Library.append]
    have rest := ih (loaded ++ [library])
    rw [List.append_assoc, List.singleton_append] at rest
    obtain ⟨name, bytes⟩ := link
    simp only [linkAll, decoded, Step.logging, added, rest]

/-! ## The files of helper constructors -/

/-- A warning is no error. -/
theorem warning_of_entry {entry : Registry.Entry} {diagnostic : Diagnostic}
    (warned : entry.warning? = some diagnostic) : diagnostic.isError = false := by
  cases entry with
  | added declaration => cases warned
  | repeated declaration =>
    cases warned
    rfl

/-- A file without faults is added, with warnings at most. -/
theorem readHelperFile_of_read {files : FileTree} {registry next : Registry} {path text : String}
    {entries : List Registry.Entry} (loaded : files.readText path = .ok text)
    (read : registry.readFile { name := path, text } = .ok (next, entries)) :
    (readHelperFile files registry path).registry = next ∧
      Diagnostic.anyError (readHelperFile files registry path).diagnostics = false := by
  have reading : readHelperFile files registry path =
      ⟨next, (entries.filterMap (·.warning?)).map ([·]), entries.filterMap (·.record?)⟩ := by
    simp [readHelperFile, loaded, read]
  rw [reading]
  refine ⟨rfl, ?_⟩
  simp only [Diagnostic.anyError, List.any_map, List.any_eq_false, Function.comp_apply,
    List.any_cons, List.any_nil, Bool.or_false]
  intro diagnostic member
  obtain ⟨entry, _, warned⟩ := List.mem_filterMap.mp member
  simp [warning_of_entry warned]

/-- Files that can be read are added, and no error is reported. -/
theorem readHelperFiles_of_reads {files : FileTree} {registry final : Registry}
    {paths : List String} (reads : Registry.Reads files registry paths final) :
    (readHelperFiles files registry paths).registry = final ∧
      Diagnostic.anyError (readHelperFiles files registry paths).diagnostics = false := by
  induction reads with
  | done registry => exact ⟨rfl, rfl⟩
  | file loaded read _ ih =>
    obtain ⟨added, warned⟩ := readHelperFile_of_read loaded read
    obtain ⟨reached, others⟩ := ih
    rw [readHelperFiles, added]
    refine ⟨reached, ?_⟩
    simp only [Diagnostic.anyError, List.any_append, Bool.or_eq_false_iff] at warned others ⊢
    exact ⟨warned, others⟩

/-- The registry is loaded from files that can be read. -/
theorem loadRegistry_of_reads {job : Job} {files : FileTree} {final : Registry}
    (reads : Registry.Reads files job.registry job.helperFiles final) :
    (job.loadRegistry files).result = .ok final := by
  obtain ⟨reached, noError⟩ := readHelperFiles_of_reads reads
  simp [loadRegistry, noError, reached]

/-! ## The templates -/

/-- The templates are those that the overrides leave. -/
theorem loadTemplates_of_overridden {job : Job} {files : FileTree} {templates : Templates}
    (overridden : (Templates.builtin job.indent).Overridden files job.templateDirectory?
      templates) : (job.loadTemplates files).result = .ok templates := by
  unfold loadTemplates
  cases chosen : job.templateDirectory? with
  | none =>
    rw [chosen] at overridden
    cases overridden
    rfl
  | some directory =>
    rw [chosen] at overridden
    obtain ⟨complete, reached⟩ := overridden
    simp [complete, reached]

/-! ## The whole run -/

/-- What is generated, once everything could be read. -/
theorem generate_of_loads {settings : List Setting} {files : FileTree} {linked : List Library}
    {registry : Registry} {templates : Templates}
    (loads : Setting.Loads settings files linked registry templates) :
    ((ofSettings settings).generate files).result =
      (WidgetBuilders.generate ⟨Setting.options settings, registry, templates⟩
        (Setting.library (settings.filterMap Setting.widgets? ++ linked))).mapError
          fun report => [report.diagnostics] := by
  have linking := linkAll_of_decoded loads.links (settings.filterMap Setting.widgets?)
  have reading : ((ofSettings settings).loadRegistry files).result = .ok registry := by
    apply loadRegistry_of_reads
    rw [ofSettings_eq]
    exact loads.helpers
  have overriding : ((ofSettings settings).loadTemplates files).result = .ok templates := by
    apply loadTemplates_of_overridden
    rw [ofSettings_eq]
    exact loads.templates
  have options : (ofSettings settings).options = Setting.options settings := by
    rw [ofSettings_eq]
  have inputs : (ofSettings settings).library = Setting.library (settings.filterMap
      Setting.widgets?) ∧ (ofSettings settings).links = settings.filterMap Setting.link? := by
    rw [ofSettings_eq]
    exact ⟨rfl, rfl⟩
  unfold generate
  rw [inputs.1, inputs.2, Step.andThen_result linking, Step.andThen_result reading,
    Step.andThen_result overriding, options]

/-- Settings refine a generation.

The outcome of a run depends only on the settings of the kinds that add up, kind by kind, and on the
last setting of every other kind. If everything that they name can be read, a run with an output
stream succeeds exactly if the generation from it does, and adds its text to the stream. -/
theorem run_refines_generate (settings : List Setting) (files : FileTree) (stream : OutputStream) :
    (∀ other, Setting.SameEffect settings other →
      (ofSettings settings).run files stream = (ofSettings other).run files stream) ∧
    (.outputStream ∈ settings → ∀ linked registry templates,
      Setting.Loads settings files linked registry templates →
        let outcome := (ofSettings settings).run files stream
        let context : Context := ⟨Setting.options settings, registry, templates⟩
        let library := Setting.library (settings.filterMap Setting.widgets? ++ linked)
        (outcome.succeeded = true ↔ ∃ text, WidgetBuilders.generate context library = .ok text) ∧
        (∀ text, WidgetBuilders.generate context library = .ok text →
          outcome.stream.bytes = stream.bytes ++ Text.Utf8.encode text) ∧
        (outcome.succeeded = false → outcome.stream = stream) ∧ outcome.files = files) := by
  constructor
  · intro other same
    rw [ofSettings_of_sameEffect same]
  · intro toStream linked registry templates loads outcome context library
    have streaming : (ofSettings settings).toStream = true := by
      rw [ofSettings_eq]
      exact List.contains_iff_mem.mpr toStream
    have generated : ((ofSettings settings).generate files).result =
        (WidgetBuilders.generate context library).mapError fun report => [report.diagnostics] :=
      generate_of_loads loads
    cases result : WidgetBuilders.generate context library with
    | error report =>
      rw [result] at generated
      simp [outcome, run, generated, Except.mapError]
    | ok text =>
      rw [result] at generated
      simp [outcome, run, generated, Except.mapError, deliver, OutputStream.add, streaming]

end Job

/-- A library of one view without members. -/
def oneView : Library := ⟨[{ WidgetClass.named "a.B" with isContainer := false }], []⟩

/-- Settings of several kinds in no particular order, with one indentation after another. -/
def mixedSettings : List Setting :=
  [ .indent "\t", .helperFile "helpers", .outputStream, .link "linked" oneView.toBytes,
    .registry .empty, .templateDirectory "templates", .widgets oneView, .indent "  " ]

/-- A working directory with one file. -/
def oneFile : FileTree :=
  (FileTree.empty ["work"]).put ["work", "helpers"] (.file (Text.Utf8.encode "a.B(text: T)\n"))

/-- What the file declares. -/
def oneDeclaration : Registry :=
  Registry.empty.insert "a.B"
    { properties := [⟨"text", "T"⟩]
      span := some ⟨⟨"helpers", "a.B(text: T)\n"⟩, 0, 12⟩ }

/-- Settings of several kinds, of which everything can be read. -/
theorem Job.run_refines_generate_of_mixed :
    .outputStream ∈ mixedSettings ∧
      Setting.Loads mixedSettings oneFile [oneView] oneDeclaration (Templates.builtin "  ") ∧
      (((Job.ofSettings mixedSettings).run oneFile "before").succeeded = true ↔
        ∃ text, WidgetBuilders.generate
          ⟨Setting.options mixedSettings, oneDeclaration, Templates.builtin "  "⟩
          (Setting.library [oneView, oneView]) = .ok text) := by
  have given : .outputStream ∈ mixedSettings := by decide
  have text : oneFile.readText "helpers" = .ok "a.B(text: T)\n" := by
    have bytes : oneFile.read "helpers" = .ok (Text.Utf8.encode "a.B(text: T)\n") := rfl
    simp [FileTree.readText, bytes, Text.Utf8.decode_encode, bind, Except.bind]
  have declared : Registry.empty.readFile ⟨"helpers", "a.B(text: T)\n"⟩ =
      .ok (oneDeclaration, oneDeclaration.declarations.map .added) := rfl
  have loads : Setting.Loads mixedSettings oneFile [oneView] oneDeclaration
      (Templates.builtin "  ") :=
    { links := .cons (by decide +kernel) .nil
      helpers := .file text declared (.done _)
      templates := ⟨rfl, rfl⟩ }
  exact ⟨given, loads,
    ((Job.run_refines_generate mixedSettings oneFile "before").2 given _ _ _ loads).1⟩

end WidgetBuilders
