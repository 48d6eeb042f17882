import WidgetBuilders.Proofs.AddedFiles
import WidgetBuilders.Proofs.JobPipeline

/-!
# A run fails exactly when it says why

A run can fail in two ways. It may end with a message of its own, which is reported last, or it may
end because of what was reported before. Files of helper constructors take the second way: each of
them is read, whatever became of those before it, and only then is it asked whether anything that
was reported is an error. A warning is none, so warnings never end a run.

That a run is explained by its report is therefore a property of every step, kept when one step
follows another. A step with a result has reported no error, and a step that fails has reported one
by then or gives one as its reason. For a generation it matters that a report of faults is never
empty.

What is reported of the files is described without running the reader, file by file and line by
line.
-/

namespace WidgetBuilders

open Grammar

namespace Diagnostic

/-- There is an error among two lists of groups if there is one among either. -/
theorem anyError_append (front back : List Group) :
    anyError (front ++ back) = (anyError front || anyError back) :=
  List.any_append

/-- An error is a diagnostic of the severity in one of the groups. -/
theorem anyError_eq_true_iff {groups : List Group} :
    anyError groups = true ↔
      ∃ group ∈ groups, ∃ diagnostic ∈ group, diagnostic.severity = .error := by
  simp [anyError, isError]

/-- Diagnostics that are reported one by one. -/
theorem anyError_singles {diagnostics : List Diagnostic} :
    anyError (diagnostics.map ([·])) = true ↔
      ∃ diagnostic ∈ diagnostics, diagnostic.severity = .error := by
  simp [anyError, isError]

/-- What is no error is a warning. -/
theorem severity_eq_warning {diagnostic : Diagnostic} (noError : diagnostic.severity ≠ .error) :
    diagnostic.severity = .warning := by
  cases severity : diagnostic.severity with
  | error => exact absurd severity noError
  | warning => rfl

end Diagnostic

open Diagnostic

/-! ## What is reported of files -/

namespace Registry

/-- Why a file of helper constructors is not read. -/
def unreadable (path : String) (fault : FileFault) : Diagnostic :=
  .error ("Could not load the input file '" ++ path ++ "': " ++ fault.message) none

/-- What is reported of files that are added to a registry one after another. A file that cannot be
loaded is one error. A file with lines at fault is an error for each of them, and leaves the
registry as it is. Of any other file, each declaration that is repeated is a warning. No file stands
in the way of those after it. -/
inductive FilesReport (files : FileTree) : Registry → List String → List Diagnostic → Prop
  | done (registry : Registry) : FilesReport files registry [] []
  | unloaded {registry : Registry} {path : String} {fault : FileFault} {rest : List String}
      {later : List Diagnostic} (failed : files.readText path = .error fault)
      (others : FilesReport files registry rest later) :
      FilesReport files registry (path :: rest) (unreadable path fault :: later)
  | refused {registry : Registry} {path text : String} {errors : List Diagnostic}
      {rest : List String} {later : List Diagnostic} (loaded : files.readText path = .ok text)
      (faulty : ∃ line ∈ SourceFile.lines ⟨path, text⟩, ¬AcceptedLine line.content)
      (found : SourceFile.ErrorsIn ⟨path, text⟩ (SourceFile.lines ⟨path, text⟩) errors)
      (others : FilesReport files registry rest later) :
      FilesReport files registry (path :: rest) (errors ++ later)
  | added {registry next : Registry} {path text : String} {entries : List Declaration}
      {warnings : List Diagnostic} {rest : List String} {later : List Diagnostic}
      (loaded : files.readText path = .ok text)
      (accepted : ∀ line ∈ SourceFile.lines ⟨path, text⟩, AcceptedLine line.content)
      (declared : SourceFile.EntriesIn ⟨path, text⟩ (SourceFile.lines ⟨path, text⟩) entries)
      (walk : Walk registry entries next warnings)
      (others : FilesReport files next rest later) :
      FilesReport files registry (path :: rest) (warnings ++ later)

/-- A file that was loaded is reported as it is read, whether it is added or refused. -/
theorem FilesReport.loaded {files : FileTree} {registry : Registry} {path text : String}
    {rest : List String} {later : List Diagnostic} (loaded : files.readText path = .ok text)
    (others : FilesReport files (registry.after ⟨path, text⟩) rest later) :
    FilesReport files registry (path :: rest) (registry.reported ⟨path, text⟩ ++ later) := by
  by_cases free : SourceFile.lineErrors ⟨path, text⟩ = []
  · have admitted : registry.Admits ⟨path, text⟩ (SourceFile.declarations ⟨path, text⟩)
        (registry.reported ⟨path, text⟩) := admits_of_faultless free
    obtain ⟨_, declared, walk, _⟩ := admitted
    exact .added loaded (SourceFile.lineErrors_eq_nil_iff.mp free) declared walk others
  · have refused : registry.Refuses ⟨path, text⟩ := refuses_of_faulty free
    obtain ⟨_, kept, found⟩ := refused
    have faulty : ∃ line ∈ SourceFile.lines ⟨path, text⟩, ¬AcceptedLine line.content := by
      simpa using mt SourceFile.lineErrors_eq_nil_iff.mpr free
    rw [kept] at others
    exact .refused loaded faulty found others

end Registry

namespace Job

/-- The files of helper constructors are all read, and each diagnostic is reported by itself. -/
theorem readHelperFiles_report (files : FileTree) (registry : Registry) (paths : List String) :
    ∃ reports, Registry.FilesReport files registry paths reports ∧
      (readHelperFiles files registry paths).diagnostics = reports.map ([·]) := by
  induction paths generalizing registry with
  | nil => exact ⟨[], .done registry, rfl⟩
  | cons path rest ih =>
    cases loaded : files.readText path with
    | error fault =>
      obtain ⟨later, others, reported⟩ := ih registry
      have first : readHelperFile files registry path =
          ⟨registry, [[Registry.unreadable path fault]], []⟩ := by
        simp [readHelperFile, loaded, Registry.unreadable]
      exact ⟨_, .unloaded loaded others, by simp [readHelperFiles, first, reported]⟩
    | ok text =>
      obtain ⟨left, first⟩ := readHelperFile_of_text loaded registry
      obtain ⟨later, others, reported⟩ := ih (registry.after ⟨path, text⟩)
      refine ⟨_, .loaded loaded others, ?_⟩
      simp only [readHelperFiles, left, first, List.map_append]
      exact congrArg _ reported

/-! ## Steps that explain their failure -/

namespace Step

variable {α β : Type}

/-- A step with a result has reported no error. One without has reported an error, or fails with
one. -/
def Explained (step : Step α) : Prop :=
  match step.result with
  | .ok _ => anyError step.diagnostics = false
  | .error groups => anyError (step.diagnostics ++ groups) = true

/-- A step that only has a result has nothing to explain. -/
theorem explained_done (value : α) : (done value).Explained := rfl

/-- A step that stops gives its message as the reason. -/
theorem explained_stop (message : String) : (stop message : Step α).Explained := rfl

/-- What is logged explains nothing, and spoils no explanation. -/
theorem Explained.logging {step : Step α} (explained : step.Explained) (log : List LogRecord) :
    (Step.logging log step).Explained :=
  explained

/-- One step after another: the second one is taken only if the first has reported no error. -/
theorem Explained.andThen {first : Step α} {next : α → Step β} (explained : first.Explained)
    (later : ∀ value, (next value).Explained) : (first.andThen next).Explained := by
  unfold Step.andThen
  unfold Explained at explained
  cases reached : first.result with
  | error groups =>
    rw [reached] at explained
    exact explained
  | ok value =>
    rw [reached] at explained
    have second := later value
    unfold Explained at second ⊢
    cases ended : (next value).result with
    | error groups =>
      rw [ended] at second
      simpa [anyError_append, explained] using second
    | ok result =>
      rw [ended] at second
      simpa [anyError_append, explained] using second

end Step

/-- Linking either reports nothing, or stops at a library that cannot be decoded. -/
theorem linkAll_explained (library : Library) (links : List (String × List UInt8)) :
    (linkAll library links).Explained := by
  induction links generalizing library with
  | nil => exact Step.explained_done library
  | cons link rest ih =>
    unfold linkAll
    split
    · exact Step.explained_stop _
    · exact (ih _).logging _

/-- Only here a step fails for what was reported before: it asks for errors among it. -/
theorem loadRegistry_explained (job : Job) (files : FileTree) :
    (job.loadRegistry files).Explained := by
  unfold loadRegistry
  dsimp only
  split
  · next failed => simpa [Step.Explained] using failed
  · next free => simpa [Step.Explained] using free

/-- Loading templates either reports nothing, or stops at a fault. -/
theorem loadTemplates_explained (job : Job) (files : FileTree) :
    (job.loadTemplates files).Explained := by
  unfold loadTemplates
  dsimp only
  split
  · exact Step.explained_done _
  · split
    · rfl
    · exact (Step.explained_stop _).logging _

end Job

/-- A generation that fails has a fault to tell. -/
theorem faults_ne_nil_of_generate {context : Context} {library : Library} {report : Report}
    (failed : generate context library = .error report) : report.faults ≠ [] := by
  unfold generate at failed
  dsimp only at failed
  split at failed
  · cases file : renderFile context
        ((sheets context library).map (·.text context.templates.indent)) with
    | ok text =>
      rw [file] at failed
      cases failed
    | error fault =>
      rw [file] at failed
      cases failed
      simp [Report.ofFault]
  · next faults some =>
    cases failed
    exact fun none => some none

/-- Every fault is shown as an error. -/
theorem Report.anyError_diagnostics {report : Report} (some : report.faults ≠ []) :
    anyError [report.diagnostics] = true := by
  obtain ⟨fault, member⟩ := List.exists_mem_of_ne_nil _ some
  rw [anyError_eq_true_iff]
  exact ⟨report.diagnostics, by simp, fault.diagnostic, List.mem_map_of_mem member, rfl⟩

namespace Job

/-- A generation explains its failure, since each of its steps does. -/
theorem generate_explained (job : Job) (files : FileTree) : (job.generate files).Explained := by
  refine (linkAll_explained job.library job.links).andThen fun library => ?_
  refine (job.loadRegistry_explained files).andThen fun registry => ?_
  refine (job.loadTemplates_explained files).andThen fun templates => ?_
  let context : Context := ⟨job.options, registry, templates⟩
  unfold Step.Explained
  dsimp only
  cases generated : WidgetBuilders.generate context library with
  | ok text => rfl
  | error report => exact Report.anyError_diagnostics (faults_ne_nil_of_generate generated)

/-- A run fails exactly if it reports an error. -/
theorem run_explained (job : Job) (files : FileTree) (stream : OutputStream) :
    (job.run files stream).succeeded = false ↔
      anyError (job.run files stream).diagnostics = true := by
  have explained := job.generate_explained files
  unfold Step.Explained at explained
  cases generated : (job.generate files).result with
  | error groups =>
    rw [generated] at explained
    simpa [run, generated] using explained
  | ok code =>
    rw [generated] at explained
    dsimp only at explained
    -- All that is left is the delivery, whose failure is a message.
    cases failure : (job.deliver files stream code).failure? with
    | none => simp [run, generated, failure, explained]
    | some message =>
      simp [run, generated, failure, anyError, isError, Diagnostic.error]

/-! ## What a run reports of its files -/

/-- A step reports what its first part reports before anything else. If the first part fails,
nothing comes after that. -/
theorem Step.andThen_diagnostics {α β : Type} (first : Step α) (next : α → Step β) :
    ∃ rest, (first.andThen next).diagnostics = first.diagnostics ++ rest ∧
      ∀ groups, first.result = .error groups →
        rest = [] ∧ (first.andThen next).result = .error groups := by
  unfold andThen
  cases reached : first.result with
  | error groups => exact ⟨[], by simp⟩
  | ok value => exact ⟨(next value).diagnostics, by simp⟩

/-- After a step with a result and nothing to report, only its log is left. -/
theorem Step.andThen_of_silent {α β : Type} {first : Step α} {value : α}
    (silent : first.diagnostics = []) (reached : first.result = .ok value) (next : α → Step β) :
    first.andThen next = logging first.log (next value) := by
  simp [andThen, logging, reached, silent]

/-- Links that can be decoded are added, and nothing is reported of them. -/
theorem linkAll_of_readable {links : List (String × List UInt8)}
    (readable : ∀ link ∈ links, ∃ library, Library.ofBytes link.2 = .ok library)
    (library : Library) :
    (linkAll library links).diagnostics = [] ∧
      ∃ linked, (linkAll library links).result = .ok linked := by
  induction links generalizing library with
  | nil => exact ⟨rfl, library, rfl⟩
  | cons link rest ih =>
    obtain ⟨⟨added, decoded⟩, others⟩ := List.forall_mem_cons.mp readable
    obtain ⟨name, bytes⟩ := link
    dsimp only at decoded
    rw [linkAll, decoded]
    exact ih others (library.append added)

/-- The files come first in what is reported of a generation, and they end it if one of them has an
error. -/
theorem generate_diagnostics {job : Job}
    (readable : ∀ link ∈ job.links, ∃ library, Library.ofBytes link.2 = .ok library)
    (files : FileTree) :
    let reading := readHelperFiles files job.registry job.helperFiles
    ∃ rest, (job.generate files).diagnostics = reading.diagnostics ++ rest ∧
      (anyError reading.diagnostics = true →
        rest = [] ∧ (job.generate files).result = .error []) := by
  intro reading
  obtain ⟨silent, linked, reached⟩ := linkAll_of_readable readable job.library
  have reported : (job.loadRegistry files).diagnostics = reading.diagnostics := by
    unfold loadRegistry
    dsimp only
    split <;> rfl
  have ends (failed : anyError reading.diagnostics = true) :
      (job.loadRegistry files).result = .error [] := by
    unfold loadRegistry
    exact if_pos failed ▸ rfl
  obtain ⟨next, told, ended⟩ : ∃ next : Registry → Step String,
      (job.generate files).diagnostics = ((job.loadRegistry files).andThen next).diagnostics ∧
        (job.generate files).result = ((job.loadRegistry files).andThen next).result := by
    rw [generate, Step.andThen_of_silent silent reached]
    exact ⟨_, rfl, rfl⟩
  obtain ⟨rest, after, stops⟩ := Step.andThen_diagnostics (job.loadRegistry files) next
  refine ⟨rest, ?_, fun failed => ?_⟩
  · rw [told, after, reported]
  · rw [ended]
    exact stops [] (ends failed)

/-- If all links can be decoded, a run reports of all files, and fails if one of them has an error.
-/
theorem run_reports_files {job : Job}
    (readable : ∀ link ∈ job.links, ∃ library, Library.ofBytes link.2 = .ok library)
    (files : FileTree) (stream : OutputStream) :
    ∃ reports rest, Registry.FilesReport files job.registry job.helperFiles reports ∧
      (job.run files stream).diagnostics = reports.map ([·]) ++ rest ∧
      ((∃ diagnostic ∈ reports, diagnostic.severity = .error) →
        rest = [] ∧ (job.run files stream).succeeded = false) := by
  obtain ⟨reports, told, read⟩ := readHelperFiles_report files job.registry job.helperFiles
  obtain ⟨rest, reported, ends⟩ := job.generate_diagnostics readable files
  rw [read] at reported ends
  have begins : ∃ more, (job.run files stream).diagnostics =
      (job.generate files).diagnostics ++ more := by
    cases generated : (job.generate files).result <;> simp [run, generated]
  by_cases failed : anyError (reports.map ([·])) = true
  · obtain ⟨rfl, stopped⟩ := ends failed
    refine ⟨reports, [], told, ?_, fun _ => ⟨rfl, ?_⟩⟩ <;> simp [run, stopped, reported]
  · obtain ⟨more, begins⟩ := begins
    refine ⟨reports, rest ++ more, told, ?_, fun some => ?_⟩
    · rw [begins, reported, List.append_assoc]
    · exact absurd (anyError_singles.mpr some) failed

/-- A run fails exactly when it says why.

A run fails if and only if one of the diagnostics that it reports is an error; if it succeeds, they
are warnings at most, so that warnings alone never make it fail. If all links can be decoded, the
report begins with what there is to say of each file of helper constructors, in the order in which
they were given and whatever became of those before; and if this has an error, it is the whole
report of a run that fails. -/
theorem run_fails_iff_reports_error (settings : List Setting) (files : FileTree)
    (stream : OutputStream) :
    let outcome := (ofSettings settings).run files stream
    (outcome.succeeded = false ↔
      ∃ group ∈ outcome.diagnostics, ∃ diagnostic ∈ group, diagnostic.severity = .error) ∧
    (outcome.succeeded = true →
      ∀ group ∈ outcome.diagnostics, ∀ diagnostic ∈ group, diagnostic.severity = .warning) ∧
    ((∀ link ∈ settings.filterMap Setting.link?,
        ∃ library, Library.ofBytes link.2 = .ok library) →
      ∃ reports rest,
        Registry.FilesReport files ((Setting.last? Setting.registry? settings).getD .empty)
          (settings.filterMap Setting.helperFile?) reports ∧
        outcome.diagnostics = reports.map ([·]) ++ rest ∧
        ((∃ diagnostic ∈ reports, diagnostic.severity = .error) →
          rest = [] ∧ outcome.succeeded = false)) := by
  intro outcome
  have fails : outcome.succeeded = false ↔
      ∃ group ∈ outcome.diagnostics, ∃ diagnostic ∈ group, diagnostic.severity = .error :=
    (run_explained _ files stream).trans anyError_eq_true_iff
  refine ⟨fails, ?_, ?_⟩
  · intro succeeded group member diagnostic within
    apply severity_eq_warning
    intro error
    have failed := fails.mpr ⟨group, member, diagnostic, within, error⟩
    rw [succeeded] at failed
    cases failed
  · intro readable
    have links : (ofSettings settings).links = settings.filterMap Setting.link? := by
      rw [ofSettings_eq]
    have reports := run_reports_files (links ▸ readable) files stream
    rw [ofSettings_eq] at reports
    simpa only [outcome, ofSettings_eq] using reports

end Job

/-- Two files of helper constructors, the first of which is not there. -/
def twoFiles : List Setting :=
  [.helperFile "missing", .outputStream, .link "linked" oneView.toBytes, .helperFile "faulty"]

/-- A working directory with a file that has faulty lines. -/
def faultyDirectory : FileTree :=
  (FileTree.empty ["work"]).put ["work", "faulty"] (.file (Text.Utf8.encode faultyFile.text))

/-- The second file is reported although the first one has failed, and nothing else is. -/
theorem Job.run_fails_iff_reports_error_of_twoFiles :
    (∀ link ∈ twoFiles.filterMap Setting.link?, ∃ library, Library.ofBytes link.2 = .ok library) ∧
      let outcome := (ofSettings twoFiles).run faultyDirectory "before"
      outcome.succeeded = false ∧
        ∃ errors, faultyFile.ErrorsIn faultyFile.lines errors ∧ outcome.diagnostics =
          (Registry.unreadable "missing" .notFound :: errors).map ([·]) := by
  have readable : ∀ link ∈ twoFiles.filterMap Setting.link?,
      ∃ library, Library.ofBytes link.2 = .ok library := by
    intro link member
    have given : ("linked", oneView.toBytes) = link := by
      simpa [twoFiles, Setting.link?] using member
    rw [← given]
    exact ⟨oneView, by decide +kernel⟩
  have missing : faultyDirectory.readText "missing" = .error .notFound := rfl
  have text : faultyDirectory.readText "faulty" = .ok faultyFile.text := by
    have bytes : faultyDirectory.read "faulty" = .ok (Text.Utf8.encode faultyFile.text) := rfl
    simp [FileTree.readText, bytes, Text.Utf8.decode_encode, bind, Except.bind]
  obtain ⟨_, _, reporting⟩ := run_fails_iff_reports_error twoFiles faultyDirectory "before"
  obtain ⟨reports, rest, told, reported, ends⟩ := reporting readable
  have paths : twoFiles.filterMap Setting.helperFile? = ["missing", "faulty"] := rfl
  rw [paths] at told
  -- Each of the two files can be told of by its own rule only.
  obtain ⟨errors, found, rfl⟩ : ∃ errors, faultyFile.ErrorsIn faultyFile.lines errors ∧
      reports = Registry.unreadable "missing" .notFound :: errors := by
    cases told with
    | unloaded failed others =>
      cases missing.symm.trans failed
      cases others with
      | unloaded failed _ => cases text.symm.trans failed
      | refused loaded _ found others =>
        cases text.symm.trans loaded
        cases others
        exact ⟨_, found, by simp⟩
      | added loaded accepted _ _ _ =>
        cases text.symm.trans loaded
        exact absurd (SourceFile.lineErrors_eq_nil_iff.mpr accepted) (by decide +kernel)
    | refused loaded _ _ _ => cases missing.symm.trans loaded
    | added loaded _ _ _ _ => cases missing.symm.trans loaded
  obtain ⟨rfl, failed⟩ := ends ⟨_, List.mem_cons_self, rfl⟩
  exact ⟨readable, failed, errors, found, by simpa using reported⟩

end WidgetBuilders
