import WidgetBuilders.CommandLine
import WidgetBuilders.Proofs.FileWriting
import WidgetBuilders.Proofs.JobSettings

/-!
# A run leaves the whole output or none

A run generates the complete file before it touches anything, so a run that fails in generating it
leaves the stream and the files as they were. What is left to go wrong is the way to the output: no
file may be asked for, or it may not be possible to open it, and then again nothing has changed.
Only a file that was opened and does not take all bytes is no longer what it was, and even then it
is the one file that differs.

A run that succeeds has delivered all of the file: added to the stream, or as the content of the
output file, which is read back through its path. Nothing else differs.
-/

namespace WidgetBuilders

namespace Job

/-- Where the generated file has arrived: at the end of the stream, or in the output file. -/
def Delivered (job : Job) (files : FileTree) (stream : OutputStream) (code : String)
    (filesAfter : FileTree) (streamAfter : OutputStream) : Prop :=
  if job.toStream then
    streamAfter.bytes = stream.bytes ++ Text.Utf8.encode code ∧ filesAfter = files
  else
    streamAfter = stream ∧
      ∃ path, job.outputFile? = some path ∧
        files.Written path (Text.Utf8.encode code) filesAfter

/-- The output file was open, and did not take all of the generated file. -/
def CutShort (job : Job) (files : FileTree) (code : String) (filesAfter : FileTree) : Prop :=
  job.toStream = false ∧
    ∃ path, job.outputFile? = some path ∧
      files.CutShort path (Text.Utf8.encode code) filesAfter

/-- A delivery is complete, or it has changed nothing, or it was cut short. -/
theorem deliver_spec (job : Job) (files : FileTree) (stream : OutputStream) (code : String) :
    let delivery := job.deliver files stream code
    if delivery.failure?.isNone then
      job.Delivered files stream code delivery.files delivery.stream
    else
      delivery.stream = stream ∧
        (delivery.files = files ∨ job.CutShort files code delivery.files) := by
  cases toStream : job.toStream with
  | true => simp [deliver, Delivered, OutputStream.add, toStream]
  | false =>
    cases asked : job.outputFile? with
    | none => simp [deliver, toStream, asked]
    | some path =>
      have wrote := files.write_spec path (Text.Utf8.encode code)
      have delivery : job.deliver files stream code =
          ⟨(files.write path (Text.Utf8.encode code)).1, stream,
            (files.write path (Text.Utf8.encode code)).2.map (writeMessage path)⟩ := by
        simp [deliver, toStream, asked]
      rw [delivery]
      -- The fault of the write is the failure of the delivery.
      rcases written : files.write path (Text.Utf8.encode code) with ⟨after, fault?⟩
      rw [written] at wrote
      rcases fault? with _ | fault | fault
      · simpa [Delivered, toStream, asked] using wrote
      · simpa using Or.inl wrote
      · simpa [CutShort, toStream, asked] using Or.inr wrote

/-- A run that has generated the file is as good as its delivery; any other changes nothing. -/
theorem run_spec (job : Job) (files : FileTree) (stream : OutputStream) :
    let outcome := job.run files stream
    if outcome.succeeded then
      ∃ code, (job.generate files).result = .ok code ∧
        job.Delivered files stream code outcome.files outcome.stream
    else
      outcome.stream = stream ∧
        (outcome.files = files ∨
          ∃ code, (job.generate files).result = .ok code ∧
            job.CutShort files code outcome.files) := by
  cases generated : (job.generate files).result with
  | error groups => simp [run, generated]
  | ok code =>
    have delivered := job.deliver_spec files stream code
    dsimp only at delivered
    have succeeded : (job.run files stream).succeeded =
        (job.deliver files stream code).failure?.isNone := by
      simp [run, generated]
    have streamed : (job.run files stream).stream = (job.deliver files stream code).stream := by
      simp [run, generated]
    have left : (job.run files stream).files = (job.deliver files stream code).files := by
      simp [run, generated]
    simp only [succeeded, streamed, left]
    split at delivered
    · next complete =>
      rw [if_pos complete]
      exact ⟨code, rfl, delivered⟩
    · next incomplete =>
      rw [if_neg incomplete]
      exact ⟨delivered.1, delivered.2.imp_right fun cut => ⟨code, rfl, cut⟩⟩

end Job

/-- The arguments name the file to write, and the job that they describe generates its text. -/
def CommandLine.Generates (arguments : List String) (files : FileTree) (outputPath code : String) :
    Prop :=
  ∃ artifact widgetsPath helpersPath widgets,
    arguments = [artifact, widgetsPath, helpersPath, outputPath] ∧
      files.read widgetsPath = .ok widgets ∧
      ((job artifact widgetsPath widgets helpersPath outputPath).generate files).result = .ok code

/-- The program ends at once, or it runs the job of its arguments. -/
theorem CommandLine.run_cases (arguments : List String) (files : FileTree) :
    (run arguments files).code = 1 ∧ (run arguments files).files = files ∨
      ∃ artifact widgetsPath helpersPath outputPath widgets,
        arguments = [artifact, widgetsPath, helpersPath, outputPath] ∧
          files.read widgetsPath = .ok widgets ∧
          let outcome := (job artifact widgetsPath widgets helpersPath outputPath).run files .empty
          (run arguments files).code = (if outcome.succeeded then 0 else 1) ∧
            (run arguments files).files = outcome.files := by
  rcases arguments with _ | ⟨artifact, _ | ⟨widgetsPath, _ | ⟨helpersPath, _ | ⟨outputPath, _ |
    ⟨further, rest⟩⟩⟩⟩⟩
  case cons.cons.cons.cons.nil =>
    cases loaded : files.read widgetsPath with
    | error fault => exact Or.inl (by simp [run, loaded])
    | ok widgets =>
      exact Or.inr ⟨artifact, widgetsPath, helpersPath, outputPath, widgets, rfl, loaded,
        by simp [run, loaded]⟩
  all_goals exact Or.inl ⟨rfl, rfl⟩

/-- No run leaves partial output, and neither does the program.

A run that fails leaves the stream and all files as they were, except for an output file that was
opened and did not take all bytes. A run that succeeds adds the complete file to the stream if there
is one, and otherwise leaves it in the output file; no other file differs. The program does the same
with its last argument, and its exit status tells which of both it was. -/
theorem run_whole_or_untouched (files : FileTree) :
    (∀ (settings : List Setting) (stream : OutputStream),
      let job := Job.ofSettings settings
      let outcome := job.run files stream
      let output? := Setting.last? Setting.outputFile? settings
      if outcome.succeeded then
        ∃ code, (job.generate files).result = .ok code ∧
          if .outputStream ∈ settings then
            outcome.stream.bytes = stream.bytes ++ Text.Utf8.encode code ∧ outcome.files = files
          else
            outcome.stream = stream ∧
              ∃ path, output? = some path ∧
                files.Written path (Text.Utf8.encode code) outcome.files
      else
        outcome.stream = stream ∧
          (outcome.files = files ∨
            .outputStream ∉ settings ∧
              ∃ path code, output? = some path ∧ (job.generate files).result = .ok code ∧
                files.CutShort path (Text.Utf8.encode code) outcome.files)) ∧
    (∀ arguments : List String,
      let exit := CommandLine.run arguments files
      if exit.code = 0 then
        ∃ outputPath code, CommandLine.Generates arguments files outputPath code ∧
          files.Written outputPath (Text.Utf8.encode code) exit.files
      else
        exit.files = files ∨
          ∃ outputPath code, CommandLine.Generates arguments files outputPath code ∧
            files.CutShort outputPath (Text.Utf8.encode code) exit.files) := by
  constructor
  · intro settings stream job outcome output?
    have toStream : job.toStream = true ↔ .outputStream ∈ settings := by
      simp only [job, Job.ofSettings_eq, List.contains_iff_mem]
    have toFile : job.toStream = false ↔ .outputStream ∉ settings := by
      rw [← toStream, Bool.not_eq_true]
    have asked : job.outputFile? = output? := by
      simp only [job, output?, Job.ofSettings_eq]
    have spec := job.run_spec files stream
    simp only [Job.Delivered, Job.CutShort, toStream, toFile, asked] at spec
    split at spec
    · next succeeded =>
      rw [if_pos succeeded]
      exact spec
    · next failed =>
      rw [if_neg failed]
      obtain ⟨streamed, left | ⟨code, generated, noStream, path, output, cut⟩⟩ := spec
      · exact ⟨streamed, Or.inl left⟩
      · exact ⟨streamed, Or.inr ⟨noStream, path, code, output, generated, cut⟩⟩
  · intro arguments exit
    obtain ⟨code, left⟩ | ⟨artifact, widgetsPath, helpersPath, outputPath, widgets, rfl, loaded,
      code, left⟩ := CommandLine.run_cases arguments files
    · rw [if_neg (by simp [exit, code])]
      exact Or.inl left
    -- The program has no stream to write to, so its job can only end in the output file.
    · let job := CommandLine.job artifact widgetsPath widgets helpersPath outputPath
      have toFile : job.toStream = false := rfl
      have asked : job.outputFile? = some outputPath := rfl
      have spec := job.run_spec files .empty
      simp only [Job.Delivered, Job.CutShort, toFile, asked, Option.some.injEq,
        exists_eq_left', Bool.false_eq_true, if_false] at spec
      split at spec
      · next succeeded =>
        obtain ⟨text, generated, _, written⟩ := spec
        rw [if_pos (by simp only [exit, code]; exact if_pos succeeded)]
        exact ⟨outputPath, text, ⟨artifact, widgetsPath, helpersPath, widgets, rfl, loaded,
          generated⟩, left ▸ written⟩
      · next failed =>
        rw [if_neg (by simp only [exit, code]; rw [if_neg failed]; decide)]
        obtain ⟨_, unchanged | ⟨text, generated, _, cut⟩⟩ := spec
        · exact Or.inl (left.trans unchanged)
        · exact Or.inr ⟨outputPath, text, ⟨artifact, widgetsPath, helpersPath, widgets, rfl, loaded,
            generated⟩, left ▸ cut⟩

end WidgetBuilders
