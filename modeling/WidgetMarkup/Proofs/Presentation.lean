/-
  How a run is presented, and what does not depend on it.

  A run prints between one file operation and the next, but as long as the error stream takes
  what is printed, it does what the run without a terminal does (`Arguments.executeOn_eq`), and
  that has no format, no colors and no log lines.  Without log lines and colors the error stream
  is a sequence of reports (`errors_eq`): a diagnostic about a file is a line, to which the long
  format adds its hints and an empty line, and an error is one line in both formats.

  `execute_presentation` compares two command lines that differ in presentation only.
-/
import WidgetMarkup.Proofs.Printing

namespace WidgetMarkup

/-! ## Reports -/

/-- What is printed about a run apart from log lines. -/
inductive Report where
  /-- A diagnostic about the content of a file. -/
  | diagnostic (severity : Severity) (path message : String) (hints : List String)
  /-- An error of the run itself. -/
  | error (message : String)

/-- The line of a report. -/
def Report.line : Report → String
  | .diagnostic severity path message _ =>
    severity.word ++ ": " ++ path ++ ": " ++ message ++ "\n"
  | .error message => "error: " ++ message ++ "\n"

/-- What stands behind the line of a report in the long format: the lines of the hints and an
    empty line. -/
def Report.details : Report → String
  | .diagnostic _ _ _ hints =>
    String.join (hints.map fun hint => " = hint: " ++ hint ++ "\n") ++ "\n"
  | .error _ => ""

/-- The text of a report without colors. -/
def Report.text : DiagnosticFormat → Report → String
  | .human, r => r.line ++ r.details
  | .short, r => r.line

def Event.report? : Event → Option Report
  | .diagnostic path d => some (.diagnostic d.severity path d.message d.hints)
  | .failure f => some (.error f.message)
  | .remark _ | .converted _ _ => none

/-- The reports about a run, in order.  Why there is no summary comes last. -/
def BatchResult.reports (result : BatchResult) : List Report :=
  result.events.filterMap Event.report? ++
    match result.outcome with
    | .ok _ => []
    | .error f => [.error f.message]

/-! ## What is printed without colors and log lines -/

/-- Without colors, an event that is printed has the text of its report. -/
theorem Style.event_eq {style : Style} (h : style.colored = false) (event : Event) :
    style.event event = (event.report?.map (Report.text style.format)).getD "" := by
  obtain ⟨format, colored⟩ := style
  obtain rfl : colored = false := h
  have herror : ∀ message, errorLine false message = (Report.error message).line := fun _ => rfl
  cases event with
  | remark | converted => rfl
  | failure f =>
    cases format with
    | short => exact herror f.message
    | human => exact (herror f.message).trans String.append_empty.symm
  | diagnostic path d =>
    have hline : headerLine false d.severity (path ++ ": " ++ d.message) =
        (Report.diagnostic d.severity path d.message d.hints).line := by
      simp only [headerLine, Report.line, Bool.false_eq_true, if_false, String.append_assoc]
    have hhint : hintLine false = fun hint => " = hint: " ++ hint ++ "\n" := rfl
    cases format with
    | short => exact hline
    | human =>
      rw [Style.event, Style.diagnostic]
      dsimp only
      rw [hline, hhint, String.append_assoc]
      rfl

theorem LogLevel.threshold_pos (level : LogLevel) : 0 < level.threshold := by
  cases level <;> decide

/-- Nothing is logged at verbosity 0. -/
theorem Logging.event_eq_empty {logging : Logging} (h : logging.verbosity = 0) (event : Event) :
    logging.event event = "" := by
  cases event with
  | diagnostic | failure | converted => rfl
  | remark r =>
    have hpos := r.level.threshold_pos
    exact if_neg (by omega)

theorem printAll_eq {style : Style} {logging : Logging} (hcolored : style.colored = false)
    (hquiet : logging.verbosity = 0) (events : List Event) :
    printAll style logging events =
      String.join ((events.filterMap Event.report?).map (Report.text style.format)) := by
  induction events with
  | nil => rfl
  | cons event events ih =>
    rw [printAll] at ih ⊢
    rw [List.map_cons, String.join_cons, ih, Logging.event_eq_empty hquiet, String.empty_append,
      Style.event_eq hcolored, List.filterMap_cons]
    cases event.report? with
    | none => exact String.empty_append
    | some r => rw [List.map_cons, String.join_cons]; rfl

/-- **The error stream without colors and log lines**: the texts of the reports in order. -/
theorem errors_eq {arguments : Arguments} (hcolor : arguments.color ≠ .always)
    (hquiet : arguments.verbosity = 0) (env : Environment) (files : FileTree) :
    arguments.errors env files =
      String.join ((runBatch ⟨arguments.input, arguments.output⟩ files).reports.map
        (Report.text arguments.format)) := by
  have hcolored : arguments.style.colored = false := by simpa [Arguments.style] using hcolor
  have hquiet' : (arguments.logging env).verbosity = 0 := hquiet
  rw [Arguments.errors, Arguments.config]
  generalize runBatch ⟨arguments.input, arguments.output⟩ files = result
  obtain ⟨files', events, outcome⟩ := result
  rw [BatchResult.reports, List.map_append, String.join_append]
  dsimp only
  rw [printAll_eq hcolored hquiet' events]
  cases outcome with
  | ok summary => rfl
  | error f =>
    -- the last line is printed like any other error
    have hlast := Style.event_eq hcolored (.failure f)
    simp only [List.map_cons, List.map_nil, String.join_cons, String.join_nil,
      String.append_empty]
    exact congrArg _ hlast

/-! ## Command lines that differ in presentation only -/

/-- **Presentation does not change results.**  Two command lines with the same paths leave the
    same files, print the same results and end with the same code, whatever the format, the
    colors and the verbosity.  Without colors and log lines, the error stream of the long format
    consists of reports, each of them a line with its details; that of the short format has the
    same lines in the same order, without the details.  Both hold on every error stream that can
    hold what is printed to it; on others a run may break off. -/
theorem execute_presentation {env env' : Environment} {args args' : List String}
    {arguments arguments' : Arguments} (h : parseArguments env args = .ok arguments)
    (h' : parseArguments env' args' = .ok arguments') (hinput : arguments'.input = arguments.input)
    (houtput : arguments'.output = arguments.output) (files : FileTree) :
    ∃ execution execution', execute env args files = .ok execution ∧
      execute env' args' files = .ok execution' ∧
      execution'.files = execution.files ∧ execution'.stdout = execution.stdout ∧
      execution'.code = execution.code ∧
      (arguments.verbosity = 0 → arguments.color ≠ .always → arguments.format = .human →
        arguments'.verbosity = 0 → arguments'.color ≠ .always → arguments'.format = .short →
        ∃ reports, reports = (runBatch ⟨arguments.input, arguments.output⟩ files).reports ∧
          execution.stderr = String.join (reports.map fun r => r.line ++ r.details) ∧
          execution'.stderr = String.join (reports.map Report.line)) ∧
      ∀ stream : ErrorStream,
        (stream.Holds execution.stderr → executeOn stream env args files = .ok execution) ∧
        (stream.Holds execution'.stderr → executeOn stream env' args' files = .ok execution') := by
  have hconfig : arguments'.config = arguments.config := by
    rw [Arguments.config, hinput, houtput, ← Arguments.config]
  refine ⟨arguments.execute env files, arguments'.execute env' files,
    executeOn_of_parseArguments h {} files, executeOn_of_parseArguments h' {} files, ?_, ?_, ?_,
    fun hquiet hcolor hformat hquiet' hcolor' hformat' => ⟨_, rfl, ?_, ?_⟩,
    fun stream => ⟨fun hholds => ?_, fun hholds => ?_⟩⟩
  · rw [arguments.execute_eq, arguments'.execute_eq, hconfig]
  · rw [arguments.execute_eq, arguments'.execute_eq, hconfig]
  · rw [arguments.execute_eq, arguments'.execute_eq, hconfig]
  · rw [arguments.execute_eq, errors_eq hcolor hquiet, hformat]
    rfl
  · rw [arguments'.execute_eq, errors_eq hcolor' hquiet', hformat', hinput, houtput]
    rfl
  · rw [executeOn_of_parseArguments h, arguments.executeOn_eq_execute env files hholds]
  · rw [executeOn_of_parseArguments h', arguments'.executeOn_eq_execute env' files hholds]

/-- A file with a stray text, and one that is no text. -/
def desk : FileTree where
  entries := [(["in"], .directory), (["in", "a.html"], .file "stray".toUTF8),
    (["in", "b.html"], .file ⟨#[255]⟩)]

/-- A warning with a hint and an error, in both formats. -/
theorem execute_presentation_desk :
    ∃ execution execution', execute {} ["in", "out"] desk = .ok execution ∧
      execute { noColor := some "1" } ["--color=never", "in", "out", "--diagnostic-format", "short"]
        desk = .ok execution' ∧
      execution'.files = execution.files ∧ execution'.stdout = execution.stdout ∧
      execution'.code = execution.code ∧
      execution.stderr =
        "warning: in/a.html: skipping top-level text \"stray\"\n" ++
        " = hint: text is only allowed inside a <window> or <widget>\n\n" ++
        "error: failed to read in/b.html (stream did not contain valid UTF-8)\n" ∧
      execution'.stderr =
        "warning: in/a.html: skipping top-level text \"stray\"\n" ++
        "error: failed to read in/b.html (stream did not contain valid UTF-8)\n" := by
  have hlong : parseArguments {} ["in", "out"] = .ok ⟨"in", "out", .human, .auto, 0⟩ := rfl
  have hshort : parseArguments { noColor := some "1" }
      ["--color=never", "in", "out", "--diagnostic-format", "short"] =
        .ok ⟨"in", "out", .short, .never, 0⟩ := rfl
  obtain ⟨execution, execution', hrun, hrun', hfiles, hstdout, hcode, hstderr, -⟩ :=
    execute_presentation hlong hshort rfl rfl desk
  obtain ⟨reports, rfl, hreports, hreports'⟩ := hstderr rfl nofun rfl rfl nofun rfl
  exact ⟨execution, execution', hrun, hrun', hfiles, hstdout, hcode,
    hreports.trans (by decide +kernel), hreports'.trans (by decide +kernel)⟩

/-- A stream with room for a number of bytes. -/
def ErrorStream.bounded (room : Nat) : ErrorStream where
  refusal? text :=
    if text.utf8ByteSize ≤ room then none else some "No space left on device (os error 28)"

-- There is room for what the short format prints, but the long one breaks off at the error.
example :
    (executeOn (.bounded 130) {} ["in", "out", "--diagnostic-format", "short"] desk).toOption.map
        Execution.code = some 1 ∧
      (executeOn (.bounded 130) {} ["in", "out"] desk).toOption.map Execution.code =
        some abortCode := by
  decide +kernel

end WidgetMarkup
