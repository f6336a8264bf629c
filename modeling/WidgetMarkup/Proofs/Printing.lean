/-
  Printing does not change a run.

  What a run on a terminal prints is the text of the events that the same run notes without
  one (`Terminal.text`), and apart from that the two do the same, as long as the error stream
  can hold the text.

  * `Prints` says which account a part of a run on a terminal gives, as `Batch.Yields` does
    for a run without one; `Prints.bind` puts two parts in sequence.
  * `prints_convertFile`: the conversion of a file on a terminal takes each `FileStep`.
  * `Shows` relates the two runs, from one file over a directory (`shows_visitDirectory`)
    to the whole walk (`shows_visitInput`).
  * `executeOn_eq`: what a command line leaves behind, in terms of `runBatch`.
-/
import WidgetMarkup.Execution
import WidgetMarkup.Proofs.Walk

namespace WidgetMarkup

/-! ## Texts -/

/-- A stream can hold a text if it can hold every beginning of it. -/
def ErrorStream.Holds (stream : ErrorStream) (text : String) : Prop :=
  ∀ printed rest, text = printed ++ rest → stream.refusal? printed = none

theorem ErrorStream.holds_of_append {stream : ErrorStream} {text more : String}
    (h : stream.Holds (text ++ more)) : stream.Holds text := by
  rintro printed rest rfl
  exact h printed (rest ++ more) (String.append_assoc ..)

/-- What is printed of events to the error stream of a terminal. -/
def Terminal.text (terminal : Terminal) (events : List Event) : String :=
  printAll terminal.style terminal.logging events

@[simp]
theorem Terminal.text_nil (terminal : Terminal) : terminal.text [] = "" := rfl

theorem Terminal.text_singleton (terminal : Terminal) (e : Event) :
    terminal.text [e] = terminal.logging.event e ++ terminal.style.event e := by
  simp [text, printAll]

theorem Terminal.text_append (terminal : Terminal) (events more : List Event) :
    terminal.text (events ++ more) = terminal.text events ++ terminal.text more := by
  rw [text, printAll, List.map_append, String.join_append]
  rfl

theorem announcements_append (events more : List Event) :
    announcements (events ++ more) = announcements events ++ announcements more := by
  rw [announcements, List.map_append, String.join_append]
  rfl

/-! ## Parts of a run -/

/-- The state of a run on a terminal after a part of it. -/
def Console.add (c : Console) (terminal : Terminal) (files : FileTree) (account : Account) :
    Console :=
  { files
    stdout := c.stdout ++ announcements account.events
    stderr := c.stderr ++ terminal.text account.events
    written := c.written ++ account.written.toArray
    failed := c.failed + account.failed }

theorem Console.add_add (c : Console) (terminal : Terminal) (files files' : FileTree)
    (a b : Account) :
    (c.add terminal files a).add terminal files' b = c.add terminal files' (a ++ b) := by
  simp [add, Terminal.text_append, announcements_append, String.append_assoc, Nat.add_assoc]

namespace Printing

variable {terminal : Terminal} {α β : Type} {x : Printing α} {f : α → Printing β} {a : α}
  {b : β} {result : Except Failure α} {last : Except Failure β} {files files' files'' : FileTree}
  {account account' : Account}

/-- From the given files, a part of a run on a terminal ends with a result, leaves other files
    and adds an account, if the error stream can hold what is printed. -/
def Prints (terminal : Terminal) (x : Printing α) (files : FileTree) (result : Except Failure α)
    (files' : FileTree) (account : Account) : Prop :=
  ∀ c : Console, c.files = files →
    terminal.stream.Holds (c.stderr ++ terminal.text account.events) →
    x.run.run c = (result, c.add terminal files' account)

theorem prints_pure (files : FileTree) (a : α) :
    Prints terminal (pure a : Printing α) files (.ok a) files {} := by
  rintro c rfl -
  change (Except.ok a, c) = _
  simp [Console.add, announcements]

theorem prints_throw (files : FileTree) (e : Failure) :
    Prints terminal (throw e : Printing α) files (.error e) files {} := by
  rintro c rfl -
  change (Except.error e, c) = _
  simp [Console.add, announcements]

theorem run_bind (x : Printing α) (f : α → Printing β) (c : Console) :
    (x >>= f).run.run c =
      match x.run.run c with
      | (.ok a, c') => (f a).run.run c'
      | (.error e, c') => (.error e, c') := by
  change (ExceptT.bindCont f (x.run.run c).1).run (x.run.run c).2 = _
  rcases x.run.run c with ⟨_ | _, c'⟩ <;> rfl

/-- **One part after the other**: the account of the second is added to that of the first. -/
theorem Prints.bind (hx : Prints terminal x files (.ok a) files' account)
    (hf : Prints terminal (f a) files' last files'' account') :
    Prints terminal (x >>= f) files last files'' (account ++ account') := by
  intro c hc hholds
  rw [Account.events_append, Terminal.text_append, ← String.append_assoc] at hholds
  rw [run_bind, hx c hc (ErrorStream.holds_of_append hholds)]
  exact (hf _ rfl hholds).trans (by rw [Console.add_add])

/-- After a part that breaks off nothing follows. -/
theorem Prints.bind_error {e : Failure} (hx : Prints terminal x files (.error e) files' account)
    (f : α → Printing β) : Prints terminal (x >>= f) files (.error e) files' account := by
  intro c hc hholds
  rw [run_bind, hx c hc hholds]

theorem Prints.bind_silent (hx : Prints terminal x files (.ok a) files' {})
    (hf : Prints terminal (f a) files' last files'' account) :
    Prints terminal (x >>= f) files last files'' account := by
  rw [← Account.nil_append account]
  exact hx.bind hf

theorem Prints.bind_pure (hx : Prints terminal x files (.ok a) files' account) (b : β) :
    Prints terminal (x >>= fun _ => pure b) files (.ok b) files' account := by
  rw [← Account.append_nil account]
  exact hx.bind (prints_pure files' b)

/-- Looking at what a part of a run ends with. -/
theorem Prints.lift_run (hx : Prints terminal x files result files' account) :
    Prints terminal (ExceptT.lift x.run) files (.ok result) files' account := by
  intro c hc hholds
  have hrun : (ExceptT.lift x.run : Printing _).run.run c =
      (.ok (x.run.run c).1, (x.run.run c).2) := rfl
  rw [hrun, hx c hc hholds]

/-- Looking at the files. -/
theorem prints_get {f : Console → Printing β}
    (hf : ∀ c : Console, c.files = files → Prints terminal (f c) files last files' account) :
    Prints terminal (get >>= f) files last files' account := by
  intro c hc hholds
  have hrun : (get >>= f : Printing β).run.run c = (f c).run.run c := rfl
  rw [hrun, hf c hc c hc hholds]

theorem prints_setFiles (files files' : FileTree) :
    Prints terminal (modify fun c => { c with files := files' } : Printing Unit) files (.ok ())
      files' {} := by
  rintro c rfl -
  change (Except.ok (), { c with files := files' }) = _
  simp [Console.add, announcements]

theorem prints_countFailure (files : FileTree) :
    Prints terminal (modify fun c => { c with failed := c.failed + 1 } : Printing Unit) files
      (.ok ()) files { failed := 1 } := by
  rintro c rfl -
  change (Except.ok (), { c with failed := c.failed + 1 }) = _
  simp [Console.add, announcements]

theorem prints_addWritten (files : FileTree) (target : String) :
    Prints terminal (modify fun c => { c with written := c.written.push target } : Printing Unit)
      files (.ok ()) files { written := [target] } := by
  rintro c rfl -
  change (Except.ok (), { c with written := c.written.push target }) = _
  simp [Console.add, announcements]

theorem prints_announce (files : FileTree) (source target : String) :
    Prints terminal (announce source target) files (.ok ()) files
      (.ofEvents [.converted source target]) := by
  rintro c rfl -
  change (Except.ok (), { c with stdout := c.stdout ++ _ }) = _
  simp [Console.add, announcements, Account.ofEvents, Terminal.text_singleton, Logging.event,
    Style.event]

end Printing

/-! ## Printing to the error stream -/

namespace Terminal

open Printing

variable (terminal : Terminal) {config : Config} {files files' : FileTree} {path : String}
  {account : Account}

theorem run_print {c : Console} {text : String} (h : terminal.stream.Holds (c.stderr ++ text)) :
    (terminal.print text).run c = (.ok (), { c with stderr := c.stderr ++ text }) := by
  have htaken : terminal.stream.refusal? (c.stderr ++ text) = none :=
    h _ "" String.append_empty.symm
  simp only [print, StateT.run_bind, StateT.run_get, pure_bind, htaken]
  rfl

/-- Printing the text of an event that is not announced. -/
theorem prints_print {e : Event} {text : String} (htext : terminal.text [e] = text)
    (hsilent : e.announcement = "") (files : FileTree) :
    Prints terminal (liftM (terminal.print text)) files (.ok (.ok ())) files
      (.ofEvents [e]) := by
  rintro c rfl hholds
  rw [Account.events_ofEvents, htext] at hholds
  have hrun : (liftM (terminal.print text) : Printing (Except String Unit)).run.run c =
      (.ok ((terminal.print text).run c).1, ((terminal.print text).run c).2) := rfl
  rw [hrun, terminal.run_print hholds]
  simp [Console.add, announcements, Account.ofEvents, htext, hsilent]

theorem prints_tell {e : Event} {text : String} (htext : terminal.text [e] = text)
    (hsilent : e.announcement = "") (failure : String → Failure) (files : FileTree) :
    Prints terminal (terminal.tell failure text) files (.ok ()) files (.ofEvents [e]) := by
  rw [← Account.append_nil (.ofEvents [e])]
  exact (terminal.prints_print htext hsilent files).bind (prints_pure files ())

theorem prints_log (files : FileTree) (r : Remark) :
    Prints terminal (terminal.log r) files (.ok ()) files (.ofEvents [.remark r]) := by
  have htext : terminal.text [.remark r] = terminal.logging.event (.remark r) := by
    rw [text_singleton]
    exact String.append_empty
  exact (terminal.prints_print htext rfl files).bind_pure ()

theorem prints_fail (files : FileTree) (f : Failure) :
    Prints terminal (terminal.fail f) files (.ok ()) files (.ofFailure f) := by
  have htext : terminal.text [.failure f] = errorLine terminal.style.colored f.message := by
    rw [text_singleton]
    exact String.empty_append
  rw [Account.ofFailure_eq]
  exact Prints.bind (terminal.prints_tell htext rfl .printError files) (prints_countFailure files)

theorem prints_diagnose (files : FileTree) (path : String) (ds : List Diagnostic) :
    Prints terminal (terminal.diagnose path ds) files (.ok ()) files
      (.ofEvents (ds.map (.diagnostic path))) := by
  induction ds with
  | nil => exact prints_pure files ()
  | cons d ds ih =>
    have htext : terminal.text [.diagnostic path d] = terminal.style.diagnostic path d := by
      rw [text_singleton]
      exact String.empty_append
    have hfirst := (terminal.prints_tell htext rfl .printDiagnostics files).bind
      (f := fun _ => terminal.diagnose path ds) ih
    rwa [Account.ofEvents_append] at hfirst

/-! ## One file -/

section
variable {html text target : String} {made : FileTree}

theorem prints_writeTarget_uncreatable {e : FileError}
    (hcreate : files.createAll ((Path.parent? target).getD "") = (made, .error e)) :
    Prints terminal (terminal.writeTarget target text) files
      (.error (.createDirectory ((Path.parent? target).getD "") e)) made {} := by
  refine prints_get ?_
  rintro c rfl
  rw [hcreate]
  exact (prints_setFiles _ _).bind_silent (prints_throw _ _)

theorem prints_writeTarget_unwritable {e : FileError}
    (hcreate : files.createAll ((Path.parent? target).getD "") = (made, .ok ()))
    (hwrite : made.write target text.toUTF8 = .error e) :
    Prints terminal (terminal.writeTarget target text) files (.error (.write target e)) made
      {} := by
  refine prints_get ?_
  rintro c rfl
  rw [hcreate]
  refine (prints_setFiles _ _).bind_silent ?_
  rw [hwrite]
  exact prints_throw _ _

theorem prints_writeTarget_ok
    (hcreate : files.createAll ((Path.parent? target).getD "") = (made, .ok ()))
    (hwrite : made.write target text.toUTF8 = .ok files') :
    Prints terminal (terminal.writeTarget target text) files (.ok ()) files'
      (.ofEvents [.remark (.wrote target)]) := by
  refine prints_get ?_
  rintro c rfl
  rw [hcreate]
  refine (prints_setFiles _ _).bind_silent ?_
  rw [hwrite]
  exact (prints_setFiles _ _).bind_silent (terminal.prints_log _ _)

theorem prints_translateFile_unreadable {e : FileError}
    (hread : files.readText path = .error e) :
    Prints terminal (terminal.translateFile config path) files (.error (.read path e)) files
      {} := by
  refine prints_get ?_
  rintro c rfl
  rw [hread]
  exact prints_throw _ _

theorem prints_translateFile_untranslatable {e : StructureError}
    (hread : files.readText path = .ok html) (hconvert : (convert html).1 = .error e) :
    Prints terminal (terminal.translateFile config path) files (.ok none) files
      (.ofEvents [.remark (.readLines (Html.lineEnds html))] ++
        .ofEvents ((convert html).2.map (.diagnostic path)) ++
          .ofEvents [.diagnostic path e.diagnostic]) := by
  refine prints_get ?_
  rintro c rfl
  rw [hread]
  dsimp only
  generalize convert html = conversion at hconvert ⊢
  obtain ⟨outcome, warnings⟩ := conversion
  obtain rfl : outcome = .error e := hconvert
  have hdiagnose := terminal.prints_diagnose c.files path (warnings ++ [e.diagnostic])
  rw [List.map_append, ← Account.ofEvents_append] at hdiagnose
  rw [Account.append_assoc]
  exact (terminal.prints_log _ _).bind (hdiagnose.bind_pure none)

/-- A file whose content can be converted has its diagnostics printed; then all depends on
    whether the result can be written. -/
theorem prints_translateFile_ok {written : Except Failure Unit}
    (hread : files.readText path = .ok html) (hconvert : (convert html).1 = .ok text)
    (hwrite : Prints terminal (terminal.writeTarget (outputPath config path) text) files written
      files' account) :
    Prints terminal (terminal.translateFile config path) files
      (written.map fun _ => some (outputPath config path)) files'
      (.ofEvents [.remark (.readLines (Html.lineEnds html))] ++
        (.ofEvents ((convert html).2.map (.diagnostic path)) ++ account)) := by
  refine prints_get ?_
  rintro c rfl
  rw [hread]
  dsimp only
  generalize convert html = conversion at hconvert ⊢
  obtain ⟨outcome, warnings⟩ := conversion
  obtain rfl : outcome = .ok text := hconvert
  refine (terminal.prints_log _ _).bind ((terminal.prints_diagnose _ path warnings).bind ?_)
  cases written with
  | error f => exact hwrite.bind_error _
  | ok => exact hwrite.bind_pure _

/-- Whatever stands in the way of a result is printed behind the diagnostics. -/
theorem prints_convertFile_unwritten {f : Failure} (hread : files.readText path = .ok html)
    (hconvert : (convert html).1 = .ok text)
    (hwrite : Prints terminal (terminal.writeTarget (outputPath config path) text) files (.error f)
      made {}) :
    Prints terminal (terminal.convertFile config path) files (.ok ()) made
      (.ofEvents (conversionEvents path html) ++ .ofFailure f) := by
  have htranslate := terminal.prints_translateFile_ok hread hconvert hwrite
  rw [Account.append_nil] at htranslate
  rw [ofEvents_conversionEvents, Account.append_assoc]
  exact (terminal.prints_log files (.processing path)).bind
    (htranslate.lift_run.bind (terminal.prints_fail _ _))

/-- **The conversion of a file on a terminal ends in the same ways** as without one. -/
theorem prints_convertFile (h : FileStep config path files files' account) :
    Prints terminal (terminal.convertFile config path) files (.ok ()) files' account := by
  have hstart := terminal.prints_log files (.processing path)
  cases h with
  | unreadable hread =>
    exact hstart.bind ((terminal.prints_translateFile_unreadable hread).lift_run.bind_silent
      (terminal.prints_fail _ _))
  | untranslatable hread hconvert =>
    rw [ofEvents_conversionEvents, Account.ofError_eq, Account.append_assoc,
      ← Account.append_assoc (_ ++ _)]
    exact hstart.bind ((terminal.prints_translateFile_untranslatable hread hconvert).lift_run.bind
      (prints_countFailure _))
  | uncreatable hread hconvert hcreate =>
    exact terminal.prints_convertFile_unwritten hread hconvert
      (terminal.prints_writeTarget_uncreatable hcreate)
  | unwritable hread hconvert hcreate hwrite =>
    exact terminal.prints_convertFile_unwritten hread hconvert
      (terminal.prints_writeTarget_unwritable hcreate hwrite)
  | converted hread hconvert hcreate hwrite =>
    have htranslate := terminal.prints_translateFile_ok hread hconvert
      (terminal.prints_writeTarget_ok hcreate hwrite)
    rw [ofEvents_conversionEvents, Account.ofResult_eq, Account.append_assoc]
    rw [← Account.append_assoc] at htranslate
    rw [← Account.append_assoc (_ ++ _)]
    exact hstart.bind (htranslate.lift_run.bind
      ((prints_announce _ _ _).bind (prints_addWritten _ _)))

end

/-! ## All files -/

/-- A part of a run on a terminal does what a part of a run without one does: whatever the
    files, both leave the same files and give the same account. -/
def Shows (x : Printing Unit) (y : Batch Unit) : Prop :=
  ∀ files, ∃ files' account, y.Yields files () files' account ∧
    Prints terminal x files (.ok ()) files' account

variable {terminal}

/-- One part after the other. -/
theorem Shows.bind {x x' : Printing Unit} {y y' : Batch Unit} (h : terminal.Shows x y)
    (h' : terminal.Shows x' y') : terminal.Shows (x >>= fun _ => x') (y >>= fun _ => y') := by
  intro files
  obtain ⟨mid, first, hyields, hprints⟩ := h files
  obtain ⟨files', rest, hyields', hprints'⟩ := h' mid
  exact ⟨files', first ++ rest, hyields.bind hyields', hprints.bind hprints'⟩

/-- One entry after the other. -/
theorem Shows.forM {α : Type} {x : α → Printing Unit} {y : α → Batch Unit}
    (h : ∀ a, terminal.Shows (x a) (y a)) (l : List α) :
    terminal.Shows (l.forM x) (l.forM y) := by
  induction l with
  | nil => exact fun files => ⟨files, {}, Batch.yields_pure files (), prints_pure files ()⟩
  | cons a l ih => exact (h a).bind ih

/-- Looking at the files and at nothing else. -/
theorem Shows.get {x : Console → Printing Unit} {y : Progress → Batch Unit}
    (hx : ∀ c, x c = x { files := c.files }) (hy : ∀ p, y p = y { files := p.files })
    (h : ∀ files, terminal.Shows (x { files }) (y { files })) :
    terminal.Shows (get >>= x) (get >>= y) := by
  intro files
  obtain ⟨files', account, hyields, hprints⟩ := h files files
  refine ⟨files', account, Batch.yields_get ?_, prints_get ?_⟩
  · rintro p rfl
    rwa [hy]
  · rintro c rfl
    rwa [hx]

variable (terminal)

theorem shows_log (r : Remark) : terminal.Shows (terminal.log r) (remark r) :=
  fun files => ⟨files, _, Batch.yields_remark files r, terminal.prints_log files r⟩

theorem shows_fail (f : Failure) : terminal.Shows (terminal.fail f) (WidgetMarkup.fail f) :=
  fun files => ⟨files, _, Batch.yields_fail files f, terminal.prints_fail files f⟩

theorem shows_visitFile (config : Config) (path : String) :
    terminal.Shows (terminal.visitFile config path) (WidgetMarkup.visitFile config path) := by
  rw [visitFile, WidgetMarkup.visitFile]
  by_cases hhtml : Path.extension? path == some "html"
  · rw [if_pos hhtml, if_pos hhtml]
    intro files
    obtain ⟨files', account, hyields, hstep⟩ := exists_fileStep config path files
    exact ⟨files', account, hyields, terminal.prints_convertFile hstep⟩
  · rw [if_neg hhtml, if_neg hhtml]
    exact terminal.shows_log (.skippedFile path)

/-- **A directory is visited in the same way**, by induction on the depth. -/
theorem shows_visitDirectory (config : Config) (depth : Nat) (path : String) :
    terminal.Shows (terminal.visitDirectory config depth path)
      (WidgetMarkup.visitDirectory config depth path) := by
  induction depth generalizing path with
  | zero => exact fun files => ⟨files, {}, Batch.yields_pure files (), prints_pure files ()⟩
  | succ depth ih =>
    refine Shows.get (fun _ => rfl) (fun _ => rfl) fun files => ?_
    refine (terminal.shows_log (.skippedDirectory path)).bind ?_
    dsimp only
    cases files.readDirectory path with
    | error e => exact terminal.shows_fail (.walk path e)
    | ok entries =>
      refine Shows.forM (fun ⟨name, e⟩ => ?_) entries
      cases e with
      | directory => exact ih (Path.join path name)
      | file => exact terminal.shows_visitFile config (Path.join path name)

/-- **The whole walk is the same.** -/
theorem shows_visitInput (config : Config) :
    terminal.Shows (terminal.visitInput config) (WidgetMarkup.visitInput config) := by
  refine Shows.get (fun _ => rfl) (fun _ => rfl) fun files => ?_
  dsimp only
  cases files.find config.input with
  | error e => exact terminal.shows_fail (.walk config.input e)
  | ok found =>
    obtain ⟨loc, e⟩ := found
    cases e with
    | directory => exact terminal.shows_visitDirectory config _ config.input
    | file => exact terminal.shows_visitFile config config.input

end Terminal

/-! ## Whole runs -/

/-- The summary of a run; there is nothing in it if there was no run. -/
def BatchResult.summary (result : BatchResult) : Summary :=
  match result.outcome with
  | .ok summary => summary
  | .error _ => {}

/-- What a run leaves on a terminal whose stream can hold what is printed. -/
def BatchResult.console (result : BatchResult) (terminal : Terminal) : Console :=
  { files := result.files
    stdout := announcements result.events
    stderr := terminal.text result.events
    written := result.summary.written.toArray
    failed := result.summary.failed }

/-- **A run on a terminal is the run without one**, with its events printed. -/
theorem Terminal.run_runBatch (terminal : Terminal) (config : Config) (files : FileTree)
    (h : terminal.stream.Holds (terminal.text (WidgetMarkup.runBatch config files).events)) :
    (terminal.runBatch config).run.run { files } =
      ((WidgetMarkup.runBatch config files).outcome.map fun _ => (),
        (WidgetMarkup.runBatch config files).console terminal) := by
  rcases hcreate : files.createAll config.output with ⟨made, created⟩
  cases created with
  | error e =>
    have hbreaks : Printing.Prints terminal (terminal.runBatch config) files
        (.error (.createOutput config.output e)) made {} := by
      refine Printing.prints_get ?_
      rintro c rfl
      rw [hcreate]
      exact (Printing.prints_setFiles _ _).bind_silent (Printing.prints_throw _ _)
    rw [WidgetMarkup.runBatch, hcreate] at h ⊢
    exact hbreaks { files } rfl h
  | ok =>
    obtain ⟨files', account, hyields, hprints⟩ := terminal.shows_visitInput config made
    have hrun : Printing.Prints terminal (terminal.runBatch config) files (.ok ()) files'
        account := by
      refine Printing.prints_get ?_
      rintro c rfl
      rw [hcreate]
      exact (Printing.prints_setFiles _ _).bind_silent hprints
    have hbatch : WidgetMarkup.runBatch config files =
        ⟨files', account.events, .ok ⟨account.written, account.failed⟩⟩ := by
      rw [WidgetMarkup.runBatch, hcreate]
      dsimp only
      rw [hyields { files := made } rfl]
      simp [Progress.add]
    rw [hbatch] at h ⊢
    rw [hrun { files } rfl (by simpa using h)]
    simp [BatchResult.console, BatchResult.summary, Console.add, Except.map]

/-! ## Command lines -/

/-- The exit code after a run. -/
def BatchResult.code (result : BatchResult) : Nat :=
  match result.outcome with
  | .ok summary => if summary.failed = 0 then 0 else 1
  | .error _ => 1

/-- All that an accepted command line prints to the error stream: the events of the run, and
    why there was none. -/
def Arguments.errors (arguments : Arguments) (env : Environment) (files : FileTree) : String :=
  let result := runBatch arguments.config files
  printAll arguments.style (arguments.logging env) result.events ++
    match result.outcome with
    | .ok _ => ""
    | .error f => errorLine arguments.style.colored f.message

/-- **What an accepted command line leaves behind**, if the error stream can hold what it
    prints. -/
theorem Arguments.executeOn_eq (arguments : Arguments) {stream : ErrorStream} (env : Environment)
    (files : FileTree) (h : stream.Holds (arguments.errors env files)) :
    arguments.executeOn stream env files =
      { code := (runBatch arguments.config files).code
        stdout := announcements (runBatch arguments.config files).events
        stderr := arguments.errors env files
        written := (runBatch arguments.config files).summary.written
        files := (runBatch arguments.config files).files } := by
  have hrun := (arguments.terminal env stream).run_runBatch arguments.config files
    (ErrorStream.holds_of_append h)
  rw [executeOn, hrun, errors]
  rw [errors] at h
  generalize runBatch arguments.config files = result at h ⊢
  obtain ⟨files', events, outcome⟩ := result
  cases outcome with
  | ok summary =>
    simp [Except.map, BatchResult.code, BatchResult.console, BatchResult.summary,
      Console.execution, terminal, Terminal.text]
  | error f =>
    -- the reason is printed behind what the run has printed
    have hlast : (arguments.terminal env stream).stream.Holds
        (((BatchResult.mk files' events (.error f)).console (arguments.terminal env stream)).stderr ++
          errorLine (arguments.terminal env stream).style.colored f.message) := h
    dsimp only [Except.map]
    rw [Terminal.run_print _ hlast]
    simp [BatchResult.code, BatchResult.console, BatchResult.summary, Console.execution, terminal,
      Terminal.text]

theorem ErrorStream.holds_default (text : String) : ({} : ErrorStream).Holds text :=
  fun _ _ _ => rfl

theorem Arguments.execute_eq (arguments : Arguments) (env : Environment) (files : FileTree) :
    arguments.execute env files =
      { code := (runBatch arguments.config files).code
        stdout := announcements (runBatch arguments.config files).events
        stderr := arguments.errors env files
        written := (runBatch arguments.config files).summary.written
        files := (runBatch arguments.config files).files } :=
  arguments.executeOn_eq env files (ErrorStream.holds_default _)

theorem executeOn_of_parseArguments {env : Environment} {args : List String}
    {arguments : Arguments} (h : parseArguments env args = .ok arguments) (stream : ErrorStream)
    (files : FileTree) :
    executeOn stream env args files = .ok (arguments.executeOn stream env files) := by
  rw [executeOn, h]
  rfl

/-- A command line leads to a run only if it is accepted. -/
theorem exists_arguments_of_execute {env : Environment} {args : List String} {files : FileTree}
    {execution : Execution} (h : execute env args files = .ok execution) :
    ∃ arguments, parseArguments env args = .ok arguments ∧
      arguments.execute env files = execution := by
  cases hparse : parseArguments env args with
  | error err =>
    rw [execute, executeOn, hparse] at h
    cases h
  | ok arguments =>
    rw [execute, executeOn_of_parseArguments hparse] at h
    exact ⟨arguments, rfl, Except.ok.inj h⟩

/-- **A stream that can hold what is printed is as good as one that takes everything.** -/
theorem Arguments.executeOn_eq_execute (arguments : Arguments) {stream : ErrorStream}
    (env : Environment) (files : FileTree)
    (h : stream.Holds (arguments.execute env files).stderr) :
    arguments.executeOn stream env files = arguments.execute env files := by
  rw [arguments.execute_eq] at h ⊢
  exact arguments.executeOn_eq env files h

end WidgetMarkup
