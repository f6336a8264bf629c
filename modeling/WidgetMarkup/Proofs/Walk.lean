/-
  What a run does, step by step.

  * An `Account` is what a part of a run adds to the events, the results and the number of
    failures; `x.Yields` says which account a part of the program gives.
  * `FileStep` lists the ways in which the conversion of one file ends.
  * `Walks` is the walk over a list of stops, without a bound on its depth: a directory is
    listed when the walk comes to it, and all that is in it comes before the next stop.
-/
import WidgetMarkup.Proofs.FileOperations
import WidgetMarkup.Batch

namespace WidgetMarkup

/-! ## Accounts -/

/-- What a part of a run adds. -/
@[ext]
structure Account where
  events : List Event := []
  written : List String := []
  failed : Nat := 0

namespace Account

instance : Append Account :=
  ⟨fun a b => ⟨a.events ++ b.events, a.written ++ b.written, a.failed + b.failed⟩⟩

@[simp]
theorem events_append (a b : Account) : (a ++ b).events = a.events ++ b.events := rfl

@[simp]
theorem written_append (a b : Account) : (a ++ b).written = a.written ++ b.written := rfl

@[simp]
theorem failed_append (a b : Account) : (a ++ b).failed = a.failed + b.failed := rfl

theorem append_assoc (a b c : Account) : a ++ b ++ c = a ++ (b ++ c) := by
  ext1
  · exact List.append_assoc _ _ _
  · exact List.append_assoc _ _ _
  · exact Nat.add_assoc _ _ _

@[simp]
theorem nil_append (a : Account) : {} ++ a = a := by
  ext1
  · rfl
  · rfl
  · exact Nat.zero_add _

@[simp]
theorem append_nil (a : Account) : a ++ {} = a := by
  ext1
  · exact List.append_nil _
  · exact List.append_nil _
  · rfl

/-- Events only. -/
def ofEvents (events : List Event) : Account :=
  { events }

@[simp]
theorem events_ofEvents (events : List Event) : (ofEvents events).events = events := rfl

theorem ofEvents_append (events more : List Event) :
    ofEvents events ++ ofEvents more = ofEvents (events ++ more) := rfl

/-- A failure, counted. -/
def ofFailure (f : Failure) : Account :=
  { events := [.failure f], failed := 1 }

/-- An error in the content of a file, counted. -/
def ofError (path : String) (d : Diagnostic) : Account :=
  { events := [.diagnostic path d], failed := 1 }

/-- A result. -/
def ofResult (source target : String) : Account :=
  { events := [.remark (.wrote target), .converted source target], written := [target] }

theorem ofFailure_eq (f : Failure) : ofFailure f = ofEvents [.failure f] ++ { failed := 1 } := rfl

theorem ofError_eq (path : String) (d : Diagnostic) :
    ofError path d = ofEvents [.diagnostic path d] ++ { failed := 1 } := rfl

theorem ofResult_eq (source target : String) :
    ofResult source target = ofEvents [.remark (.wrote target)] ++
      (ofEvents [.converted source target] ++ { written := [target] }) := rfl

end Account

/-- The state of a run after a part of it. -/
def Progress.add (p : Progress) (files : FileTree) (account : Account) : Progress :=
  { files
    events := p.events ++ account.events.toArray
    written := p.written ++ account.written.toArray
    failed := p.failed + account.failed }

@[simp]
theorem Progress.files_add (p : Progress) (files : FileTree) (account : Account) :
    (p.add files account).files = files := rfl

theorem Progress.add_add (p : Progress) (files files' : FileTree) (a b : Account) :
    (p.add files a).add files' b = p.add files' (a ++ b) := by
  simp [add, Nat.add_assoc]

namespace Batch

variable {α β : Type} {x : Batch α} {f : α → Batch β} {a : α} {b : β}
  {files files' files'' : FileTree} {account account' : Account}

/-- From the given files, a part of a run gives `a`, leaves other files and adds an account. -/
def Yields (x : Batch α) (files : FileTree) (a : α) (files' : FileTree) (account : Account) :
    Prop :=
  ∀ p : Progress, p.files = files → x.run p = (a, p.add files' account)

theorem yields_pure (files : FileTree) (a : α) : (pure a : Batch α).Yields files a files {} := by
  rintro p rfl
  change (a, p) = _
  simp [Progress.add]

theorem yields_emit (files : FileTree) (e : Event) :
    (emit e).Yields files () files (.ofEvents [e]) := by
  rintro p rfl
  change ((), { p with events := p.events.push e }) = _
  simp [Progress.add, Account.ofEvents]

theorem yields_remark (files : FileTree) (r : Remark) :
    (remark r).Yields files () files (.ofEvents [.remark r]) :=
  yields_emit files _

theorem yields_fail (files : FileTree) (f : Failure) :
    (fail f).Yields files () files (.ofFailure f) := by
  rintro p rfl
  change ((), { p with events := p.events.push _, failed := p.failed + 1 }) = _
  simp [Progress.add, Account.ofFailure]

theorem yields_countFailure (files : FileTree) :
    (modify fun p => { p with failed := p.failed + 1 } : Batch Unit).Yields files () files
      { failed := 1 } := by
  rintro p rfl
  change ((), { p with failed := p.failed + 1 }) = _
  simp [Progress.add]

theorem yields_addWritten (files : FileTree) (target : String) :
    (modify fun p => { p with written := p.written.push target } : Batch Unit).Yields files ()
      files { written := [target] } := by
  rintro p rfl
  change ((), { p with written := p.written.push target }) = _
  simp [Progress.add]

theorem yields_setFiles (files files' : FileTree) :
    (modify fun p => { p with files := files' } : Batch Unit).Yields files () files' {} := by
  rintro p rfl
  change ((), { p with files := files' }) = _
  simp [Progress.add]

/-- **One part after the other**: the account of the second is added to that of the first. -/
theorem Yields.bind (hx : x.Yields files a files' account)
    (hf : (f a).Yields files' b files'' account') :
    (x >>= f).Yields files b files'' (account ++ account') := by
  intro p hp
  have hrun : (x >>= f).run p = (f (x.run p).1).run (x.run p).2 := rfl
  rw [hrun, hx p hp, hf _ (p.files_add _ _), Progress.add_add]

/-- A part that adds nothing to the account comes first. -/
theorem Yields.bind_silent (hx : x.Yields files a files' {})
    (hf : (f a).Yields files' b files'' account) : (x >>= f).Yields files b files'' account := by
  rw [← Account.nil_append account]
  exact hx.bind hf

theorem Yields.bind_pure (hx : x.Yields files a files' account) (b : β) :
    (x >>= fun _ => pure b).Yields files b files' account := by
  rw [← Account.append_nil account]
  exact hx.bind (yields_pure files' b)

/-- Looking at the files. -/
theorem yields_get {f : Progress → Batch β}
    (hf : ∀ p : Progress, p.files = files → (f p).Yields files b files' account) :
    (get >>= f).Yields files b files' account := by
  intro p hp
  have hrun : (get >>= f : Batch β).run p = (f p).run p := rfl
  rw [hrun, hf p hp p hp]

theorem yields_emitAll (files : FileTree) (f : α → Event) (l : List α) :
    (l.forM fun a => emit (f a)).Yields files () files (.ofEvents (l.map f)) := by
  induction l with
  | nil => exact yields_pure files ()
  | cons a l ih =>
    have hfirst := (yields_emit files (f a)).bind (f := fun _ => l.forM fun a => emit (f a)) ih
    rwa [Account.ofEvents_append] at hfirst

end Batch

/-! ## One file -/

/-- The directory that the result of a file goes to. -/
def targetDirectory (config : Config) (path : String) : String :=
  (Path.parent? (outputPath config path)).getD ""

/-- The events up to the end of a conversion. -/
def conversionEvents (path html : String) : List Event :=
  .remark (.processing path) :: .remark (.readLines (Html.lineEnds html)) ::
    (convert html).2.map (.diagnostic path)

/-- The ways in which the conversion of one file ends, with the files then and the account. -/
inductive FileStep (config : Config) (path : String) (files : FileTree) :
    FileTree → Account → Prop
  | unreadable {e : FileError} (hread : files.readText path = .error e) :
    FileStep config path files files
      (.ofEvents [.remark (.processing path)] ++ .ofFailure (.read path e))
  | untranslatable {html : String} {e : StructureError} (hread : files.readText path = .ok html)
      (hconvert : (convert html).1 = .error e) :
    FileStep config path files files
      (.ofEvents (conversionEvents path html) ++ .ofError path e.diagnostic)
  | uncreatable {html text : String} {e : FileError} {made : FileTree}
      (hread : files.readText path = .ok html) (hconvert : (convert html).1 = .ok text)
      (hcreate : files.createAll (targetDirectory config path) = (made, .error e)) :
    FileStep config path files made
      (.ofEvents (conversionEvents path html) ++
        .ofFailure (.createDirectory (targetDirectory config path) e))
  | unwritable {html text : String} {e : FileError} {made : FileTree}
      (hread : files.readText path = .ok html) (hconvert : (convert html).1 = .ok text)
      (hcreate : files.createAll (targetDirectory config path) = (made, .ok ()))
      (hwrite : made.write (outputPath config path) text.toUTF8 = .error e) :
    FileStep config path files made
      (.ofEvents (conversionEvents path html) ++ .ofFailure (.write (outputPath config path) e))
  | converted {html text : String} {made files' : FileTree}
      (hread : files.readText path = .ok html) (hconvert : (convert html).1 = .ok text)
      (hcreate : files.createAll (targetDirectory config path) = (made, .ok ()))
      (hwrite : made.write (outputPath config path) text.toUTF8 = .ok files') :
    FileStep config path files files'
      (.ofEvents (conversionEvents path html) ++ .ofResult path (outputPath config path))

section
variable {config : Config} {files files' made : FileTree} {path html text target : String}

theorem yields_convertSource_unreadable {e : FileError}
    (hread : files.readText path = .error e) :
    (convertSource path).Yields files (.error (.read path e)) files {} := by
  refine Batch.yields_get ?_
  rintro p rfl
  rw [hread]
  exact Batch.yields_pure _ _

theorem ofEvents_conversionEvents (path html : String) :
    Account.ofEvents (conversionEvents path html) =
      .ofEvents [.remark (.processing path)] ++
        (.ofEvents [.remark (.readLines (Html.lineEnds html))] ++
          .ofEvents ((convert html).2.map (.diagnostic path))) := rfl

theorem yields_convertSource_untranslatable {e : StructureError}
    (hread : files.readText path = .ok html) (hconvert : (convert html).1 = .error e) :
    (convertSource path).Yields files (.ok none) files
      (.ofEvents [.remark (.readLines (Html.lineEnds html))] ++
        .ofEvents ((convert html).2.map (.diagnostic path)) ++
          .ofEvents [.diagnostic path e.diagnostic]) := by
  refine Batch.yields_get ?_
  rintro p rfl
  rw [hread]
  dsimp only
  generalize convert html = conversion at hconvert ⊢
  obtain ⟨outcome, ds⟩ := conversion
  obtain rfl : outcome = .error e := hconvert
  rw [Account.append_assoc]
  exact (Batch.yields_remark _ _).bind ((Batch.yields_emitAll _ _ _).bind
    ((Batch.yields_emit _ _).bind_pure _))

theorem yields_convertSource_ok (hread : files.readText path = .ok html)
    (hconvert : (convert html).1 = .ok text) :
    (convertSource path).Yields files (.ok (some text)) files
      (.ofEvents [.remark (.readLines (Html.lineEnds html))] ++
        .ofEvents ((convert html).2.map (.diagnostic path))) := by
  refine Batch.yields_get ?_
  rintro p rfl
  rw [hread]
  dsimp only
  generalize convert html = conversion at hconvert ⊢
  obtain ⟨outcome, ds⟩ := conversion
  obtain rfl : outcome = .ok text := hconvert
  exact (Batch.yields_remark _ _).bind ((Batch.yields_emitAll _ _ _).bind_pure _)

theorem yields_writeTarget_uncreatable {e : FileError}
    (hcreate : files.createAll ((Path.parent? target).getD "") = (made, .error e)) :
    (writeTarget target text).Yields files
      (.error (.createDirectory ((Path.parent? target).getD "") e)) made {} := by
  refine Batch.yields_get ?_
  rintro p rfl
  rw [hcreate]
  exact (Batch.yields_setFiles _ _).bind_pure _

theorem yields_writeTarget_unwritable {e : FileError}
    (hcreate : files.createAll ((Path.parent? target).getD "") = (made, .ok ()))
    (hwrite : made.write target text.toUTF8 = .error e) :
    (writeTarget target text).Yields files (.error (.write target e)) made {} := by
  refine Batch.yields_get ?_
  rintro p rfl
  rw [hcreate]
  refine (Batch.yields_setFiles _ _).bind_silent ?_
  rw [hwrite]
  exact Batch.yields_pure _ _

theorem yields_writeTarget_ok
    (hcreate : files.createAll ((Path.parent? target).getD "") = (made, .ok ()))
    (hwrite : made.write target text.toUTF8 = .ok files') :
    (writeTarget target text).Yields files (.ok ()) files'
      (.ofEvents [.remark (.wrote target)]) := by
  refine Batch.yields_get ?_
  rintro p rfl
  rw [hcreate]
  refine (Batch.yields_setFiles _ _).bind_silent ?_
  rw [hwrite]
  exact (Batch.yields_setFiles _ _).bind_silent ((Batch.yields_remark _ _).bind_pure _)

/-- **The conversion of a file ends in one of these ways.** -/
theorem exists_fileStep (config : Config) (path : String) (files : FileTree) :
    ∃ files' account, (convertFile config path).Yields files () files' account ∧
      FileStep config path files files' account := by
  have hstart := Batch.yields_remark files (.processing path)
  cases hread : files.readText path with
  | error e =>
    refine ⟨_, _, ?_, .unreadable hread⟩
    exact hstart.bind ((yields_convertSource_unreadable hread).bind_silent (Batch.yields_fail _ _))
  | ok html =>
    cases hconvert : (convert html).1 with
    | error e =>
      refine ⟨_, _, ?_, .untranslatable hread hconvert⟩
      rw [ofEvents_conversionEvents, Account.ofError_eq, Account.append_assoc,
        ← Account.append_assoc (_ ++ _)]
      exact hstart.bind ((yields_convertSource_untranslatable hread hconvert).bind
        (Batch.yields_countFailure _))
    | ok text =>
      have hsource := yields_convertSource_ok hread hconvert
      rcases hcreate : files.createAll (targetDirectory config path) with ⟨made, created⟩
      cases created with
      | error e =>
        refine ⟨_, _, ?_, .uncreatable hread hconvert hcreate⟩
        rw [ofEvents_conversionEvents, Account.append_assoc]
        exact hstart.bind (hsource.bind ((yields_writeTarget_uncreatable hcreate).bind_silent
          (Batch.yields_fail _ _)))
      | ok =>
        cases hwrite : made.write (outputPath config path) text.toUTF8 with
        | error e =>
          refine ⟨_, _, ?_, .unwritable hread hconvert hcreate hwrite⟩
          rw [ofEvents_conversionEvents, Account.append_assoc]
          exact hstart.bind (hsource.bind
            ((yields_writeTarget_unwritable hcreate hwrite).bind_silent (Batch.yields_fail _ _)))
        | ok files' =>
          refine ⟨_, _, ?_, .converted hread hconvert hcreate hwrite⟩
          rw [ofEvents_conversionEvents, Account.ofResult_eq, Account.append_assoc]
          exact hstart.bind (hsource.bind ((yields_writeTarget_ok hcreate hwrite).bind
            ((Batch.yields_emit _ _).bind (Batch.yields_addWritten _ _))))

end

/-! ## All files -/

/-- An entry that a walk comes to. -/
structure Stop where
  /-- The names on the way from the input to the entry. -/
  names : List String
  isDirectory : Bool

/-- The path of an entry, spelled from the input. -/
def Stop.path (config : Config) (stop : Stop) : String :=
  Path.joinAll config.input stop.names

/-- The entries in a directory. -/
def Stop.inside (stop : Stop) (entries : List (String × Entry)) : List Stop :=
  entries.map fun (name, e) => ⟨stop.names ++ [name], e.isDirectory⟩

/-- A walk over stops, one after the other, with the files after it and the account. -/
inductive Walks (config : Config) : List Stop → FileTree → FileTree → Account → Prop
  | done (files : FileTree) : Walks config [] files files {}
  | skip {stop : Stop} {stops : List Stop} {files files' : FileTree} {account : Account}
      (hfile : stop.isDirectory = false)
      (hother : Path.extension? (stop.path config) ≠ some "html")
      (hrest : Walks config stops files files' account) :
    Walks config (stop :: stops) files files'
      (.ofEvents [.remark (.skippedFile (stop.path config))] ++ account)
  | convert {stop : Stop} {stops : List Stop} {files mid files' : FileTree}
      {first rest : Account} (hfile : stop.isDirectory = false)
      (hhtml : Path.extension? (stop.path config) = some "html")
      (hstep : FileStep config (stop.path config) files mid first)
      (hrest : Walks config stops mid files' rest) :
    Walks config (stop :: stops) files files' (first ++ rest)
  | unlisted {stop : Stop} {stops : List Stop} {files files' : FileTree} {e : FileError}
      {account : Account} (hdir : stop.isDirectory = true)
      (hlist : files.readDirectory (stop.path config) = .error e)
      (hrest : Walks config stops files files' account) :
    Walks config (stop :: stops) files files'
      (.ofEvents [.remark (.skippedDirectory (stop.path config))] ++
        .ofFailure (.walk (stop.path config) e) ++ account)
  | list {stop : Stop} {stops : List Stop} {files mid files' : FileTree}
      {entries : List (String × Entry)} {first rest : Account} (hdir : stop.isDirectory = true)
      (hlist : files.readDirectory (stop.path config) = .ok entries)
      (hinside : Walks config (stop.inside entries) files mid first)
      (hrest : Walks config stops mid files' rest) :
    Walks config (stop :: stops) files files'
      (.ofEvents [.remark (.skippedDirectory (stop.path config))] ++ first ++ rest)

theorem Walks.append {config : Config} {stops more : List Stop} {files mid files' : FileTree}
    {first rest : Account} (h : Walks config stops files mid first)
    (hmore : Walks config more mid files' rest) :
    Walks config (stops ++ more) files files' (first ++ rest) := by
  induction h with
  | done files =>
    rw [Account.nil_append]
    exact hmore
  | skip hfile hother hrest ih =>
    rw [Account.append_assoc]
    exact .skip hfile hother (ih hmore)
  | convert hfile hhtml hstep hrest ih =>
    rw [Account.append_assoc]
    exact .convert hfile hhtml hstep (ih hmore)
  | unlisted hdir hlist hrest ih =>
    rw [Account.append_assoc]
    exact .unlisted hdir hlist (ih hmore)
  | list hdir hlist hinside hrest ihinside ih =>
    rw [Account.append_assoc]
    exact .list hdir hlist hinside (ih hmore)

end WidgetMarkup
