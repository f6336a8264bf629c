/-
  Sessions: the sink is write-only.

  Nothing that is run in a session reads what is in the sink.  So each step gives what it
  gives on its own, and in the end the sink holds the diagnostics of the steps, one step
  after the other (`runSession_isolated`).
-/
import WidgetMarkup.Proofs.Truncation
import WidgetMarkup.Session

namespace WidgetMarkup

open Reporting

theorem appendOnly_step (step : Step) : step.run.AppendOnly := by
  cases step with
  | convertText html => exact ((appendOnly_convertText html).map _).appendOnly
  | parse html => exact ((appendOnly_parseDocument html).map _).appendOnly
  | convertDocument document => exact ((appendOnly_convertDocument document).map _).appendOnly
  | definitions body => exact ((appendOnly_definitions body).map _).appendOnly
  | report d => exact ((yields_report d).map _).appendOnly

/-- A session is its first step and then, from the sink that this leaves, the others. -/
theorem run_runSession_cons (step : Step) (steps : List Step) (sink : Sink) :
    (runSession (step :: steps)).run sink =
      let after := sink.addAll step.run.diagnostics
      let (results, last) := (runSession steps).run after
      ((step.run.result, after.toList.length) :: results, last) := by
  have hstep := appendOnly_step step sink
  rw [runSession, run_bind, hstep]
  rfl

/-! ## Truncated documents -/

/-- Whether the document of an HTML text lacks something of the text. -/
def isTruncated (html : String) : Bool :=
  decide ((parseDocument html).result ≠ copyAll (Html.parse html))

/-- Whether a step truncates a document, or reports that one was truncated. -/
def Step.isTruncation : Step → Bool
  | .convertText html | .parse html => isTruncated html
  | .report d => d == Notice.tooDeep.diagnostic
  | .convertDocument _ | .definitions _ => false

theorem tooDeep_notMem_definitions (body : Element) :
    Notice.tooDeep.diagnostic ∉ (definitions body).diagnostics := by
  intro h
  obtain ⟨notice, hcause⟩ := cause_of_mem_definitionsOf h
  have hmessage := congrArg Diagnostic.message hcause.diagnostic_eq
  exact Notice.message_ne_tooDeep hcause.ne_tooDeep hmessage

theorem tooDeep_notMem_convertDocument (document : Document) :
    Notice.tooDeep.diagnostic ∉ (convertDocument document).diagnostics := by
  rw [(yields_convertDocument document).diagnostics_eq]
  cases findBody document.normalize with
  | error e => exact List.not_mem_nil
  | ok body => exact tooDeep_notMem_definitions body

theorem isTruncated_eq_anyCut (html : String) : isTruncated html = anyCut 0 (Html.parse html) := by
  have hcopy := anyCut_eq_false_iff (Nat.zero_le maxDepth) (Html.parse html)
  rw [isTruncated, (yields_parseDocument html).result_eq]
  cases hcut : anyCut 0 (Html.parse html) with
  | false => simp [hcopy.1 hcut]
  | true => simp [← hcopy, hcut]

/-- A text whose document is truncated leads to one warning. -/
theorem count_tooDeep_cutWarning (html : String) :
    (cutWarning (Html.parse html)).count Notice.tooDeep.diagnostic = (isTruncated html).toNat := by
  rw [cutWarning, isTruncated_eq_anyCut]
  cases anyCut 0 (Html.parse html) with
  | false => rfl
  | true => exact List.count_singleton_self

theorem count_tooDeep_step (step : Step) :
    step.run.diagnostics.count Notice.tooDeep.diagnostic = step.isTruncation.toNat := by
  cases step with
  | convertText html =>
    rw [Step.run, ((appendOnly_convertText html).map _).diagnostics_eq,
      (yields_convertText html).diagnostics_eq, List.count_append, count_tooDeep_cutWarning,
      List.count_eq_zero.2 (tooDeep_notMem_convertDocument _), Nat.add_zero, Step.isTruncation]
  | parse html =>
    rw [Step.run, ((yields_parseDocument html).map _).diagnostics_eq, count_tooDeep_cutWarning,
      Step.isTruncation]
  | convertDocument document =>
    rw [Step.run, ((appendOnly_convertDocument document).map _).diagnostics_eq]
    exact List.count_eq_zero.2 (tooDeep_notMem_convertDocument document)
  | definitions body =>
    rw [Step.run, ((appendOnly_definitions body).map _).diagnostics_eq]
    exact List.count_eq_zero.2 (tooDeep_notMem_definitions body)
  | report d =>
    rw [Step.run, ((yields_report d).map _).diagnostics_eq, Step.isTruncation, List.count_singleton]
    cases d == Notice.tooDeep.diagnostic <;> rfl

/-! ## Whole sessions -/

theorem results_runSession (steps : List Step) (sink : Sink) :
    ((runSession steps).run sink).1.map Prod.fst = steps.map fun step => step.run.result := by
  induction steps generalizing sink with
  | nil => rfl
  | cons step steps ih =>
    rw [run_runSession_cons, List.map_cons, ← ih (sink.addAll step.run.diagnostics)]
    rfl

theorem toList_runSession (steps : List Step) (sink : Sink) :
    ((runSession steps).run sink).2.toList =
      sink.toList ++ steps.flatMap fun step => step.run.diagnostics := by
  induction steps generalizing sink with
  | nil => exact (List.append_nil _).symm
  | cons step steps ih =>
    rw [run_runSession_cons, List.flatMap_cons, ← List.append_assoc, ← Sink.toList_addAll]
    exact ih _

/-- **The sink is write-only.**  Reading, lowering and converting give the same from every
    sink and add the same diagnostics behind those that are there.  So each step of a session
    gives what it gives on its own, and the diagnostics of the steps follow each other; the
    warning of a truncated document comes once for each document that is truncated. -/
theorem runSession_isolated :
    (∀ html, (parseDocument html).AppendOnly) ∧
    (∀ body, (definitions body).AppendOnly) ∧
    (∀ document, (convertDocument document).AppendOnly) ∧
    (∀ html, (convertText html).AppendOnly) ∧
    ∀ (steps : List Step) (sink : Sink),
      ((runSession steps).run sink).1.map Prod.fst = steps.map (fun step => step.run.result) ∧
      ((runSession steps).run sink).2.toList =
        sink.toList ++ steps.flatMap (fun step => step.run.diagnostics) ∧
      ((runSession steps).run sink).2.toList.count Notice.tooDeep.diagnostic =
        sink.toList.count Notice.tooDeep.diagnostic + steps.countP Step.isTruncation := by
  refine ⟨appendOnly_parseDocument, appendOnly_definitions, appendOnly_convertDocument,
    appendOnly_convertText, fun steps sink => ⟨results_runSession steps sink,
      toList_runSession steps sink, ?_⟩⟩
  rw [toList_runSession, List.count_append, List.count_flatMap]
  congr 1
  induction steps with
  | nil => rfl
  | cons step steps ih =>
    rw [List.map_cons, List.sum_cons, ih, List.countP_cons, Function.comp_apply,
      count_tooDeep_step, Nat.add_comm]
    cases step.isTruncation <;> rfl

end WidgetMarkup
