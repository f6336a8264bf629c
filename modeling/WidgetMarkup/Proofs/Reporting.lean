/-
  Computations that only add diagnostics.

  * `x.Yields a ds`: whatever the sink holds, the computation gives `a` and adds `ds` at
    the end; `Yields.bind` puts two computations in sequence.
  * `x.AppendOnly`: the computation yields the same from every sink, namely its `result`
    and its `diagnostics` from the empty one.
-/
import WidgetMarkup.Diagnostic

namespace WidgetMarkup

/-- Adds diagnostics at the end, one after the other. -/
def Sink.addAll (sink : Sink) (ds : List Diagnostic) : Sink :=
  ds.foldl Sink.add sink

@[simp]
theorem Sink.addAll_nil (sink : Sink) : sink.addAll [] = sink := rfl

theorem Sink.addAll_addAll (sink : Sink) (ds es : List Diagnostic) :
    (sink.addAll ds).addAll es = sink.addAll (ds ++ es) := by
  simp [addAll]

@[simp]
theorem Sink.toList_addAll (sink : Sink) (ds : List Diagnostic) :
    (sink.addAll ds).toList = sink.toList ++ ds := by
  induction ds generalizing sink with
  | nil => simp
  | cons d ds ih =>
    have h := ih (sink.add d)
    rw [addAll] at h ⊢
    rw [List.foldl_cons, h, toList_add, List.append_assoc, List.singleton_append]

theorem Sink.toList_empty : ({} : Sink).toList = [] := rfl

namespace Reporting

variable {α β : Type} {x : Reporting α} {f : α → Reporting β}

/-- What a computation gives on an empty sink. -/
def result (x : Reporting α) : α :=
  x.collect.1

/-- What a computation adds to an empty sink. -/
def diagnostics (x : Reporting α) : List Diagnostic :=
  x.collect.2

/-- From every sink, the computation gives `a` and adds `ds` at the end. -/
def Yields (x : Reporting α) (a : α) (ds : List Diagnostic) : Prop :=
  ∀ sink, x.run sink = (a, sink.addAll ds)

/-- Neither the result nor what is added depends on the sink. -/
def AppendOnly (x : Reporting α) : Prop :=
  x.Yields x.result x.diagnostics

section
variable {a : α} {b : β} {ds es : List Diagnostic}

theorem Yields.result_eq (h : x.Yields a ds) : x.result = a := by
  simp [result, collect, h {}]

theorem Yields.diagnostics_eq (h : x.Yields a ds) : x.diagnostics = ds := by
  simp [diagnostics, collect, h {}, Sink.toList_empty]

theorem Yields.appendOnly (h : x.Yields a ds) : x.AppendOnly := by
  rw [AppendOnly, h.result_eq, h.diagnostics_eq]
  exact h

theorem yields_pure (a : α) : (pure a : Reporting α).Yields a [] := fun _ => rfl

theorem yields_report (d : Diagnostic) : (report d).Yields () [d] := fun _ => rfl

theorem yields_warn (notice : Notice) : (warn notice).Yields () [notice.diagnostic] :=
  yields_report notice.diagnostic

theorem run_bind (x : Reporting α) (f : α → Reporting β) (sink : Sink) :
    (x >>= f).run sink = (f (x.run sink).1).run (x.run sink).2 := rfl

/-- **One computation after the other**: the diagnostics of the second follow those of the
    first. -/
theorem Yields.bind (hx : x.Yields a ds) (hf : (f a).Yields b es) :
    (x >>= f).Yields b (ds ++ es) := by
  intro sink
  rw [run_bind, hx, hf, Sink.addAll_addAll]

theorem Yields.map (hx : x.Yields a ds) (g : α → β) :
    (x >>= fun a => pure (g a)).Yields (g a) ds := by
  have h := hx.bind (f := fun a => pure (g a)) (yields_pure (g a))
  rwa [List.append_nil] at h

end

theorem AppendOnly.run_fst (hx : x.AppendOnly) (sink : Sink) : (x.run sink).1 = x.result := by
  rw [hx]

theorem AppendOnly.toList_run (hx : x.AppendOnly) (sink : Sink) :
    (x.run sink).2.toList = sink.toList ++ x.diagnostics := by
  rw [hx, Sink.toList_addAll]

end Reporting

end WidgetMarkup
