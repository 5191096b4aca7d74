import Conveyor.Proofs.Value.Verdict
import Conveyor.Schema.Equality
import Conveyor.Schema.Findings

/-!
# What findings decide

The findings of a check decide a property of a document when there are none exactly if the document
has the property. The combinators of findings follow the connectives of the properties: checks one
after another decide a conjunction, a row of checks decides that all members are as they should be,
and a single report decides falsehood.

Besides the verdict a check may fail. Of a document it is foreseen that its check fails with a
verdict, or for want of room if the document is nested deeper than collections are compared. Every
combinator keeps the promise that it fails as foreseen only, if the checks that it is made of do.
-/

set_option autoImplicit false

namespace Conveyor.Schema

/-- The failures that are foreseen for the check of a document. -/
def Foreseen (document : Value) (e : Failure) : Prop :=
  e.isVerdict = true ∨ e = .tooDeep ∧ deepestCompared < document.depth

namespace Foreseen

variable {document whole : Value}

/-- What is foreseen for a part is foreseen for the whole. -/
theorem ofPart {e : Failure} (foreseen : Foreseen document e)
    (inside : document.depth ≤ whole.depth) : Foreseen whole e :=
  foreseen.imp_right fun ⟨full, deep⟩ => ⟨full, Nat.lt_of_lt_of_le deep inside⟩

end Foreseen

theorem foreseen_of_verdictOnly {α : Type} {result : Except Failure α}
    (verdicts : VerdictOnly result) (document : Value) : FailsOnly (Foreseen document) result :=
  verdicts.mono fun _ verdict => .inl verdict

/-- A value is shown, unless an integer in it is too long. -/
theorem shown_foreseen (v document : Value) : FailsOnly (Foreseen document) v.shown :=
  foreseen_of_verdictOnly (Value.shown_verdictOnly v) document

/-- A document is quoted, unless an integer in it is too long or it is nested too deeply. -/
theorem quoted_foreseen (document : Value) : FailsOnly (Foreseen document) (quoted document) := by
  unfold quoted
  split
  · rename_i deep
    exact .error (.inr ⟨rfl, Nat.lt_trans (by decide) deep⟩)
  · exact shown_foreseen document document

namespace Findings

/-- A search that is stopped by a failure is stopped by one of some. -/
def StopsOnly (allowed : Failure → Prop) : Findings → Prop
  | .done => True
  | .failed e => allowed e
  | .found _ rest => (rest ()).StopsOnly allowed

/-- There are no findings exactly if the property holds, and the search is stopped only as foreseen
for the document. -/
structure Decides (f : Findings) (document : Value) (P : Prop) : Prop where
  done_iff : f = .done ↔ P
  stops : f.StopsOnly (Foreseen document)

/-- A search answers if it ends with no finding or comes to a first one. -/
def Answers (f : Findings) : Prop := ∀ e, f ≠ .failed e

theorem toList_eq_nil_iff (f : Findings) : f.toList = .ok [] ↔ f = .done := by
  cases f with
  | done => simp [toList]
  | failed e => simp [toList]
  | found v rest =>
      simp only [toList, reduceCtorEq, iff_false]
      cases (rest ()).toList with
      | ok vs => simp [Functor.map, Except.map]
      | error e => simp [Functor.map, Except.map]

theorem append_eq_done_iff (f : Findings) (more : Unit → Findings) :
    f.append more = .done ↔ f = .done ∧ more () = .done := by
  cases f <;> simp [append]

theorem append_assoc (f : Findings) (g h : Unit → Findings) :
    (f.append g).append h = f.append fun _ => (g ()).append h := by
  induction f with
  | done => rfl
  | failed e => rfl
  | found v rest ih => exact congrArg (found v) (funext fun _ => ih ())

theorem all_append {α : Type} (check : α → Findings) (xs ys : List α) :
    all check (xs ++ ys) = (all check xs).append fun _ => all check ys := by
  induction xs with
  | nil => rfl
  | cons x xs ih =>
      simp only [List.cons_append, all, append_assoc]
      exact congrArg (check x).append (funext fun _ => ih)

theorem under_eq_done_iff (step : Value) (f : Findings) : f.under step = .done ↔ f = .done := by
  cases f <;> simp [under]

section StopsOnly

variable {allowed allowed' : Failure → Prop} {f : Findings}

theorem StopsOnly.mono (stops : f.StopsOnly allowed) (weaker : ∀ e, allowed e → allowed' e) :
    f.StopsOnly allowed' := by
  induction f with
  | done => trivial
  | failed e => exact weaker e stops
  | found v rest ih => exact ih () stops

theorem StopsOnly.append {more : Unit → Findings} (hf : f.StopsOnly allowed)
    (hm : (more ()).StopsOnly allowed) : (f.append more).StopsOnly allowed := by
  induction f with
  | done => exact hm
  | failed e => exact hf
  | found v rest ih => exact ih () hf

theorem StopsOnly.under (step : Value) (hf : f.StopsOnly allowed) :
    (f.under step).StopsOnly allowed := by
  induction f with
  | done => trivial
  | failed e => exact hf
  | found v rest ih => exact ih () hf

/-- A search that is stopped only by some failures has a list of violations, or fails with one of
these. -/
theorem StopsOnly.toList (hf : f.StopsOnly allowed) : FailsOnly allowed f.toList := by
  induction f with
  | done => exact .ok []
  | failed e => exact .error hf
  | found v rest ih => exact .map _ (ih () hf)

theorem StopsOnly.isClean (hf : f.StopsOnly allowed) : FailsOnly allowed f.isClean := by
  cases f with
  | done => exact .ok true
  | failed e => exact .error hf
  | found v rest => exact .ok false

theorem StopsOnly.after {α : Type} {result : Except Failure α} {check : α → Findings}
    (hr : FailsOnly allowed result) (hc : ∀ a, (check a).StopsOnly allowed) :
    (Findings.after result check).StopsOnly allowed := by
  cases result with
  | ok a => exact hc a
  | error e => exact hr e rfl

theorem StopsOnly.cons {α : Type} {check : α → Findings} {x : α} {xs : List α}
    (hx : (check x).StopsOnly allowed) (hxs : (Findings.all check xs).StopsOnly allowed) :
    (Findings.all check (x :: xs)).StopsOnly allowed :=
  hx.append hxs

end StopsOnly

namespace Decides

variable {f : Findings} {document : Value} {P Q : Prop}

theorem congr (h : f.Decides document P) (same : P ↔ Q) : f.Decides document Q :=
  ⟨h.done_iff.trans same, h.stops⟩

/-- What is decided for a part of a document is decided for the whole. -/
theorem ofPart {whole : Value} (h : f.Decides document P) (inside : document.depth ≤ whole.depth) :
    f.Decides whole P :=
  ⟨h.done_iff, h.stops.mono fun _ foreseen => foreseen.ofPart inside⟩

theorem done (h : P) : Findings.done.Decides document P :=
  ⟨by simp [h], trivial⟩

/-- A violation decides falsehood. -/
theorem report {message : Except Failure String} (hm : FailsOnly (Foreseen document) message)
    (h : ¬ P) :
    (Findings.report message).Decides document P := by
  cases message with
  | ok text => exact ⟨by simp [Findings.report, after, violation, h], trivial⟩
  | error e => exact ⟨by simp [Findings.report, after, h], hm e rfl⟩

/-- What is reported unless a condition holds decides the condition. -/
theorem reportUnless {c : Bool} {message : Except Failure String}
    (hm : FailsOnly (Foreseen document) message) :
    (if c then Findings.done else Findings.report message).Decides document (c = true) := by
  cases c with
  | true => exact done rfl
  | false => exact report hm (by simp)

/-- What is reported if a condition holds decides that it does not. -/
theorem reportIf {c : Bool} {message : Except Failure String}
    (hm : FailsOnly (Foreseen document) message) :
    (if c then Findings.report message else Findings.done).Decides document (c = false) := by
  cases c with
  | true => exact report hm (by simp)
  | false => exact done rfl

/-- What is reported unless a document is judged to be fit decides that it is. -/
theorem judged {result : Except Failure Bool} {message : Except Failure String}
    (hr : FailsOnly (Foreseen document) result) (hm : FailsOnly (Foreseen document) message) :
    (Findings.after result fun fits => if fits then .done else .report message).Decides document
      (result = .ok true) := by
  cases result with
  | ok fits => exact (reportUnless hm).congr (by simp)
  | error e => exact ⟨by simp [after], hr e rfl⟩

theorem under (step : Value) (h : f.Decides document P) : (f.under step).Decides document P :=
  ⟨(under_eq_done_iff step f).trans h.done_iff, h.stops.under step⟩

theorem append {more : Unit → Findings} (hf : f.Decides document P)
    (hm : (more ()).Decides document Q) : (f.append more).Decides document (P ∧ Q) :=
  ⟨(append_eq_done_iff f more).trans (and_congr hf.done_iff hm.done_iff),
    hf.stops.append hm.stops⟩

/-- Of two checks one after another, the second one has to decide its property only where the first
one found nothing. -/
theorem appendOf {more : Unit → Findings} (hf : f.Decides document P)
    (hm : P → (more () = .done ↔ Q)) (hv : (more ()).StopsOnly (Foreseen document)) :
    (f.append more).Decides document (P ∧ Q) := by
  refine ⟨?_, hf.stops.append hv⟩
  rw [append_eq_done_iff, hf.done_iff]
  exact and_congr_right hm

theorem nil {α : Type} {check : α → Findings} : (Findings.all check []).Decides document True :=
  done trivial

theorem cons {α : Type} {check : α → Findings} {x : α} {xs : List α}
    (hx : (check x).Decides document P) (hxs : (Findings.all check xs).Decides document Q) :
    (Findings.all check (x :: xs)).Decides document (P ∧ Q) :=
  hx.append hxs

/-- The checks after the first one have to decide their property only where the first one found
nothing. -/
theorem consOf {α : Type} {check : α → Findings} {x : α} {xs : List α}
    (hx : (check x).Decides document P) (hxs : P → (Findings.all check xs).Decides document Q)
    (hv : (Findings.all check xs).StopsOnly (Foreseen document)) :
    (Findings.all check (x :: xs)).Decides document (P ∧ Q) :=
  appendOf hx (fun p => (hxs p).done_iff) hv

theorem all {α : Type} {check : α → Findings} {P : α → Prop} {xs : List α}
    (h : ∀ x ∈ xs, (check x).Decides document (P x)) :
    (Findings.all check xs).Decides document (∀ x ∈ xs, P x) := by
  induction xs with
  | nil => exact done (by simp)
  | cons x xs ih =>
      have here := h x (by simp)
      have there := ih fun y hy => h y (by simp [hy])
      have both : (Findings.all check (x :: xs)).Decides document (P x ∧ ∀ y ∈ xs, P y) :=
        here.append there
      exact both.congr (by simp)

end Decides

theorem Answers.append {f : Findings} {more : Unit → Findings} (hf : f.Answers)
    (hm : (more ()).Answers) : (f.append more).Answers := by
  cases f with
  | done => exact hm
  | failed e => exact absurd rfl (hf e)
  | found v rest => exact fun e => by simp [Findings.append]

theorem Answers.under {f : Findings} (step : Value) (hf : f.Answers) : (f.under step).Answers := by
  cases f with
  | done => exact hf
  | failed e => exact absurd rfl (hf e)
  | found v rest => exact fun e => by simp [Findings.under]

theorem Answers.report (text : String) : (Findings.report (.ok text)).Answers :=
  fun e => by simp [Findings.report, after, violation]

/-- A search that answers judges the property that it decides. -/
theorem Answers.isClean {f : Findings} {fits : Bool} (hf : f.Answers)
    {document : Value} (decides : f.Decides document (fits = true)) : f.isClean = .ok fits := by
  have clean := decides.done_iff
  cases f with
  | done => exact congrArg Except.ok (clean.mp rfl).symm
  | failed e => exact absurd rfl (hf e)
  | found v rest =>
      have unfit : fits = false := by simpa using clean
      exact congrArg Except.ok unfit.symm

end Findings

end Conveyor.Schema
