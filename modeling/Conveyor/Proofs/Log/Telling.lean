import Conveyor.Proofs.Log.Outcome

/-!
# What work tells

Where no logger writes to the standard output, only the texts that work shows there itself reach it.
`Tells` says what work comes to from every journal that is ready and quiet: its result, and the
texts that it shows on the standard output. Neither depends on the level of any logger, on the
records so far or on the records that the work logs.
-/

set_option autoImplicit false

namespace Conveyor

namespace Log

/-- No component misses its logger, and no logger writes to the standard output. -/
structure IsSilent (env : Environment) (j : Journal) : Prop where
  ready : IsReady env j
  quiet : j.hierarchy.IsQuiet

/-- What telling some texts leaves of a journal. -/
structure HasTold (env : Environment) (j later : Journal) (texts : List String) : Prop where
  silent : IsSilent env later
  output : later.output = j.output ++ texts.map .text

variable {env : Environment} {j : Journal}

theorem HasTold.trans {k l : Journal} {texts more : List String} (h : HasTold env j k texts)
    (h' : HasTold env k l more) : HasTold env j l (texts ++ more) where
  silent := h'.silent
  output := by rw [h'.output, h.output, List.map_append, List.append_assoc]

/-- Showing a text on a stream tells it if the stream is the standard output. -/
theorem hasTold_say (silent : IsSilent env j) (stream : Stream) (text : String) :
    HasTold env j { j with shown := j.shown ++ [(stream, .text text)] }
      (if stream = .out then [text] else []) := by
  refine ⟨⟨silent.ready, silent.quiet⟩, ?_⟩
  rw [Journal.output, List.filter_append, List.map_append]
  cases stream <;> rfl

end Log

namespace Logged

open Log

variable {α β : Type} {env : Environment}

/-- From every silent journal the work has the same result and tells the same texts. -/
def Tells (env : Environment) (work : Logged α) (x : Except Failure α) (texts : List String) :
    Prop :=
  ∀ journal, IsSilent env journal →
    (work.perform env journal).1 = x ∧ HasTold env journal (work.perform env journal).2 texts

/-- Work that only logs tells nothing. -/
theorem Yields.tells {work : Logged α} {x : Except Failure α} (h : Yields env work x) :
    Tells env work x [] := by
  intro journal silent
  obtain ⟨result, leaves⟩ := h journal silent.ready
  obtain ⟨quiet, same⟩ := leaves.quiet silent.quiet
  refine ⟨result, ⟨leaves.isReady silent.ready, quiet⟩, ?_⟩
  rw [same]
  exact (List.append_nil _).symm

namespace Tells

/-- Work that tells something leaves a journal with it behind its result. -/
theorem exists_perform {work : Logged α} {x : Except Failure α} {texts : List String}
    (h : Tells env work x texts) {journal : Journal} (silent : IsSilent env journal) :
    ∃ later, work.perform env journal = (x, later) ∧ HasTold env journal later texts := by
  obtain ⟨result, told⟩ := h journal silent
  exact ⟨_, Prod.ext result rfl, told⟩

theorem say (stream : Stream) (text : String) :
    Tells env (say stream text) (.ok ()) (if stream = .out then [text] else []) :=
  fun _ silent => ⟨rfl, hasTold_say silent stream text⟩

/-- Work in two steps tells what its steps tell. -/
theorem bind {work : Logged α} {next : α → Logged β} {a : α} {y : Except Failure β}
    {texts more : List String} (hx : Tells env work (.ok a) texts)
    (hy : Tells env (next a) y more) : Tells env (work >>= next) y (texts ++ more) := by
  intro journal silent
  obtain ⟨later, performed, told⟩ := hx.exists_perform silent
  obtain ⟨second, told'⟩ := hy later told.silent
  rw [perform_bind, performed]
  exact ⟨second, told.trans told'⟩

/-- Work that is preceded by work that only logs tells what it tells on the result. -/
theorem after {work : Logged α} {next : α → Logged β} {a : α} {y : Except Failure β}
    {texts : List String} (hx : Yields env work (.ok a)) (hy : Tells env (next a) y texts) :
    Tells env (work >>= next) y texts :=
  hx.tells.bind hy

/-- Work whose first step fails tells what this step tells. -/
theorem stop {work : Logged α} (next : α → Logged β) {e : Failure} {texts : List String}
    (hx : Tells env work (.error e) texts) : Tells env (work >>= next) (.error e) texts := by
  intro journal silent
  obtain ⟨later, performed, told⟩ := hx.exists_perform silent
  rw [perform_bind, performed]
  exact ⟨rfl, told⟩

theorem attempt {work : Logged α} {x : Except Failure α} {texts : List String}
    (hx : Tells env work x texts) : Tells env (attempt work) (.ok x) texts := by
  intro journal silent
  obtain ⟨result, told⟩ := hx journal silent
  rw [perform_attempt, result]
  exact ⟨rfl, told⟩

end Tells

end Logged

end Conveyor
