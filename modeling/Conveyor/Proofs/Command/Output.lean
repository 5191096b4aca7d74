import Conveyor.Proofs.Command.Printing
import Conveyor.Proofs.Command.Validation
import Conveyor.Proofs.Log.Telling

/-!
# Output for machines

A command that prints an artifact, or one that reports in JSON, keeps its standard output for a
machine to read: log lines go to the other stream. So what such a command comes to, and what it
tells, does not depend on the level that was set up for the loggers (`run_machine_readable`).

What it tells is also complete or nothing. A validation tells one document, whatever is at the path
of the definition, and the document says whether the definition is valid; only where the data of the
definition exhaust the check does it tell nothing. Printing and writing tell nothing unless they
succeed.
-/

set_option autoImplicit false

namespace Conveyor

open Logged Definition

namespace Session

variable {env : Environment} {t : FileTree} {definition : String}

/-- What a session makes with the renderers that every session knows does not depend on what was
logged. -/
theorem exists_render_yields {s : Session} (builtin : s.registry = .builtin) (artifact : String)
    (env : Environment) : ∃ x, Yields env (s.render artifact) x := by
  obtain ⟨jenkinsfile, fileSettled⟩ := Jenkinsfile.render_settled s.config s.stages s.strict
  obtain ⟨template, templateSettled⟩ := CloudTemplate.render_settled s.config
  unfold Session.render
  rw [builtin]
  cases found : Registry.builtin.get artifact with
  | error e => exact ⟨_, .bind (y := fun _ => .error e) (.lift _) nofun⟩
  | ok renderer =>
      have known : renderer ∈ Registry.builtin.renderers.map (·.2) := by
        unfold Registry.get at found
        split at found
        · rename_i member
          cases found
          obtain ⟨before, after, rows, -⟩ := List.lookup_eq_some_iff.mp member
          exact List.mem_map.mpr ⟨_, by rw [rows]; exact List.mem_append_cons_self, rfl⟩
        · cases found
      have run : ∃ x, Yields env (renderer.run s.strict s.config s.stages) x := by
        simp only [Registry.builtin, List.map_cons, List.map_nil, List.mem_cons, List.not_mem_nil,
          or_false] at known
        rcases known with rfl | rfl | rfl | rfl
        · exact ⟨_, (fileSettled env).map Value.text⟩
        · exact ⟨_, templateSettled env⟩
        · exact ⟨_, .lift _⟩
        · exact ⟨_, .lift _⟩
      obtain ⟨x, yields⟩ := run
      exact ⟨x, .after (.lift _) yields⟩

end Session

namespace Command

variable {env : Environment} {t : FileTree} {definition : String}

/-! ## What commands tell -/

/-- What is shown on the other stream leaves the standard output alone. -/
theorem tell_yields (text : String) : Yields env (tell .err text) (.ok ()) := by
  intro journal _
  refine ⟨rfl, rfl, fun quiet => ⟨quiet, ?_⟩⟩
  rw [perform_tell, Log.Journal.output, List.filter_append, List.map_append]
  exact List.append_nil _

theorem complain_yields (message : String) : Yields env (complain message) (.ok .failure) :=
  .after (tell_yields _) (.pure _)

/-- A value without numbers is told as one document. -/
theorem tellJson_tells (env : Environment) {v : Value} (numberless : Json.IsNumberless v) :
    ∃ text, Tells env (tellJson v) (.ok ()) [text] ∧ Json.read? text = some v := by
  obtain ⟨s, written, clean, reads⟩ := numberless.exists_document
  refine ⟨s ++ "\n", ?_, reads⟩
  have whole : Terminal.unstyled (s ++ "\n") = s ++ "\n" :=
    Terminal.unstyled_eq_self_iff.mpr (Terminal.hasSequence_of_not_mem clean)
  have told : Tells env (tell .out (Summary.line s)) (.ok ()) [s ++ "\n"] := by
    rw [tell, Summary.line, whole]
    exact .say .out _
  exact .after (.congr (.lift _) written) told

/-- Rendering an artifact of a definition in a file has the same outcome from every journal. -/
theorem exists_rendered_yields (env : Environment) (t : FileTree) (artifact definition : String) :
    ∃ x, Yields env (Session.ofFile t definition true >>= (·.render artifact)) x := by
  have opens := Session.ofFile_yields env t definition true
  rcases Session.opened_outcome env t definition true with ⟨e, failed, -⟩ | ⟨s, made, isOpened⟩
  · rw [failed] at opens
    exact ⟨_, opens.bind (y := fun _ => .error e) nofun⟩
  · rw [made] at opens
    obtain ⟨x, rendered⟩ := Session.exists_render_yields isOpened.registry artifact env
    exact ⟨x, .after opens rendered⟩

/-- Showing an artifact tells its text, or nothing if it has none. -/
theorem showArtifact_tells (env : Environment) (v : Value) :
    ∃ x texts, Tells env (do tell .out (← artifactText v); return .success : Logged Exit) x texts ∧
      (x ≠ .ok .success → texts = []) := by
  cases written : artifactText v with
  | error e =>
      have failed : Tells env (liftM (.error e : Except Failure String) : Logged String)
          (.error e) [] := (Yields.lift _).tells
      exact ⟨.error e, [], failed.stop _, fun _ => rfl⟩
  | ok text =>
      have made : Yields env (liftM (.ok text : Except Failure String) : Logged String)
          (.ok text) := .lift _
      exact ⟨.ok .success, _, .after made (.bind (.say .out _) (Yields.pure _).tells),
        fun failed => absurd rfl failed⟩

/-- Printing an artifact tells its text, or nothing if it fails. -/
theorem printArtifact_tells (env : Environment) (t : FileTree) (artifact definition : String) :
    ∃ x texts, Tells env (printArtifact t artifact definition) x texts ∧
      (x ≠ .ok .success → texts = []) := by
  unfold printArtifact
  split
  · obtain ⟨x, work⟩ := exists_rendered_yields env t artifact definition
    cases x with
    | error e =>
        have explained : Tells env (if e.isVerdict then complain e.text else throw e)
            (if e.isVerdict then .ok .failure else .error e) [] := by
          split
          · exact (complain_yields e.text).tells
          · exact (Yields.throw e).tells
        exact ⟨_, [], .after work.attempt explained, fun _ => rfl⟩
    | ok v =>
        obtain ⟨x, texts, told, complete⟩ := showArtifact_tells env v
        exact ⟨x, texts, .after work.attempt told, complete⟩
  · exact ⟨_, [], (complain_yields _).tells, fun _ => rfl⟩

/-- A text is one document, which says first whether a definition is valid. -/
def SaysValid (text : String) (valid : Bool) : Prop :=
  ∃ fields, Json.read? text = some (.record (("valid", .bool valid) :: fields)) ∧
    ∀ f ∈ fields, f.1 ≠ "valid"

/-- Checking a definition tells one document, which says whether the check succeeds, or nothing if
the data exhaust the check. -/
theorem checkDefinition_tells (env : Environment) (t : FileTree) (definition : String) :
    (∃ exit text, Tells env (checkDefinition t definition .json) (.ok exit) [text] ∧
      SaysValid text (exit = .success)) ∨
    Tells env (checkDefinition t definition .json) (.error .tooDeep) [] ∧
      HoldsExhausting env t definition := by
  rcases openSession_outcome env t definition with
    ⟨s, typed, -, opens⟩ | ⟨e, verdict | ⟨rfl, exhausts⟩, -, opens⟩
  · obtain ⟨fields, summed, others, numberless⟩ := Summary.exists_value typed
    obtain ⟨text, told, reads⟩ := tellJson_tells env numberless
    have described : Tells env (describe .json s) (.ok .success) [text] :=
      .after (.congr (.lift _) summed) (.bind told (Yields.pure _).tells)
    exact .inl ⟨.success, text, .after opens.attempt described, fields, reads, others⟩
  · obtain ⟨text, told, reads⟩ := tellJson_tells env (Summary.isNumberless_refusal e.text)
    have rejected : Tells env (if e.isVerdict then reject .json e.text else throw e) (.ok .failure)
        [text] := by
      rw [if_pos verdict]
      exact .bind told (Yields.pure _).tells
    exact .inl ⟨.failure, text, .after opens.attempt rejected, [("error", .text e.text)], reads,
      by simp⟩
  · exact .inr ⟨(checkDefinition_yields_error opens rfl .json).tells, exhausts⟩

/-- Telling why artifacts were not written goes to the other stream. -/
theorem explain_yields (env : Environment) (logger directory : String) (failure : Failure) :
    ∃ answer, Yields env (explain logger directory failure) (.ok answer) := by
  unfold explain
  split
  · exact ⟨.ok .failure, .after (complain_yields _) (.pure _)⟩
  · split
    · exact ⟨.ok .failure, .after (Log.emit_yields _ _ _) (.after (complain_yields _) (.pure _))⟩
    · exact ⟨.error failure, .pure _⟩

/-- Writing all artifacts tells one document, or nothing if it fails. -/
theorem writeArtifacts_tells (env : Environment) (t : FileTree) (definition directory : String)
    (lenient : Bool) :
    ∃ tree answer texts, (answer ≠ .ok .success → texts = []) ∧
      ∀ columns, Tells env (writeArtifacts columns t definition directory .json lenient)
        (.ok (tree, answer)) texts := by
  have component : Yields env (Log.component "generate") _ := Log.component_yields "generate"
  unfold writeArtifacts
  rcases saveAll_outcome env t definition directory lenient with ⟨e, failed⟩ |
    ⟨s, b, -, -, saved⟩
  · obtain ⟨answer, explained⟩ := explain_yields env _ directory e
    exact ⟨t, answer, [], fun _ => rfl, fun columns =>
      .after component (.after failed.attempt (.bind explained.tells (Yields.pure _).tells))⟩
  · cases listed : (b.outcome t directory).2 with
    | error e =>
        obtain ⟨answer, explained⟩ := explain_yields env _ directory e
        have outcome : b.outcome t directory = ((b.outcome t directory).1, .error e) :=
          Prod.ext rfl listed
        rw [outcome] at saved
        exact ⟨_, answer, [], fun _ => rfl, fun columns =>
          .after component (.after saved.attempt (.bind explained.tells (Yields.pure _).tells))⟩
    | ok paths =>
        have outcome : b.outcome t directory = ((b.outcome t directory).1, .ok paths) :=
          Prod.ext rfl listed
        rw [outcome] at saved
        have numberless : Json.IsNumberless (Summary.written s directory paths) := by
          refine .record ?_
          simp only [List.forall_mem_cons, List.not_mem_nil, false_imp_iff, implies_true, and_true]
          exact ⟨.text _, .text _, Summary.isNumberless_texts paths⟩
        obtain ⟨text, told, -⟩ := tellJson_tells env numberless
        have announced (columns : Nat) :
            Tells env (announce columns .json directory s paths) (.ok .success) [text] :=
          .bind told (Yields.pure _).tells
        exact ⟨_, .ok .success, _, fun failed => absurd rfl failed, fun columns =>
          .after component (.after saved.attempt
            (.bind (announced columns).attempt (Yields.pure _).tells))⟩

/-- The commands that keep the standard output for a machine to read. -/
inductive IsMachineReadable : Command → Prop where
  | validate (definition : String) : IsMachineReadable (.validate definition .json)
  | render (artifact definition : String) : IsMachineReadable (.render artifact definition)
  | generate (definition directory : String) (lenient : Bool) :
      IsMachineReadable (.generate definition directory .json lenient)

/-- Work after the loggers were set up away from the standard output is the only one to tell
anything. -/
theorem perform_after_configureLogging {level : Option String} (standard : Log.IsInForce env level)
    {work : Logged Effect} {x : Except Failure Effect} {texts : List String}
    (tells : Tells env work x texts) :
    ∃ journal, (configureLogging .err level >>= fun _ => work).perform env = (x, journal) ∧
      journal.output = texts.map .text := by
  obtain ⟨journal, configured, fresh⟩ := perform_configureLogging standard .err
  obtain ⟨result, told⟩ := tells journal ⟨fresh.ready, fresh.quiet rfl⟩
  refine ⟨(work.perform env journal).2, ?_, ?_⟩
  · rw [perform_bind, configured, ← result]
  · rw [told.output, Log.Journal.output, fresh.shown]
    rfl

/-- What such a command tells is complete: a validation tells one document, which says whether it
succeeded, or nothing if the data exhaust the check, and the others tell nothing unless they
succeed. -/
def IsComplete (env : Environment) (t : FileTree) (x : Except Failure Effect)
    (texts : List String) : Command → Prop
  | .validate definition _ =>
    (∃ text, texts = [text] ∧ SaysValid text (CommandLine.exitOf x = .success)) ∨
      x = .error .tooDeep ∧ texts = [] ∧ HoldsExhausting env t definition
  | _ => CommandLine.exitOf x ≠ .success → texts = []

/-- What such a command comes to, and what it tells, depends on the environment and the files only,
and it is complete. -/
theorem IsMachineReadable.tells {command : Command} (machine : command.IsMachineReadable)
    (env : Environment) (t : FileTree) :
    ∃ x texts, command.IsComplete env t x texts ∧ ∀ columns level, Log.IsInForce env level →
      ∃ journal, (command.run columns t level).perform env = (x, journal) ∧
        journal.output = texts.map .text := by
  cases machine with
  | validate definition =>
      rcases checkDefinition_tells env t definition with
        ⟨exit, text, told, states⟩ | ⟨told, exhausts⟩
      · exact ⟨.ok (t, .ok exit), [text], .inl ⟨text, rfl, states⟩, fun columns level standard =>
          perform_after_configureLogging standard (.bind told (Yields.pure _).tells)⟩
      · exact ⟨.error .tooDeep, [], .inr ⟨rfl, rfl, exhausts⟩, fun columns level standard =>
          perform_after_configureLogging standard (told.stop _)⟩
  | render artifact definition =>
      obtain ⟨x, texts, told, complete⟩ := printArtifact_tells env t artifact definition
      cases x with
      | error e =>
          exact ⟨.error e, texts, fun _ => complete nofun, fun columns level standard =>
            perform_after_configureLogging standard (told.stop _)⟩
      | ok exit =>
          refine ⟨.ok (t, .ok exit), texts ++ [], fun failed => ?_, fun columns level standard =>
            perform_after_configureLogging standard (.bind told (Yields.pure _).tells)⟩
          rw [complete (fun same => failed (Except.ok.inj same)), List.append_nil]
  | generate definition directory lenient =>
      obtain ⟨tree, answer, texts, complete, told⟩ :=
        writeArtifacts_tells env t definition directory lenient
      refine ⟨.ok (tree, answer), texts, fun failed => complete ?_, fun columns level standard =>
        perform_after_configureLogging standard (told columns)⟩
      rintro rfl
      exact failed rfl

end Command

/-! ## Whole runs -/

namespace CommandLine

/-- Two runs that cannot be told apart by their standard output, their status and the files that
they leave. -/
structure Outcome.LooksLike (o o' : Outcome) : Prop where
  out : ∀ time, o.journal.textOf time .out = o'.journal.textOf time .out
  exit : o.exit = o'.exit
  tree : o.tree = o'.tree

/-- A report about a failure leaves the standard output alone. -/
theorem output_showAll (columns : Nat) (texts : List String) (env : Environment) :
    ∀ journal, ((showAll columns texts).perform env journal).2.output = journal.output := by
  induction texts with
  | nil => exact fun _ => rfl
  | cons text texts ih =>
      intro journal
      rw [showAll, perform_bind, perform_lift]
      cases Terminal.printed columns text with
      | error e => rfl
      | ok line =>
          dsimp only
          rw [perform_bind]
          refine (ih _).trans ?_
          rw [Log.Journal.output, List.filter_append, List.map_append]
          exact List.append_nil _

/-- A run that reports its failure looks like one that does not. -/
theorem run_looksLike_runReporting (columns : Nat) (env : Environment) (t : FileTree)
    (words : List String) :
    (run columns env t words).LooksLike (runReporting columns env t words) := by
  unfold runReporting
  dsimp only
  generalize run columns env t words = outcome
  cases outcome.unhandled with
  | none => exact ⟨fun _ => rfl, rfl, rfl⟩
  | some failure =>
      have same := output_showAll columns (report failure) env outcome.journal
      dsimp only
      rcases performed : (showAll columns (report failure)).perform env outcome.journal with
        ⟨_ | _, journal⟩
      all_goals
        rw [performed] at same
        refine ⟨fun time => ?_, rfl, rfl⟩
        rw [Log.Journal.textOf_out, Log.Journal.textOf_out, same]

variable {env : Environment} {level level' : Option String} {command : Command}
  {words words' : List String}

end CommandLine

end Conveyor
