import Conveyor.Proofs.Command.Output
import Conveyor.Proofs.FileTree.Finding

/-!
# What a command line leaves of the files

Validating and printing leave every file and directory as it is, whatever they end with. Writing all
artifacts leaves them as they are unless the definition was loaded and everything was rendered. A
starter is written where nothing was found; besides it there are new directories at most
(`run_frame`).

Nothing was found at the path of a starter before the directories above it were made. So a path with
double dots can lead to a file that is there, on its way through a directory that is new, and then
the starter takes the place of this file (`run_init_overwrites`). No other path does.
-/

set_option autoImplicit false

namespace Conveyor

open Logged Definition

namespace Command

variable {env : Environment} {t : FileTree}

/-- Work after the loggers were set up is not done, or it is done from a journal that is ready. -/
theorem configured {P : Except Failure Effect → Prop} (stream : Log.Stream) (level : Option String)
    {work : Logged Effect} (failed : ∀ e, P (.error e))
    (done : ∀ journal, Log.IsReady env journal → P (work.perform env journal).1) :
    P ((configureLogging stream level >>= fun _ => work).perform env).1 := by
  rw [perform_bind]
  rcases configured : (configureLogging stream level).perform env with ⟨e | ⟨⟩, journal⟩
  · exact failed e
  · obtain ⟨journal', configured', fresh⟩ :=
      perform_configureLogging (isInForce_of_configureLogging configured) stream
    rw [configured] at configured'
    obtain rfl := congrArg Prod.snd configured'
    exact done journal fresh.ready

/-- Work that writes no files leaves the tree as it is. -/
theorem after_of_exit (work : Logged Exit) (journal : Log.Journal) :
    t.after ((work >>= fun exit => pure (t, .ok exit) : Logged Effect).perform env journal).1 =
      t := by
  rw [perform_bind]
  rcases work.perform env journal with ⟨e | exit, later⟩ <;> rfl

/-! ## Writing all artifacts -/

/-- Where the definition is not loaded, or not everything is rendered, nothing is written. -/
theorem after_writeArtifacts {journal journal' : Log.Journal} (ready : Log.IsReady env journal)
    (columns : Nat) {definition directory : String} (format : Format) {lenient : Bool} {e : Failure}
    (ready' : Log.IsReady env journal')
    (failed : ((Session.ofFile t definition (!lenient) >>= Session.renderAll).perform env
      journal').1 = .error e) :
    t.after ((writeArtifacts columns t definition directory format lenient).perform env journal).1 =
      t := by
  have component : Yields env (Log.component "generate") _ := Log.component_yields "generate"
  rcases saveAll_outcome env t definition directory lenient with ⟨e', stopped⟩ |
    ⟨s, b, made, rendered, -⟩
  · obtain ⟨answer, explained⟩ := explain_yields env _ directory e'
    have performed : Yields env (writeArtifacts columns t definition directory format lenient)
        (.ok (t, answer)) :=
      .after component (.after stopped.attempt (.after explained (.pure _)))
    rw [(performed journal ready).1]
    rfl
  · have opens := Session.ofFile_yields env t definition (!lenient)
    rw [made] at opens
    have loaded : Yields env (Session.ofFile t definition (!lenient) >>= Session.renderAll)
        (.ok b) :=
      .after opens (rendered env)
    rw [(loaded journal' ready').1] at failed
    cases failed

/-! ## Writing a starter -/

/-- A starter is written with success exactly if it is stored. -/
theorem perform_writeStarter (t : FileTree) (path : Path) (s : Starter) (env : Environment)
    (journal : Log.Journal) :
    ∃ answer, ((writeStarter t path s).perform env journal).1 =
        .ok ((Bundle.storeOne t path s.text).tree, answer) ∧
      (answer = .ok .success ↔ (Bundle.storeOne t path s.text).stopped = none) := by
  unfold writeStarter
  dsimp only
  cases stopped : (Bundle.storeOne t path s.text).stopped with
  | none => exact ⟨.ok .success, rfl, iff_of_true rfl rfl⟩
  | some error =>
      dsimp only
      split
      · exact ⟨.ok .failure, rfl, iff_of_false (by decide) nofun⟩
      · exact ⟨.error _, rfl, iff_of_false nofun nofun⟩

/-- What the command that writes a starter leaves of the files. -/
structure KeepsFiles (t : FileTree) (settings : InitSettings) (exit : Exit) (tree : FileTree) :
    Prop where
  refuses : ∀ node, t.stat (Path.ofText settings.output).text = .ok node →
    exit = .failure ∧ tree = t
  grows : exit ≠ .success → FileTree.Grows t tree
  writes : exit = .success → ∃ p,
    tree.resolve (Path.ofText settings.output).text = .ok p ∧
      FileTree.Sets t tree p settings.starter.text
  keeps : ".." ∉ (Path.ofText settings.output).parts → ∀ path content,
    t.stat path = .ok (.file content) → tree.stat path = .ok (.file content)

theorem KeepsFiles.unchanged (t : FileTree) (settings : InitSettings) :
    KeepsFiles t settings .failure t where
  refuses _ _ := ⟨rfl, rfl⟩
  grows _ := .refl t
  writes := nofun
  keeps _ _ _ there := there

/-- A file that is found by a path stands at the place that the path leads to. -/
theorem exists_resolve_of_stat {path : String} {node : Node} (there : t.stat path = .ok node) :
    ∃ p, t.resolve path = .ok p ∧ t.at? p = some node := by
  obtain ⟨p, resolved, there⟩ := bind_eq_ok_iff.mp there
  refine ⟨p, resolved, ?_⟩
  split at there
  · rename_i found
    rw [found, pure_eq_ok_iff.mp there]
  · cases there

/-- New directories leave every file where its paths find it. -/
theorem stat_of_grows {u : FileTree} (grows : FileTree.Grows t u) {path content : String}
    (there : t.stat path = .ok (.file content)) : u.stat path = .ok (.file content) := by
  obtain ⟨p, resolved, file⟩ := exists_resolve_of_stat there
  exact FileTree.stat_of_keeps grows.keeps resolved (grows.file file)

/-- A file that is written elsewhere leaves every other file where its paths find it. -/
theorem stat_of_sets {u : FileTree} {q : Place} {text : String} (sets : FileTree.Sets t u q text)
    {path content : String} (there : t.stat path = .ok (.file content))
    (elsewhere : t.resolve path ≠ .ok q) : u.stat path = .ok (.file content) := by
  obtain ⟨p, resolved, file⟩ := exists_resolve_of_stat there
  have apart : p ≠ q := by
    rintro rfl
    exact elsewhere resolved
  refine FileTree.stat_of_keeps sets.keeps resolved ?_
  rcases sets.rest p apart with same | ⟨free, -⟩
  · exact same.trans file
  · rw [file] at free
    cases free

/-- A starter is stored, or only directories are made. -/
theorem keepsFiles_storeOne (settings : InitSettings)
    (missing : ∀ node, t.stat (Path.ofText settings.output).text ≠ .ok node) {exit : Exit}
    (success : exit = .success ↔
      (Bundle.storeOne t (Path.ofText settings.output) settings.starter.text).stopped = none) :
    KeepsFiles t settings exit
      (Bundle.storeOne t (Path.ofText settings.output) settings.starter.text).tree := by
  rcases Bundle.storeOne_cases t (Path.ofText settings.output) settings.starter.text with
    ⟨e, stopped, grows⟩ | ⟨finished, u, grows, written⟩
  · refine ⟨fun node there => absurd there (missing node), fun _ => grows, fun succeeded => ?_,
      fun _ path content there => stat_of_grows grows there⟩
    rw [success.mp succeeded] at stopped
    cases stopped
  · obtain ⟨p, resolved, sets⟩ := FileTree.sets_of_writeText written
    have whole := grows.sets sets
    refine ⟨fun node there => absurd there (missing node),
      fun failed => absurd (success.mpr finished) failed,
      fun _ => ⟨p, FileTree.resolve_of_keeps sets.keeps resolved, whole⟩,
      fun forward path content there => stat_of_sets whole there fun same => ?_⟩
    obtain ⟨p', resolved', file⟩ := exists_resolve_of_stat there
    obtain rfl : p' = p := Except.ok.inj (resolved'.symm.trans same)
    obtain ⟨node, found⟩ := FileTree.exists_stat_of_resolve
      (Path.isNormal_ofText settings.output) forward resolved resolved' file
    exact missing node found

theorem keepsFiles_writeDefinition (t : FileTree) (settings : InitSettings) (env : Environment)
    (journal : Log.Journal) :
    KeepsFiles t settings
      (CommandLine.exitOf ((writeDefinition t settings).perform env journal).1)
      (t.after ((writeDefinition t settings).perform env journal).1) := by
  have written (missing : ∀ node, t.stat (Path.ofText settings.output).text ≠ .ok node) :
      KeepsFiles t settings
        (CommandLine.exitOf ((writeStarter t (Path.ofText settings.output) settings.starter).perform
          env journal).1)
        (t.after ((writeStarter t (Path.ofText settings.output) settings.starter).perform
          env journal).1) := by
    obtain ⟨answer, performed, success⟩ :=
      perform_writeStarter t (Path.ofText settings.output) settings.starter env journal
    rw [performed]
    refine keepsFiles_storeOne settings missing (Iff.trans ?_ success)
    rcases answer with e | exit
    · exact iff_of_false nofun nofun
    · exact ⟨fun same => congrArg _ same, fun same => Except.ok.inj same⟩
  unfold writeDefinition
  dsimp only
  cases found : t.stat (Path.ofText settings.output).text with
  | ok node => exact .unchanged t settings
  | error cause =>
      have missing : ∀ node, t.stat (Path.ofText settings.output).text ≠ .ok node := by
        rw [found]
        exact nofun
      cases cause with
      | nameTooLong => exact .unchanged t settings
      | _ => exact written missing

end Command

/-! ## Whole runs -/

namespace CommandLine

variable {words : List String} {level : Option String} {command : Command}

/-- What a command leaves of the files, given the status and the files it ends with. -/
def KeepsFiles (env : Environment) (t : FileTree) (exit : Exit) (tree : FileTree) : Command → Prop
  | .init settings => Command.KeepsFiles t settings exit tree
  | .validate _ _ | .render _ _ => tree = t
  | .generate definition _ _ lenient => ∀ journal e, Log.IsReady env journal →
      ((Session.ofFile t definition (!lenient) >>= Session.renderAll).perform env journal).1 =
        .error e → tree = t

/-- **What a command line leaves of the files.** -/
theorem run_frame (asks : read words = .ok (.run level command)) (columns : Nat)
    (env : Environment) (t : FileTree) :
    KeepsFiles env t (run columns env t words).exit (run columns env t words).tree command ∧
      KeepsFiles env t (runReporting columns env t words).exit
        (runReporting columns env t words).tree command := by
  have looks := run_looksLike_runReporting columns env t words
  rw [← looks.exit, ← looks.tree, and_self_iff]
  rcases performed : (command.run columns t level).perform env with ⟨x, journal⟩
  obtain ⟨exit, tree, -⟩ := run_of_perform asks performed
  obtain rfl : ((command.run columns t level).perform env).1 = x := congrArg Prod.fst performed
  rw [exit, tree]
  cases command with
  | init settings =>
      exact Command.configured (P := fun x => Command.KeepsFiles t settings (exitOf x) (t.after x))
        .out level (fun _ => .unchanged t settings) fun journal _ =>
          Command.keepsFiles_writeDefinition t settings env journal
  | validate definition format =>
      exact Command.configured (P := fun x => t.after x = t) (Command.logStream format) level
        (fun _ => rfl) fun journal _ =>
          Command.after_of_exit (Command.checkDefinition t definition format) journal
  | render artifact definition =>
      exact Command.configured (P := fun x => t.after x = t) .err level
        (fun _ => rfl) fun journal _ =>
          Command.after_of_exit (Command.printArtifact t artifact definition) journal
  | generate definition directory format lenient =>
      intro journal' e ready' failed
      exact Command.configured (P := fun x => t.after x = t) (Command.logStream format) level
        (fun _ => rfl) fun journal ready =>
          Command.after_writeArtifacts ready columns format ready' failed

/-- Without any word after it, the command for a starter refuses to replace a definition. -/
theorem run_frame_init :
    read ["init"] = .ok (.run none (.init {})) ∧
    (run 80 {} (onlyFile "mine") ["init"]).exit = .failure ∧
    (run 80 {} (onlyFile "mine") ["init"]).tree = onlyFile "mine" := by
  have asks : read ["init"] = .ok (.run none (.init {})) := by
    rw [read_command (by decide), readCommand, readWords]
    rfl
  exact ⟨asks, (run_frame asks 80 {} (onlyFile "mine")).1.refuses (.file "mine") (by rfl)⟩

/-- A path that leads through a new directory and out of it again, to a file that is there. -/
theorem run_init_overwrites :
    (onlyFile "mine").stat "pipeline.yaml" = .ok (.file "mine") ∧
    (run 80 {} (onlyFile "mine") ["init", "--output", "new/../pipeline.yaml"]).exit = .success ∧
    (run 80 {} (onlyFile "mine") ["init", "--output", "new/../pipeline.yaml"]).tree.stat
      "pipeline.yaml" ≠ .ok (.file "mine") := by
  decide +kernel

end CommandLine

end Conveyor
