import Conveyor.Proofs.Command.Running
import Conveyor.Proofs.FileTree.Lasting
import Conveyor.Proofs.Session.Confinement
import Conveyor.Proofs.Session.Feasibility
import Conveyor.Proofs.Yaml.Printed

/-!
# Printed and saved artifacts

Writing all artifacts and printing one of them make the artifact from the same session. So once all
artifacts were written, each of the four files of the project can be printed, and what is printed is
the text of the file, but for the control sequences in it (`run_render_of_generate`).

Nothing that is written as YAML holds the character that begins a control sequence. A Jenkinsfile
may hold it, and then it is printed differently (`run_render_colored`).
-/

set_option autoImplicit false

namespace Conveyor

open Logged Definition

/-! ## Control sequences -/

namespace Terminal

/-- Whether a control sequence begins somewhere in a text. -/
def hasSequence : List Char → Bool
  | [] => false
  | c :: rest => c = escape && (afterSequence? rest).isSome || hasSequence rest

theorem length_withoutSequences_le (s : List Char) : (withoutSequences s).length ≤ s.length := by
  induction s using withoutSequences.induct with
  | case1 => simp [withoutSequences]
  | case2 rest after found ih =>
      have shorter := length_of_afterSequence? found
      rw [withoutSequences, if_pos rfl, found]
      dsimp only
      rw [List.length_cons]
      omega
  | case3 rest missing ih =>
      rw [withoutSequences, if_pos rfl, missing]
      exact Nat.succ_le_succ ih
  | case4 c rest other ih =>
      rw [withoutSequences, if_neg other]
      exact Nat.succ_le_succ ih

/-- A text stays as it is exactly if no control sequence begins in it. -/
theorem withoutSequences_eq_self_iff {s : List Char} :
    withoutSequences s = s ↔ hasSequence s = false := by
  induction s with
  | nil => simp [withoutSequences, hasSequence]
  | cons c rest ih =>
      rw [withoutSequences, hasSequence]
      by_cases begins : c = escape
      · rw [if_pos begins]
        cases found : afterSequence? rest with
        | none => simpa using ih
        | some after =>
            refine iff_of_false (fun same => ?_) (by simp [begins])
            have shorter := length_of_afterSequence? found
            have whole := length_withoutSequences_le after
            dsimp only at same
            rw [same, List.length_cons] at whole
            omega
      · rw [if_neg begins]
        simpa [begins] using ih

theorem unstyled_eq_self_iff {s : String} : unstyled s = s ↔ hasSequence s.toList = false := by
  rw [unstyled, ← withoutSequences_eq_self_iff, ← String.toList_inj, String.toList_ofList]

/-- A control sequence stays one in a longer text. -/
theorem hasSequence_append {s t : List Char}
    (there : hasSequence s = true ∨ hasSequence t = true) : hasSequence (s ++ t) = true := by
  have longer {rest : List Char} (begins : (afterSequence? rest).isSome = true) :
      (afterSequence? (rest ++ t)).isSome = true := by
    unfold afterSequence? at begins
    split at begins
    · rename_i inner
      split at begins
      · rename_i c after found
        have further : (inner ++ t).dropWhile isParameter = c :: (after ++ t) := by
          simp [List.dropWhile_append, found]
        rw [List.cons_append]
        simpa [afterSequence?, further] using begins
      · cases begins
    · cases begins
  induction s with
  | nil => simpa [hasSequence] using there
  | cons c rest ih =>
      rw [List.cons_append, hasSequence, Bool.or_eq_true]
      rcases there with here | there
      · rw [hasSequence, Bool.or_eq_true, Bool.and_eq_true] at here
        rcases here with ⟨begins, some_⟩ | inside
        · exact .inl (by rw [begins, longer some_]; rfl)
        · exact .inr (ih (.inl inside))
      · exact .inr (ih (.inr there))

theorem hasSequence_of_not_mem {s : List Char} (absent : escape ∉ s) : hasSequence s = false := by
  induction s with
  | nil => rfl
  | cons c rest ih =>
      obtain ⟨other, absent⟩ := not_or.mp (mt List.mem_cons.mpr absent)
      simp [hasSequence, Ne.symm other, ih absent]

/-- Nothing that is written as YAML holds the character that begins a control sequence. -/
theorem hasSequence_of_print {v : Value} {text : String} (printed : Yaml.print v = .ok text) :
    hasSequence text.toList = false :=
  hasSequence_of_not_mem fun there =>
    absurd (List.all_eq_true.mp (Yaml.all_isPrinted_of_print printed) escape there) (by decide)

end Terminal

namespace Session

variable {s : Session} {f : ProjectFiles}

/-! ## The artifacts of a project by their names -/

/-- The artifacts that can be printed: the name, the path of the file and the content. -/
def ProjectFiles.artifacts (f : ProjectFiles) : List (String × String × String) :=
  [("jenkinsfile", "Jenkinsfile", f.jenkinsfile),
    ("codepipeline", "aws-codepipeline.yaml", f.templateText),
    ("buildspec", "buildspec.yml", f.image), ("deploy-buildspec", "deploy-buildspec.yml", f.deploy)]

/-- Only a Jenkinsfile can hold a control sequence. -/
theorem Renders.hasSequence_eq_false (renders : s.Renders f) {artifact file content : String}
    (known : (artifact, file, content) ∈ f.artifacts) (other : artifact ≠ "jenkinsfile") :
    Terminal.hasSequence content.toList = false := by
  obtain ⟨image, -, imagePrinted⟩ := bind_eq_ok_iff.mp renders.image
  obtain ⟨deploy, -, deployPrinted⟩ := bind_eq_ok_iff.mp renders.deploy
  simp only [ProjectFiles.artifacts, List.mem_cons, Prod.mk.injEq, List.not_mem_nil, or_false]
    at known
  rcases known with ⟨rfl, -, -⟩ | ⟨-, -, rfl⟩ | ⟨-, -, rfl⟩ | ⟨-, -, rfl⟩
  · exact absurd rfl other
  · exact Terminal.hasSequence_of_print renders.templateText
  · exact Terminal.hasSequence_of_print imagePrinted
  · exact Terminal.hasSequence_of_print deployPrinted

/-- A Jenkinsfile shows the branch of its project, with the control sequences in it. -/
theorem Renders.hasSequence_jenkinsfile (renders : s.Renders f) {branch : String}
    (named : s.config.branch = .text branch) (colored : Terminal.hasSequence branch.toList = true) :
    Terminal.hasSequence f.jenkinsfile.toList = true := by
  have rendered := (renders.jenkinsfile {} {} (.inr Log.hasStandardLevel_nil)).1
  obtain ⟨start, later, opened, rendered⟩ := perform_bind_eq_ok rendered
  obtain ⟨blocks, _, -, rendered⟩ := perform_bind_eq_ok rendered
  rw [perform_pure, Except.ok.injEq] at rendered
  rw [perform_lift, Prod.mk.injEq] at opened
  have begins : Terminal.hasSequence start.toList = true := by
    obtain ⟨registry, -, opened⟩ := bind_eq_ok_iff.mp opened.1
    obtain ⟨namespaceName, -, opened⟩ := bind_eq_ok_iff.mp opened
    rw [named] at opened
    obtain ⟨shown, same, opened⟩ := bind_eq_ok_iff.mp opened
    obtain rfl : branch = shown := Except.ok.inj same
    rw [← pure_eq_ok_iff.mp opened, String.toList_append, String.toList_append]
    exact Terminal.hasSequence_append (.inl (Terminal.hasSequence_append (.inr colored)))
  rw [← rendered, String.toList_append, String.toList_append, String.toList_append]
  exact Terminal.hasSequence_append (.inl (Terminal.hasSequence_append (.inl
    (Terminal.hasSequence_append (.inl begins)))))

/-- A mapping is written to be printed. -/
theorem artifactText_of_isMap {v : Value} (isMap : ∃ es, v = .map es) {text : String}
    (printed : Yaml.print v = .ok text) : Command.artifactText v = .ok text := by
  obtain ⟨es, rfl⟩ := isMap
  exact printed

theorem isMap_of_image {c : Config} {v : Value} (made : BuildSpec.image c = .ok v) :
    ∃ es, v = .map es := by
  unfold BuildSpec.image at made
  iterate 5
    obtain ⟨_, -, made⟩ := bind_eq_ok_iff.mp made
  exact ⟨_, (pure_eq_ok_iff.mp made).symm⟩

theorem isMap_of_deploy {c : Config} {v : Value} (made : BuildSpec.deploy c = .ok v) :
    ∃ es, v = .map es := by
  obtain ⟨_, -, made⟩ := bind_eq_ok_iff.mp made
  exact ⟨_, (pure_eq_ok_iff.mp made).symm⟩

/-- Only a mapping has anything below it. -/
theorem isMap_of_below {v found : Value} {key : String} {keys : List String}
    (below : v.below? (key :: keys) = some found) : ∃ es, v = .map es := by
  cases v <;> first | exact ⟨_, rfl⟩ | cases below

/-- A session renders what the renderer that is found in the registry makes. -/
theorem render_yields (builtin : s.registry = .builtin) {artifact : String} (renderer : Renderer)
    (found : Registry.builtin.get artifact = .ok renderer) {v : Value}
    (made : ∀ env, Yields env (renderer.run s.strict s.config s.stages) (.ok v))
    (env : Environment) : Yields env (s.render artifact) (.ok v) := by
  unfold Session.render
  rw [builtin, found]
  exact .after (.lift _) (made env)

/-- The registry makes an artifact whose text is the content of the file. -/
theorem Renders.render (renders : s.Renders f) (builtin : s.registry = .builtin)
    {artifact file content : String} (known : (artifact, file, content) ∈ f.artifacts) :
    Registry.builtin.names.contains artifact = true ∧
      ∃ v, (∀ env, Yields env (s.render artifact) (.ok v)) ∧
        Command.artifactText v = .ok content := by
  obtain ⟨image, imageMade, imagePrinted⟩ := bind_eq_ok_iff.mp renders.image
  obtain ⟨deploy, deployMade, deployPrinted⟩ := bind_eq_ok_iff.mp renders.deploy
  simp only [ProjectFiles.artifacts, List.mem_cons, Prod.mk.injEq, List.not_mem_nil, or_false]
    at known
  rcases known with ⟨rfl, -, rfl⟩ | ⟨rfl, -, rfl⟩ | ⟨rfl, -, rfl⟩ | ⟨rfl, -, rfl⟩
  · have made (env : Environment) := (renders.jenkinsfile env).map Value.text
    exact ⟨by decide, _, render_yields builtin .jenkinsfile rfl made, rfl⟩
  · have text := artifactText_of_isMap (isMap_of_below renders.carriesImage) renders.templateText
    exact ⟨by decide, _, render_yields builtin .codepipeline rfl renders.template, text⟩
  · have made (env : Environment) : Yields env (liftM (BuildSpec.image s.config) : Logged Value)
        (.ok image) := .congr (.lift _) imageMade
    exact ⟨by decide, _, render_yields builtin .buildspec rfl made,
      artifactText_of_isMap (isMap_of_image imageMade) imagePrinted⟩
  · have made (env : Environment) : Yields env (liftM (BuildSpec.deploy s.config) : Logged Value)
        (.ok deploy) := .congr (.lift _) deployMade
    exact ⟨by decide, _, render_yields builtin .deployBuildspec rfl made,
      artifactText_of_isMap (isMap_of_deploy deployMade) deployPrinted⟩

/-! ## Saved artifacts -/

theorem hasName_of_mem_manifestPaths {environment path name : String}
    (member : path ∈ manifestPaths environment)
    (other : name ∉ ["deployment.yaml", "service.yaml"]) :
    ∃ last, Bundle.HasName path last ∧ last ≠ name := by
  obtain ⟨file, known, parts⟩ := parts_of_mem_manifestPaths member
  refine ⟨file, ⟨?_, ⟨_, parts⟩, forward_of_mem_manifestNames known⟩,
    ne_of_mem_of_not_mem known other⟩
  exact Path.root_ofText (by rw [head?_of_mem_manifestPaths member]; decide)

/-- The paths of the files of a project. -/
def projectPaths : List String :=
  ["Jenkinsfile", "aws-codepipeline.yaml", "buildspec.yml", "deploy-buildspec.yml"]

theorem hasName_of_mem_projectPaths {path : String} (member : path ∈ projectPaths) :
    Bundle.HasName path path := by
  simp only [projectPaths, List.mem_cons, List.not_mem_nil, or_false] at member
  rcases member with rfl | rfl | rfl | rfl <;> exact ⟨by decide, ⟨[], by decide⟩, by decide⟩

theorem not_mem_of_mem_projectPaths {path : String} (member : path ∈ projectPaths) :
    path ∉ ["deployment.yaml", "service.yaml"] := by
  revert path
  decide

/-- A file of the project that stands among the files of a bundle keeps its content: what is stored
after it are other files of the project and manifests, which have other names. -/
theorem stat_of_store_project {root : Path} (normal : root.IsNormal) {t : FileTree} {b : Bundle}
    (stored : (Bundle.store root t b).stopped = none) {path content : String}
    (project : path ∈ projectPaths) (before fixed : Bundle) {deployment service : String}
    {environments : List String}
    (split : b = before ++ (path, content) :: (fixed ++ manifests deployment service environments))
    (others : ∀ e ∈ fixed, e.1 ∈ projectPaths ∧ e.1 ≠ path) :
    (Bundle.store root t b).tree.stat (root.join (.ofText path)).text = .ok (.file content) := by
  subst split
  refine Bundle.stat_of_store normal (hasName_of_mem_projectPaths project) (fun e member => ?_)
    stored
  rcases List.mem_append.mp member with here | there
  · exact ⟨e.1, hasName_of_mem_projectPaths (others e here).1, (others e here).2⟩
  · obtain ⟨environment, -, there⟩ := List.mem_flatMap.mp there
    exact hasName_of_mem_manifestPaths (List.mem_map_of_mem (f := Prod.fst) there)
      (not_mem_of_mem_projectPaths project)

/-- The files of a project keep their contents when all artifacts are stored. -/
theorem ProjectFiles.stat_of_store (f : ProjectFiles) {deployment service : String}
    {environments : List String} {root : Path} (normal : root.IsNormal) {t : FileTree}
    {b : Bundle} (rows : b = f.rows deployment service environments)
    (stored : (Bundle.store root t b).stopped = none)
    {artifact file content : String} (known : (artifact, file, content) ∈ f.artifacts) :
    (Bundle.store root t b).tree.stat (root.join (.ofText file)).text = .ok (.file content) := by
  simp only [ProjectFiles.artifacts, List.mem_cons, Prod.mk.injEq, List.not_mem_nil, or_false]
    at known
  rcases known with ⟨-, rfl, rfl⟩ | ⟨-, rfl, rfl⟩ | ⟨-, rfl, rfl⟩ | ⟨-, rfl, rfl⟩
  · exact stat_of_store_project normal stored (by decide) []
      [("aws-codepipeline.yaml", f.templateText), ("buildspec.yml", f.image),
        ("deploy-buildspec.yml", f.deploy)] rows (by simp [projectPaths])
  · exact stat_of_store_project normal stored (by decide) [("Jenkinsfile", f.jenkinsfile)]
      [("buildspec.yml", f.image), ("deploy-buildspec.yml", f.deploy)] rows (by simp [projectPaths])
  · exact stat_of_store_project normal stored (by decide)
      [("Jenkinsfile", f.jenkinsfile), ("aws-codepipeline.yaml", f.templateText)]
      [("deploy-buildspec.yml", f.deploy)] rows (by simp [projectPaths])
  · exact stat_of_store_project normal stored (by decide)
      [("Jenkinsfile", f.jenkinsfile), ("aws-codepipeline.yaml", f.templateText),
        ("buildspec.yml", f.image)] [] rows (by simp)

end Session

namespace Command

variable {env : Environment} {journal : Log.Journal} {t : FileTree} {definition : String}

/-! ## Printing one artifact -/

/-- An artifact is printed without its control sequences, and nothing else is shown beside it. -/
theorem perform_printArtifact (ready : Log.IsReady env journal) (quiet : journal.hierarchy.IsQuiet)
    {s : Session} {f : Session.ProjectFiles} (made : Session.opened env t definition true = .ok s)
    (builtin : s.registry = .builtin) (renders : s.Renders f) {artifact file content : String}
    (known : (artifact, file, content) ∈ f.artifacts) :
    ∃ later, (printArtifact t artifact definition).perform env journal = (.ok .success, later) ∧
      later.output = journal.output ++ [.text (Terminal.unstyled content)] := by
  obtain ⟨registered, v, rendered, written⟩ := renders.render builtin known
  have work : Yields env (Session.ofFile t definition true >>= (·.render artifact)) (.ok v) :=
    .after (.congr (Session.ofFile_yields env t definition true) made) (rendered env)
  obtain ⟨result, leaves⟩ := work journal ready
  obtain ⟨-, same⟩ := leaves.quiet quiet
  unfold printArtifact
  rw [if_pos registered]
  dsimp only
  rw [perform_bind, perform_attempt, result]
  dsimp only
  rw [perform_bind, perform_lift, written]
  refine ⟨_, rfl, ?_⟩
  rw [← same, Log.Journal.output, List.filter_append, List.map_append]
  rfl

/-! ## Writing all artifacts -/

/-- What stopped the writing of artifacts is never taken for success. -/
theorem perform_explain_ne (logger directory : String) (failure : Failure) (journal : Log.Journal) :
    ((explain logger directory failure).perform env journal).1 ≠ .ok (.ok .success) := by
  have failed : (Except.ok (Except.ok Exit.failure) : Except Failure (Except Failure Exit)) ≠
      .ok (.ok .success) := by decide
  unfold explain
  split
  · exact failed
  · split
    · exact failed
    · simp

/-- Saving the artifacts of a definition fails, or it stores what its session renders. -/
theorem saveAll_outcome (env : Environment) (t : FileTree) (definition directory : String)
    (lenient : Bool) :
    (∃ e, Yields env (saveAll t definition directory lenient) (.error e)) ∨
      ∃ s b, Session.opened env t definition (!lenient) = .ok s ∧
        (∀ env, Yields env s.renderAll (.ok b)) ∧
        Yields env (saveAll t definition directory lenient) (.ok (s, b.outcome t directory)) := by
  have opens := Session.ofFile_yields env t definition (!lenient)
  unfold saveAll
  cases made : Session.opened env t definition (!lenient) with
  | error e =>
      rw [made] at opens
      exact .inl ⟨e, opens.bind (y := fun _ => .error e) nofun⟩
  | ok s =>
      rw [made] at opens
      obtain ⟨rendered, settled⟩ := s.settled_renderAll
      have saved := Session.save_yields (settled env) t (.text directory)
      cases rendered with
      | error e =>
          exact .inl ⟨e, .after opens (saved.bind (y := fun _ => .error e) nofun)⟩
      | ok b => exact .inr ⟨s, b, rfl, settled, .after opens (.after saved (.pure _))⟩

/-- Where writing all artifacts ends with success, they were all rendered and stored. -/
theorem exists_of_writeArtifacts {columns : Nat} {directory : String} {format : Format}
    {lenient : Bool} {tree : FileTree} (ready : Log.IsReady env journal)
    (performed : ((writeArtifacts columns t definition directory format lenient).perform env
      journal).1 = .ok (tree, .ok .success)) :
    ∃ s b, Session.opened env t definition (!lenient) = .ok s ∧
      (∀ env, Yields env s.renderAll (.ok b)) ∧
      (Bundle.store (.ofText directory) t b).stopped = none ∧
      tree = (Bundle.store (.ofText directory) t b).tree := by
  obtain ⟨logger, later, named, performed⟩ := perform_bind_eq_ok performed
  have component : Yields env (Log.component "generate") _ := Log.component_yields "generate"
  have leaves := (component journal ready).2
  rw [named] at leaves
  have ready' : Log.IsReady env later := leaves.isReady ready
  rw [perform_bind, perform_attempt] at performed
  dsimp only at performed
  have explained (u : FileTree) (failure : Failure) {later : Log.Journal}
      (performed : ((explain logger directory failure >>= fun answer =>
        pure (u, answer)).perform env later).1 = .ok (tree, .ok .success)) : False := by
    obtain ⟨answer, _, explained, answered⟩ := perform_bind_eq_ok performed
    rw [perform_pure, Except.ok.injEq, Prod.mk.injEq] at answered
    exact perform_explain_ne logger directory failure later
      ((congrArg Prod.fst explained).trans (by rw [answered.2]))
  rcases saveAll_outcome env t definition directory lenient with ⟨e, failed⟩ |
    ⟨s, b, made, rendered, saved⟩
  · rw [(failed later ready').1] at performed
    exact (explained t e performed).elim
  · rw [(saved later ready').1] at performed
    cases listed : (b.outcome t directory).2 with
    | error e =>
        rw [show b.outcome t directory = ((b.outcome t directory).1, .error e) from
          Prod.ext rfl listed] at performed
        exact (explained _ e performed).elim
    | ok paths =>
        obtain ⟨stored, -⟩ := Bundle.stored_of_outcome listed
        rw [show b.outcome t directory = ((b.outcome t directory).1, .ok paths) from
          Prod.ext rfl listed] at performed
        obtain ⟨answer, _, -, answered⟩ := perform_bind_eq_ok performed
        rw [perform_pure, Except.ok.injEq, Prod.mk.injEq] at answered
        exact ⟨s, b, made, rendered, stored,
          answered.1.symm.trans (Bundle.outcome_fst t directory b)⟩

end Command

/-! ## Whole runs -/

theorem Log.Journal.textOf_out (time : String) (j : Log.Journal) :
    j.textOf time .out = String.join (j.output.map (·.render time)) := by
  rw [textOf, output, List.map_map]
  rfl

namespace Session

/-- The session for a definition depends only on what its path leads to. -/
theorem opened_congr {t u : FileTree} {path : String} (same : u.stat path = t.stat path)
    (env : Environment) (strict : Bool) : opened env u path strict = opened env t path strict := by
  have loads : loaded env u path = loaded env t path := by
    unfold loaded FileTree.exists? FileTree.readText
    rw [same]
  unfold opened readResult
  rw [loads]

end Session

namespace CommandLine

variable {env : Environment} {level : Option String} {definition directory : String}
  {format : Format}

/-- The words that ask for an artifact are read, whatever its name and the path are. -/
theorem read_render (level : String) {artifact : String}
    (plain : Word.ofText renderSwitches artifact = .ok .other) (definition : String) :
    read ["--log-level", level, "render", artifact, "--config", definition] =
      .ok (.run (some level) (.render artifact definition)) := by
  have options : scan renderSwitches true [artifact, "--config", definition] = _ :=
    scan_other plain (scan_pending
      (by decide : Word.ofText renderSwitches "--config" = .ok (.pending .config)) rfl definition)
  rw [read_leveled (by decide), readCommand, readWords, options]
  rfl

/-- The words that ask for all artifacts are read, whatever the values of the options are. -/
theorem read_generate (level definition directory output : String) :
    read ["--log-level", level, "generate", "--config", definition, "--output-dir", directory,
      "--output", output] =
      .ok (.run (some level) (.generate definition directory (.ofName output) false)) := by
  have options : scan generateSwitches true ["--config", definition, "--output-dir", directory,
      "--output", output] = _ :=
    scan_pending (by decide : Word.ofText generateSwitches "--config" = .ok (.pending .config))
      (scan_pending
        (by decide : Word.ofText generateSwitches "--output-dir" = .ok (.pending .outputDirectory))
        (scan_pending (by decide : Word.ofText generateSwitches "--output" = .ok (.pending .output))
          rfl output) directory) definition
  rw [read_leveled (by decide), readCommand, readWords, options]
  rfl

/-- A run that ends with success after all artifacts were written. -/
theorem exists_of_run_generate {words : List String} {lenient : Bool}
    (asks : read words = .ok (.run level (.generate definition directory format lenient)))
    {columns : Nat} {t : FileTree} (generated : (run columns env t words).exit = .success) :
    ∃ s b, Session.opened env t definition (!lenient) = .ok s ∧
      (∀ env, Yields env s.renderAll (.ok b)) ∧
      (Bundle.store (.ofText directory) t b).stopped = none ∧
      (run columns env t words).tree = (Bundle.store (.ofText directory) t b).tree := by
  rw [run, asks] at generated ⊢
  dsimp only at generated ⊢
  rw [perform] at generated ⊢
  split at generated
  · rename_i tree exit journal performed
    dsimp only at generated
    subst generated
    obtain ⟨⟨⟩, later, configured, performed⟩ :=
      perform_bind_eq_ok (congrArg Prod.fst performed)
    obtain ⟨journal', configured', fresh⟩ := Command.perform_configureLogging
      (Command.isInForce_of_configureLogging configured) (Command.logStream format)
    rw [configured] at configured'
    obtain rfl := congrArg Prod.snd configured'
    exact Command.exists_of_writeArtifacts fresh.ready performed
  · cases generated
  · cases generated

/-- A run that prints an artifact of a session ends with success. -/
theorem run_render {words : List String} {artifact file content : String} {t : FileTree}
    (asks : read words = .ok (.run level (.render artifact definition)))
    (standard : Log.IsInForce env level) (columns : Nat) {s : Session} {f : Session.ProjectFiles}
    (made : Session.opened env t definition true = .ok s) (builtin : s.registry = .builtin)
    (renders : s.Renders f) (known : (artifact, file, content) ∈ f.artifacts) :
    ∃ journal, run columns env t words = { exit := .success, tree := t, journal } ∧
      ∀ time, journal.textOf time .out = Terminal.unstyled content := by
  obtain ⟨journal, configured, fresh⟩ := Command.perform_configureLogging standard .err
  obtain ⟨later, printed, shown⟩ := Command.perform_printArtifact fresh.ready (fresh.quiet rfl)
    made builtin renders known
  refine ⟨later, ?_, fun time => ?_⟩
  · rw [run, asks]
    dsimp only
    rw [perform, Command.run, perform_bind, configured]
    dsimp only
    rw [perform_bind, printed]
    rfl
  · rw [Log.Journal.textOf_out, shown, Log.Journal.output, fresh.shown]
    rfl

/-- The bundle of a session from a definition consists of the files of its project and of
manifests. -/
theorem exists_rows_of_renderAll {t : FileTree} {s : Session} {b : Bundle}
    (made : Session.opened env t definition true = .ok s)
    (rendered : ∀ env, Yields env s.renderAll (.ok b)) :
    s.registry = .builtin ∧ ∃ f deployment service, s.Renders f ∧
      b = f.rows deployment service s.config.environments := by
  obtain ⟨s', made', isOpened⟩ : ∃ s, Session.opened env t definition true = .ok s ∧
      Session.IsOpened env t definition true s := by
    rcases Session.opened_outcome env t definition true with ⟨e, failed, -⟩ | opens
    · rw [made] at failed
      cases failed
    · exact opens
  rw [made, Except.ok.injEq] at made'
  subst made'
  have typed := isOpened.isTyped
  obtain ⟨es, items, -, passed, -⟩ := isOpened.passed
  obtain ⟨d, drafted⟩ := Session.exists_draft_of_ofOptions passed.config
  have environments := Config.areEnvironments_of_ofDraft drafted
  have ready : Log.IsReady {} {} := .inr Log.hasStandardLevel_nil
  have bundle := (rendered {} {} ready).1
  obtain ⟨⟨text, written⟩, -⟩ := (Session.exists_renderAll_iff typed ready).mp ⟨b, bundle⟩
  obtain ⟨result, settled⟩ := Jenkinsfile.render_settled s.config s.stages s.strict
  obtain rfl : result = .ok text := (settled {} {} ready).1.symm.trans written
  obtain ⟨f, renders, -⟩ := Session.exists_renders typed settled
  obtain ⟨service, deployment, -, yields⟩ := renders.renderAll typed
  rw [(yields {} {} ready).1] at bundle
  obtain ⟨deploymentText, -, same⟩ := bind_eq_ok_iff.mp bundle
  refine ⟨isOpened.registry, f, deploymentText, service, renders, ?_⟩
  have paths : (f.rows deploymentText service s.config.environments).map (·.1) =
      artifactPaths s.config.environments := by
    rw [Session.ProjectFiles.rows, List.map_append, Session.manifests, List.map_flatMap]
    rfl
  rw [← Except.ok.inj same,
    Bundle.ofRows_eq_self (paths ▸ artifactPaths_nodup environments.distinct)]

/-- Once all artifacts of a definition were written, its session renders the files of its project,
which hold what was rendered. -/
theorem exists_saved_of_run_generate {words : List String}
    (asks : read words = .ok (.run level (.generate definition directory format false)))
    {columns : Nat} {t : FileTree} (generated : (run columns env t words).exit = .success) :
    ∃ s f, Session.opened env t definition true = .ok s ∧ s.registry = .builtin ∧ s.Renders f ∧
      ∀ artifact file content, (artifact, file, content) ∈ f.artifacts →
        (run columns env t words).tree.stat ((Path.ofText directory).join (.ofText file)).text =
          .ok (.file content) := by
  obtain ⟨s, b, made, rendered, stored, tree⟩ := exists_of_run_generate asks generated
  obtain ⟨builtin, f, deployment, service, renders, rows⟩ := exists_rows_of_renderAll made rendered
  refine ⟨s, f, made, builtin, renders, fun artifact file content known => ?_⟩
  rw [tree]
  exact f.stat_of_store (Path.isNormal_ofText directory) rows stored known

/-- **What is printed is what was saved, but for control sequences.** -/
theorem run_render_of_generate {words : List String}
    (asks : read words = .ok (.run level (.generate definition directory format false)))
    {columns : Nat} {t : FileTree} (generated : (run columns env t words).exit = .success) :
    ∃ f : Session.ProjectFiles,
      (∀ journal, Log.IsReady env journal →
        ((Session.ofFile t definition true >>= (·.render "codepipeline")).perform env journal).1 =
          .ok f.template) ∧
      Yaml.print f.template = .ok f.templateText ∧
      f.template.below? (CloudTemplate.specPath "DockerBuildProject") = some (.text f.image) ∧
      f.template.below? (CloudTemplate.specPath "KubernetesDeployProject") =
        some (.text f.deploy) ∧
      ∀ artifact file content, (artifact, file, content) ∈ f.artifacts →
        (run columns env t words).tree.stat ((Path.ofText directory).join (.ofText file)).text =
          .ok (.file content) ∧
        (artifact ≠ "jenkinsfile" → Terminal.hasSequence content.toList = false) ∧
        ∀ columns' u words' level', u.stat definition = t.stat definition →
          read words' = .ok (.run level' (.render artifact definition)) →
          Log.IsInForce env level' →
          (run columns' env u words').exit = .success ∧
          (run columns' env u words').unhandled = none ∧
          ∀ time,
            (run columns' env u words').journal.textOf time .out = Terminal.unstyled content ∧
            ((run columns' env u words').journal.textOf time .out = content ↔
              Terminal.hasSequence content.toList = false) := by
  obtain ⟨s, f, made, builtin, renders, saved⟩ := exists_saved_of_run_generate asks generated
  have work : Yields env (Session.ofFile t definition true >>= (·.render "codepipeline"))
      (.ok f.template) :=
    .after (.congr (Session.ofFile_yields env t definition true) made)
      (Session.render_yields builtin .codepipeline rfl renders.template env)
  refine ⟨f, fun journal ready => (work journal ready).1, renders.templateText,
    renders.carriesImage, renders.carriesDeploy, fun artifact file content known =>
      ⟨saved artifact file content known, renders.hasSequence_eq_false known, ?_⟩⟩
  intro columns' u words' level' same asks' standard
  obtain ⟨journal, ended, shown⟩ := run_render asks' standard columns'
    ((Session.opened_congr same env true).trans made) builtin renders known
  rw [ended]
  refine ⟨rfl, rfl, fun time => ⟨shown time, ?_⟩⟩
  rw [shown time, Terminal.unstyled_eq_self_iff]

/-- The words that ask for all artifacts in a directory. -/
def generating : List String :=
  ["--log-level", "info", "generate", "--config", "pipeline.yaml", "--output-dir", "out",
    "--output", "json"]

/-- A definition that names the project and one environment. -/
def plainProject : FileTree := onlyFile "projectName: app\nenvironments: [dev]\n"

/-- The artifacts of such a definition are written, and the specification of its image is
printed. -/
theorem run_render_of_generate_plain :
    (run 80 {} plainProject generating).exit = .success ∧
    ∃ content,
      (run 80 {} plainProject generating).tree.stat "out/buildspec.yml" = .ok (.file content) ∧
      (run 80 {} plainProject ["--log-level", "debug", "render", "buildspec", "--config",
        "pipeline.yaml"]).journal.textOf "" .out = content := by
  have generated : (run 80 {} plainProject generating).exit = .success := by decide +kernel
  have standard : Log.IsInForce {} (some "debug") := by
    unfold Log.IsInForce
    decide
  have path : ((Path.ofText "out").join (.ofText "buildspec.yml")).text = "out/buildspec.yml" := by
    decide
  obtain ⟨f, -, -, -, -, each⟩ :=
    run_render_of_generate (read_generate "info" "pipeline.yaml" "out" "json") generated
  obtain ⟨saved, clean, prints⟩ := each "buildspec" "buildspec.yml" f.image
    (by simp [Session.ProjectFiles.artifacts])
  obtain ⟨-, -, shown⟩ :=
    prints 80 plainProject _ _ rfl (read_render "debug" (by decide) "pipeline.yaml") standard
  rw [path] at saved
  exact ⟨generated, f.image, saved, (shown "").2.mpr (clean (by decide))⟩

/-- A definition whose branch begins with a control sequence. -/
def coloredBranch : FileTree := onlyFile "branch: \"\\e[0m\"\nenvironments: [dev]\n"

/-- The branch of a session that was opened, if it is a text. -/
def branchOf? : Except Failure Session → Option String
  | .ok { config := { branch := .text branch, .. }, .. } => some branch
  | _ => none

theorem branch_of_branchOf? {s : Session} {branch : String}
    (found : branchOf? (.ok s) = some branch) :
    s.config.branch = .text branch := by
  unfold branchOf? at found
  split at found
  · rename_i opened
    cases opened
    rw [Option.some.inj found]
  · cases found

/-- A Jenkinsfile that is printed differently from how it was saved. -/
theorem run_render_colored :
    (run 80 {} coloredBranch generating).exit = .success ∧
    ∃ content,
      (run 80 {} coloredBranch generating).tree.stat "out/Jenkinsfile" = .ok (.file content) ∧
      ∀ time, (run 80 {} coloredBranch ["--log-level", "info", "render", "jenkinsfile", "--config",
        "pipeline.yaml"]).journal.textOf time .out ≠ content := by
  have generated : (run 80 {} coloredBranch generating).exit = .success := by decide +kernel
  have branch : branchOf? (Session.opened {} coloredBranch "pipeline.yaml" true) =
      some "\x1b[0m" := by decide +kernel
  have standard : Log.IsInForce {} (some "info") := by
    unfold Log.IsInForce
    decide
  have path : ((Path.ofText "out").join (.ofText "Jenkinsfile")).text = "out/Jenkinsfile" := by
    decide
  obtain ⟨s, f, made, builtin, renders, saved⟩ := exists_saved_of_run_generate
    (read_generate "info" "pipeline.yaml" "out" "json") generated
  have known : ("jenkinsfile", "Jenkinsfile", f.jenkinsfile) ∈ f.artifacts := by
    simp [Session.ProjectFiles.artifacts]
  obtain ⟨journal, ended, shown⟩ := run_render (read_render "info" (by decide) "pipeline.yaml")
    standard 80 made builtin renders known
  have there := saved _ _ _ known
  rw [path] at there
  rw [made] at branch
  refine ⟨generated, f.jenkinsfile, there, fun time same => ?_⟩
  rw [ended, shown time, Terminal.unstyled_eq_self_iff,
    renders.hasSequence_jenkinsfile (branch_of_branchOf? branch) (by decide)] at same
  cases same

end CommandLine

end Conveyor
