import Conveyor.Proofs.Session.Rendering

/-!
# Saving the artifacts of a session

Saving renders everything before it writes anything. So a session that cannot be rendered fails
with the same failure and leaves the files as they are, and a session that is saved has written
exactly its artifacts (`save_outcome`).

Only configurations that pass the check get into a session, however the session came about
(`Reachable`); that is why no two of its artifacts have the same path.
-/

set_option autoImplicit false

namespace Conveyor

open Logged

/-! ## Work on a tree -/

namespace FileTree

variable {α : Type}

/-- The tree after work on a tree: the one that the work yields. Work that fails yields none, and
then the tree is the one from before. -/
def after (t : FileTree) : Except Failure (FileTree × Except Failure α) → FileTree
  | .ok (u, _) => u
  | .error _ => t

/-- The answer of work on a tree, whether or not it yields a tree. -/
def answer : Except Failure (FileTree × Except Failure α) → Except Failure α
  | .ok (_, a) => a
  | .error e => .error e

end FileTree

namespace Session

/-! ## Reachable sessions -/

/-- The sessions that there can be: one starts with a configuration that passed its checks, and
goes on by further stages and further renderers. -/
inductive Reachable : Session → Prop where
  | ofConfig {d : Config.Draft} {c : Config} (made : Config.ofDraft d = .ok c) (strict : Bool) :
      Reachable (Session.ofConfig c strict)
  | append {s : Session} (stage : Stage) (reachable : Reachable s) : Reachable (s.append stage)
  | register {s : Session} (name : String) (renderer : Renderer) (reachable : Reachable s) :
      Reachable { s with registry := s.registry.register name renderer }

/-- The configuration of a session passed its checks. -/
theorem Reachable.areEnvironments {s : Session} (reachable : Reachable s) :
    Config.AreEnvironments s.config.environments := by
  induction reachable with
  | ofConfig made strict => exact Config.areEnvironments_of_ofDraft made
  | append stage _ ih => exact ih
  | register name renderer _ ih => exact ih

theorem exists_draft_of_ofOptions {options : Value} {c : Config}
    (made : Config.ofOptions options = .ok c) : ∃ d, Config.ofDraft d = .ok c := by
  unfold Config.ofOptions at made
  dsimp only at made
  iterate 11
    obtain ⟨_, -, made⟩ := bind_eq_ok_iff.mp made
  exact ⟨_, made⟩

theorem Reachable.addSpecs {specs : List Value} {s s' : Session} (reachable : Reachable s)
    (added : s.addSpecs specs = .ok s') : Reachable s' := by
  induction specs generalizing s with
  | nil =>
      rw [Session.addSpecs, List.foldlM_nil, pure_eq_ok_iff] at added
      exact added ▸ reachable
  | cons spec specs ih =>
      rw [Session.addSpecs, List.foldlM_cons] at added
      obtain ⟨next, made, rest⟩ := bind_eq_ok_iff.mp added
      obtain ⟨stage, -, made⟩ := bind_eq_ok_iff.mp made
      rw [pure_eq_ok_iff] at made
      exact ih (made ▸ reachable.append stage) rest

theorem exists_draft_of_loadParts {env : Environment} {t : FileTree} {path : String}
    {journal : Log.Journal} {c : Config} {specs : List Value}
    (loaded : ((Definition.loadParts t path).perform env journal).1 = .ok (c, specs)) :
    ∃ d, Config.ofDraft d = .ok c := by
  obtain ⟨logger, _, -, loaded⟩ := perform_bind_eq_ok loaded
  obtain ⟨report, _, -, loaded⟩ := perform_bind_eq_ok loaded
  split at loaded
  · obtain ⟨⟨c', specs'⟩, _, parted, loaded⟩ := perform_bind_eq_ok loaded
    obtain ⟨_, _, -, loaded⟩ := perform_bind_eq_ok loaded
    rw [perform_pure, Except.ok.injEq, Prod.mk.injEq] at loaded
    rw [perform_lift, Prod.mk.injEq] at parted
    obtain ⟨entries, -, parted⟩ := bind_eq_ok_iff.mp parted.1
    obtain ⟨made, configured, parted⟩ := bind_eq_ok_iff.mp parted
    obtain ⟨items, -, parted⟩ := bind_eq_ok_iff.mp parted
    rw [pure_eq_ok_iff, Prod.mk.injEq] at parted
    rw [← loaded.1, ← parted.1]
    exact exists_draft_of_ofOptions configured
  · rw [perform_throw] at loaded
    cases loaded

/-- A session from a definition file is reachable. -/
theorem reachable_of_ofFile {env : Environment} {t : FileTree} {path : String} {strict : Bool}
    {journal : Log.Journal} {s : Session}
    (loaded : ((ofFile t path strict).perform env journal).1 = .ok s) : Reachable s := by
  obtain ⟨⟨c, specs⟩, later, parted, added⟩ := perform_bind_eq_ok loaded
  rw [perform_lift] at added
  obtain ⟨d, made⟩ := exists_draft_of_loadParts (congrArg Prod.fst parted)
  exact (Reachable.ofConfig made strict).addSpecs added

/-- A session that starts from options, or from a configuration that passed its checks, is
reachable. -/
theorem reachable_of_start {config : Option Config} {options : Value} {strict : Option Bool}
    {s : Session} (given : ∀ c, config = some c → ∃ d, Config.ofDraft d = .ok c)
    (started : start config options strict = .ok s) : Reachable s := by
  obtain ⟨es, -, started⟩ := bind_eq_ok_iff.mp started
  dsimp only at started
  split at started
  · cases started
  · split at started
    · obtain ⟨c, made, started⟩ := bind_eq_ok_iff.mp started
      obtain ⟨d, drafted⟩ := exists_draft_of_ofOptions made
      rw [pure_eq_ok_iff] at started
      exact started ▸ .ofConfig drafted _
    · split at started
      · cases started
      · split at started
        · obtain ⟨d, drafted⟩ := given _ rfl
          rw [pure_eq_ok_iff] at started
          exact started ▸ .ofConfig drafted _
        · cases started

/-! ## Saving -/

/-- The name of an environment is a single step of a path. -/
def IsSegment (name : String) : Prop := '/' ∉ name.toList ∧ name ≠ "." ∧ name ≠ ".."

theorem leadsOn_of_mem_artifactPaths {environments : List String}
    (filled : Config.AreEnvironments environments) (segments : ∀ e ∈ environments, IsSegment e)
    {path : String} (member : path ∈ artifactPaths environments) : Path.LeadsOn path := by
  rw [artifactPaths, List.mem_append, List.mem_flatMap] at member
  rcases member with fixed | ⟨e, known, member⟩
  · simp only [List.mem_cons, List.not_mem_nil, or_false] at fixed
    rcases fixed with rfl | rfl | rfl | rfl <;> unfold Path.LeadsOn <;> decide
  · obtain ⟨whole, noDot, noDots⟩ := segments e known
    have named := filled.filled e known
    have file (name : String) (single : Path.split name = [name]) (proper : name ≠ "" ∧ name ≠ "."
        ∧ name ≠ "..") : Path.LeadsOn ("k8s" ++ "/" ++ (e ++ "/" ++ name)) := by
      intro part member
      rw [Path.split_append_slash (by decide), Path.split_append_slash whole, single] at member
      simp only [List.mem_cons, List.not_mem_nil, or_false] at member
      rcases member with rfl | rfl | rfl
      · decide
      · exact ⟨named, noDot, noDots⟩
      · exact proper
    simp only [manifestPaths, List.mem_cons, List.not_mem_nil, or_false] at member
    rcases member with rfl | rfl
    · rw [show "k8s/" ++ e ++ "/deployment.yaml" = "k8s" ++ "/" ++ (e ++ "/" ++ "deployment.yaml")
        from String.toList_inj.mp (by simp [String.toList_append])]
      exact file "deployment.yaml" (by decide) (by decide)
    · rw [show "k8s/" ++ e ++ "/service.yaml" = "k8s" ++ "/" ++ (e ++ "/" ++ "service.yaml")
        from String.toList_inj.mp (by simp [String.toList_append])]
      exact file "service.yaml" (by decide) (by decide)

variable {env : Environment}

/-- What saving comes to, once everything is rendered. -/
def savedOf (t : FileTree) (directory : Value) (b : Bundle) :
    Except Failure (FileTree × Except Failure (List String)) := do
  let _ ← directory.display
  match directory with
  | .text path => return b.outcome t path
  | _ => throw (.wrongKind "a directory is named by a text")

theorem save_yields {s : Session} {x : Except Failure Bundle} (rendered : Yields env s.renderAll x)
    (t : FileTree) (directory : Value) :
    Yields env (s.save t directory) (x >>= savedOf t directory) := by
  unfold save savedOf
  refine .after (Log.component_yields "generator") (.bind rendered fun b _ => ?_)
  refine .bind (.lift _) fun _ _ => .after (Log.emit_yields _ _ _) ?_
  cases directory with
  | text path => exact Bundle.write_yields env t path b
  | _ => exact .throw _

theorem save_gives (standard : Log.HasStandardLevel env) {s : Session} {x : Except Failure Bundle}
    (rendered : Gives env s.renderAll x) (t : FileTree) (directory : Value) :
    Gives env (s.save t directory) (x >>= savedOf t directory) := by
  obtain ⟨y, settled⟩ := s.settled_renderAll
  have same : x = y := (rendered {}).symm.trans ((settled env).gives standard {})
  exact same ▸ (save_yields (settled env) t directory).gives standard

/-- What was saved was saved below a directory with a text for its name. -/
theorem savedOf_eq_ok {t : FileTree} {directory : Value} {b : Bundle}
    {r : FileTree × Except Failure (List String)} (saved : savedOf t directory b = .ok r) :
    ∃ path, directory = .text path ∧ b.outcome t path = r := by
  obtain ⟨_, -, saved⟩ := bind_eq_ok_iff.mp saved
  cases directory with
  | text path => exact ⟨path, rfl, pure_eq_ok_iff.mp saved⟩
  | _ => cases saved

/-- **Saving is all or nothing as far as rendering goes.** -/
theorem save_outcome (standard : Log.HasStandardLevel env) {s : Session} (reachable : Reachable s)
    (t : FileTree) (directory : Value) (journal : Log.Journal) :
    (∀ e, (s.renderAll.perform env journal).1 = .error e →
      FileTree.answer ((s.save t directory).perform env journal).1 = .error e ∧
      t.after ((s.save t directory).perform env journal).1 = t) ∧
    (∀ paths, FileTree.answer ((s.save t directory).perform env journal).1 = .ok paths →
      (∀ e ∈ s.config.environments, IsSegment e) →
      ∃ path b base, directory = .text path ∧
        (s.renderAll.perform env journal).1 = .ok b ∧
        b.length = 4 + 2 * s.config.environments.length ∧
        b.map (·.1) = artifactPaths s.config.environments ∧
        paths = b.map (fun e => ((Path.ofText path).join (.ofText e.1)).text) ∧
        (t.after ((s.save t directory).perform env journal).1).walk
          (Bundle.startOf (.ofText path)) (Path.ofText path).parts = .ok base ∧
        FileTree.Writes t (t.after ((s.save t directory).perform env journal).1)
          (b.map fun e => (Bundle.below base e.1, e.2))) := by
  obtain ⟨x, rendered⟩ := renderAll_settled standard s
  rw [rendered journal, save_gives standard rendered t directory journal]
  constructor
  · rintro e rfl
    exact ⟨rfl, rfl⟩
  · intro paths saved segments
    cases x with
    | error e => cases saved
    | ok b =>
        rw [ok_bind] at saved ⊢
        cases made : savedOf t directory b with
        | error e => rw [made] at saved; cases saved
        | ok r =>
            rw [made] at saved
            obtain ⟨path, rfl, rfl⟩ := savedOf_eq_ok made
            have environments := reachable.areEnvironments
            have named := paths_of_renderAll environments (rendered journal)
            have leadsOn : ∀ e ∈ b, Path.LeadsOn e.1 := fun e member =>
              leadsOn_of_mem_artifactPaths environments segments
                (named ▸ List.mem_map_of_mem member)
            have distinct : (b.map (·.1)).Nodup :=
              named ▸ artifactPaths_nodup environments.distinct
            have length : b.length = 4 + 2 * s.config.environments.length := by
              rw [← length_artifactPaths, ← named, List.length_map]
            have some_ : b ≠ [] := by
              rintro rfl
              rw [List.length_nil] at length
              omega
            obtain ⟨stored, listed⟩ := Bundle.stored_of_outcome saved
            obtain ⟨written, base, walked, writes⟩ := Bundle.writes_of_store
              (Path.isNormal_ofText path) stored leadsOn distinct some_
            rw [show t.after (.ok (b.outcome t path)) = (Bundle.store (.ofText path) t b).tree from
              Bundle.outcome_fst t path b]
            exact ⟨path, b, base, rfl, rfl, length, named, listed.symm.trans written, walked, writes⟩

/-- The configuration of a project with one environment and without any other option. -/
def plainConfig : Config where
  name := "app"
  repoUrl := .text ""
  branch := .text "main"
  namespaceName := .text "default"
  dockerRegistry := .text ""
  dockerfilePath := .text "./Dockerfile"
  registry := { repository := .text "app-repo" }
  environments := ["dev"]
  connectionArn := .text Config.connectionPlaceholder
  deployment := {}

theorem ofDraft_plainConfig :
    Config.ofDraft { name := .text "app", environments := .list [.text "dev"] } =
      .ok plainConfig := by
  have named : Config.checkName (.text "app") = .ok "app" := rfl
  have listed : Config.checkEnvironments [.text "dev"] = .ok ["dev"] := by cbv
  simp only [Config.ofDraft, named, Value.items, ok_bind, listed]
  rfl

/-- A working directory in which there is a Jenkinsfile already, and a file that has nothing to do
with it. -/
def writtenBefore : FileTree :=
  ⟨[(⟨.above 0, ["out"]⟩, .directory), (⟨.above 0, ["out", "Jenkinsfile"]⟩, .file "old"),
    (⟨.above 0, ["notes"]⟩, .file "mine")]⟩

/-- A session of which one stage has no steps cannot be rendered. -/
theorem renderAll_without_steps :
    (((ofConfig plainConfig).append { name := .text "idle" }).renderAll.perform {} {}).1 =
      .error (.unrenderable (.noSteps "idle")) := by
  obtain ⟨text, opened⟩ : ∃ text, Jenkinsfile.opening plainConfig = .ok text := ⟨_, rfl⟩
  have blocked : (Jenkinsfile.blocks true [{ name := .text "idle" }]).perform {} {} =
      (.error (.unrenderable (.noSteps "idle")), {}) := rfl
  show (((Jenkinsfile.render plainConfig [{ name := .text "idle" }] true) >>= _).perform
    {} {}).1 = _
  simp only [Jenkinsfile.render, opened, perform_bind, perform_lift, blocked]

/-- Saving a session of which one stage has no steps fails with the verdict on that stage and leaves
the files alone. Saving a session without stages writes six files, also over one that is there. -/
theorem save_over_written :
    Reachable ((ofConfig plainConfig).append { name := .text "idle" }) ∧
    FileTree.answer ((((ofConfig plainConfig).append { name := .text "idle" }).save writtenBefore
      (.text "out")).perform {} {}).1 = .error (.unrenderable (.noSteps "idle")) ∧
    writtenBefore.after ((((ofConfig plainConfig).append { name := .text "idle" }).save
      writtenBefore (.text "out")).perform {} {}).1 = writtenBefore ∧
    Reachable (ofConfig plainConfig) ∧ (∀ e ∈ plainConfig.environments, IsSegment e) ∧
    FileTree.answer (((ofConfig plainConfig).save writtenBefore (.text "out")).perform {} {}).1 =
      .ok ["out/Jenkinsfile", "out/aws-codepipeline.yaml", "out/buildspec.yml",
        "out/deploy-buildspec.yml", "out/k8s/dev/deployment.yaml", "out/k8s/dev/service.yaml"] ∧
    ∃ (b : Bundle) (base : Place), b.length = 6 ∧
      FileTree.Writes writtenBefore
        (writtenBefore.after
          (((ofConfig plainConfig).save writtenBefore (.text "out")).perform {} {}).1)
        (b.map fun e => (Bundle.below base e.1, e.2)) := by
  have plain : Reachable (ofConfig plainConfig) := .ofConfig ofDraft_plainConfig true
  have idle : Reachable ((ofConfig plainConfig).append { name := .text "idle" }) := .append _ plain
  have segments : ∀ e ∈ plainConfig.environments, IsSegment e := by
    intro e member
    rw [List.mem_singleton.mp member]
    exact ⟨by decide, by decide, by decide⟩
  obtain ⟨failed, left⟩ := (save_outcome Log.hasStandardLevel_nil idle writtenBefore (.text "out")
    {}).1 _ renderAll_without_steps
  have saved : FileTree.answer
      (((ofConfig plainConfig).save writtenBefore (.text "out")).perform {} {}).1 =
        .ok ["out/Jenkinsfile", "out/aws-codepipeline.yaml", "out/buildspec.yml",
          "out/deploy-buildspec.yml", "out/k8s/dev/deployment.yaml",
          "out/k8s/dev/service.yaml"] := by
    decide +kernel
  obtain ⟨_, b, base, ⟨⟩, -, length, -, -, -, writes⟩ := (save_outcome Log.hasStandardLevel_nil
    plain writtenBefore (.text "out") {}).2 _ saved segments
  exact ⟨idle, failed, left, plain, segments, saved, b, base, length, writes⟩

end Session

end Conveyor
