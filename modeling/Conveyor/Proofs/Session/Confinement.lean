import Conveyor.Proofs.FileTree.Confinement
import Conveyor.Proofs.Session.Saving

/-!
# Where the artifacts of a session are saved

The paths of the artifacts hold the names of the environments, and a name may lead up. Every file
that is new after a session was saved stands where the path of an artifact leads from the directory
of the artifacts. That is below this directory for the artifacts of the project, and for those of
every environment whose name does not lead out of it again (`new_of_save`). There are environments
whose names do (`not_confined_climbing`).
-/

set_option autoImplicit false

namespace Conveyor

open Logged

namespace Session

/-- The names in the name of an environment, followed from the directory of all environments, never
lead above the directory of the artifacts. -/
def StaysInside (environment : String) : Prop :=
  (FileTree.depthAfter 1 (Path.ofText environment).parts).isSome

instance (environment : String) : Decidable (StaysInside environment) :=
  inferInstanceAs (Decidable (_ = true))

/-- The names of an artifact of an environment: one in front of those of the environment and one
behind them. -/
theorem parts_of_manifest (environment : String) {file : String} (whole : '/' ∉ file.toList)
    (proper : Path.isProper file = true) :
    (Path.ofText ("k8s/" ++ environment ++ ("/" ++ file))).parts =
      "k8s" :: (Path.ofText environment).parts ++ [file] := by
  have cut : Path.split ("k8s/" ++ environment ++ ("/" ++ file)) =
      "k8s" :: Path.split environment ++ [file] := by
    rw [← String.append_assoc, Path.split_append_slash_append, Path.split_of_not_mem whole,
      show "k8s/" ++ environment = "k8s" ++ "/" ++ environment from rfl,
      Path.split_append_slash (by decide)]
  have first : Path.isProper "k8s" = true := by decide
  simp only [Path.ofText, cut, List.cons_append, List.filter_cons, List.filter_append, first,
    proper, if_true, List.filter_nil]

theorem parts_of_mem_manifestPaths {environment path : String}
    (member : path ∈ manifestPaths environment) :
    ∃ file ∈ ["deployment.yaml", "service.yaml"],
      (Path.ofText path).parts = "k8s" :: (Path.ofText environment).parts ++ [file] := by
  simp only [manifestPaths, List.mem_cons, List.not_mem_nil, or_false] at member
  rcases member with rfl | rfl
  · refine ⟨"deployment.yaml", by simp, ?_⟩
    rw [show "/deployment.yaml" = "/" ++ "deployment.yaml" from by decide]
    exact parts_of_manifest environment (by decide) (by decide)
  · refine ⟨"service.yaml", by simp, ?_⟩
    rw [show "/service.yaml" = "/" ++ "service.yaml" from by decide]
    exact parts_of_manifest environment (by decide) (by decide)

/-- The names of manifests lead on. -/
theorem forward_of_mem_manifestNames {file : String}
    (known : file ∈ ["deployment.yaml", "service.yaml"]) : file ≠ "." ∧ file ≠ ".." := by
  revert file
  decide

/-- The artifacts of an environment that stays inside stand below the directory of the artifacts. -/
theorem isBelow_of_mem_manifestPaths {environment path : String} (base : Place)
    (member : path ∈ manifestPaths environment) (stays : StaysInside environment) :
    (FileTree.lead base (Path.ofText path).parts).IsBelow base := by
  obtain ⟨file, known, parts⟩ := parts_of_mem_manifestPaths member
  obtain ⟨noDot, noDots⟩ := forward_of_mem_manifestNames known
  obtain ⟨depth, counted⟩ := Option.isSome_iff_exists.mp stays
  have first : FileTree.depthStep 0 "k8s" = some 1 := by decide
  have last : FileTree.depthStep depth file = some (depth + 1) := by
    rw [FileTree.depthStep, if_neg noDot, if_neg noDots]
  have whole : FileTree.depthAfter 0 (Path.ofText path).parts = some (depth + 1) := by
    rw [parts, FileTree.depthAfter_append, FileTree.depthAfter_cons, first, Option.bind_some,
      counted, Option.bind_some, FileTree.depthAfter_cons, last]
    rfl
  exact ((FileTree.IsAtDepth.refl base).lead whole).isBelow (Nat.succ_pos depth)

/-- The artifacts of the project stand directly in the directory of the artifacts. -/
theorem isBelow_of_mem_projectPaths {path : String} (base : Place)
    (member : path ∈ ["Jenkinsfile", "aws-codepipeline.yaml", "buildspec.yml",
      "deploy-buildspec.yml"]) :
    (FileTree.lead base (Path.ofText path).parts).IsBelow base := by
  have whole : FileTree.depthAfter 0 (Path.ofText path).parts = some 1 := by
    simp only [List.mem_cons, List.not_mem_nil, or_false] at member
    rcases member with rfl | rfl | rfl | rfl <;> decide
  exact ((FileTree.IsAtDepth.refl base).lead whole).isBelow Nat.one_pos

theorem namesFile_of_mem_artifactPaths {environments : List String} {path : String}
    (member : path ∈ artifactPaths environments) : Bundle.NamesFile path := by
  rw [artifactPaths, List.mem_append, List.mem_flatMap] at member
  rcases member with fixed | ⟨e, -, member⟩
  · simp only [List.mem_cons, List.not_mem_nil, or_false] at fixed
    rcases fixed with rfl | rfl | rfl | rfl <;> unfold Bundle.NamesFile <;> decide
  · obtain ⟨file, -, parts⟩ := parts_of_mem_manifestPaths member
    have relative : (Path.ofText path).root = .here :=
      Path.root_ofText (by rw [head?_of_mem_manifestPaths member]; decide)
    exact ⟨relative, by simp [parts]⟩

/-! ## Saving -/

/-- What writing a bundle leaves is what storing it leaves. -/
theorem tree_of_write {env : Environment} {journal : Log.Journal} {t u : FileTree}
    {directory : String} {b : Bundle} {answer : Except Failure (List String)}
    (written : ((Bundle.write t directory b).perform env journal).1 = .ok (u, answer)) :
    u = (Bundle.store (.ofText directory) t b).tree := by
  obtain ⟨logger, _, -, written⟩ := perform_bind_eq_ok written
  obtain ⟨_, _, -, written⟩ := perform_bind_eq_ok written
  split at written
  · rw [perform_pure, Except.ok.injEq, Prod.mk.injEq] at written
    exact written.1.symm
  · obtain ⟨_, _, -, written⟩ := perform_bind_eq_ok written
    rw [perform_pure, Except.ok.injEq, Prod.mk.injEq] at written
    exact written.1.symm

/-- Saving that yields a tree has rendered a bundle and stored it. -/
theorem stored_of_save {env : Environment} {journal : Log.Journal} {s : Session} {t u : FileTree}
    {directory : Value} {answer : Except Failure (List String)}
    (saved : ((s.save t directory).perform env journal).1 = .ok (u, answer)) :
    ∃ path b later, directory = .text path ∧ (s.renderAll.perform env later).1 = .ok b ∧
      u = (Bundle.store (.ofText path) t b).tree := by
  obtain ⟨logger, later, -, saved⟩ := perform_bind_eq_ok saved
  obtain ⟨b, _, rendered, saved⟩ := perform_bind_eq_ok saved
  obtain ⟨_, _, -, saved⟩ := perform_bind_eq_ok saved
  obtain ⟨_, _, -, saved⟩ := perform_bind_eq_ok saved
  cases directory with
  | text path => exact ⟨path, b, later, rfl, congrArg Prod.fst rendered, tree_of_write saved⟩
  | _ => cases saved

/-- **Saved files stand where their paths lead, and that is below the directory of the artifacts as
long as no name of an environment leads out of it.** -/
theorem new_of_save {env : Environment} {journal : Log.Journal} {s : Session}
    (reachable : Reachable s) {t : FileTree} {directory : Value} {p : Place} {content : String}
    (isNew : Bundle.IsNew t (t.after ((s.save t directory).perform env journal).1) p content) :
    ∃ path base artifact, directory = .text path ∧
      (t.after ((s.save t directory).perform env journal).1).walk
        (Bundle.startOf (.ofText path)) (Path.ofText path).parts = .ok base ∧
      artifact ∈ artifactPaths s.config.environments ∧
      p = FileTree.lead base (Path.ofText artifact).parts ∧
      ((∀ e ∈ s.config.environments, artifact ∈ manifestPaths e → StaysInside e) →
        p.IsBelow base) := by
  rcases performed : ((s.save t directory).perform env journal).1 with e | ⟨u, answer⟩
  · rw [performed] at isNew
    exact absurd isNew.2 isNew.1
  · rw [performed] at isNew
    obtain ⟨path, b, later, rfl, rendered, rfl⟩ := stored_of_save performed
    have named := paths_of_renderAll reachable.areEnvironments rendered
    have member : ∀ e ∈ b, e.1 ∈ artifactPaths s.config.environments := fun e there =>
      named ▸ List.mem_map_of_mem there
    obtain ⟨base, walked, artifact, there, place⟩ := Bundle.new_of_store
      (Path.isNormal_ofText path) (fun e there => namesFile_of_mem_artifactPaths (member e there))
      isNew
    have known := member _ there
    refine ⟨path, base, artifact, rfl, walked, known, place, fun stay => ?_⟩
    rw [place]
    rw [artifactPaths, List.mem_append, List.mem_flatMap] at known
    rcases known with fixed | ⟨e, declared, known⟩
    · exact isBelow_of_mem_projectPaths base fixed
    · exact isBelow_of_mem_manifestPaths base known (stay e declared known)

/-! ## Two environments -/

/-- The files after a session without stages was saved in a working directory without files. -/
def savedFresh (c : Config) : FileTree :=
  FileTree.after {} (((ofConfig c).save {} (.text "out")).perform {} {}).1

theorem isNew_of_node {t u : FileTree} {p : Place} (free : t.at? p = none) (some_ : u.at? p ≠ none)
    (noDirectory : u.at? p ≠ some .directory) : ∃ content, Bundle.IsNew t u p content := by
  rcases found : u.at? p with _ | content | _
  · exact absurd found some_
  · exact ⟨content, by simp [free], found⟩
  · exact absurd found noDirectory

/-- The manifests of an environment with a plain name are saved below the directory. -/
theorem new_of_save_plain :
    ∃ content base,
      Bundle.IsNew {} (savedFresh plainConfig) ⟨.above 0, ["out", "k8s", "dev", "service.yaml"]⟩
        content ∧
      Place.IsBelow ⟨.above 0, ["out", "k8s", "dev", "service.yaml"]⟩ base := by
  obtain ⟨content, isNew⟩ : ∃ content, Bundle.IsNew {} (savedFresh plainConfig)
      ⟨.above 0, ["out", "k8s", "dev", "service.yaml"]⟩ content :=
    isNew_of_node (by decide) (by decide +kernel) (by decide +kernel)
  obtain ⟨_, base, artifact, -, -, -, -, below⟩ :=
    new_of_save (.ofConfig ofDraft_plainConfig true) isNew
  refine ⟨content, base, isNew, below fun e declared _ => ?_⟩
  rw [List.mem_singleton.mp declared]
  decide

/-- The configuration of a project whose only environment has a name that leads up. -/
def climbingConfig : Config := { plainConfig with environments := ["../../escape"] }

theorem ofDraft_climbingConfig :
    Config.ofDraft { name := .text "app", environments := .list [.text "../../escape"] } =
      .ok climbingConfig := by
  have named : Config.checkName (.text "app") = .ok "app" := rfl
  have listed : Config.checkEnvironments [.text "../../escape"] = .ok ["../../escape"] := by
    decide +kernel
  simp only [Config.ofDraft, named, Value.items, ok_bind, listed]
  rfl

/-- The manifests of an environment with a name that leads up are saved beside the directory. -/
theorem not_confined_climbing :
    Reachable (ofConfig climbingConfig) ∧
    (savedFresh climbingConfig).walk (Bundle.startOf (.ofText "out")) (Path.ofText "out").parts =
      .ok ⟨.above 0, ["out"]⟩ ∧
    ∃ content,
      Bundle.IsNew {} (savedFresh climbingConfig) ⟨.above 0, ["escape", "service.yaml"]⟩ content ∧
      ¬ Place.IsBelow ⟨.above 0, ["escape", "service.yaml"]⟩ ⟨.above 0, ["out"]⟩ := by
  obtain ⟨content, isNew⟩ : ∃ content, Bundle.IsNew {} (savedFresh climbingConfig)
      ⟨.above 0, ["escape", "service.yaml"]⟩ content :=
    isNew_of_node (by decide) (by decide +kernel) (by decide +kernel)
  refine ⟨.ofConfig ofDraft_climbingConfig true, by decide +kernel, content, isNew, ?_⟩
  rintro ⟨-, names, -, same⟩
  rw [List.singleton_append, List.cons.injEq] at same
  exact absurd same.1 (by decide)

end Session

end Conveyor
