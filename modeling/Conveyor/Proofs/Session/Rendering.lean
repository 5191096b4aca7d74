import Conveyor.Proofs.Definition.Options
import Conveyor.Proofs.FileTree.Storing
import Conveyor.Session
import Mathlib.Data.List.Nodup

/-!
# What a session renders

The result of rendering does not depend on what was logged before (`renderAll_settled`). Where
everything can be rendered, the bundle has four files of the project and two files for each of its
environments, in this order, and no two of them have the same path (`paths_of_renderAll`), because
the environments of a configuration are pairwise distinct.
-/

set_option autoImplicit false

namespace Conveyor

open Logged

/-! ## Environments of a configuration -/

namespace Config

/-- Environments of a configuration: none of them empty, no two of them the same. -/
structure AreEnvironments (names : List String) : Prop where
  filled : ∀ name ∈ names, name ≠ ""
  distinct : names.Nodup

theorem areEnvironments_of_check {items : List Value} {names : List String}
    (passed : checkEnvironments items = .ok names) : AreEnvironments names := by
  obtain ⟨rfl, allowed⟩ := areAllowed_of_checkEnvironments passed
  refine ⟨?_, nodup_texts.mp allowed.distinct⟩
  rintro _ member rfl
  obtain ⟨c, there, -⟩ := isName_text.mp (allowed.names _ (List.mem_map_of_mem member))
  cases there

theorem areEnvironments_of_ofDraft {d : Draft} {c : Config} (made : ofDraft d = .ok c) :
    AreEnvironments c.environments := by
  unfold ofDraft at made
  obtain ⟨name, -, made⟩ := bind_eq_ok_iff.mp made
  obtain ⟨items, -, made⟩ := bind_eq_ok_iff.mp made
  obtain ⟨names, passed, made⟩ := bind_eq_ok_iff.mp made
  obtain ⟨_, -, made⟩ := bind_eq_ok_iff.mp made
  rw [pure_eq_ok_iff] at made
  subst made
  exact areEnvironments_of_check passed

end Config

/-! ## Bundles of distinct paths -/

namespace Bundle

theorem put_of_not_mem {path content : String} :
    ∀ {b : Bundle}, path ∉ b.map (·.1) → put path content b = b ++ [(path, content)]
  | [], _ => rfl
  | (p, c) :: rest, absent => by
      rw [List.map_cons, List.mem_cons, not_or] at absent
      rw [put, if_neg (Ne.symm absent.1), put_of_not_mem absent.2]
      rfl

/-- Rows with distinct paths are a bundle as they are. -/
theorem ofRows_eq_self {rows : List (String × String)} (distinct : (rows.map (·.1)).Nodup) :
    ofRows rows = rows := by
  have built : ∀ (rows b : List (String × String)), ((b ++ rows).map (·.1)).Nodup →
      rows.foldl (fun b row => put row.1 row.2 b) b = b ++ rows := by
    intro rows
    induction rows with
    | nil => simp
    | cons row rows ih =>
        intro b distinct
        have absent : row.1 ∉ b.map (·.1) := by
          rw [List.map_append, List.nodup_append] at distinct
          exact fun member => distinct.2.2 _ member _ (by simp) rfl
        rw [List.foldl_cons, put_of_not_mem absent, ih]
        · simp
        · simpa using distinct
  exact built rows [] distinct

end Bundle

/-! ## The paths of the artifacts -/

/-- The paths of the two files of an environment. -/
def manifestPaths (environment : String) : List String :=
  ["k8s/" ++ environment ++ "/deployment.yaml", "k8s/" ++ environment ++ "/service.yaml"]

/-- The paths of all artifacts: those of the project, then those of its environments. -/
def artifactPaths (environments : List String) : List String :=
  ["Jenkinsfile", "aws-codepipeline.yaml", "buildspec.yml", "deploy-buildspec.yml"]
    ++ environments.flatMap manifestPaths

theorem length_artifactPaths (environments : List String) :
    (artifactPaths environments).length = 4 + 2 * environments.length := by
  have manifests : (environments.flatMap manifestPaths).length = 2 * environments.length := by
    induction environments with
    | nil => rfl
    | cons e rest ih =>
        rw [List.flatMap_cons, List.length_append, ih, List.length_cons]
        simp only [manifestPaths, List.length_cons, List.length_nil]
        omega
  rw [artifactPaths, List.length_append, manifests]
  rfl

/-- A text in front and one behind leave nothing open about what stands between them. -/
theorem append_between_injective {before after s t : String}
    (same : before ++ s ++ after = before ++ t ++ after) : s = t := by
  have chars := congrArg String.toList same
  simp only [String.toList_append, List.append_assoc, List.append_cancel_left_eq,
    List.append_cancel_right_eq] at chars
  exact String.toList_inj.mp chars

/-- The two kinds of manifests end differently. -/
theorem deployment_ne_service (s t : String) :
    "k8s/" ++ s ++ "/deployment.yaml" ≠ "k8s/" ++ t ++ "/service.yaml" := by
  intro same
  have chars := congrArg String.toList same
  rw [String.toList_append, String.toList_append (s := _ ++ t)] at chars
  have ends : "/service.yaml".toList <:+ ("k8s/" ++ s).toList ++ "/deployment.yaml".toList :=
    chars ▸ List.suffix_append _ _
  rcases List.suffix_or_suffix_of_suffix ends (List.suffix_append _ _) with h | h
  · revert h
    decide
  · revert h
    decide

theorem manifestPaths_disjoint {s t : String} (differ : s ≠ t) :
    List.Disjoint (manifestPaths s) (manifestPaths t) := by
  intro path here there
  simp only [manifestPaths, List.mem_cons, List.not_mem_nil, or_false] at here there
  rcases here with rfl | rfl <;> rcases there with same | same
  · exact differ (append_between_injective same)
  · exact deployment_ne_service s t same
  · exact deployment_ne_service t s same.symm
  · exact differ (append_between_injective same)

/-- The paths of environments start with another letter than those of the project. -/
theorem head?_of_mem_manifestPaths {environment path : String}
    (member : path ∈ manifestPaths environment) : path.toList.head? = some 'k' := by
  simp only [manifestPaths, List.mem_cons, List.not_mem_nil, or_false] at member
  rcases member with rfl | rfl <;> simp [String.toList_append]

theorem artifactPaths_nodup {environments : List String} (distinct : environments.Nodup) :
    (artifactPaths environments).Nodup := by
  rw [artifactPaths, List.nodup_append]
  refine ⟨by decide, ?_, ?_⟩
  · rw [List.nodup_flatMap]
    refine ⟨fun e _ => ?_, distinct.imp fun differ => manifestPaths_disjoint differ⟩
    simp [manifestPaths]
  · intro path fixed path' member same
    obtain ⟨e, -, here⟩ := List.mem_flatMap.mp member
    have letter := head?_of_mem_manifestPaths here
    rw [← same] at letter
    revert letter
    simp only [List.mem_cons, List.not_mem_nil, or_false] at fixed
    rcases fixed with rfl | rfl | rfl | rfl <;> decide

/-! ## Rendering does not depend on the journal -/

theorem Jenkinsfile.blocks_settled (strict : Bool) :
    ∀ stages : List Stage, Settled (Jenkinsfile.blocks strict stages)
  | [] => .pure _
  | stage :: rest => by
      refine .bind ?_ fun _ => .bind (.lift _) fun _ => ?_
      · unfold Jenkinsfile.acceptStage
        split
        · exact .pure _
        · split
          · exact ⟨_, fun _ => Log.event_yields _ _ _⟩
          · exact ⟨_, fun _ => .throw _⟩
      · exact .bind (Jenkinsfile.blocks_settled strict rest) fun _ => .pure _

theorem Jenkinsfile.render_settled (c : Config) (stages : List Stage) (strict : Bool) :
    Settled (Jenkinsfile.render c stages strict) :=
  .bind (.lift _) fun _ => .bind (Jenkinsfile.blocks_settled strict stages) fun _ => .pure _

theorem CloudTemplate.repositoryId_settled (address : Value) :
    Settled (CloudTemplate.repositoryId address) := by
  unfold CloudTemplate.repositoryId
  cases address.isTruthy with
  | false => exact .pure _
  | true =>
      cases address with
      | text s =>
          rw [if_neg (by simp)]
          dsimp only
          cases afterLast? host s.toList with
          | some id => exact .pure _
          | none => exact ⟨_, fun _ => .after (Log.event_yields _ _ _) (.pure _)⟩
      | _ => exact ⟨_, fun _ => .throw _⟩

theorem CloudTemplate.render_settled (c : Config) : Settled (CloudTemplate.render c) := by
  refine .bind (.lift _) fun _ => .bind (.lift _) fun _ => .bind (.lift _) fun _ =>
    .bind (.lift _) fun _ => .bind ?_ fun _ => .pure _
  exact .bind (CloudTemplate.repositoryId_settled c.repoUrl) fun _ => .pure _

theorem Session.settled_renderAll (s : Session) : Settled s.renderAll := by
  refine .bind (Jenkinsfile.render_settled _ _ _) fun _ =>
    .bind (CloudTemplate.render_settled _) fun _ => ?_
  exact .bind (.lift _) fun _ => .bind (.lift _) fun _ => .bind (.lift _) fun _ =>
    .bind (.lift _) fun _ => .bind (.lift _) fun _ => .bind (.lift _) fun _ =>
    .bind (.lift _) fun _ => .bind (.lift _) fun _ => .bind (.lift _) fun _ => .pure _

theorem Session.renderAll_settled {env : Environment} (standard : Log.HasStandardLevel env)
    (s : Session) : ∃ x, Gives env s.renderAll x := by
  obtain ⟨x, rendered⟩ := s.settled_renderAll
  exact ⟨x, (rendered env).gives standard⟩

/-- Everything that is rendered has a path of its own, the paths of all artifacts in order. -/
theorem Session.paths_of_renderAll {env : Environment} {s : Session}
    (environments : Config.AreEnvironments s.config.environments) {journal : Log.Journal}
    {b : Bundle} (rendered : (s.renderAll.perform env journal).1 = .ok b) :
    b.map (·.1) = artifactPaths s.config.environments := by
  obtain ⟨jenkinsfile, _, -, rendered⟩ := perform_bind_eq_ok rendered
  obtain ⟨cloudPipeline, _, -, rendered⟩ := perform_bind_eq_ok rendered
  obtain ⟨template, _, -, rendered⟩ := perform_bind_eq_ok rendered
  obtain ⟨_, _, -, rendered⟩ := perform_bind_eq_ok rendered
  obtain ⟨buildSpec, _, -, rendered⟩ := perform_bind_eq_ok rendered
  obtain ⟨_, _, -, rendered⟩ := perform_bind_eq_ok rendered
  obtain ⟨deploySpec, _, -, rendered⟩ := perform_bind_eq_ok rendered
  obtain ⟨_, _, -, rendered⟩ := perform_bind_eq_ok rendered
  obtain ⟨service, _, -, rendered⟩ := perform_bind_eq_ok rendered
  obtain ⟨_, _, -, rendered⟩ := perform_bind_eq_ok rendered
  obtain ⟨deployment, _, -, rendered⟩ := perform_bind_eq_ok rendered
  rw [perform_pure, Except.ok.injEq] at rendered
  subst rendered
  have paths : (([("Jenkinsfile", jenkinsfile), ("aws-codepipeline.yaml", template),
      ("buildspec.yml", buildSpec), ("deploy-buildspec.yml", deploySpec)]
        ++ manifests deployment service s.config.environments).map (·.1)) =
      artifactPaths s.config.environments := by
    rw [List.map_append, manifests, List.map_flatMap]
    rfl
  rw [Bundle.ofRows_eq_self (paths ▸ artifactPaths_nodup environments.distinct), paths]

end Conveyor
