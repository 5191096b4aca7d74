import Conveyor.Proofs.Artifact.Registrations
import Conveyor.Proofs.Session.Operations

/-!
# Which renderer a session uses

A session renders a name with the renderer that was last registered under it, on its configuration
and the stages that it has by then. The renderer of the Jenkinsfile is the only one that gets the
strictness of the session, and it gets it under every name that it is registered under
(`rendersBy_of_records`). Of all operations only registrations change the registry, so after any
row of operations it knows the registrations from before and those in the row
(`render_after_registrations`).
-/

set_option autoImplicit false

namespace Conveyor.Session

open Logged Registry

variable {s : Session} {rows : List (String × Renderer)} {name : String}

/-! ## Rendering by name -/

/-- A session renders by the registrations of its registry: a name of the Jenkinsfile's renderer
as the session renders its own Jenkinsfile, any other registered name by the renderer that was last
registered. What is equal here is the work itself, so the result, the failure and the records are
the same in every environment. -/
structure RendersBy (s : Session) (rows : List (String × Renderer)) : Prop where
  jenkinsfile : ∀ name, IsLast rows name .jenkinsfile →
    s.render name = Value.text <$> s.jenkinsfile
  other : ∀ name label make, IsLast rows name (.other label make) →
    s.render name = make s.config s.stages
  unknown : ∀ name, name ∉ rows.map (·.1) →
    s.render name = throw (.refused (.unknownArtifact name s.registry.names))

theorem render_of_get {renderer : Renderer} (found : s.registry.get name = .ok renderer) :
    s.render name = renderer.run s.strict s.config s.stages := by
  rw [render, found]
  rfl

theorem render_of_get_error {e : Failure} (refused : s.registry.get name = .error e) :
    s.render name = throw e := by
  rw [render, refused]
  rfl

theorem rendersBy_of_records (records : s.registry.Records rows) : s.RendersBy rows where
  jenkinsfile name last := render_of_get ((records.get_ok name _).mpr last)
  other name _ _ last := render_of_get ((records.get_ok name _).mpr last)
  unknown name absent := render_of_get_error ((records.get_error name _).mpr ⟨absent, rfl⟩)

/-! ## Registrations among operations -/

/-- The registration that an operation is, if it is one. -/
def Operation.registration : Operation → Option (String × Renderer)
  | .register name renderer => some (name, renderer)
  | _ => none

namespace Workspace

variable {env : Environment} {journal : Log.Journal} {w : Workspace}

/-- An addition leaves the registry as it is, whether or not it fails. -/
theorem registry_step_add (a : Addition) :
    (w.step env journal (.add a)).1.session.registry = w.session.registry := by
  rw [step, operate, perform_bind, perform_lift]
  cases a.stage w.session.plan w.session.config.name <;> rfl

theorem registry_step (known : w.session.registry = ofRows rows) (o : Operation) :
    (w.step env journal o).1.session.registry = ofRows (rows ++ o.registration.toList) := by
  cases o with
  | add a =>
      rw [registry_step_add, known]
      exact congrArg ofRows (List.append_nil rows).symm
  | register name renderer =>
      rw [Operation.registration, Option.toList_some, ofRows_concat, ← known]
      rfl
  | _ =>
      rw [session_step_of_rest, known]
      · exact congrArg ofRows (List.append_nil rows).symm
      · nofun
      · nofun

theorem registry_run (known : w.session.registry = ofRows rows) (ops : List Operation) :
    (w.run env journal ops).1.session.registry =
      ofRows (rows ++ ops.filterMap Operation.registration) := by
  induction ops generalizing w journal rows with
  | nil => rw [run, known, List.filterMap_nil, List.append_nil]
  | cons o ops ih =>
      rw [Operation.filterMap_cons, ← List.append_assoc]
      exact ih (registry_step known o)

/-- **A session renders by the last registration.** After any row of operations the registry knows
the registrations from before and those in the row: it lists every registered name once, in the
order in which the names first came, gives the renderer that was last registered, and refuses
exactly the other names. Every session with this registry renders a name of the Jenkinsfile's
renderer as its own Jenkinsfile, under its own strictness, and every other name by the renderer
that was last registered, on its configuration and its stages. -/
theorem render_after_registrations (known : w.session.registry = ofRows rows)
    (ops : List Operation) :
    let registry := (w.run env journal ops).1.session.registry
    let all := rows ++ ops.filterMap Operation.registration
    registry.Records all ∧ ∀ s : Session, s.registry = registry → s.RendersBy all := by
  have after := @registry_run rows env journal w known ops
  refine ⟨after ▸ records_ofRows _, fun s same => rendersBy_of_records ?_⟩
  rw [same, after]
  exact records_ofRows _

/-- A renderer that lists the names of the stages. -/
def stageNames : Renderer := .other "stage-list" fun _ stages => return .list (stages.map (·.name))

/-- The renderer of the Jenkinsfile goes by a further name, its own name goes by another renderer,
and a name that nobody registered is refused. -/
theorem render_after_registrations_renamed :
    let s := (Workspace.run {} ⟨ofConfig plainConfig false, {}⟩ {}
      [.register "ci" .jenkinsfile, .register "jenkinsfile" stageNames,
        .add (.test none none)]).1.session
    s.registry.names = ["jenkinsfile", "codepipeline", "buildspec", "deploy-buildspec", "ci"] ∧
    s.render "ci" = Value.text <$> Jenkinsfile.render plainConfig s.stages false ∧
    s.render "jenkinsfile" = pure (.list [.text "test"]) ∧
    s.render "helm" = throw (.refused (.unknownArtifact "helm"
      ["jenkinsfile", "codepipeline", "buildspec", "deploy-buildspec", "ci"])) := by
  obtain ⟨-, renders⟩ := @render_after_registrations builtin.renderers {} {}
    ⟨ofConfig plainConfig false, {}⟩ builtin_eq_ofRows
    [.register "ci" .jenkinsfile, .register "jenkinsfile" stageNames, .add (.test none none)]
  refine ⟨rfl, ?_, ?_, ?_⟩
  · exact (renders _ rfl).jenkinsfile "ci"
      ⟨builtin.renderers, [("jenkinsfile", stageNames)], rfl, by simp⟩
  · exact (renders _ rfl).other "jenkinsfile" _ _
      ⟨builtin.renderers ++ [("ci", .jenkinsfile)], [], rfl, by simp⟩
  · exact (renders _ rfl).unknown "helm" (by decide)

end Workspace

end Conveyor.Session
