import Conveyor.Artifact.BuildSpec
import Conveyor.Proofs.Definition.Settings
import Mathlib.Data.List.Forall2
import Mathlib.Data.List.Infix

/-!
# The account in the commands of a build

The account of a project gets into the commands that build its image as a part of the registry's
host, and in no other way: a command that would be another one for another account has the host of
the account in it. The commands that deploy the image do not know the account
(`Config.exists_isBuiltFor`).
-/

set_option autoImplicit false

namespace Conveyor

/-- A text that occurs in another one. -/
def Mentions (part whole : String) : Prop := part.toList <:+: whole.toList

namespace Mentions

variable {part : String}

theorem refl (part : String) : Mentions part part := List.infix_rfl

theorem after {whole : String} (h : Mentions part whole) (before : String) :
    Mentions part (before ++ whole) := by
  rw [Mentions, String.toList_append]
  exact List.IsInfix.trans h (List.suffix_append _ _).isInfix

theorem before {whole : String} (h : Mentions part whole) (behind : String) :
    Mentions part (whole ++ behind) := by
  rw [Mentions, String.toList_append]
  exact List.IsInfix.trans h (List.prefix_append _ _).isInfix

end Mentions

/-- The host of the registry of an account in a region. -/
def hostOf (account region : String) : String :=
  account ++ ".dkr.ecr." ++ region ++ ".amazonaws.com"

/-- The configuration with another account. -/
def Config.withAccount (c : Config) (account : String) : Config :=
  { c with registry := { c.registry with accountId := .text account } }

theorem Config.endpoint_withAccount (c : Config) {region : String}
    (inRegion : c.registry.region = .text region) (account : String) :
    (c.withAccount account).registry.endpoint = .ok (hostOf account region) := by
  rw [withAccount, ImageRegistry.endpoint, inRegion]
  rfl

namespace BuildSpec

/-- The commands of a phase. -/
def phaseCommands (phase : Value) : List String :=
  match phase.below? ["commands"] with
  | some (.list items) => Value.texts items
  | _ => []

/-- The commands of a build specification, phase by phase. -/
def commands (spec : Value) : List String :=
  match spec.below? ["phases"] with
  | some (.map phases) => phases.flatMap fun phase => phaseCommands phase.2
  | _ => []

theorem phaseCommands_phase (commands : List String) : phaseCommands (phase commands) = commands := by
  simp only [phaseCommands, phase, Value.record, Value.below?, List.map_cons, List.map_nil,
    Value.field_cons, Value.same_text_right, if_true, Option.bind_some, Value.texts]
  rw [List.filterMap_map]
  exact List.filterMap_some

/-- The command that logs in to a registry. -/
def loginCommand (region host : String) : String :=
  "aws ecr get-login-password --region " ++ region
    ++ " | docker login --username AWS --password-stdin " ++ host

/-- The command that pushes an image as the latest one. -/
def pushCommand (uri : String) : String := "docker push " ++ (uri ++ ":latest")

/-- Two commands that are the same, or each of which has a host of its own in it. -/
def AgreeUpTo (host host' command command' : String) : Prop :=
  command = command' ∨ (Mentions host command ∧ Mentions host' command')

namespace AgreeUpTo

variable {host host' : String}

theorem refl (command : String) : AgreeUpTo host host' command command := .inl rfl

theorem hosts : AgreeUpTo host host' host host' := .inr ⟨.refl _, .refl _⟩

/-- Parts that agree are joined to commands that agree. -/
theorem append {x x' y y' : String} (first : AgreeUpTo host host' x x')
    (second : AgreeUpTo host host' y y') : AgreeUpTo host host' (x ++ y) (x' ++ y') := by
  rcases first with rfl | ⟨here, here'⟩
  · rcases second with rfl | ⟨there, there'⟩
    · exact .refl _
    · exact .inr ⟨there.after x, there'.after x⟩
  · exact .inr ⟨here.before y, here'.before y'⟩

end AgreeUpTo

/-- The specifications for two accounts log in to the hosts of the accounts and push the images of
the accounts there, and their commands agree up to the hosts. -/
theorem exists_image_withAccount {c : Config} {region repository dockerfile : String}
    (inRegion : c.registry.region = .text region) (named : c.registry.repository = .text repository)
    (built : c.dockerfilePath = .text dockerfile) (account account' : String) :
    ∃ spec spec', image (c.withAccount account) = .ok spec ∧
      image (c.withAccount account') = .ok spec' ∧
      loginCommand region (hostOf account region) ∈ commands spec ∧
      pushCommand (hostOf account region ++ "/" ++ repository) ∈ commands spec ∧
      List.Forall₂ (AgreeUpTo (hostOf account region) (hostOf account' region))
        (commands spec) (commands spec') := by
  have host : AgreeUpTo (hostOf account region) (hostOf account' region)
      (hostOf account region) (hostOf account' region) := .hosts
  have uri := (host.append (.refl "/")).append (.refl repository)
  have tagged := uri.append (.refl ":$IMAGE_TAG")
  have latest := uri.append (.refl ":latest")
  unfold image Config.imageUri
  rw [c.endpoint_withAccount inRegion, c.endpoint_withAccount inRegion]
  unfold Config.withAccount
  rw [inRegion, named, built]
  refine ⟨_, _, rfl, rfl, ?_⟩
  simp only [commands, Value.below?, Value.record, List.map_cons, List.map_nil, Value.field_cons,
    Value.same_text_right, Value.text.injEq, String.reduceEq, if_false, if_true, Option.bind_some,
    List.flatMap_cons, List.flatMap_nil, phaseCommands_phase, List.append_nil, List.cons_append,
    List.nil_append]
  refine ⟨List.mem_of_getElem? (i := 1) rfl, List.mem_of_getElem? (i := 13) rfl, ?_⟩
  repeat' apply List.Forall₂.cons
  -- What is left are the commands with the host in them; all others are the same.
  all_goals try first | exact .nil | with_reducible exact .refl _
  · exact .append (.refl _) host
  · exact .append (.refl _) tagged
  · exact .append (.append (.append (.append (.refl _) tagged) (.refl _)) (.refl _)) (.refl _)
  · exact .append (.append (.append (.refl _) tagged) (.refl _)) latest
  · exact .append (.refl _) tagged
  · exact .append (.refl _) latest
  · exact .append (.append (.append (.refl _) tagged) (.refl _)) (.refl _)

end BuildSpec

/-! ## What is built for an account -/

open BuildSpec in
/-- What is built for an account: the registry's host and the image are those of the account, the
build logs in there and pushes there, and another account would be in the commands instead as a part
of the host only. -/
structure Config.IsBuiltFor (c : Config) (account region repository : String) (spec : Value) :
    Prop where
  inRegion : c.registry.region = .text region
  named : c.registry.repository = .text repository
  endpoint : c.registry.endpoint = .ok (hostOf account region)
  imageUri : c.imageUri = .ok (hostOf account region ++ "/" ++ repository)
  image : BuildSpec.image c = .ok spec
  login : loginCommand region (hostOf account region) ∈ commands spec
  push : pushCommand (hostOf account region ++ "/" ++ repository) ∈ commands spec
  others : ∀ account', ∃ spec', BuildSpec.image (c.withAccount account') = .ok spec' ∧
    List.Forall₂ (AgreeUpTo (hostOf account region) (hostOf account' region))
      (commands spec) (commands spec')
  deploys : ∀ account', BuildSpec.deploy (c.withAccount account') = BuildSpec.deploy c

theorem Config.withAccount_self {c : Config} {account : String}
    (given : c.registry.accountId = .text account) : c.withAccount account = c := by
  rw [withAccount, ← given]

/-- **A configuration is built for its account.** -/
theorem Config.exists_isBuiltFor {c : Config} (typed : c.IsTyped) {account : String}
    (given : c.registry.accountId = .text account) :
    ∃ region repository spec, c.IsBuiltFor account region repository spec := by
  obtain ⟨region, inRegion⟩ := typed.region
  obtain ⟨repository, named⟩ := typed.repository
  obtain ⟨dockerfile, built⟩ := typed.dockerfilePath
  have endpoint := c.endpoint_withAccount inRegion account
  have specs (account' : String) :=
    BuildSpec.exists_image_withAccount inRegion named built account account'
  rw [withAccount_self given] at endpoint specs
  obtain ⟨spec, -, image, -, login, push, -⟩ := specs account
  refine ⟨region, repository, spec, {
    inRegion, named, endpoint, image, login, push
    imageUri := ?_
    others := fun account' => ?_
    deploys := fun account' => rfl }⟩
  · rw [imageUri, endpoint, named]
    rfl
  · obtain ⟨same, spec', image', other, -, -, agree⟩ := specs account'
    rw [image, Except.ok.injEq] at image'
    subst image'
    exact ⟨spec', other, agree⟩

end Conveyor
