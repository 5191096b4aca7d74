import Conveyor.Artifact.BuildSpec
import Conveyor.Log.Journal
import Conveyor.Yaml.Printer

/-!
# The template of the cloud pipeline

A stack template with a pipeline of three fixed stages: fetch the sources, build the image, deploy
it.  The template carries both build specifications as YAML texts.

The repository is identified by its owner and name.  The identifier is what follows the last
`github.com/` in the first line of the repository's address; an address without it is taken as it
is, with a warning.
-/

set_option autoImplicit false

namespace Conveyor.CloudTemplate

/-- The host whose addresses are cut down to owner and name. -/
def host : List Char := "github.com/".toList

/-- What follows the last occurrence of a needle in the first line of a text; the lines after the
first one are kept. -/
def afterLast? (needle : List Char) : List Char → Option (List Char)
  | [] => none
  | c :: rest =>
    if c = '\n' then none
    else
      match afterLast? needle rest with
      | some found => some found
      | none =>
        if needle.isPrefixOf (c :: rest) then some ((c :: rest).drop needle.length) else none

/-- The identifier of the repository at an address. -/
def repositoryId (address : Value) : Logged Value := do
  if !address.isTruthy then return .text ""
  match address with
  | .text s =>
    match afterLast? host s.toList with
    | some id => return .text (String.ofList id)
    | none =>
      Log.event .warning "codepipeline"
        ("Repository URL '" ++ s ++ "' is not a github.com URL; "
          ++ "using it unchanged as the repository identifier")
      return address
  | _ => throw (.wrongKind "an address is a text")

/-- A reference to another resource of the template. -/
def ref (name : String) : Value := Value.record [("Ref", .text name)]

/-- An attribute of another resource of the template. -/
def attributeOf (resource name : String) : Value :=
  Value.record [("Fn::GetAtt", BuildSpec.textList [resource, name])]

/-- A role that a service takes on, with managed policies. -/
def serviceRole (service : String) (policies : List String) : Value :=
  Value.record [
    ("Type", .text "AWS::IAM::Role"),
    ("Properties", Value.record [
      ("AssumeRolePolicyDocument", Value.record [
        ("Version", .text "2012-10-17"),
        ("Statement", .list [Value.record [
          ("Effect", .text "Allow"),
          ("Principal", Value.record [("Service", .text service)]),
          ("Action", .text "sts:AssumeRole")]])]),
      ("ManagedPolicyArns", BuildSpec.textList policies)])]

/-- A build project that runs a specification. -/
def buildProject (name : String) (spec : Value) (privileged : Bool) : Except Failure Value := do
  let text ← Yaml.print spec
  return Value.record [
    ("Type", .text "AWS::CodeBuild::Project"),
    ("Properties", Value.record [
      ("Name", .text name),
      ("ServiceRole", attributeOf "CodeBuildServiceRole" "Arn"),
      ("Artifacts", Value.record [("Type", .text "CODEPIPELINE")]),
      ("Environment", Value.record ([
        ("Type", .text "LINUX_CONTAINER"),
        ("ComputeType", .text "BUILD_GENERAL1_SMALL"),
        ("Image", .text "aws/codebuild/amazonlinux2-x86_64-standard:3.0")]
        ++ (if privileged then [("PrivilegedMode", .bool true)] else []))),
      ("Source", Value.record [("Type", .text "CODEPIPELINE"), ("BuildSpec", .text text)])])]

/-- Artifacts that an action takes or yields. -/
def artifacts (name : String) : Value := .list [Value.record [("Name", .text name)]]

/-- The type of an action. -/
def actionType (category provider : String) : Value :=
  Value.record [
    ("Category", .text category),
    ("Owner", .text "AWS"),
    ("Provider", .text provider),
    ("Version", .text "1")]

/-- An action that runs a build project. -/
def buildAction (name project input : String) (output : Option String) : Value :=
  Value.record ([
    ("Name", .text name),
    ("ActionTypeId", actionType "Build" "CodeBuild"),
    ("Configuration", Value.record [("ProjectName", ref project)]),
    ("InputArtifacts", artifacts input)]
    ++ (match output with
        | some o => [("OutputArtifacts", artifacts o)]
        | none => []))

/-- A stage of the pipeline with one action. -/
def stage (name : String) (action : Value) : Value :=
  Value.record [("Name", .text name), ("Actions", .list [action])]

/-- The artifact that holds the sources. -/
def sourceArtifact : String := "SourceCode"

/-- The artifact that the build yields. -/
def buildArtifact : String := "BuildOutput"

/-- The three stages of the pipeline. -/
def stages (c : Config) : Logged Value := do
  let id ← repositoryId c.repoUrl
  return .list [
    stage "Source" (Value.record [
      ("Name", .text "Source"),
      ("ActionTypeId", actionType "Source" "CodeStarSourceConnection"),
      ("Configuration", Value.record [
        ("ConnectionArn", c.connectionArn),
        ("FullRepositoryId", id),
        ("BranchName", c.branch)]),
      ("OutputArtifacts", artifacts sourceArtifact)]),
    stage "Build" (buildAction "BuildAndPushDockerImage" "DockerBuildProject" sourceArtifact
      (some buildArtifact)),
    stage "Deploy" (buildAction "DeployToKubernetes" "KubernetesDeployProject" buildArtifact none)]

/-- The template of a project's cloud pipeline. -/
def render (c : Config) : Logged Value := do
  let buildImage ← buildProject (c.name ++ "-docker-build") (← BuildSpec.image c) true
  let deployImage ← buildProject (c.name ++ "-k8s-deploy") (← BuildSpec.deploy c) false
  let pipelineStages ← stages c
  return Value.record [
    ("AWSTemplateFormatVersion", .text "2010-09-09"),
    ("Description", .text ("AWS CodePipeline for " ++ c.name ++ " Kubernetes deployment")),
    ("Resources", Value.record [
      ("ArtifactBucket", Value.record [
        ("Type", .text "AWS::S3::Bucket"),
        ("Properties", Value.record [
          ("VersioningConfiguration", Value.record [("Status", .text "Enabled")])])]),
      ("CodeBuildServiceRole", serviceRole "codebuild.amazonaws.com" [
        "arn:aws:iam::aws:policy/AmazonECR-FullAccess",
        "arn:aws:iam::aws:policy/AmazonS3FullAccess"]),
      ("CodePipelineServiceRole", serviceRole "codepipeline.amazonaws.com" [
        "arn:aws:iam::aws:policy/AWSCodeBuildAdminAccess",
        "arn:aws:iam::aws:policy/AmazonS3FullAccess",
        "arn:aws:iam::aws:policy/AmazonECR-FullAccess"]),
      ("DockerBuildProject", buildImage),
      ("KubernetesDeployProject", deployImage),
      ("Pipeline", Value.record [
        ("Type", .text "AWS::CodePipeline::Pipeline"),
        ("Properties", Value.record [
          ("Name", .text c.pipelineName),
          ("RoleArn", attributeOf "CodePipelineServiceRole" "Arn"),
          ("ArtifactStore", Value.record [
            ("Type", .text "S3"),
            ("Location", ref "ArtifactBucket")]),
          ("Stages", pipelineStages)])])]),
    ("Outputs", Value.record [
      ("PipelineUrl", Value.record [
        ("Description", .text "URL to the AWS CodePipeline console"),
        ("Value", Value.record [
          ("Fn::Sub", .text ("https://$\x7bAWS::Region\x7d.console.aws.amazon.com/codepipeline/home"
            ++ "?region=$\x7bAWS::Region\x7d#/view/" ++ c.pipelineName))])])])]

end Conveyor.CloudTemplate
