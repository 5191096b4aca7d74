import Conveyor.Config

/-!
# Build specifications

Two specifications for hosted builds.  The first one builds the image, pushes it to the registry
and records its address; the second one puts the recorded address into the manifests and applies
them to the cluster.
-/

set_option autoImplicit false

namespace Conveyor.BuildSpec

/-- Stands for the address of the image in a manifest, until the image is deployed. -/
def imagePlaceholder : String := "IMAGE_PLACEHOLDER"

/-- The file that the address of the pushed image is recorded in. -/
def imageDefinitionFile : String := "imageDefinition.json"

/-- Where the deploying build gets its client of the cluster from. -/
def kubectlUrl : String :=
  "https://amazon-eks.s3.us-west-2.amazonaws.com/1.21.2/2021-07-05/bin/linux/amd64/kubectl"

/-- A phase that runs commands. -/
def phase (commands : List String) : Value :=
  Value.record [("commands", .list (commands.map .text))]

/-- A list of texts. -/
def textList (texts : List String) : Value := .list (texts.map .text)

/-- The specification that builds and pushes the image. -/
def image (c : Config) : Except Failure Value := do
  let region ← c.registry.region.display
  let endpoint ← c.registry.endpoint
  let repository ← c.registry.repository.display
  let uri ← c.imageUri
  let dockerfile ← c.dockerfilePath.display
  let tagged := uri ++ ":$IMAGE_TAG"
  let latest := uri ++ ":latest"
  return Value.record [
    ("version", .text "0.2"),
    ("phases", Value.record [
      ("pre_build", phase [
        "echo Logging in to Amazon ECR...",
        "aws ecr get-login-password --region " ++ region
          ++ " | docker login --username AWS --password-stdin " ++ endpoint,
        "echo Checking if repository exists...",
        "aws ecr describe-repositories --repository-names " ++ repository
          ++ " || aws ecr create-repository --repository-name " ++ repository,
        "COMMIT_HASH=$(echo $CODEBUILD_RESOLVED_SOURCE_VERSION | cut -c 1-7)",
        "IMAGE_TAG=$\x7bCOMMIT_HASH:=latest\x7d"]),
      ("build", phase [
        "echo Build started on \x60date\x60",
        "echo Building the Docker image: " ++ tagged,
        "docker build -t " ++ tagged ++ " -f " ++ dockerfile ++ " .",
        "docker tag " ++ tagged ++ " " ++ latest]),
      ("post_build", phase [
        "echo Build completed on \x60date\x60",
        "echo Pushing the Docker image...",
        "docker push " ++ tagged,
        "docker push " ++ latest,
        "echo Writing artifact files...",
        "echo \"\x7b\\\"ImageURI\\\":\\\"" ++ tagged ++ "\\\"\x7d\" > " ++ imageDefinitionFile,
        "echo Generating Kubernetes manifests...",
        "mkdir -p kubernetes/",
        "envsubst < k8s/deployment.yaml > kubernetes/deployment.yaml",
        "envsubst < k8s/service.yaml > kubernetes/service.yaml"])]),
    ("artifacts", Value.record [
      ("files", textList
        [imageDefinitionFile, "appspec.yaml", "kubernetes/**/*", "k8s/**/*"])])]

/-- The specification that deploys the image. -/
def deploy (c : Config) : Except Failure Value := do
  let target ← c.namespaceName.display
  return Value.record [
    ("version", .text "0.2"),
    ("phases", Value.record [
      ("install", phase [
        "echo Installing kubectl...",
        "curl -o kubectl " ++ kubectlUrl,
        "chmod +x ./kubectl",
        "mv ./kubectl /usr/local/bin/kubectl"]),
      ("pre_build", phase [
        "echo Configuring kubectl...",
        "aws eks update-kubeconfig --name $\x7bEKS_CLUSTER_NAME\x7d --region $\x7bAWS_REGION\x7d"]),
      ("build", phase [
        "echo Deployment started on \x60date\x60",
        "echo Updating image in Kubernetes manifests...",
        "IMAGE_URI=$(cat " ++ imageDefinitionFile ++ " | jq -r '.ImageURI')",
        "sed -i \"s|" ++ imagePlaceholder ++ "|$IMAGE_URI|g\" kubernetes/deployment.yaml",
        "echo Applying Kubernetes manifests...",
        "kubectl apply -f kubernetes/deployment.yaml -n " ++ target,
        "kubectl apply -f kubernetes/service.yaml -n " ++ target]),
      ("post_build", phase [
        "echo Deployment completed on \x60date\x60",
        "kubectl get pods -n " ++ target,
        "kubectl get services -n " ++ target])])]

end Conveyor.BuildSpec
