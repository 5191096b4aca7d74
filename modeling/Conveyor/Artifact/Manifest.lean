import Conveyor.Artifact.BuildSpec

/-!
# Manifests of the cluster

A deployment that runs the image of the project, and a service in front of it.  The image is a
placeholder, which the deploying build replaces by the address of the pushed image.
-/

set_option autoImplicit false

namespace Conveyor.Manifest

/-- The labels by which a project's pods are found. -/
def labels (c : Config) : Value := Value.record [("app", .text c.name)]

/-- The name, place and labels of a project's objects. -/
def metadata (c : Config) : Value :=
  Value.record [("name", .text c.name), ("namespace", c.namespaceName), ("labels", labels c)]

/-- The deployment of a project; without resources it requests those of the configuration. -/
def deployment (c : Config) (resources : Value) : Except Failure Value := do
  let requests ← match resources with
    | .null => pure c.deployment.requests
    | given => do pure (.map (← given.asMapping))
  return Value.record [
    ("apiVersion", .text "apps/v1"),
    ("kind", .text "Deployment"),
    ("metadata", metadata c),
    ("spec", Value.record [
      ("replicas", c.deployment.replicas),
      ("selector", Value.record [("matchLabels", labels c)]),
      ("template", Value.record [
        ("metadata", Value.record [("labels", labels c)]),
        ("spec", Value.record [
          ("containers", .list [Value.record [
            ("name", .text c.name),
            ("image", .text BuildSpec.imagePlaceholder),
            ("imagePullPolicy", .text "Always"),
            ("ports", .list [Value.record [("containerPort", c.deployment.containerPort)]]),
            ("resources", Value.record [("requests", requests)])]])])])])]

/-- A value, or a default where nothing is given. -/
def orDefault (given fallback : Value) : Value :=
  match given with
  | .null => fallback
  | v => v

/-- The service of a project; what is not given is taken from the configuration. -/
def service (c : Config) (port targetPort serviceType : Value) : Except Failure Value := do
  let port := orDefault port c.deployment.servicePort
  let target := orDefault targetPort c.deployment.containerPort
  let kind := serviceType.orElse c.deployment.serviceType
  Config.checkServiceType kind
  return Value.record [
    ("apiVersion", .text "v1"),
    ("kind", .text "Service"),
    ("metadata", metadata c),
    ("spec", Value.record [
      ("type", kind),
      ("ports", .list [Value.record [
        ("port", port), ("targetPort", target), ("protocol", .text "TCP")]]),
      ("selector", labels c)])]

end Conveyor.Manifest
