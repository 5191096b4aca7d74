import Conveyor.Main
import Conveyor.Proofs.Artifact.Decoding
import Conveyor.Proofs.Artifact.Leniency
import Conveyor.Proofs.Artifact.Registrations
import Conveyor.Proofs.Artifact.Repository
import Conveyor.Proofs.Command.Starter
import Conveyor.Proofs.Definition.Acceptance
import Conveyor.Proofs.Definition.Account
import Conveyor.Proofs.Definition.Construction
import Conveyor.Proofs.Definition.Restoring
import Conveyor.Proofs.Definition.Variables
import Conveyor.Proofs.FileTree.Overwriting
import Conveyor.Proofs.Log.Handlers
import Conveyor.Proofs.Reference.Guarding
import Conveyor.Proofs.Reference.Joining
import Conveyor.Proofs.Schema.Ordering
import Conveyor.Proofs.Session.Confinement
import Conveyor.Proofs.Session.Dispatch
import Conveyor.Proofs.Session.Loading
import Conveyor.Proofs.Session.Operations
import Conveyor.Proofs.Session.Saving
import Conveyor.Proofs.Session.Targets
