import ChatDispatch.Command.Services
import ChatDispatch.Dispatcher.Overview
import ChatDispatch.Upload.Entry
import ChatDispatch.Wire.Decode
import ChatDispatch.Proofs.Assembly
import ChatDispatch.Proofs.Tier
import ChatDispatch.Proofs.Admission
import ChatDispatch.Proofs.Bounds
import ChatDispatch.Proofs.Lookup
import ChatDispatch.Proofs.Nesting
import ChatDispatch.Proofs.RouteSet
import ChatDispatch.Proofs.Splitting
import ChatDispatch.Proofs.Insertion
import ChatDispatch.Proofs.ModuleTree
import ChatDispatch.Proofs.Mirroring
import ChatDispatch.Proofs.Loading
import ChatDispatch.Proofs.Registration
import ChatDispatch.Proofs.Identifiers
import ChatDispatch.Proofs.RoutePriority
import ChatDispatch.Proofs.Unloading
import ChatDispatch.Proofs.Undoing
import ChatDispatch.Proofs.Destinations
import ChatDispatch.Proofs.Naming
import ChatDispatch.Proofs.PathRouting
import ChatDispatch.Proofs.Renumbering
import ChatDispatch.Proofs.LoadOrder
import ChatDispatch.Proofs.UploadNames
import ChatDispatch.Proofs.GroupSizes
import ChatDispatch.Proofs.Validity
import ChatDispatch.Proofs.Suggestions
import ChatDispatch.Proofs.RunModes
import ChatDispatch.Proofs.Reporting
import ChatDispatch.Proofs.Resolution
import ChatDispatch.Proofs.ArgumentTypes
import ChatDispatch.Proofs.Raising
import ChatDispatch.Proofs.TypedArguments
import ChatDispatch.Proofs.JsonTexts
import ChatDispatch.Proofs.JsonReading
import ChatDispatch.Proofs.RoundTrip
import ChatDispatch.Proofs.Slots
import ChatDispatch.Proofs.NamedOrder
import ChatDispatch.Proofs.CheckOrder
import ChatDispatch.Proofs.Lifecycle
import ChatDispatch.Proofs.InPlace
import ChatDispatch.Proofs.Patterns
import ChatDispatch.Proofs.Specificity
import ChatDispatch.Proofs.IntegerTexts
import ChatDispatch.Proofs.DeepestAdapter
import ChatDispatch.Proofs.CapturesInTurn
import ChatDispatch.Proofs.UploadShape
import ChatDispatch.Proofs.TransportCalls
