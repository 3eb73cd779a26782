import TypedClient.Main
import TypedClient.Proofs.FieldNames
import TypedClient.Proofs.BoundNames
import TypedClient.Proofs.Verification
import TypedClient.Proofs.Outcome
import TypedClient.Proofs.Pointer
import TypedClient.Proofs.Generation
import TypedClient.Proofs.Extraction
import TypedClient.Proofs.Inlined
import TypedClient.Proofs.ClientMethods
import TypedClient.Proofs.ComponentReference
import TypedClient.Proofs.Watching
import TypedClient.Proofs.Looks
import TypedClient.Proofs.ParameterMerge
import TypedClient.Proofs.Binding
import TypedClient.Proofs.FieldDefaults
import TypedClient.Proofs.TypeModules
import TypedClient.Proofs.PlanExtension
import TypedClient.Proofs.Loading
import TypedClient.Proofs.VerifyFaults
import TypedClient.Proofs.Renaming
import TypedClient.Proofs.ReferenceSearch
