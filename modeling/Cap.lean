import Cap.Admission
import Cap.Codegen
import Cap.DisplayName
import Cap.EnvelopeGrammar
import Cap.GuardArguments
import Cap.GuardCache
import Cap.ManagedEvents
import Cap.ManagedRenewal
import Cap.ManagedResources
import Cap.ManagedSettlement
import Cap.ManagedSlots
import Cap.NestedGrammar
import Cap.NestedWire
import Cap.NodeMessage
import Cap.PacketSignature
import Cap.ProductionEvents
import Cap.ProductionInterop
import Cap.PythonAgent
import Cap.PythonDispatch
import Cap.PythonJobs
import Cap.ReleaseStability
import Cap.ReplayKey
import Cap.ReplayRace
import Cap.ResourceExternalize
import Cap.RuntimeRenewal
import Cap.SigningDomains
import Cap.Tck
import Cap.TrustCodec
import Cap.TrustSignature
import Cap.ValidationAgreement
import Cap.ValidityWindow
import Cap.WarnOutage
