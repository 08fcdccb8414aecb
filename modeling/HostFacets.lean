import HostFacets.Configuration
import HostFacets.Engine
import HostFacets.Http
import HostFacets.Json.Equality
import HostFacets.Shipped
import HostFacets.Proofs.Canonical
import HostFacets.Proofs.Interpretation
import HostFacets.Proofs.FilterMeaning
import HostFacets.Proofs.Exchange
import HostFacets.Proofs.Scoping
import HostFacets.Proofs.Grammar
import HostFacets.Proofs.Pages
import HostFacets.Proofs.Paths
import HostFacets.Proofs.DraftValue
import HostFacets.Proofs.RecordReading
import HostFacets.Proofs.Overflow
import HostFacets.Proofs.Rendering
import HostFacets.Proofs.Rerooting
import HostFacets.Proofs.RefusalForms
import HostFacets.Proofs.NativeValues
import HostFacets.Proofs.EmptyPages
import HostFacets.Proofs.BucketOrder
import HostFacets.Proofs.PageSequence
import HostFacets.Proofs.TagKeys
import HostFacets.Proofs.SystemKeys
import HostFacets.Proofs.LosslessRendering
import HostFacets.Proofs.ArgumentRules
import HostFacets.Proofs.RecordParts
import HostFacets.Proofs.ResponseParts
import HostFacets.Proofs.ResponseObjects
import HostFacets.Proofs.DeclaredFields
import HostFacets.Proofs.HttpEndings
import HostFacets.Proofs.SchemaFaults
import HostFacets.Proofs.FirstViolation
import HostFacets.Proofs.Numerals
import HostFacets.Proofs.WindowWords
import HostFacets.Proofs.UuidIdentity
import HostFacets.Proofs.Overlay
import HostFacets.Proofs.InvalidValues
