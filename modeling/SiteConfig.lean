import SiteConfig.Main
import SiteConfig.Session
import SiteConfig.Proofs.Network.Encoding
import SiteConfig.Proofs.Block.Reading
import SiteConfig.Proofs.Mapping.Expansion
import SiteConfig.Proofs.Mapping.Completeness
import SiteConfig.Proofs.Mapping.ExpansionFaults
import SiteConfig.Proofs.Block.Written
import SiteConfig.Proofs.Mapping.WriteBack
import SiteConfig.Proofs.Mapping.AccessRules
import SiteConfig.Proofs.Mapping.Cycle
import SiteConfig.Proofs.Body.Reading
import SiteConfig.Proofs.Body.Written
import SiteConfig.Proofs.Session
import SiteConfig.Proofs.Mapping.Response
import SiteConfig.Proofs.Mapping.Restated
import SiteConfig.Proofs.Mapping.Acceptance
import SiteConfig.Proofs.Block.Checking
import SiteConfig.Proofs.Block.Conformance
import SiteConfig.Proofs.Mapping.Keys
import SiteConfig.Proofs.Mapping.Sent
import SiteConfig.Proofs.Mapping.SentNetworks
import SiteConfig.Proofs.Mapping.Reported
import SiteConfig.Proofs.Block.Faults
import SiteConfig.Proofs.Plain
import SiteConfig.Proofs.Rendering
import SiteConfig.Proofs.CommandLine.Mapping
import SiteConfig.Proofs.Network.Grammar
import SiteConfig.Proofs.Mapping.FlatteningFaults
import SiteConfig.Proofs.Network.Notation
import SiteConfig.Proofs.Network.Lengths
import SiteConfig.Proofs.Block.Lookup
import SiteConfig.Proofs.Block.FirstFault
import SiteConfig.Proofs.Block.LeftOut
import SiteConfig.Proofs.Block.Authored
import SiteConfig.Proofs.Json.RoundTrip
import SiteConfig.Proofs.Printing.Endings
import SiteConfig.Proofs.Printing.LastText
import SiteConfig.Proofs.Printing.ReadBack
import SiteConfig.Proofs.Attribution
import SiteConfig.Proofs.Mapping.Equivalence
import SiteConfig.Proofs.Mapping.NewerResponse
import SiteConfig.Proofs.Preferences.Variable
import SiteConfig.Proofs.Preferences.Layers
import SiteConfig.Proofs.CommandLine.Asked
import SiteConfig.Proofs.CommandLine.OutputFormat
