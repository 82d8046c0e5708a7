import NodeDiscovery.ConfigFile
import NodeDiscovery.Host
import NodeDiscovery.Net.NumericHost
import NodeDiscovery.Transport
import NodeDiscovery.Proofs.FiniteMap
import NodeDiscovery.Proofs.Registry
import NodeDiscovery.Proofs.Coherence
import NodeDiscovery.Proofs.AddressAgreement
import NodeDiscovery.Proofs.Sending
import NodeDiscovery.Proofs.Traffic
import NodeDiscovery.Proofs.Admission
import NodeDiscovery.Proofs.Replies
import NodeDiscovery.Proofs.Exchange
import NodeDiscovery.Proofs.Standoff
import NodeDiscovery.Proofs.AddressText
import NodeDiscovery.Proofs.Rotation
import NodeDiscovery.Proofs.Deeds
import NodeDiscovery.Proofs.Freshness
import NodeDiscovery.Proofs.Backing
import NodeDiscovery.Proofs.Expiring
import NodeDiscovery.Proofs.Settlement
import NodeDiscovery.Proofs.AddressMemory
import NodeDiscovery.Proofs.Transparency
import NodeDiscovery.Proofs.Bindings
import NodeDiscovery.Proofs.Silence
import NodeDiscovery.Proofs.Tenancy
import NodeDiscovery.Proofs.Ledger
import NodeDiscovery.Proofs.AddressSets
import NodeDiscovery.Proofs.Contacting
import NodeDiscovery.Proofs.Bootstrap
import NodeDiscovery.Proofs.Handshake
import NodeDiscovery.Proofs.Attempts
import NodeDiscovery.Proofs.Ordeal
import NodeDiscovery.Proofs.TableRuns
import NodeDiscovery.Proofs.Recency
import NodeDiscovery.Proofs.Whereabouts
import NodeDiscovery.Proofs.Samples
import NodeDiscovery.Proofs.Ranking
import NodeDiscovery.Proofs.Answering
import NodeDiscovery.Proofs.Neighborhood
import NodeDiscovery.Proofs.Eviction
import NodeDiscovery.Proofs.SecondRound
import NodeDiscovery.Proofs.Noise
import NodeDiscovery.Proofs.Conservation
import NodeDiscovery.Proofs.Introductions
import NodeDiscovery.Proofs.Retries
import NodeDiscovery.Proofs.Probes
import NodeDiscovery.Proofs.EndpointText
import NodeDiscovery.Proofs.IdentifierText
import NodeDiscovery.Proofs.SharedBits
import NodeDiscovery.Proofs.TaskEndings
