import Aristo.State.CacheBound
import Aristo.State.Manager
import Aristo.XRegion.Schedule
import Aristo.Storage.MerkleRoot
import Aristo.Regions.PairMetrics
import Aristo.Regions.Selection
import Aristo.Regions.Recovery
import Aristo.Regions.Atomicity
import Aristo.Regions.PairManager
import Aristo.Regions.PairLookup
import Aristo.Storage.RegionalKeys
import Aristo.Storage.TaskStates
import Aristo.Storage.RegionConfigs
import Aristo.Storage.RegionStateStore
import Aristo.Coordination.MerkleStorage
import Aristo.Coordination.Queue
import Aristo.Coordination.Results
import Aristo.Coordination.Participants
import Aristo.Coordination.PairLoad
import Aristo.Coordination.Messages
import Aristo.Actions.Ledger
import Aristo.Actions.RegionFootprint
import Aristo.Actions.Reserved
import Aristo.Verifier.BatchOrder
import Aristo.Compute.Capacity
import Aristo.Vm.Execution
import Aristo.Vm.Attestation
import Aristo.Vm.CodeValidator
import Aristo.Vm.Validator
import Aristo.Actions.CrossRegionCoverage
import Aristo.Actions.CanonicalEncoding
import Aristo.Actions.DecodingWork
import Aristo.Actions.Footprint
import Aristo.Vm.Region
import Aristo.Vm.RegionRecords
import Aristo.Vm.Monitoring
