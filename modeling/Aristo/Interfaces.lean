import Aristo.Base.Float64
import Aristo.Base.Time

/-!
# Regions and TEE pairs as the interfaces have them

The records of `interfaces/tee.go` that the pair manager and the regions of a virtual machine share,
and the region of `interfaces/types.go` that the state manager stores.
-/

namespace Aristo

open GoBase

namespace Interfaces

structure Region where
  id : Bytes
  createdAt : Time
  workers : List Bytes
  status : Bytes
deriving DecidableEq

structure TEEPair where
  id : Bytes
  sgxID : Bytes
  sevID : Bytes
deriving DecidableEq

structure TEEPairConfig where
  id : Bytes
  sgxEndpoint : Bytes
  sevEndpoint : Bytes
  status : Bytes
deriving DecidableEq

structure TEEPairInfo where
  id : Bytes
  sgxEndpoint : Bytes
  sevEndpoint : Bytes
  status : Bytes
  lastUpdate : Time
deriving DecidableEq

structure TEEPairMetrics where
  pairID : Bytes
  loadFactor : Float64
  successRate : Float64
  errorRate : Float64
  tasksProcessed : UInt64
  lastUpdate : Time
deriving DecidableEq

end Interfaces

end Aristo
