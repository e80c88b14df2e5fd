import Aristo.State.RangeProof
import Aristo.XRegion.Intent

/-!
# The cross-region coordinator

The part of `coordination/xregion/coordinator.go` that executes an intent: range
proofs are answered from the coordinator's own store, signatures are only required
to be non-empty, and a `RegionProcessor` confirms the intent with every region.

`ProcessRegions` starts one goroutine a region.  A goroutine fails only when the
context is done or `ConfirmIntent` fails, so what matters of a schedule is the
error with which the context cut the call short, if it did: `Context.done`.
-/

namespace Aristo

open GoBase

namespace XRegion

variable {π : Type}

/-- A `context.Context`, by the error it ends the call with when it is done before
the call is finished. -/
structure Context where
  done : Option GoError

/-- `RangeRequest`, without the time window and the signature, which nothing on
this path reads. -/
structure RangeRequest where
  startKey : Bytes
  endKey : Option Bytes
  regionID : Bytes
deriving DecidableEq

/-- `RangeResponse`, without the time window and the signature. -/
structure RangeResponse (π : Type) where
  proof : State.RangeProof π
  regionID : Bytes

namespace Coordinator

/-- `RequestRangeProof`, over the coordinator's store. -/
def requestRangeProof (evict : State.CacheEntries π → List State.ID) (req : RangeRequest) :
    Call (State.MerkleStore π) (RangeResponse π) := do
  let proof ← Call.wrapping (ascii "failed to get range proof")
    (State.MerkleStore.getRangeProof evict req.startKey req.endKey)
  return { proof, regionID := req.regionID }

def verifySignature (_regionID _intentID signature : Bytes) : Except GoError Unit :=
  refuse (signature = []) (.plain (ascii "empty signature"))

def sign (_data : Bytes) : Except GoError Bytes :=
  .ok [0x1]

def confirmIntent (intentID region signature : Bytes) : Except GoError Unit :=
  (verifySignature region intentID signature).mapError
    (.wrap (ascii "invalid signature from region " ++ region))

end Coordinator

/-- `RegionProcessor`, with its coordinator left implicit. -/
structure RegionProcessor where
  maxConcurrent : Int64

namespace RegionProcessor

def new (maxConcurrent : Int64) : Except GoError RegionProcessor :=
  do
    refuse (maxConcurrent ≤ 0) (.plain (ascii "maxConcurrent must be positive"))
    return { maxConcurrent }

/-- `ProcessRegions`; a nil context is `none`. -/
def processRegions (_processor : RegionProcessor) (ctx : Option Context)
    (intent : Bytes) (regions : List Bytes) (signature : Bytes) : Except GoError Unit :=
  match ctx with
  | none => .error (.plain (ascii "context cannot be nil"))
  | some ctx =>
    if regions = [] then
      .ok ()
    else
      match ctx.done with
      | some error => .error error
      | none =>
        forM regions fun region =>
          (Coordinator.confirmIntent intent region signature).mapError
            (.wrap (ascii "region " ++ region ++ ascii " failed"))

end RegionProcessor

end XRegion

end Aristo
