import Aristo.Actions.CrossRegion
import Aristo.Base.Packer
import Aristo.XRegion.Validate

/-!
# The encoding of a cross-region action

`Marshal` of `actions/cross_region.go` writes counts in front of the target regions, the change
lists and the signatures, and visits the two maps in an order of Go's choice.  `Unmarshal` reads
every field with `required` set, and keys, values and signatures with a limit of zero as well, which
no byte string meets: `unmarshal_fails`.
-/

namespace Aristo

open GoBase XRegion

namespace CrossRegionAction

/-! ## Marshal -/

def packChange (P : Packer) (change : StateChange) : Pack := do
  P.packBytes change.key
  P.packBytes change.value
  P.packInt change.operation.code.toUInt64.toUInt32
  P.packString change.source
  P.packString change.target

def packRegion (P : Packer) (intent : CrossRegionIntent) (region : Bytes) : Pack := do
  P.packString region
  P.packInt (UInt32.ofNat (intent.stateChanges.get region).length)
  forM (intent.stateChanges.get region) (packChange P)

def packSignature (P : Packer) (intent : CrossRegionIntent) (region : Bytes) : Pack := do
  P.packString region
  P.packBytes (intent.signatures.get region)

/-- The fields of the intent, visiting the maps in the given orders. -/
def packIntent (P : Packer) (intent : CrossRegionIntent)
    (changesOrder signaturesOrder : List Bytes) : Pack := do
  P.packString intent.id
  P.packString intent.sourceRegion
  P.packInt (UInt32.ofNat intent.targetRegions.length)
  forM intent.targetRegions P.packString
  P.packInt64 intent.timeWindow.duration
  P.packInt (UInt32.ofNat intent.stateChanges.len)
  forM changesOrder (packRegion P intent)
  P.packInt (UInt32.ofNat intent.signatures.len)
  forM signaturesOrder (packSignature P intent)

def marshal (P : Packer) (action : CrossRegionAction)
    (changesOrder signaturesOrder : List Bytes) (p : Writer) : Option GoError × Writer :=
  match action.intent with
  | none => (some errNilIntent, p)
  | some intent =>
    let p := (packIntent P intent changesOrder signaturesOrder p).2
    (p.err, p)

/-! ## Unmarshal -/

def unpackChange (P : Packer) : Unpack StateChange := do
  let key ← P.unpackBytes 0 true
  let value ← P.unpackBytes 0 true
  let operation ← P.unpackInt true
  let source ← P.unpackString true
  let target ← P.unpackString true
  return { key, value, operation := ⟨operation.toUInt64.toInt64⟩, source, target }

def unpackRegion (P : Packer) : Unpack (Bytes × List StateChange) := do
  let regionID ← P.unpackString true
  let changes ← P.unpackList (unpackChange P)
  return (regionID, changes)

def unpackSignature (P : Packer) : Unpack (Bytes × Bytes) := do
  let regionID ← P.unpackString true
  let sig ← P.unpackBytes 0 true
  return (regionID, sig)

/-- The fields of the intent; `now` is the clock of the decoder. -/
def unpackIntent (P : Packer) (now : Time) : Unpack CrossRegionIntent := do
  let id ← P.unpackString true
  let sourceRegion ← P.unpackString true
  let targetRegions ← P.unpackList (P.unpackString true)
  let duration ← P.unpackInt64 true
  let stateChanges ← P.unpackMap (unpackRegion P)
  let signatures ← P.unpackMap (unpackSignature P)
  return {
    id, sourceRegion, targetRegions, timeWindow := { start := now, duration },
    signatures, stateChanges }

/-- `Unmarshal`: the error it returns, the action it leaves and the packer. -/
def unmarshal (P : Packer) (now : Time) (p : Reader) :
    Option GoError × CrossRegionAction × Reader :=
  let (intent, p) := unpackIntent P now p
  (p.err, ⟨some intent⟩, p)

/-! ## The round trip -/

/-- A signature is required and must have no bytes. -/
theorem rejects_signature (P : Packer) : Rejects (unpackSignature P) :=
  Rejects.bind_right fun _ => P.rejects_bytes_zero.bind

/-- **No bytes are decoded**: the number of signatures is required, and no signature can be
read. -/
theorem unmarshal_fails (P : Packer) (now : Time) (p : Reader) : (unmarshal P now p).1 ≠ none := by
  have rejects : Rejects (unpackIntent P now) :=
    Rejects.bind_right fun _ => Rejects.bind_right fun _ => Rejects.bind_right fun _ =>
      Rejects.bind_right fun _ => Rejects.bind_right fun _ =>
        (P.rejects_unpackMap (rejects_signature P)).bind
  exact rejects p

/-- `Marshal` writes the intent to an empty packer, and `Unmarshal` reads all of it and returns the
same intent. -/
def RoundTrips (P : Packer) (intent : CrossRegionIntent)
    (changesOrder signaturesOrder : List Bytes) (room : ℕ) (now : Time) : Prop :=
  ∃ bytes left,
    marshal P ⟨some intent⟩ changesOrder signaturesOrder ⟨[], room, none⟩ =
        (none, ⟨bytes, left, none⟩) ∧
      unmarshal P now ⟨bytes, none⟩ = (none, ⟨some intent⟩, ⟨[], none⟩)

/-- **There is no round trip**: not for any intent, order of the maps, size of the packer or time,
since `Unmarshal` returns an error whatever it reads. -/
theorem never_roundTrips (P : Packer) (intent : CrossRegionIntent)
    (changesOrder signaturesOrder : List Bytes) (room : ℕ) (now : Time) :
    (∀ p, (unmarshal P now p).1 ≠ none) ∧
      ¬ RoundTrips P intent changesOrder signaturesOrder room now := by
  refine ⟨unmarshal_fails P now, ?_⟩
  rintro ⟨bytes, left, -, returned⟩
  exact unmarshal_fails P now ⟨bytes, none⟩ (congrArg Prod.fst returned)

open CrossRegionIntent

theorem visits_oneChange (operation : StateOperation) :
    (oneChange operation).stateChanges.Visits [ascii "A"] :=
  GoMap.visits_ofEntries (List.nodup_singleton _) (List.Perm.refl _)

theorem visits_signatures (operation : StateOperation) :
    (oneChange operation).signatures.Visits [ascii "A", ascii "B"] :=
  GoMap.visits_ofEntries (by decide) (List.Perm.refl _)

/-- A transfer out that `ValidateBasic` accepts and `Marshal` encodes is refused at its first
key. -/
theorem unmarshal_transferOut :
    let action : CrossRegionAction := ⟨some (oneChange .transferOut)⟩
    let written := marshal wirePacker action [ascii "A"] [ascii "A", ascii "B"] ⟨[], 1024, none⟩
    validateBasic action [ascii "A"] [ascii "A", ascii "B"] = .ok () ∧
      written.1 = none ∧
        (unmarshal wirePacker (Time.unixUTC 1) ⟨written.2.bytes, none⟩).1 = some errOversized := by
  decide +kernel

end CrossRegionAction

end Aristo
