import Aristo.Actions.Codec
import Aristo.Actions.CrossRegionCodec
import Aristo.Base.Meter

/-!
# The work of decoding

The loops of `CrossRegionAction.Unmarshal` and `CreateRegionAction.Unmarshal` run as often as the
32-bit counts in the input say, and the slices for state changes and TEEs are made at that length
before anything is read into them.  The packer's error is looked at only at the end, so a loop goes
on when there is nothing left to read.

The metered decoders are the decoders with their iterations and allocations counted
(`follows_intent`, `follows_createRegion`).  `Announces` is about the bytes alone: where in the
input a count stands that drives a loop.
-/

namespace Aristo

open GoBase XRegion Metered Follows

/-- What the loops of the decoders read. -/
inductive DecodedItem where
  | targets
  | regions
  | changes
  | signatures
  | tees
deriving DecidableEq

/-- What is counted: the iterations of a loop and the slots made for what it reads. -/
inductive Meter where
  | iterations (loop : DecodedItem)
  | allocated (slot : DecodedItem)
deriving DecidableEq

/-- As many iterations as slots. -/
def itemWork (item : DecodedItem) (count : ℕ) : Meter → ℕ :=
  charge (.iterations item) count + charge (.allocated item) count

namespace CrossRegionAction

variable (P : Packer)

/-! ## The metered decoder -/

def meteredTarget : Metered Meter Bytes := do
  let region ← read (P.unpackString true)
  spend (.allocated .targets) 1
  return region

def meteredTargets : Metered Meter (List Bytes) := do
  let targetCount ← read (P.unpackInt true)
  times (.iterations .targets) targetCount.toNat
    (fun targets => do return targets ++ [← meteredTarget P]) []

/-- The changes of one region, in a slice that is made at the announced length. -/
def meteredChanges : Metered Meter (List StateChange) := do
  let numChanges ← read (P.unpackInt true)
  spend (.allocated .changes) numChanges.toNat
  times (.iterations .changes) numChanges.toNat
    (fun changes => do return changes ++ [← read (unpackChange P)]) []

def meteredRegion : Metered Meter (Bytes × List StateChange) := do
  let regionID ← read (P.unpackString true)
  let changes ← meteredChanges P
  return (regionID, changes)

def storeEntry {α : Type} (entries : GoMap Bytes α) (entry : Bytes × α) : GoMap Bytes α :=
  entries.insert entry.1 entry.2

def meteredRegions : Metered Meter (GoMap Bytes (List StateChange)) := do
  let numRegionChanges ← read (P.unpackInt true)
  times (.iterations .regions) numRegionChanges.toNat
    (fun entries => do return storeEntry entries (← meteredRegion P)) ∅

def meteredSignature : Metered Meter (Bytes × Bytes) := do
  let entry ← read (unpackSignature P)
  spend (.allocated .signatures) 1
  return entry

def meteredSignatures : Metered Meter (GoMap Bytes Bytes) := do
  let numSigs ← read (P.unpackInt true)
  times (.iterations .signatures) numSigs.toNat
    (fun entries => do return storeEntry entries (← meteredSignature P)) ∅

/-- `Unmarshal` with its loops and slots counted. -/
def meteredIntent (now : Time) : Metered Meter CrossRegionIntent := do
  let id ← read (P.unpackString true)
  let sourceRegion ← read (P.unpackString true)
  let targetRegions ← meteredTargets P
  let duration ← read (P.unpackInt64 true)
  let stateChanges ← meteredRegions P
  let signatures ← meteredSignatures P
  return {
    id, sourceRegion, targetRegions, timeWindow := { start := now, duration },
    signatures, stateChanges }

/-- The iterations and slots of `Unmarshal` on `data`. -/
def work (now : Time) (data : Bytes) : Meter → ℕ :=
  (meteredIntent P now 0 ⟨data, none⟩).1.2

/-! ## The counts of the loops -/

/-- The count that a decoder finds. -/
def announced (required : Bool) (r : Reader) : ℕ :=
  (P.unpackInt required r).1.toNat

def atTargets (data : Bytes) : Reader :=
  ((do let _ ← P.unpackString true; P.unpackString true) ⟨data, none⟩).2

def atRegions (data : Bytes) : Reader :=
  ((do let _ ← P.unpackList (P.unpackString true); P.unpackInt64 true) (atTargets P data)).2

/-- Behind the name of the first region. -/
def atChanges (data : Bytes) : Reader :=
  ((do let _ ← P.unpackInt true; P.unpackString true) (atRegions P data)).2

/-- How often the loops run: the changes of the first region are not read without an error, so
that the counts behind them are zero. -/
def loopCount (data : Bytes) : DecodedItem → ℕ
  | .targets => announced P true (atTargets P data)
  | .regions => announced P true (atRegions P data)
  | .changes => announced P true (atChanges P data)
  | .signatures | .tees => 0

/-! ## The work of the loops -/

/-- A value is read and a slot made for it. -/
theorem follows_slot (item : DecodedItem) {α : Type} (u : Unpack α) :
    Follows
      (do
        let value ← read u
        spend (.allocated item) 1
        return value)
      u fun _ => charge (Meter.allocated item) 1 :=
  (read_bind fun _ => spend_bind (pure _)).congr fun _ => add_zero _

/-- With a slot for each item there are as many as iterations. -/
theorem itemWork_eq (item : DecodedItem) (next : Reader → Reader) (count : ℕ) (r : Reader) :
    charge (.iterations item) count + total next (fun _ => charge (.allocated item) 1) count r =
      itemWork item count := by
  rw [total_charge, total_one, itemWork]

/-- The loop over target regions makes a slot for each item, -/
theorem follows_targets :
    Follows (meteredTargets P) (P.unpackList (P.unpackString true))
      fun r => itemWork .targets (announced P true r) :=
  (read_bind (u := P.unpackInt true) fun count =>
    items (follows_slot .targets (P.unpackString true))
      (fun targets region => targets ++ [region]) count.toNat []).congr
        fun _ => itemWork_eq .targets _ _ _

/-- and so does that over signatures, -/
theorem follows_signatures :
    Follows (meteredSignatures P) (P.unpackMap (unpackSignature P))
      fun r => itemWork .signatures (announced P true r) :=
  (read_bind (u := P.unpackInt true) fun count =>
    items (follows_slot .signatures (unpackSignature P)) storeEntry count.toNat ∅).congr
      fun _ => itemWork_eq .signatures _ _ _

/-- and that over changes makes them all before it starts. -/
theorem follows_changes :
    Follows (meteredChanges P) (P.unpackList (unpackChange P))
      fun r => itemWork .changes (announced P true r) := by
  refine (read_bind (u := P.unpackInt true) fun count => spend_bind
    (items (read (unpackChange P))
      (fun changes change => changes ++ [change]) count.toNat [])).congr fun r => ?_
  rw [total_zero, add_zero, add_comm]
  rfl

/-! ## After the first region there is an error -/

/-- A region is not read without an error: its changes end with bytes of length zero. -/
theorem rejects_region : Rejects (unpackRegion P) :=
  Rejects.bind_right fun _ => (P.rejects_unpackList P.rejects_bytes_zero.bind).bind

/-- After an error no count is found. -/
theorem announced_of_failed {r : Reader} (failed : r.err ≠ none) : announced P true r = 0 := by
  rw [announced, (P.reads_int true).failed r failed]
  rfl

/-- The changes that all regions announce together are those of the first one. -/
theorem total_changes (r : Reader) :
    total (fun r => (unpackRegion P r).2)
        (fun r => announced P true (P.unpackString true r).2) (announced P true r)
        (P.unpackInt true r).2 =
      announced P true (P.unpackString true (P.unpackInt true r).2).2 := by
  have named : ∀ r : Reader, r.err ≠ none → announced P true (P.unpackString true r).2 = 0 :=
    fun r failed => announced_of_failed P ((P.sticky_string true).stays r failed)
  cases announces : announced P true r with
  | zero =>
    -- a required read that finds zero has recorded an error
    refine (named _ ?_).symm
    obtain ⟨-, count, rest, fine, -, read⟩ | ⟨-, failed⟩ := (P.reads_int true).cases r
    · rw [announced, read] at announces
      exact absurd (UInt32.toNat_inj.mp announces) (fine rfl)
    · exact failed
  | succ count =>
    exact total_first _ (fun r => announced P true (P.unpackString true r).2)
      (fun r => named _ (rejects_region P r)) count _

/-- The loop over regions makes the changes of the first region. -/
theorem follows_regions :
    Follows (meteredRegions P) (P.unpackMap (unpackRegion P)) fun r =>
      charge (.iterations .regions) (announced P true r) +
        itemWork .changes (announced P true (P.unpackString true (P.unpackInt true r).2).2) := by
  have region : Follows (meteredRegion P) (unpackRegion P)
      fun r => itemWork .changes (announced P true (P.unpackString true r).2) :=
    read_bind fun _ => ((follows_changes P).bind fun _ => pure _).congr
      fun _ => add_zero _
  refine (read_bind (u := P.unpackInt true) fun count =>
    items region storeEntry count.toNat ∅).congr fun r => ?_
  rw [← total_changes]
  unfold itemWork
  rw [total_add, total_charge, total_charge]
  rfl

/-- **The metered decoder is the decoder**, with the counts of its loops. -/
theorem follows_intent (now : Time) (data : Bytes) (counters : Meter → ℕ) :
    meteredIntent P now counters ⟨data, none⟩ =
      (((unpackIntent P now ⟨data, none⟩).1, counters +
        (itemWork .targets (loopCount P data .targets) +
          (charge (.iterations .regions) (loopCount P data .regions) +
            itemWork .changes (loopCount P data .changes)))),
        (unpackIntent P now ⟨data, none⟩).2) := by
  -- the regions leave an error behind, so that no signatures are announced
  have unsigned : ∀ r, itemWork .signatures
      (announced P true (P.unpackMap (unpackRegion P) r).2) = 0 := by
    intro r
    rw [announced_of_failed P (P.rejects_unpackMap (rejects_region P) r), itemWork, charge_zero,
      charge_zero, add_zero]
  have follows : Follows (meteredIntent P now) (unpackIntent P now) _ :=
    read_bind fun _ => read_bind fun _ => (follows_targets P).bind fun _ =>
      read_bind fun _ => (follows_regions P).bind fun _ =>
        ((follows_signatures P).bind fun _ => pure _).congr fun _ => add_zero _
  have counted := follows counters ⟨data, none⟩
  rw [unsigned, add_zero] at counted
  exact counted

/-- The iterations of each loop are its count, and the slots are no more. -/
theorem work_apply (now : Time) (data : Bytes) (item : DecodedItem) :
    work P now data (.iterations item) = loopCount P data item ∧
      work P now data (.allocated item) ≤ loopCount P data item := by
  have counted := congrArg (fun result => result.1.2) (follows_intent P now data 0)
  change work P now data = _ at counted
  rw [counted]
  cases item <;> simp [itemWork, charge, loopCount]

/-! ## Where the counts stand in the input -/

/-- A name that is read: not empty, and not longer than its length field says. -/
def ReadableName (text : Bytes) : Prop :=
  text.length ≤ maxStringLen ∧ text ≠ []

/-- `data` is two names, and then `rest`. -/
def TargetsAt (data rest : Bytes) : Prop :=
  ∃ id source, ReadableName id ∧ ReadableName source ∧
    data = encodeString id ++ (encodeString source ++ rest)

/-- Behind the names `data` has at least one target region and a duration, and then `rest`. -/
def RegionsAt (data rest : Bytes) : Prop :=
  ∃ (targets : List Bytes) (duration : Int64), targets ≠ [] ∧ targets.length < 2 ^ 32 ∧
    (∀ region ∈ targets, ReadableName region) ∧ duration ≠ 0 ∧
      TargetsAt data (toBE 4 targets.length ++ (targets.flatMap encodeString ++
        (toBE 8 duration.toUInt64.toNat ++ rest)))

/-- Behind these `data` has a number of regions and the name of one, and then `rest`. -/
def ChangesAt (data rest : Bytes) : Prop :=
  ∃ (regions : UInt32) (region : Bytes), regions ≠ 0 ∧ ReadableName region ∧
    RegionsAt data (toBE 4 regions.toNat ++ (encodeString region ++ rest))

/-- The input has `count` where target regions, regions or the changes of the first region are
counted. -/
def Announces (data : Bytes) (count : UInt32) : Prop :=
  ∃ rest, TargetsAt data (toBE 4 count.toNat ++ rest) ∨
    RegionsAt data (toBE 4 count.toNat ++ rest) ∨ ChangesAt data (toBE 4 count.toNat ++ rest)

/-- Where a sequence of reads ends without an error. -/
theorem snd_eq_iff {α : Type} {u : Unpack α} {data rest : Bytes} :
    (u ⟨data, none⟩).2 = ⟨rest, none⟩ ↔ ∃ value, Yields u data value rest :=
  ⟨fun left => ⟨_, Prod.ext rfl left⟩, fun ⟨_, found⟩ => by rw [found]⟩

/-- A name that is read stands at the front of the input, -/
theorem yields_name_iff {data text rest : Bytes} :
    Yields (P.unpackString true) data text rest ↔
      ReadableName text ∧ data = encodeString text ++ rest := by
  rw [(P.reads_string true).yields_iff]
  simp [ReadableName]

/-- and so does a count. -/
theorem yields_count_iff {data rest : Bytes} {count : UInt32} :
    Yields (P.unpackInt true) data count rest ↔ count ≠ 0 ∧ data = toBE 4 count.toNat ++ rest := by
  rw [(P.reads_int true).yields_iff]
  simp

/-- The target regions are counted behind two names. -/
theorem atTargets_eq_iff (data rest : Bytes) :
    atTargets P data = ⟨rest, none⟩ ↔ TargetsAt data rest := by
  rw [atTargets, snd_eq_iff]
  simp only [yields_bind_iff, yields_name_iff]
  constructor
  · rintro ⟨source, id, _, ⟨named, rfl⟩, sourceNamed, rfl⟩
    exact ⟨id, source, named, sourceNamed, rfl⟩
  · rintro ⟨id, source, named, sourceNamed, rfl⟩
    exact ⟨source, id, _, ⟨named, rfl⟩, sourceNamed, rfl⟩

/-- What is read behind a position of the input. -/
theorem behind_eq_iff {α : Type} {u : Unpack α} [Sticky u] {r : Reader} {at' : Bytes → Prop}
    (position : ∀ rest, r = ⟨rest, none⟩ ↔ at' rest) {rest : Bytes} :
    (u r).2 = ⟨rest, none⟩ ↔ ∃ middle value, at' middle ∧ Yields u middle value rest := by
  constructor
  · intro left
    obtain ⟨data, none | error⟩ := r
    · obtain ⟨value, read⟩ := snd_eq_iff.mp left
      exact ⟨data, value, (position data).mp rfl, read⟩
    · exact absurd (congrArg Reader.err left)
        ((inferInstance : Sticky u).stays ⟨data, some error⟩ (Option.some_ne_none error))
  · rintro ⟨middle, value, here, read⟩
    rw [(position middle).mpr here]
    exact snd_eq_iff.mpr ⟨value, read⟩

/-- The target regions stand behind their number. -/
theorem yields_targets_iff {data rest : Bytes} {targets : List Bytes} :
    Yields (P.unpackList (P.unpackString true)) data targets rest ↔
      (targets ≠ [] ∧ targets.length < 2 ^ 32 ∧ ∀ region ∈ targets, ReadableName region) ∧
        data = toBE 4 targets.length ++ (targets.flatMap encodeString ++ rest) := by
  simp only [Packer.unpackList, yields_bind_iff, yields_count_iff,
    yields_repeated_iff fun _ _ _ => yields_name_iff P]
  constructor
  · rintro ⟨count, _, ⟨nonzero, rfl⟩, length, named, rfl⟩
    rw [length]
    refine ⟨⟨?_, count.toNat_lt, named⟩, rfl⟩
    rintro rfl
    exact nonzero (UInt32.toNat_inj.mp length.symm)
  · rintro ⟨⟨nonempty, short, named⟩, rfl⟩
    have number := toNat_uint32 short
    refine ⟨UInt32.ofNat targets.length, _, ⟨fun zero => ?_, by rw [number]⟩, number.symm, named,
      rfl⟩
    rw [zero] at number
    exact nonempty (List.length_eq_zero_iff.mp number.symm)

/-- The regions are counted behind the targets and a duration, -/
theorem atRegions_eq_iff (data rest : Bytes) :
    atRegions P data = ⟨rest, none⟩ ↔ RegionsAt data rest := by
  rw [atRegions, behind_eq_iff (atTargets_eq_iff P data)]
  simp only [yields_bind_iff, yields_targets_iff, (P.reads_int64 true).yields_iff, true_imp_iff]
  constructor
  · rintro ⟨_, duration, here, targets, _, ⟨⟨nonempty, short, named⟩, rfl⟩, nonzero, rfl⟩
    exact ⟨targets, duration, nonempty, short, named, nonzero, here⟩
  · rintro ⟨targets, duration, nonempty, short, named, nonzero, here⟩
    exact ⟨_, duration, here, targets, _, ⟨⟨nonempty, short, named⟩, rfl⟩, nonzero, rfl⟩

/-- and the changes behind the name of the first region. -/
theorem atChanges_eq_iff (data rest : Bytes) :
    atChanges P data = ⟨rest, none⟩ ↔ ChangesAt data rest := by
  rw [atChanges, behind_eq_iff (atRegions_eq_iff P data)]
  simp only [yields_bind_iff, yields_count_iff, yields_name_iff]
  constructor
  · rintro ⟨_, region, here, regions, _, ⟨nonzero, rfl⟩, named, rfl⟩
    exact ⟨regions, region, nonzero, named, here⟩
  · rintro ⟨regions, region, nonzero, named, here⟩
    exact ⟨_, region, here, regions, _, ⟨nonzero, rfl⟩, named, rfl⟩

/-- A count is bounded when it is at every place where it would be read. -/
theorem announced_le_iff (required : Bool) {r : Reader} {at' : Bytes → Prop}
    (position : ∀ rest, r = ⟨rest, none⟩ ↔ at' rest) (bound : ℕ) :
    announced P required r ≤ bound ↔
      ∀ (count : UInt32) rest, at' (toBE 4 count.toNat ++ rest) → count.toNat ≤ bound := by
  constructor
  · intro bounded count rest here
    by_cases zero : count = 0
    · rw [zero]
      exact Nat.zero_le bound
    · have read := ((P.reads_int required).yields_iff _ count rest).mpr ⟨fun _ => zero, rfl⟩
      rw [announced, (position _).mpr here, read] at bounded
      exact bounded
  · intro bounded
    obtain ⟨clean, count, rest, -, layout, read⟩ | ⟨zero, -⟩ := (P.reads_int required).cases r
    · rw [announced, read]
      exact bounded count rest ((position _).mp (by rw [← layout, ← clean]))
    · rw [announced, zero]
      exact Nat.zero_le bound

/-- **The loops are bounded by what the input announces.** -/
theorem loopCount_le_iff (data : Bytes) (bound : ℕ) :
    (∀ item, loopCount P data item ≤ bound) ↔
      ∀ count, Announces data count → count.toNat ≤ bound := by
  have targets := announced_le_iff P true (atTargets_eq_iff P data) bound
  have regions := announced_le_iff P true (atRegions_eq_iff P data) bound
  have changes := announced_le_iff P true (atChanges_eq_iff P data) bound
  constructor
  · rintro bounded count ⟨rest, here | here | here⟩
    · exact targets.mp (bounded .targets) count rest here
    · exact regions.mp (bounded .regions) count rest here
    · exact changes.mp (bounded .changes) count rest here
  · intro bounded item
    cases item with
    | targets => exact targets.mpr fun count rest here => bounded count ⟨rest, Or.inl here⟩
    | regions => exact regions.mpr fun count rest here => bounded count ⟨rest, Or.inr (Or.inl here)⟩
    | changes => exact changes.mpr fun count rest here => bounded count ⟨rest, Or.inr (Or.inr here)⟩
    | signatures | tees => exact Nat.zero_le bound

end CrossRegionAction

open CrossRegionAction

namespace CreateRegionAction

open CrossRegionAction

variable (P : Packer)

/-- `Unmarshal` with its loop and its slots counted. -/
def meteredUnmarshal (action : CreateRegionAction) : Metered Meter CreateRegionAction := do
  let regionID ← read (P.unpackString false)
  let addCount ← read (P.unpackInt false)
  spend (.allocated .tees) addCount.toNat
  let _localTEEs ← times (.iterations .tees) addCount.toNat
    (fun tees => do return tees ++ [← read (P.unpackBytes 32 true)]) []
  let first ← read (TEEAttestation.unmarshal P)
  let second ← read (TEEAttestation.unmarshal P)
  return { action with regionID, attestations := (first, second) }

def work (action : CreateRegionAction) (data : Bytes) : Meter → ℕ :=
  (meteredUnmarshal P action 0 ⟨data, none⟩).1.2

def atTEEs (data : Bytes) : Reader :=
  (P.unpackString false ⟨data, none⟩).2

/-- **The metered decoder is the decoder**, with the count of its loop. -/
theorem follows_createRegion (action : CreateRegionAction) :
    Follows (meteredUnmarshal P action) (unmarshal P action)
      fun r => itemWork .tees (announced P false (P.unpackString false r).2) := by
  refine (read_bind (u := P.unpackString false) fun regionID =>
    read_bind (u := P.unpackInt false) fun addCount => spend_bind
      ((items (read (P.unpackBytes 32 true))
        (fun tees tee => tees ++ [tee]) addCount.toNat []).bind fun _ =>
          read_bind fun _ => read_bind fun _ => pure _)).congr fun r => ?_
  rw [total_zero, add_zero, itemWork, add_comm]
  rfl

/-- The loop of `CreateRegionAction.Unmarshal` makes as many iterations as slots. -/
theorem work_eq (action : CreateRegionAction) (data : Bytes) :
    work P action data = itemWork .tees (announced P false (atTEEs P data)) := by
  have follows := follows_createRegion P action 0 ⟨data, none⟩
  have counted := congrArg (fun result => result.1.2) follows
  change work P action data = 0 + _ at counted
  rw [counted, zero_add]
  rfl

/-- `data` is the ID of a region, and then `rest`. -/
def TEEsAt (data rest : Bytes) : Prop :=
  ∃ regionID, regionID.length ≤ maxStringLen ∧ data = encodeString regionID ++ rest

/-- The TEEs are counted behind the ID of the region. -/
theorem atTEEs_eq_iff (data rest : Bytes) : atTEEs P data = ⟨rest, none⟩ ↔ TEEsAt data rest := by
  rw [atTEEs, snd_eq_iff]
  simp only [yields_string_iff]
  rfl

end CreateRegionAction

end Aristo
