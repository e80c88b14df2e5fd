import Aristo.Actions.CrossRegionCodec

/-!
# Which encodings are canonical

`Marshal` of `actions/cross_region.go` writes the entries of `StateChanges` and of `Signatures` in
the order in which Go visits the two maps.  Every entry starts with the name of its region, and no
encoding of a name is the start of another one, so two orders with different first regions never
write the same bytes.  `writes_intent` says what `Marshal` writes and when it succeeds, which no
order changes; `marshalled_canonical_iff` when the bytes do not depend on the orders.
-/

namespace Aristo

open GoBase XRegion List

namespace CrossRegionAction

/-! ## The encoding -/

def encodeCount (count : ℕ) : Bytes :=
  toBE 4 (UInt32.ofNat count).toNat

def encodeChange (change : StateChange) : Bytes :=
  encodeBytes change.key ++ (encodeBytes change.value ++
    (toBE 4 change.operation.code.toUInt64.toUInt32.toNat ++
      (encodeString change.source ++ encodeString change.target)))

def encodeRegion (intent : CrossRegionIntent) (region : Bytes) : Bytes :=
  encodeString region ++ (encodeCount (intent.stateChanges.get region).length ++
    (intent.stateChanges.get region).flatMap encodeChange)

def encodeSignature (intent : CrossRegionIntent) (region : Bytes) : Bytes :=
  encodeString region ++ encodeBytes (intent.signatures.get region)

/-- The fields in front of the two maps, with the number of regions. -/
def encodeHeader (intent : CrossRegionIntent) : Bytes :=
  encodeString intent.id ++ (encodeString intent.sourceRegion ++
    (encodeCount intent.targetRegions.length ++ (intent.targetRegions.flatMap encodeString ++
      (toBE 8 intent.timeWindow.duration.toUInt64.toNat ++ encodeCount intent.stateChanges.len))))

def encodeIntent (intent : CrossRegionIntent) (changesOrder signaturesOrder : List Bytes) :
    Bytes :=
  encodeHeader intent ++ (changesOrder.flatMap (encodeRegion intent) ++
    (encodeCount intent.signatures.len ++ signaturesOrder.flatMap (encodeSignature intent)))

/-- The byte string `Marshal` produces: what the packer holds when it returns nil. -/
def marshalled (P : Packer) (action : CrossRegionAction) (orders : List Bytes × List Bytes)
    (p : Writer) : Option Bytes :=
  match marshal P action orders.1 orders.2 p with
  | (none, p) => some p.bytes
  | (some _, _) => none

/-- The orders in which `Marshal` may visit `StateChanges` and `Signatures`. -/
def Visited (action : CrossRegionAction) (orders : List Bytes × List Bytes) : Prop :=
  ∀ intent, action.intent = some intent →
    intent.stateChanges.Visits orders.1 ∧ intent.signatures.Visits orders.2

/-- Two nodes that encode the action into equal packers produce the same bytes. -/
def Canonical (P : Packer) (action : CrossRegionAction) (p : Writer) : Prop :=
  ∀ first second, Visited action first → Visited action second →
    marshalled P action first p = marshalled P action second p

/-- Every string of the intent fits its length field, and the encoding fits the packer. -/
structure Encodable (intent : CrossRegionIntent) (room : ℕ) : Prop where
  id : intent.id.length ≤ maxStringLen
  sourceRegion : intent.sourceRegion.length ≤ maxStringLen
  targets : ∀ region ∈ intent.targetRegions, region.length ≤ maxStringLen
  regions : ∀ region ∈ intent.stateChanges, region.length ≤ maxStringLen
  changes : ∀ region ∈ intent.stateChanges, ∀ change ∈ intent.stateChanges.get region,
    change.source.length ≤ maxStringLen ∧ change.target.length ≤ maxStringLen
  signers : ∀ region ∈ intent.signatures, region.length ≤ maxStringLen
  size : ∀ changesOrder signaturesOrder, intent.stateChanges.Visits changesOrder →
    intent.signatures.Visits signaturesOrder →
      (encodeIntent intent changesOrder signaturesOrder).length ≤ room

/-! ## When `Marshal` succeeds -/

variable {P : Packer} {intent : CrossRegionIntent}

section

variable (P : Packer) (intent : CrossRegionIntent) (region : Bytes)

theorem writes_change (change : StateChange) :
    Writes (packChange P change)
      (change.source.length ≤ maxStringLen ∧ change.target.length ≤ maxStringLen)
      (encodeChange change) :=
  ((P.writes_bytes _).seq ((P.writes_bytes _).seq ((P.writes_int _).seq
    ((P.writes_string _).seq (P.writes_string _))))).congr (by simp only [true_and])

theorem writes_region :
    Writes (packRegion P intent region)
      (region.length ≤ maxStringLen ∧ ∀ change ∈ intent.stateChanges.get region,
        change.source.length ≤ maxStringLen ∧ change.target.length ≤ maxStringLen)
      (encodeRegion intent region) :=
  ((P.writes_string region).seq ((P.writes_int _).seq
    (Writes.forM fun change _ => writes_change P change))).congr (by simp only [true_and])

theorem writes_signature :
    Writes (packSignature P intent region) (region.length ≤ maxStringLen)
      (encodeSignature intent region) :=
  ((P.writes_string region).seq (P.writes_bytes _)).congr (by simp only [and_true])

end

/-- **What `Marshal` writes**: it succeeds when every string fits its length field and there is
room, whatever the orders. -/
theorem writes_intent (P : Packer) (intent : CrossRegionIntent)
    (changesOrder signaturesOrder : List Bytes) :
    Writes (packIntent P intent changesOrder signaturesOrder)
      (intent.id.length ≤ maxStringLen ∧ intent.sourceRegion.length ≤ maxStringLen ∧
        (∀ region ∈ intent.targetRegions, region.length ≤ maxStringLen) ∧
        (∀ region ∈ changesOrder, region.length ≤ maxStringLen ∧
          ∀ change ∈ intent.stateChanges.get region,
            change.source.length ≤ maxStringLen ∧ change.target.length ≤ maxStringLen) ∧
        ∀ region ∈ signaturesOrder, region.length ≤ maxStringLen)
      (encodeIntent intent changesOrder signaturesOrder) := by
  have whole := (P.writes_string intent.id).seq ((P.writes_string intent.sourceRegion).seq
    ((P.writes_int (UInt32.ofNat intent.targetRegions.length)).seq
      ((Writes.forM fun (region : Bytes) (_ : region ∈ intent.targetRegions) =>
        P.writes_string region).seq ((P.writes_int64 intent.timeWindow.duration).seq
          ((P.writes_int (UInt32.ofNat intent.stateChanges.len)).seq
            ((Writes.forM fun region (_ : region ∈ changesOrder) =>
              writes_region P intent region).seq
                ((P.writes_int (UInt32.ofNat intent.signatures.len)).seq
                  (Writes.forM fun region (_ : region ∈ signaturesOrder) =>
                    writes_signature P intent region))))))))
  simpa only [packIntent, encodeIntent, encodeHeader, encodeCount, append_assoc, true_and]
    using whole

theorem length_encodeIntent_eq {first second : List Bytes × List Bytes}
    (visited : Visited ⟨some intent⟩ first) (visited' : Visited ⟨some intent⟩ second) :
    (encodeIntent intent first.1 first.2).length =
      (encodeIntent intent second.1 second.2).length := by
  obtain ⟨⟨changes, signatures⟩, ⟨changes', signatures'⟩⟩ :=
    And.intro (visited intent rfl) (visited' intent rfl)
  have regions := ((changes.perm changes').flatMap_right (encodeRegion intent)).length_eq
  have signers := ((signatures.perm signatures').flatMap_right (encodeSignature intent)).length_eq
  simp only [encodeIntent, length_append, regions, signers]

/-- The bytes of an encodable intent. -/
theorem Encodable.marshalled_eq {bytes : Bytes} {room : ℕ} (fits : Encodable intent room)
    {orders : List Bytes × List Bytes} (visited : Visited ⟨some intent⟩ orders) :
    marshalled P ⟨some intent⟩ orders ⟨bytes, room, none⟩ =
      some (bytes ++ encodeIntent intent orders.1 orders.2) := by
  obtain ⟨changes, signatures⟩ := visited intent rfl
  have written := (writes_intent P intent orders.1 orders.2).appends bytes room
    ⟨fits.id, fits.sourceRegion, fits.targets,
      fun region mem => ⟨fits.regions region ((changes.mem_iff region).mp mem),
        fits.changes region ((changes.mem_iff region).mp mem)⟩,
      fun region mem => fits.signers region ((signatures.mem_iff region).mp mem)⟩
    (fits.size _ _ changes signatures)
  simp [marshalled, marshal, written]

theorem marshalled_of_refused {orders : List Bytes × List Bytes} {p : Writer}
    (visited : Visited ⟨some intent⟩ orders)
    (refused : ¬ (p.err = none ∧ Encodable intent p.room)) :
    marshalled P ⟨some intent⟩ orders p = none := by
  obtain ⟨changes, signatures⟩ := visited intent rfl
  cases ended : (packIntent P intent orders.1 orders.2 p).2.err with
  | none =>
    obtain ⟨clean, ⟨id, sourceRegion, targets, regions, signers⟩, size⟩ :=
      (writes_intent P intent orders.1 orders.2).clean p ended
    refine absurd ⟨clean, id, sourceRegion, targets,
      fun region mem => (regions region ((changes.mem_iff region).mpr mem)).1,
      fun region mem => (regions region ((changes.mem_iff region).mpr mem)).2,
      fun region mem => signers region ((signatures.mem_iff region).mpr mem),
      fun changesOrder signaturesOrder changes' signatures' => ?_⟩ refused
    have visited' : Visited ⟨some intent⟩ (changesOrder, signaturesOrder) :=
      fun _ equal => by cases equal; exact ⟨changes', signatures'⟩
    exact (length_encodeIntent_eq visited' visited).trans_le size
  | some => simp [marshalled, marshal, ended]

/-! ## Two orders -/

/-- Two loops that write the same bytes start with the same region. -/
theorem first_eq_of_flatMap_eq {encode tail : Bytes → Bytes}
    (named : ∀ region, encode region = encodeString region ++ tail region) {first second : Bytes}
    {others others' : List Bytes} {rest rest' : Bytes} (fits : first.length ≤ maxStringLen)
    (fits' : second.length ≤ maxStringLen)
    (equal : (first :: others).flatMap encode ++ rest =
      (second :: others').flatMap encode ++ rest') :
    first = second := by
  simp only [flatMap_cons, named, append_assoc] at equal
  exact encodeString_append_inj fits fits' equal

namespace Encodable

variable {p : Writer} (fits : Encodable intent p.room) (canonical : Canonical P ⟨some intent⟩ p)
  (clean : p.err = none)

include fits canonical clean

theorem encodeIntent_eq (first second : List Bytes × List Bytes)
    (visited : Visited ⟨some intent⟩ first) (visited' : Visited ⟨some intent⟩ second) :
    encodeIntent intent first.1 first.2 = encodeIntent intent second.1 second.2 := by
  obtain ⟨bytes, room, err⟩ := p
  obtain rfl : err = none := clean
  have same := canonical first second visited visited'
  rw [fits.marshalled_eq visited, fits.marshalled_eq visited'] at same
  exact append_cancel_left (Option.some.inj same)

theorem len_le_one : intent.stateChanges.len ≤ 1 ∧ intent.signatures.len ≤ 1 := by
  obtain ⟨order, changes⟩ := GoMap.exists_visits intent.stateChanges
  obtain ⟨signers, signatures⟩ := GoMap.exists_visits intent.signatures
  constructor <;> refine GoMap.len_le_one_of_forall_eq fun first mem second mem' => ?_
  · have same := fits.encodeIntent_eq canonical clean
      (first :: order.erase first, signers) (second :: order.erase second, signers)
      (fun _ equal => by cases equal; exact ⟨changes.first mem, signatures⟩)
      (fun _ equal => by cases equal; exact ⟨changes.first mem', signatures⟩)
    exact first_eq_of_flatMap_eq (fun _ => rfl) (fits.regions first mem) (fits.regions second mem')
      (append_cancel_left same)
  · have same := fits.encodeIntent_eq canonical clean
      (order, first :: signers.erase first) (order, second :: signers.erase second)
      (fun _ equal => by cases equal; exact ⟨changes, signatures.first mem⟩)
      (fun _ equal => by cases equal; exact ⟨changes, signatures.first mem'⟩)
    have loops := append_cancel_left (append_cancel_left (append_cancel_left same))
    rw [← append_nil (flatMap _ _), ← append_nil (flatMap _ (second :: _))] at loops
    exact first_eq_of_flatMap_eq (fun _ => rfl) (fits.signers first mem) (fits.signers second mem')
      loops

end Encodable

/-- **Which actions are encoded canonically.** `Marshal` produces the same bytes for all orders of
the two maps exactly when it can produce none (an error in the packer, no intent, a string that is
too long, or no room) or each map has at most one entry. -/
theorem marshalled_canonical_iff (P : Packer) (action : CrossRegionAction) (p : Writer) :
    Canonical P action p ↔
      p.err ≠ none ∨ ∀ intent, action.intent = some intent → Encodable intent p.room →
        intent.stateChanges.len ≤ 1 ∧ intent.signatures.len ≤ 1 := by
  obtain ⟨none | intent⟩ := action
  · refine iff_of_true (fun first second _ _ => rfl) (Or.inr fun intent missing => ?_)
    cases missing
  constructor
  · intro canonical
    by_cases clean : p.err = none
    · refine Or.inr fun other given fits => ?_
      obtain rfl := Option.some.inj given
      exact fits.len_le_one canonical clean
    · exact Or.inl clean
  · rintro condition first second visited visited'
    by_cases writes : p.err = none ∧ Encodable intent p.room
    · obtain ⟨clean, fits⟩ := writes
      obtain ⟨changes, signatures⟩ := condition.resolve_left (not_not.mpr clean) intent rfl fits
      obtain ⟨visits, visits'⟩ := And.intro (visited intent rfl) (visited' intent rfl)
      have orders : first = second := Prod.ext (visits.1.eq_of_len_le_one visits'.1 changes)
        (visits.2.eq_of_len_le_one visits'.2 signatures)
      rw [orders]
    · rw [marshalled_of_refused visited writes, marshalled_of_refused visited' writes]

open CrossRegionIntent in
/-- Two signatures, visited in the two orders, give two encodings of one valid action. -/
theorem marshalled_two_signatures :
    let action : CrossRegionAction := ⟨some (oneChange .transferOut)⟩
    let first := ([ascii "A"], [ascii "A", ascii "B"])
    let second := ([ascii "A"], [ascii "B", ascii "A"])
    validateBasic action [ascii "A"] [ascii "A", ascii "B"] = .ok () ∧
      Visited action first ∧ Visited action second ∧
        (marshalled wirePacker action first ⟨[], 1024, none⟩).isSome ∧
          marshalled wirePacker action first ⟨[], 1024, none⟩ ≠
            marshalled wirePacker action second ⟨[], 1024, none⟩ := by
  have changes := visits_oneChange .transferOut
  have signatures := visits_signatures .transferOut
  refine ⟨by decide +kernel, ?_, ?_, by decide +kernel, by decide +kernel⟩
  · intro intent given
    cases given
    exact ⟨changes, signatures⟩
  · intro intent given
    cases given
    exact ⟨changes, signatures.of_perm (List.Perm.swap _ _ _)⟩

end CrossRegionAction

end Aristo
