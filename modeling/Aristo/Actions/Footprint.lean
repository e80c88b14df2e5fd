import Aristo.Actions.CrossRegionEffects
import Aristo.Actions.Transfer
import Aristo.Storage.Footprint

/-!
# The keys that `Transfer` and `CrossRegionAction` touch

`StateKeys` of the two actions that move value, beside what their `Execute` touches of a
`state.Mutable`, which may be any store.  A transfer touches the balances of the actor and of `To`.
A cross-region action reads nothing: it inserts the keys that it sets and removes those that it
transfers out, once its checks are passed.

`footprint_declared` says that both stay inside of what they declare, and that a cross-region action
that succeeds has touched all of it.
-/

namespace Aristo

open GoBase Finmap Call Access Backend XRegion List

/-! ## `Transfer` -/

namespace Transfer

/-- `Transfer.StateKeys`.  When the actor pays itself the second entry replaces the first one. -/
def stateKeys (text : AddressText) (t : Transfer) (actor : Address) : StateKeys :=
  ((∅ : StateKeys).insert (balanceKey text actor) (Permissions.read.or .write)).insert
    (balanceKey text t.toAddr) .all

/-- `Transfer.Execute`, over any store. -/
def executeOn {σ : Type} (mu : MutableBackend σ) (text : AddressText) (t : Transfer)
    (actor : Address) : Call σ TransferResult := do
  if t.value = 0 then
    Call.fail errOutputValueZero
  else if maxMemoSize < t.memo.length then
    Call.fail errOutputMemoTooLarge
  else
    let senderBalance ← mu.subBalance text actor t.value
    let receiverBalance ← mu.addBalance text t.toAddr t.value
    return { senderBalance, receiverBalance }

/-- Over the plain state this is the transfer of `Execute`. -/
theorem executeOn_backend (text : AddressText) (t : Transfer) (actor : Address) :
    executeOn Mutable.backend text t actor = execute text t actor := rfl

variable (text : AddressText) (t : Transfer) (actor : Address)

/-- **A transfer stays inside of its keys**, over any store, and however it ends. -/
theorem accesses_permitted {σ : Type} (mu : MutableBackend σ) (state : σ) :
    ∀ access ∈ accesses (executeOn mu.logged text t actor) state,
      (stateKeys text t actor).Permits access := by
  have credited : (stateKeys text t actor).lookup (balanceKey text t.toAddr) = some .all :=
    lookup_insert _
  obtain ⟨permissions, declared, read, write⟩ : ∃ permissions,
      (stateKeys text t actor).lookup (balanceKey text actor) = some permissions ∧
        permissions.canRead = true ∧ permissions.canWrite = true := by
    by_cases self : balanceKey text actor = balanceKey text t.toAddr
    · exact ⟨.all, self ▸ credited, rfl, rfl⟩
    · refine ⟨Permissions.read.or .write, ?_, rfl, rfl⟩
      rw [stateKeys, lookup_insert_of_ne _ self, lookup_insert]
  refine accesses_of_maintains
    (fun log => ∀ access ∈ log, (stateKeys text t actor).Permits access) ?_ (by simp) state
  unfold executeOn
  split
  · exact maintains_fail _
  split
  · exact maintains_fail _
  refine maintains_bind (MutableBackend.maintains_subBalance
    (admits_forall ⟨permissions, declared, read⟩) (admits_forall ⟨permissions, declared, write⟩) _)
    fun senderBalance => ?_
  exact maintains_bind (MutableBackend.maintains_addBalance
    (admits_forall ⟨.all, credited, rfl⟩) (admits_forall ⟨.all, credited, rfl⟩) _)
    fun receiverBalance => maintains_pure _

/-- The log changes nothing of what a transfer does. -/
theorem erases_executeOn {σ : Type} (mu : MutableBackend σ) :
    Erases (executeOn mu.logged text t actor) (executeOn mu text t actor) := by
  unfold executeOn
  split
  · exact erases_fail _
  split
  · exact erases_fail _
  refine erases_bind (MutableBackend.erases_subBalance mu text actor _) fun _ => ?_
  exact erases_bind (MutableBackend.erases_addBalance mu text t.toAddr _) fun _ => erases_pure _

end Transfer

/-! ## `CrossRegionAction` -/

namespace CrossRegionAction

/-- The change is applied to the state. -/
def Applies (change : StateChange) : Prop :=
  change.operation = .set ∨ change.operation = .transferOut

instance decidableApplies (change : StateChange) : Decidable (Applies change) :=
  inferInstanceAs (Decidable (_ ∨ _))

/-- The body of the loop of `StateKeys`. -/
def declare (keys : StateKeys) (change : StateChange) : StateKeys :=
  if change.operation = .set then
    keys.insert change.key .write
  else if change.operation = .transferOut then
    keys.insert change.key .write
  else
    keys

/-- `CrossRegionAction.StateKeys`, visiting the regions in `order`.  It panics without an intent. -/
def stateKeys (action : CrossRegionAction) (order : List Bytes) : Option StateKeys :=
  action.intent.map fun intent =>
    order.foldl (fun keys region => (intent.stateChanges.get region).foldl declare keys) ∅

section Execute

variable {σ π : Type} (mu : MutableBackend σ)

def applyChangeOn (change : StateChange) : Call σ Unit :=
  if change.operation = .set then
    Call.wrapping (ascii "failed to set state") (mu.insert change.key change.value)
  else if change.operation = .transferOut then
    Call.wrapping (ascii "failed to remove state") (mu.remove change.key)
  else
    return ()

/-- What `Execute` reads and writes beside the store.  The mutable state of this world is not used.
-/
def inWorld {α : Type} (call : Call (World π) α) : Call (World π × σ) α :=
  Call.focus Prod.fst (fun s world => (world, s.2)) call

def inState {α : Type} (call : Call σ α) : Call (World π × σ) α :=
  Call.focus Prod.snd (fun s state => (s.1, state)) call

def applyLoop (regions : List Bytes) (changes : Bytes → List StateChange) : Call σ Unit :=
  forM regions fun region => forM (changes region) (applyChangeOn mu)

/-- `CrossRegionAction.Execute`, over any store. -/
def executeThrough (schedule : Schedule π) (ctx : Option Context) :
    Call (World π × σ) CrossRegionResult := do
  inWorld (prepare schedule ctx)
  let intent ← inWorld receiver
  inState (applyLoop mu schedule.apply intent.stateChanges.get)
  return { success := true }

end Execute

/-! ### What a call comes to -/

/-- What `Execute` returns when its last part has ended so. -/
def finished : Outcome Unit → Outcome CrossRegionResult
  | .ok _ => .ok { success := true }
  | .err error => .err error
  | .panicked => .panicked

theorem succeeded_finished_iff {outcome : Outcome Unit} :
    (finished outcome).Succeeded ↔ outcome.Succeeded := by
  cases outcome <;> exact Iff.rfl

section Cases

variable {σ π : Type} {schedule : Schedule π} {ctx : Option Context} {world : World π}
  {intent : CrossRegionIntent}

/-- A call that fails its checks ends with them. -/
theorem executeThrough_of_not_prepared (mu : MutableBackend σ)
    (fails : ¬ (prepare schedule ctx world).1.Succeeded) (state : σ) :
    executeThrough mu schedule ctx (world, state) =
      (finished (prepare schedule ctx world).1, (prepare schedule ctx world).2, state) := by
  have focused : inWorld (prepare schedule ctx) (world, state) =
      ((prepare schedule ctx world).1, (prepare schedule ctx world).2, state) := rfl
  unfold executeThrough
  rcases prepared : prepare schedule ctx world with ⟨outcome, after⟩
  rw [prepared] at fails focused
  cases outcome with
  | err => exact bind_of_err focused
  | panicked => exact bind_of_panicked focused
  | ok => exact absurd trivial fails

/-- **What a call can do**, for an action with an intent: it fails before its apply loop, or it is
that loop over the sorted lists. -/
theorem executeThrough_cases (ctx : Option Context) (here : world.intent = some intent)
    (valid : schedule.Valid intent) :
    (¬ (prepare schedule ctx world).1.Succeeded) ∨
      ∃ after : World π, prepare schedule ctx world = (.ok (), after) ∧
        ∀ {τ : Type} (mu : MutableBackend τ) (state : τ),
          executeThrough mu schedule ctx (world, state) =
            (finished (applyLoop mu schedule.apply schedule.sorted state).1, after,
              (applyLoop mu schedule.apply schedule.sorted state).2) := by
  by_cases prepared : (prepare schedule ctx world).1.Succeeded
  · obtain ⟨_, ok⟩ := Outcome.succeeded_iff.mp prepared
    have ended : prepare schedule ctx world = (.ok (), (prepare schedule ctx world).2) :=
      Prod.ext ok rfl
    obtain ⟨ranges, proofs, store', -, after⟩ := (prepare_eq_ok here valid).mp ended
    rw [after] at ended
    refine .inr ⟨_, ended, fun mu state => ?_⟩
    have focused : inWorld (prepare schedule ctx) (world, state) = (.ok (), _, state) :=
      congrArg (fun done => (done.1, done.2, state)) ended
    have received {world : World π} {intent} (here : world.intent = some intent) :
        inWorld receiver (world, state) = (.ok intent, world, state) :=
      congrArg (fun done => (done.1, done.2, state)) (receiver_eq_ok.mpr ⟨here, rfl⟩)
    have lists : (sortAll schedule.sorted schedule.ranges intent).stateChanges.get =
        schedule.sorted := funext valid.get_sortAll
    unfold executeThrough
    rw [bind_of_ok focused, bind_of_ok (received rfl), lists]
    rcases loop : applyLoop mu schedule.apply schedule.sorted state with ⟨outcome, final⟩
    have through (after : World π) : inState (applyLoop mu schedule.apply schedule.sorted)
        (after, state) = (outcome, after, final) :=
      congrArg (fun done => (done.1, after, done.2)) loop
    cases outcome with
    | ok => exact bind_of_ok (through _)
    | err => exact bind_of_err (through _)
    | panicked => exact bind_of_panicked (through _)
  · exact .inl prepared

end Cases

/-- Over the plain state the loop makes the writes of the changes, -/
theorem applyLoop_backend (regions : List Bytes) (changes : Bytes → List StateChange)
    (mu : Mutable) :
    applyLoop Mutable.backend regions changes mu =
      (.ok (), applyWrites mu ((regions.flatMap changes).flatMap writes)) := by
  have inner : ∀ region mu, forM (changes region) (applyChangeOn Mutable.backend) mu =
      (.ok (), applyWrites mu ((changes region).flatMap writes)) :=
    fun region => forM_applyWrites applyChange_apply (changes region)
  rw [flatMap_assoc]
  exact forM_applyWrites inner regions mu

/-- and the whole is `Execute`. -/
theorem executeThrough_backend {π : Type} {schedule : Schedule π} {ctx : Option Context}
    {world : World π} {intent : CrossRegionIntent} (here : world.intent = some intent)
    (valid : schedule.Valid intent) :
    (executeThrough Mutable.backend schedule ctx (world, world.mu)).1 =
      (execute schedule ctx world).1 ∧
    ((execute schedule ctx world).1.Succeeded →
      (executeThrough Mutable.backend schedule ctx (world, world.mu)).2.2 =
        (execute schedule ctx world).2.mu) := by
  rcases executeThrough_cases ctx here valid with fails | ⟨after, prepared, through⟩
  · rw [executeThrough_of_not_prepared _ fails, execute]
    rcases ended : prepare schedule ctx world with ⟨outcome, after⟩
    rw [ended] at fails
    cases outcome with
    | ok => exact absurd trivial fails
    | err =>
      rw [bind_of_err ended]
      exact ⟨rfl, False.elim⟩
    | panicked =>
      rw [bind_of_panicked ended]
      exact ⟨rfl, False.elim⟩
  · obtain ⟨ranges, proofs, store', holds, -⟩ := (prepare_eq_ok here valid).mp prepared
    have executed : execute schedule ctx world = (.ok { success := true }, _) :=
      (execute_eq_ok here valid).mpr ⟨ranges, proofs, store', holds, rfl, rfl⟩
    rw [through, executed, applyLoop_backend]
    exact ⟨rfl, fun _ => rfl⟩

/-! ### What it accesses -/

section Accesses

variable {σ π : Type} {mu : MutableBackend σ} {P : List (Access Bytes) → Prop}

variable {change : StateChange}

/-- A change that is applied writes its key, -/
theorem maintains_applyChangeOn (admits : Applies change → Admits P (.write change.key)) :
    Call.Maintains (fun s => P s.2) (applyChangeOn mu.logged change) := by
  unfold applyChangeOn
  split
  · next set => exact maintains_wrapping (maintains_insert (admits (.inl set)) _)
  split
  · next out => exact maintains_wrapping (maintains_remove (admits (.inr out)))
  · exact maintains_pure _

/-- and notes it, -/
theorem write_mem_applyChangeOn (applies : Applies change) (s : σ × List (Access Bytes)) :
    .write change.key ∈ (applyChangeOn mu.logged change s).2.2 := by
  unfold applyChangeOn
  by_cases set : change.operation = .set
  · rw [if_pos set, wrapping_snd]
    exact mem_noting _ _ s
  · rw [if_neg set, if_pos (applies.resolve_left set), wrapping_snd]
    exact mem_noting _ _ s

variable {changes : Bytes → List StateChange} {regions : List Bytes}

/-- and so does the loop that comes to it. -/
theorem write_mem_applyLoop {s after : σ × List (Access Bytes)}
    (ok : applyLoop mu.logged regions changes s = (.ok (), after)) {region : Bytes}
    (mem : region ∈ regions) (listed : change ∈ changes region) (applies : Applies change) :
    .write change.key ∈ after.2 := by
  let Written := fun s : σ × List (Access Bytes) => .write change.key ∈ s.2
  have keeps : ∀ other, Call.Maintains Written (applyChangeOn mu.logged other) := fun other =>
    maintains_applyChangeOn fun _ => admits_mem (.write change.key) (.write other.key)
  have any : ∀ call : Call (σ × List (Access Bytes)) Unit, Call.Maintains (fun _ => True) call :=
    fun _ _ _ => trivial
  refine forM_reaches mem (fun region _ => any _) (fun s _ returned => ?_)
    (fun region _ => maintains_forM keeps) trivial ok
  exact forM_reaches listed (fun change _ => any _)
    (fun s _ _ => write_mem_applyChangeOn applies s) (fun other _ => keeps other) trivial
    (Prod.ext returned rfl)

/-- The log changes nothing of what the loop does. -/
theorem erases_applyLoop (mu : MutableBackend σ) :
    Erases (applyLoop mu.logged regions changes) (applyLoop mu regions changes) := by
  refine erases_forM (fun region => erases_forM (fun change => ?_) (changes region)) regions
  unfold applyChangeOn
  split
  · exact erases_wrapping _ (erases_noting _ _)
  split
  · exact erases_wrapping _ (erases_noting _ _)
  · exact erases_pure _

end Accesses

/-! ### The declared keys -/

theorem declare_eq (keys : StateKeys) (change : StateChange) :
    declare keys change = if Applies change then keys.insert change.key .write else keys := by
  unfold declare Applies
  by_cases set : change.operation = .set <;> simp [set]

/-- The loop declares the keys of the changes that are applied, for writing. -/
theorem lookup_foldl_declare (changes : List StateChange) (keys : StateKeys) (key : Bytes) :
    (changes.foldl declare keys).lookup key =
      if ∃ change ∈ changes, Applies change ∧ change.key = key then some .write
      else keys.lookup key := by
  induction changes generalizing keys with
  | nil => simp
  | cons change changes ih =>
    rw [foldl_cons, ih]
    simp only [mem_cons, exists_eq_or_imp]
    by_cases later : ∃ change ∈ changes, Applies change ∧ change.key = key
    · rw [if_pos later, if_pos (.inr later)]
    · rw [if_neg later, declare_eq]
      by_cases here : Applies change ∧ change.key = key
      · rw [if_pos here.1, if_pos (.inl here), here.2, lookup_insert]
      · rw [if_neg (not_or.mpr ⟨here, later⟩)]
        split
        · next applies => exact lookup_insert_of_ne _ fun same => here ⟨applies, same.symm⟩
        · rfl

/-- The keys of an action are those of the changes that are applied, all of them for writing. -/
theorem stateKeys_spec {intent : CrossRegionIntent} {order : List Bytes}
    (visits : intent.stateChanges.Visits order) :
    ∃ keys, stateKeys ⟨some intent⟩ order = some keys ∧
      (∀ key, key ∈ keys ↔ ∃ region, ∃ change ∈ intent.stateChanges.get region,
        Applies change ∧ change.key = key) ∧
      ∀ key ∈ keys, keys.Permits (.write key) := by
  refine ⟨(order.flatMap intent.stateChanges.get).foldl declare ∅,
    congrArg some (foldl_flatMap ..).symm, fun key => ?_, fun key mem => ?_⟩
  · rw [← lookup_isSome, lookup_foldl_declare]
    constructor
    · intro listed
      split at listed
      · next some =>
          obtain ⟨change, mem, written⟩ := some
          obtain ⟨region, -, mem⟩ := mem_flatMap.mp mem
          exact ⟨region, change, mem, written⟩
      · cases listed
    · rintro ⟨region, change, mem, written⟩
      have visited := (visits.mem_iff region).mpr (GoMap.mem_of_mem_get mem)
      rw [if_pos ⟨change, mem_flatMap.mpr ⟨region, visited, mem⟩, written⟩]
      rfl
  · obtain ⟨permissions, found⟩ := mem_iff.mp mem
    refine ⟨permissions, found, ?_⟩
    rw [lookup_foldl_declare] at found
    split at found
    · cases found
      rfl
    · cases found

/-! ### The accesses of a call -/

section Call

variable {σ π : Type} {mu : MutableBackend σ} {schedule : Schedule π} {ctx : Option Context}
  {world : World π}

variable (mu schedule ctx world) in
def touched (state : σ) : List (Access Bytes) :=
  (executeThrough mu.logged schedule ctx (world, state, [])).2.2.2

/-- A call that fails its checks touches nothing. -/
theorem touched_of_not_prepared (mu : MutableBackend σ)
    (fails : ¬ (prepare schedule ctx world).1.Succeeded) (state : σ) :
    touched mu schedule ctx world state = [] ∧
      ¬ (executeThrough mu schedule ctx (world, state)).1.Succeeded := by
  rw [touched, executeThrough_of_not_prepared mu.logged fails,
    executeThrough_of_not_prepared mu fails]
  exact ⟨rfl, fun succeeded => fails (succeeded_finished_iff.mp succeeded)⟩

/-- **What a call touches**: only keys of changes that are applied, and all of them if it succeeds.
-/
theorem touched_spec {intent : CrossRegionIntent} (here : world.intent = some intent)
    (valid : schedule.Valid intent) (state : σ) :
    (∀ access ∈ touched mu schedule ctx world state,
        ∃ region, ∃ change ∈ intent.stateChanges.get region,
          Applies change ∧ access = .write change.key) ∧
      ((executeThrough mu schedule ctx (world, state)).1.Succeeded →
        ∀ region, ∀ change ∈ intent.stateChanges.get region, Applies change →
          .write change.key ∈ touched mu schedule ctx world state) := by
  rcases executeThrough_cases ctx here valid with fails | ⟨after, -, through⟩
  · obtain ⟨untouched, failed⟩ := touched_of_not_prepared mu fails state
    rw [untouched]
    exact ⟨by simp, fun succeeded => absurd succeeded failed⟩
  · have log : touched mu schedule ctx world state =
        (applyLoop mu.logged schedule.apply schedule.sorted (state, [])).2.2 := by
      rw [touched, through]
    rw [log]
    constructor
    · refine maintains_forM_of_mem (fun region _ => maintains_forM_of_mem fun change listed =>
        maintains_applyChangeOn fun applies => admits_forall ?_) (state, []) (by simp)
      exact ⟨region, change, (valid.sorted region).mem_iff.mp listed, applies, rfl⟩
    · rw [through]
      intro succeeded region change listed applies
      have returned : (applyLoop mu.logged schedule.apply schedule.sorted (state, [])).1 =
          .ok () := by
        rw [(erases_applyLoop mu).outcome]
        obtain ⟨_, ok⟩ := Outcome.succeeded_iff.mp (succeeded_finished_iff.mp succeeded)
        exact ok
      have visited : region ∈ schedule.apply :=
        (valid.apply.mem_iff region).mpr (GoMap.mem_of_mem_get listed)
      exact write_mem_applyLoop (Prod.ext returned rfl) visited
        ((valid.sorted region).mem_iff.mpr listed) applies

end Call

end CrossRegionAction

open CrossRegionAction

/-! ## The result -/

section Footprint

variable {σ π : Type} (mu : MutableBackend σ) (state : σ)

/-- **The value actions touch what they declare.**  Over any store and in any state, whether the
call succeeds or not:

* a transfer reads and writes only keys that it declares with the permission;
* so does a cross-region action, whatever orders Go picks;
* and a cross-region action that succeeds writes every key that it declares, and no other. -/
theorem footprint_declared (text : AddressText) (t : Transfer) (actor : Address)
    (schedule : Schedule π) (ctx : Option Context)
    (world : World π) (order : List Bytes)
    (valid : ∀ intent, world.intent = some intent →
      schedule.Valid intent ∧ intent.stateChanges.Visits order) :
    (∀ access ∈ accesses (t.executeOn mu.logged text actor) state,
        (t.stateKeys text actor).Permits access) ∧
      (∀ access ∈ touched mu schedule ctx world state,
        ∃ keys, stateKeys ⟨world.intent⟩ order = some keys ∧
          keys.Permits access) ∧
      ((executeThrough mu schedule ctx (world, state)).1.Succeeded →
        ∃ keys, stateKeys ⟨world.intent⟩ order = some keys ∧
          ∀ key, key ∈ keys ↔
            .write key ∈ touched mu schedule ctx world state) := by
  refine ⟨t.accesses_permitted text actor mu state, ?_⟩
  cases here : world.intent with
  | none =>
    have fails : ¬ (prepare schedule ctx world).1.Succeeded := by
      unfold prepare
      rw [bind_of_ok (read_apply world), here]
      exact not_false
    obtain ⟨untouched, failed⟩ := touched_of_not_prepared mu fails state
    rw [untouched]
    exact ⟨by simp, fun succeeded => absurd succeeded failed⟩
  | some intent =>
    obtain ⟨valid, visits⟩ := valid intent here
    obtain ⟨writes, complete⟩ := touched_spec here valid state
    obtain ⟨keys, declared, listed, permits⟩ := stateKeys_spec visits
    constructor
    · intro access mem
      obtain ⟨region, change, inList, applies, rfl⟩ := writes access mem
      refine ⟨keys, declared, permits _ ?_⟩
      exact (listed change.key).mpr ⟨region, change, inList, applies, rfl⟩
    · intro succeeded
      refine ⟨keys, declared, fun key => (listed key).trans ⟨?_, fun mem => ?_⟩⟩
      · rintro ⟨region, change, inList, applies, rfl⟩
        exact complete succeeded region change inList applies
      · obtain ⟨region, change, inList, applies, same⟩ := writes _ mem
        exact ⟨region, change, inList, applies, (Access.write.inj same).symm⟩

end Footprint

/-- A transfer of an actor to itself, and a cross-region action with changes in two regions: it
declares an object of each and writes it. -/
theorem footprint_declared_apartChanges :
    let schedule := apartInOrder
    let world : World Unit :=
      ⟨some apartChanges, fun _ => none, twoObjects⟩
    schedule.Valid apartChanges ∧
      ((⟨fun _ => 1, 5, []⟩ : Transfer).stateKeys hexText fun _ => 1).Permits
        (.read (balanceKey hexText fun _ => 1)) ∧
      (executeThrough Mutable.backend schedule
        background (world, fun _ => none)).1.Succeeded ∧
      ∀ key ∈ [ascii "object-1", ascii "object-2"],
        .write key ∈ touched Mutable.backend schedule
          background world fun _ => none := by
  intro schedule world
  have valid := apartInOrder_valid
  have declared := footprint_declared Mutable.backend (fun _ => none) hexText ⟨fun _ => 1, 5, []⟩
    (fun _ => 1) schedule background world [ascii "B", ascii "A"]
    fun intent here => by
      cases here
      exact ⟨valid, valid.apply⟩
  have succeeded : (executeThrough Mutable.backend schedule
      background (world, fun _ => none)).1.Succeeded := by
    decide +kernel
  obtain ⟨keys, found, same⟩ := declared.2.2 succeeded
  refine ⟨valid, declared.1 _ (by decide +kernel), succeeded, fun key mem => (same key).mp ?_⟩
  rw [← Option.some.inj found]
  revert key
  decide +kernel

end Aristo
