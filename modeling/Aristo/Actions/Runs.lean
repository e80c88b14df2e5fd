import Aristo.Actions.Enclave

/-!
# Runs of actions

The actions on objects, regions and enclaves, and runs of them.

All of them reach the database through `getRegionalStoreInternal`.  The manager has two
more places to keep things, the backing store and the stores of the
`RegionalStateManager`, which is where its own `GetValue` looks: `global` is what is kept
there.  `global_apply` says that an action keeps `global`, and `global_run` that a whole run
does.
-/

namespace Aristo

open GoBase Call Storage Actions StateManager

section Codec

variable {Region : Type} (codec : StateCodec Region)

/-! ## Runs -/

/-- A call of the `Execute` of an action that asks for a `vm.StateManager`. -/
inductive ActionCall where
  | createObject (action : CreateObjectAction) (env : CreateEnv) (timestamp : Int64)
  | sendEvent (action : SendEventAction) (env : SendEnv) (timestamp : Int64)
  | setInputObject (action : SetInputObjectAction) (env : SetInputEnv) (timestamp : Int64)
  | createRegion (action : CreateRegionAction) (env : RegionActionEnv)
  | updateRegion (action : UpdateRegionAction) (env : RegionActionEnv)
  | updateValidEnclaves (action : UpdateValidEnclavesAction) (env : EnclaveEnv) (timestamp : Int64)

namespace ActionCall

/-- `Execute` on a state manager, without its result. -/
def execute : ActionCall → Call StateManager Unit
  | createObject action env timestamp => do let _ ← action.execute codec env timestamp
  | sendEvent action env timestamp => do let _ ← action.execute codec env timestamp
  | setInputObject action env timestamp => do let _ ← action.execute codec env timestamp
  | createRegion action env => do let _ ← action.execute env
  | updateRegion action env => do let _ ← action.execute env
  | updateValidEnclaves action env timestamp => do let _ ← action.execute codec env timestamp

def apply (sm : StateManager) (c : ActionCall) : StateManager :=
  (c.execute codec sm).2

/-! ### The assertion on the state -/

/-- The `state.Mutable` that an action is given, by its dynamic type: the state manager, or another
one. -/
inductive Passed where
  | manager (sm : StateManager)
  | other

/-- What `Execute` returns when `mu.(vm.StateManager)` does not hold: the actions of `shuttle.go` do
not check the assertion and panic, the others return an error. -/
def refused : ActionCall → Outcome Unit
  | createObject action _ _ => if action.regionID = [] then .err errRegionRequired else .panicked
  | sendEvent action _ _ => if action.regionID = [] then .err errRegionRequired else .panicked
  | setInputObject .. => .panicked
  | createRegion .. | updateRegion .. | updateValidEnclaves .. =>
    .err (.plain (ascii "invalid state manager type"))

/-- `Execute`, without its result. -/
def executeOn (c : ActionCall) : Call Passed Unit
  | .manager sm => ((c.execute codec sm).1, .manager (c.apply codec sm))
  | .other => (c.refused, .other)

/-- Over a state manager the assertion is not noticed. -/
theorem run_manager (sm : StateManager) (calls : List ActionCall) :
    run (fun mu c => (executeOn codec c mu).2) (.manager sm) calls =
      .manager (run (apply codec) sm calls) := by
  induction calls generalizing sm with
  | nil => rfl
  | cons c calls ih => exact ih (c.apply codec sm)

/-- Over another state no call of any run succeeds, and nothing is done. -/
theorem run_other (calls : List ActionCall) (c : ActionCall) :
    run (fun mu c => (executeOn codec c mu).2) .other calls = .other ∧
      ¬ (c.executeOn codec .other).1.Succeeded := by
  have step (mu : Passed) (c : ActionCall) (same : mu = .other) :
      (executeOn codec c mu).2 = .other := by
    rw [same]
    rfl
  refine ⟨run_preserves step rfl calls, ?_⟩
  cases c with
  | createObject | sendEvent =>
    change ¬ (ite _ _ _ : Outcome Unit).Succeeded
    split <;> exact not_false
  | setInputObject | createRegion | updateRegion | updateValidEnclaves => exact not_false

end ActionCall

/-! ## What no action changes -/

/-- What the manager keeps outside of the merkle database. -/
def global (sm : StateManager) : Mutable × KeyValue Bytes Opened :=
  (sm.backingStore, sm.regionalStores)

theorem global_afterStore (regionID : Bytes) (sm : StateManager) (opened : Opened) :
    global (sm.afterStore regionID opened) = global sm := rfl

/-- A store is opened in the cache, -/
theorem keeps_getRegionalStoreInternal (env : RegionEnv) (regionID : Bytes) :
    Call.Keeps global (getRegionalStoreInternal env regionID) := by
  refine keeps_bind keeps_read fun sm => ?_
  cases sm.regionStores regionID with
  | some store => exact keeps_pure store
  | none =>
    refine keeps_bind (keeps_wrapping (keeps_lift _)) fun _ => ?_
    exact keeps_bind (keeps_modify fun _ => rfl) fun _ => keeps_pure _

/-- and what it writes is in the merkle database. -/
theorem keeps_onRegionStore {α : Type} (env : RegionEnv) (regionID : Bytes)
    (call : Call Opened α) : Call.Keeps global (onRegionStore env regionID call) :=
  keeps_bind (keeps_wrapping (keeps_getRegionalStoreInternal env regionID)) fun _ =>
    keeps_focus (global_afterStore regionID) call

/-- The same holds of the region actions, which hold the store. -/
theorem keeps_onStore {α : Type} (regionID : Bytes) (call : Call Opened α) :
    Call.Keeps global (onStore regionID call) :=
  keeps_focus (global_afterStore regionID) call

theorem keeps_getStore (env : RegionActionEnv) (regionID : Bytes) :
    Call.Keeps global (getStore env regionID) :=
  keeps_bind (keeps_mapError (keeps_getRegionalStoreInternal env.region regionID))
    fun _ => keeps_pure _

/-- Objects are looked up there, -/
theorem keeps_objectExists (env : RegionEnv) (id regionID : Bytes) :
    Call.Keeps global (objectExists env id regionID) :=
  keeps_bind (keeps_lift _) fun _ =>
    keeps_bind (keeps_onRegionStore env regionID _) fun _ => keeps_pure _

/-- and written there. -/
theorem keeps_setObject (env : RegionEnv) (id : Bytes) (obj : ObjectState) :
    Call.Keeps global (setObject codec env id obj) :=
  keeps_bind (keeps_lift _) fun _ => keeps_onRegionStore env obj.regionID _

/-- Regions are read there. -/
theorem keeps_getRegion (env : RegionEnv) (regionID : Bytes) :
    Call.Keeps global (getRegion codec env regionID) := by
  refine keeps_bind (keeps_lift _) fun _ => ?_
  refine keeps_bind (keeps_onRegionStore env regionID _) fun value => ?_
  cases value with
  | none => exact keeps_pure _
  | some => exact keeps_lift _

/-- **No action writes to the backing store** or to a store of the `RegionalStateManager`. -/
theorem global_apply (sm : StateManager) (call : ActionCall) :
    global (call.apply codec sm) = global sm := by
  have discard {α : Type} {execute : Call StateManager α} (keeps : Call.Keeps global execute) :
      Call.Keeps global (do let _ ← execute) := keeps_bind keeps fun _ => keeps_pure _
  have check {α β : Type} {result : Except GoError α} {next : α → Call StateManager β}
      (keeps : ∀ value, Call.Keeps global (next value)) :
      Call.Keeps global (Call.lift result >>= next) := keeps_bind (keeps_lift _) keeps
  cases call with
  | createObject action env timestamp =>
    refine discard (check fun _ => ?_) sm
    refine keeps_bind (keeps_getRegion codec env.region action.regionID) fun _ => check fun _ => ?_
    refine keeps_bind (keeps_objectExists env.existing action.id action.regionID) fun _ => ?_
    refine check fun _ => check fun _ => ?_
    exact keeps_bind (keeps_setObject codec env.set action.id _) fun _ => keeps_pure _
  | sendEvent action env timestamp =>
    refine discard (check fun _ => ?_) sm
    refine keeps_bind (check fun _ => keeps_bind (keeps_onRegionStore env.get _ _) ?_) fun obj => ?_
    · rintro (_ | value)
      · exact keeps_pure _
      · exact check fun _ => keeps_pure _
    cases obj with
    | none => exact keeps_fail _
    | some =>
      refine check fun _ => ?_
      refine keeps_bind (check fun _ => keeps_onRegionStore env.event _ _) fun _ => ?_
      exact keeps_bind (keeps_setObject codec env.set action.idTo _) fun _ => keeps_pure _
  | setInputObject action env timestamp =>
    refine discard (check fun _ => ?_) sm
    refine keeps_bind (keeps_objectExists env.existing action.id action.regionID) fun _ => ?_
    exact check fun _ => keeps_bind (keeps_setObject codec env.set _ _) fun _ => keeps_pure _
  | createRegion action env =>
    refine discard (check fun _ => check fun _ => ?_) sm
    refine keeps_bind (keeps_getStore env action.regionID) fun _ => ?_
    refine keeps_bind (keeps_bind (keeps_attempt (keeps_onStore _ _)) ?_) fun _ => ?_
    · rintro (error | value)
      · dsimp only
        split
        · exact keeps_pure _
        · exact keeps_fail _
      · exact keeps_pure _
    refine check fun _ => check fun _ => check fun _ => ?_
    refine keeps_bind (keeps_wrapping (keeps_lift _)) fun _ => ?_
    refine keeps_bind (keeps_wrapping (keeps_onStore action.regionID _)) fun _ => ?_
    exact keeps_bind (keeps_mapError (keeps_lift _)) fun _ => keeps_pure _
  | updateRegion action env =>
    refine discard (check fun _ => ?_) sm
    refine keeps_bind (keeps_getStore env action.regionID) fun _ => check fun _ => ?_
    refine keeps_bind (keeps_bind (keeps_attempt (keeps_onStore _ _)) ?_) fun _ => ?_
    · rintro (error | value)
      · dsimp only
        split <;> exact keeps_fail _
      · exact keeps_pure _
    refine keeps_bind (keeps_wrapping (keeps_lift _)) fun region => ?_
    cases region with
    | none => exact keeps_crash
    | some =>
      refine keeps_bind (keeps_wrapping (keeps_lift _)) fun _ => ?_
      refine keeps_bind (keeps_wrapping (keeps_onStore action.regionID _)) fun _ => ?_
      exact keeps_bind (keeps_mapError (keeps_lift _)) fun _ => keeps_pure _
  | updateValidEnclaves action env timestamp =>
    refine discard ?_ sm
    refine keeps_bind (keeps_bind (keeps_getRegion codec env.region action.regionID) fun _ =>
      keeps_pure _) fun _ => check fun _ => ?_
    exact keeps_bind (keeps_wrapping (keeps_setObject codec env.set _ _)) fun _ => keeps_pure _

/-- **A whole run** leaves it alone. -/
theorem global_run (sm : StateManager) (calls : List ActionCall) :
    global (run (ActionCall.apply codec) sm calls) = global sm := by
  have preserved : ∀ (state : StateManager) (call : ActionCall),
      global state = global sm → global (call.apply codec state) = global sm :=
    fun state call same => (global_apply codec state call).trans same
  exact run_preserves preserved rfl calls

end Codec

end Aristo
