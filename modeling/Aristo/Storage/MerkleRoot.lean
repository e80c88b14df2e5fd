import Aristo.Storage.RegionStore

/-!
# The cached root of a region store

A `MerkleStore` caches the root of its database in `lastHash` and counts its updates.  `Insert` and
`Delete` end with `updateMerkleRoot`, which refreshes the cache; `Remove` deletes the same entry as
`Delete` and does not.

The root enters as a `RootHash`, a function of the contents whose values have the length of an
`ids.ID`, so that a store that has refreshed nothing is told from one that has.
-/

namespace Aristo

open GoBase Call List

namespace Storage

/-- `db.GetMerkleRoot`, as a function of the contents. -/
structure RootHash where
  root : MerkleDB → Bytes
  length_root : ∀ db, (root db).length = 32

theorem RootHash.root_ne_nil (hash : RootHash) (db : MerkleDB) : hash.root db ≠ [] := by
  intro empty
  have length := hash.length_root db
  rw [empty] at length
  cases length

/-- A store as `NewMerkleStore` makes it, over a database. -/
def Opened.new (regionID : Bytes) (db : MerkleDB) : Opened :=
  { store := .new regionID, db }

namespace StoreOp

def env : StoreOp → StoreEnv
  | insert env _ _ => env
  | delete env _ => env
  | remove env _ => env

def outcome (opened : Opened) : StoreOp → Outcome Unit
  | insert env key value => (MerkleStore.insert env key value opened).1
  | delete env key => (MerkleStore.delete env key opened).1
  | remove env key => (MerkleStore.remove env key opened).1

def isInsert : StoreOp → Bool
  | insert _ _ _ => true
  | delete _ _ => false
  | remove _ _ => false

/-- The call ends with `updateMerkleRoot`. -/
def refreshes : StoreOp → Bool
  | insert _ _ _ => true
  | delete _ _ => true
  | remove _ _ => false

/-- The call succeeds, on a database that reports the root of its contents and that nobody else
writes. -/
structure Succeeds (hash : RootHash) (opened : Opened) (op : StoreOp) : Prop where
  outcome : (op.outcome opened).Succeeded
  root : ∀ bytes, op.env.root = .ok bytes → bytes = hash.root (apply opened op).db

/-- The cache holds the root of the database. -/
def Current (hash : RootHash) (opened : Opened) : Prop :=
  opened.store.lastHash = hash.root opened.db

variable {hash : RootHash} {opened : Opened}

/-! ## One call -/

variable {key : Bytes}

variable {env : StoreEnv}

theorem insert_succeeds {value : Bytes} (succeeds : Succeeds hash opened (insert env key value)) :
    Current hash (apply opened (insert env key value)) ∧
      (apply opened (insert env key value)).store.updateCount = opened.store.updateCount + 1 := by
  obtain ⟨ended, root⟩ := succeeds
  simp only [outcome, apply, StoreOp.env] at ended root ⊢
  cases coordinated : opened.store.coordinated with
  | false =>
    rw [MerkleStore.insert_of_uncoordinated env key value coordinated] at ended
    exact absurd ended Outcome.not_succeeded_panicked
  | true =>
  by_cases writes : env.Writes
  · rw [MerkleStore.insert_of_writes writes key value coordinated] at ended root ⊢
    cases reads : env.root with
    | error error =>
      rw [reads] at ended
      exact absurd ended (Outcome.not_succeeded_err error)
    | ok bytes => exact ⟨root bytes reads, rfl⟩
  · obtain ⟨error, failed⟩ :=
      MerkleStore.insert_of_not_writes writes key value coordinated
    rw [failed] at ended
    exact absurd ended (Outcome.not_succeeded_err error)

theorem delete_succeeds (succeeds : Succeeds hash opened (delete env key)) :
    Current hash (apply opened (delete env key)) ∧
      (apply opened (delete env key)).store.updateCount = opened.store.updateCount := by
  obtain ⟨ended, root⟩ := succeeds
  simp only [outcome, apply, StoreOp.env] at ended root ⊢
  have entered : MerkleStore.delete env key opened =
      (MerkleStore.erase env (makeRegionalKey opened.store.regionID key) >>= fun _ =>
        MerkleStore.updateMerkleRoot env) opened := rfl
  rcases MerkleStore.erase_cases env (makeRegionalKey opened.store.regionID key) opened with
    ⟨error, failed⟩ | done
  · rw [entered.trans (bind_of_err failed)] at ended
    exact absurd ended (Outcome.not_succeeded_err error)
  · have erased := entered.trans (bind_of_ok done)
    cases reads : env.root with
    | error error =>
      rw [erased.trans (lift_bind_of_error reads)] at ended
      exact absurd ended (Outcome.not_succeeded_err error)
    | ok bytes =>
      rw [erased.trans (lift_bind_of_ok reads)] at root ⊢
      exact ⟨root bytes reads, rfl⟩

theorem remove_store (env : StoreEnv) (key : Bytes) (opened : Opened) :
    (apply opened (remove env key)).store = opened.store := by
  rcases MerkleStore.remove_cases env key opened with ⟨error, failed⟩ | done
  · rw [apply, failed]
  · rw [apply, done]

theorem remove_succeeds (succeeds : Succeeds hash opened (remove env key)) :
    (apply opened (remove env key)).db =
      opened.db.remove (makeRegionalKey opened.store.regionID key) := by
  obtain ⟨ended, -⟩ := succeeds
  simp only [outcome] at ended
  rcases MerkleStore.remove_cases env key opened with ⟨error, failed⟩ | done
  · rw [failed] at ended
    exact absurd ended (Outcome.not_succeeded_err error)
  · rw [apply, done]

theorem current_of_refreshes {op : StoreOp} (succeeds : Succeeds hash opened op)
    (refreshes : op.refreshes = true) : Current hash (apply opened op) := by
  cases op with
  | insert => exact (insert_succeeds succeeds).1
  | delete => exact (delete_succeeds succeeds).1
  | remove => cases refreshes

theorem current_remove_iff (succeeds : Succeeds hash opened (remove env key)) :
    Current hash (apply opened (remove env key)) ↔
      opened.store.lastHash =
        hash.root (opened.db.remove (makeRegionalKey opened.store.regionID key)) := by
  rw [Current, remove_store, remove_succeeds succeeds]

/-! ## Runs -/

/-- After every call of a run the cache is right and the counter is the number of `Insert`s. -/
def RootKept (hash : RootHash) (start : Opened) (ops : List StoreOp) : Prop :=
  ∀ earlier op later, ops = earlier ++ op :: later →
    Current hash (run apply start (earlier ++ [op])) ∧
      (run apply start (earlier ++ [op])).store.updateCount.toNat =
        (earlier ++ [op]).countP isInsert

/-- Every `Remove` of a run comes after a refresh and leaves the root of the database as it
was. -/
def RemovesNothing (hash : RootHash) (start : Opened) (ops : List StoreOp) : Prop :=
  ∀ earlier env key later, ops = earlier ++ remove env key :: later →
    (∃ op ∈ earlier, op.refreshes = true) ∧
      let before := run apply start earlier
      hash.root (before.db.remove (makeRegionalKey before.store.regionID key)) =
        hash.root before.db

theorem run_snoc (start : Opened) (earlier : List StoreOp) (op : StoreOp) :
    run apply start (earlier ++ [op]) = apply (run apply start earlier) op := by
  rw [run_append, run_cons, run_nil]

variable {ops : List StoreOp}

theorem run_updateCount {start : Opened} (succeed : Along apply (Succeeds hash) start ops) :
    (run apply start ops).store.updateCount =
      start.store.updateCount + UInt64.ofNat (ops.countP isInsert) := by
  induction ops generalizing start with
  | nil => simp
  | cons op ops ih =>
    obtain ⟨first, rest⟩ := along_cons_iff.mp succeed
    rw [run_cons, ih rest]
    cases op with
    | insert =>
      rw [(insert_succeeds first).2, countP_cons_of_pos rfl, UInt64.ofNat_add,
        UInt64.add_assoc, UInt64.add_comm 1]
      rfl
    | delete =>
      rw [(delete_succeeds first).2, countP_cons_of_neg (by simp [isInsert])]
    | remove => rw [remove_store, countP_cons_of_neg (by simp [isInsert])]

variable {regionID : Bytes}

theorem run_lastHash_of_no_refresh {db : MerkleDB} (none : ∀ op ∈ ops, ¬ op.refreshes = true) :
    (run apply (Opened.new regionID db) ops).store.lastHash = [] := by
  have step : ∀ opened op, ¬ op.refreshes = true → opened.store.lastHash = [] →
      (apply opened op).store.lastHash = [] := by
    intro opened op notRefreshing empty
    cases op with
    | insert | delete => exact absurd rfl notRefreshing
    | remove => rwa [remove_store]
  show (fun opened : Opened => opened.store.lastHash = []) (run apply (Opened.new regionID db) ops)
  exact run_invariant step rfl none

/-- From the first refresh on the cache is right, if every `Remove` leaves the root alone. -/
theorem current_of_removesNothing {start : Opened} (succeed : Along apply (Succeeds hash) start ops)
    (careful : RemovesNothing hash start ops) :
    ∀ earlier later, ops = earlier ++ later → (∃ op ∈ earlier, op.refreshes = true) →
      Current hash (run apply start earlier) := by
  intro earlier
  -- from the end of the prefix: its last call refreshes, or is a `Remove` after a refresh
  induction earlier using List.reverseRecOn with
  | nil =>
    rintro later - ⟨op, mem, -⟩
    cases mem
  | append_singleton earlier op ih =>
    intro later equal refreshed
    rw [append_assoc, singleton_append] at equal
    have succeeds := succeed earlier op later equal
    rw [run_snoc]
    by_cases refreshes : op.refreshes = true
    · exact current_of_refreshes succeeds refreshes
    · cases op with
      | insert | delete => exact absurd rfl refreshes
      | remove env key =>
        obtain ⟨before, same⟩ := careful earlier env key later equal
        exact (current_remove_iff succeeds).mpr ((ih _ equal before).trans same.symm)

section

variable {db : MerkleDB} (succeed : Along apply (Succeeds hash) (Opened.new regionID db) ops)

include succeed

theorem rootKept_of_removesNothing (careful : RemovesNothing hash (Opened.new regionID db) ops)
    (few : ops.countP isInsert < 2 ^ 64) : RootKept hash (Opened.new regionID db) ops := by
  intro earlier op later equal
  have split : ops = (earlier ++ [op]) ++ later := by rw [equal]; simp
  refine ⟨current_of_removesNothing succeed careful _ later split ?_, ?_⟩
  · cases op with
    | insert | delete => exact ⟨_, mem_append_right _ mem_cons_self, rfl⟩
    | remove env key =>
      obtain ⟨⟨before, mem, refreshes⟩, -⟩ := careful earlier env key later equal
      exact ⟨before, mem_append_left _ mem, refreshes⟩
  · rw [split] at succeed few
    rw [countP_append] at few
    have count := run_updateCount succeed.of_append
    have fits : (earlier ++ [op]).countP isInsert < 2 ^ 64 := by omega
    rw [count, Opened.new, MerkleStore.new, UInt64.zero_add, UInt64.toNat_ofNat',
      Nat.mod_eq_of_lt fits]

/-- What a run in which the cache stays right does not do. -/
theorem removesNothing_of_rootKept (kept : RootKept hash (Opened.new regionID db) ops) :
    RemovesNothing hash (Opened.new regionID db) ops := by
  intro earlier env key later equal
  have after := (kept earlier _ later equal).1
  rw [run_snoc, current_remove_iff (succeed earlier _ later equal)] at after
  have refreshed : ∃ op ∈ earlier, op.refreshes = true := by
    by_contra none
    rw [run_lastHash_of_no_refresh fun op mem refreshes => none ⟨op, mem, refreshes⟩] at after
    exact hash.root_ne_nil _ after.symm
  refine ⟨refreshed, ?_⟩
  cases earlier using List.reverseRecOn with
  | nil =>
    obtain ⟨op, mem, -⟩ := refreshed
    cases mem
  | append_singleton earlier last =>
    rw [append_assoc, singleton_append] at equal
    exact after.symm.trans (kept earlier last _ equal).1

end

/-- **When the cached root and the counter are right.** Along a run of successful calls from a new
store, the only writer of its database, `lastHash` is the root and `updateCount` the number of
`Insert`s exactly when every `Remove` comes after an `Insert` or a `Delete` and leaves the root as
it was, and there are fewer than `2 ^ 64` `Insert`s. -/
theorem rootKept_iff (hash : RootHash) (regionID : Bytes) (db : MerkleDB) (ops : List StoreOp)
    (succeed : Along apply (Succeeds hash) (Opened.new regionID db) ops) :
    RootKept hash (Opened.new regionID db) ops ↔
      RemovesNothing hash (Opened.new regionID db) ops ∧ ops.countP isInsert < 2 ^ 64 := by
  constructor
  · intro kept
    refine ⟨removesNothing_of_rootKept succeed kept, ?_⟩
    cases ops using List.reverseRecOn with
    | nil => decide
    | append_singleton ops last =>
      rw [← (kept ops last [] rfl).2]
      exact UInt64.toNat_lt _
  · rintro ⟨careful, few⟩
    exact rootKept_of_removesNothing succeed careful few

/-- A root that shows whether one key is present. -/
def presenceHash (key : Bytes) : RootHash where
  root db := List.replicate 32 (if (db key).isSome then 1 else 0)
  length_root _ := length_replicate

def firstInsert : StoreOp :=
  insert { StoreEnv.ok with root := .ok (List.replicate 32 1) } (ascii "k") (ascii "v")

theorem firstInsert_succeeds :
    Succeeds (presenceHash (makeRegionalKey (ascii "r") (ascii "k")))
      (Opened.new (ascii "r") fun _ => none) firstInsert := by
  refine ⟨trivial, fun bytes reports => ?_⟩
  cases reports
  decide +kernel

/-- An `Insert` and a `Remove` of a key that is absent. -/
theorem rootKept_iff_remove_absent :
    let hash := presenceHash (makeRegionalKey (ascii "r") (ascii "k"))
    let start := Opened.new (ascii "r") fun _ => none
    let ops := [firstInsert,
      remove { StoreEnv.ok with root := .ok (List.replicate 32 1) } (ascii "j")]
    Along apply (Succeeds hash) start ops ∧ RootKept hash start ops := by
  intro hash start ops
  have succeed : Along apply (Succeeds hash) start ops := by
    refine along_cons firstInsert_succeeds (along_cons ⟨trivial, fun bytes reports => ?_⟩
      (along_nil _ _ _))
    cases reports
    decide +kernel
  refine ⟨succeed, (rootKept_iff hash (ascii "r") (fun _ => none) ops succeed).mpr ⟨?_, ?_⟩⟩
  · rintro (_ | ⟨first, _ | ⟨second, earlier⟩⟩) env key later equal
    · simp [ops, firstInsert] at equal
    · obtain ⟨rfl, rest⟩ := List.cons.inj equal
      obtain ⟨rfl, rfl⟩ := StoreOp.remove.inj (List.cons.inj rest).1
      exact ⟨⟨_, mem_cons_self, rfl⟩, by decide +kernel⟩
    · simp [ops] at equal
  · decide

/-- An `Insert` and a `Remove` of the same key: the cache still holds the root of the database with
the entry. -/
theorem not_rootKept_insert_remove :
    let hash := presenceHash (makeRegionalKey (ascii "r") (ascii "k"))
    let start := Opened.new (ascii "r") fun _ => none
    let ops := [firstInsert,
      remove { StoreEnv.ok with root := .ok (List.replicate 32 0) } (ascii "k")]
    Along apply (Succeeds hash) start ops ∧ ¬ RootKept hash start ops := by
  intro hash start ops
  refine ⟨along_cons firstInsert_succeeds (along_cons ⟨trivial, fun bytes reports => ?_⟩
    (along_nil _ _ _)), fun kept => ?_⟩
  · cases reports
    decide +kernel
  · have stale : (run apply start ops).store.lastHash ≠ hash.root (run apply start ops).db := by
      decide +kernel
    exact stale (kept [firstInsert] _ [] rfl).1

end StoreOp

end Storage

end Aristo
