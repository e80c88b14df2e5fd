import Aristo.Storage.Balance

/-!
# Region stores

`MerkleStore` of `storage/region_store.go`.  The stores of all regions share one merkle database,
and only the text of the key `r/<region>/<key>` keeps two regions apart (`isolated_iff`).  `Insert`
first sends the value over the secure channel of the region's worker pair, `Delete` and `Remove` do
not.  A `StoreEnv` holds the outcomes of the channel, the encoding and the database for one call.
-/

namespace Aristo

open GoBase

namespace Storage

/-- A merkle database, taken as a key-value map. -/
abbrev MerkleDB := KeyValue Bytes Bytes

/-- `MerkleStore`, without its database; of the coordinator it matters only whether
there is one. -/
structure MerkleStore where
  regionID : Bytes
  lastHash : Bytes
  updateCount : UInt64
  coordinated : Bool
deriving DecidableEq

/-- `NewMerkleStore` with a coordinator. -/
def MerkleStore.new (regionID : Bytes) : MerkleStore :=
  { regionID, lastHash := [], updateCount := 0, coordinated := true }

structure Opened where
  store : MerkleStore
  db : MerkleDB

/-- The outcomes of what one call of a store relies on. -/
structure StoreEnv where
  /-- `coordinator.GetSecureChannel`. -/
  channel : Except GoError Unit
  /-- `json.Marshal` of the coordination message. -/
  message : Except GoError Unit
  /-- `channel.Send`. -/
  send : Except GoError Unit
  /-- `db.Put` or `db.Delete`, which write nothing when they fail. -/
  write : Except GoError Unit
  /-- `db.GetMerkleRoot`. -/
  root : Except GoError Bytes

def StoreEnv.ok : StoreEnv :=
  { channel := .ok (), message := .ok (), send := .ok (), write := .ok (), root := .ok [] }

/-- Everything up to the database's `Put` goes well. -/
structure StoreEnv.Writes (env : StoreEnv) : Prop where
  channel : env.channel = .ok ()
  message : env.message = .ok ()
  send : env.send = .ok ()
  write : env.write = .ok ()

/-- An `Insert` goes well. -/
structure StoreEnv.Inserts (env : StoreEnv) : Prop where
  writes : env.Writes
  root : env.root.isOk = true

/-- What a key-value map answers to a read. -/
def answer : Option Bytes → Outcome Bytes
  | some value => .ok value
  | none => .err errNotFound

theorem answer_injective : Function.Injective answer := by
  rintro (_ | a) (_ | b) h <;> cases h <;> rfl

def makeRegionalKey (regionID key : Bytes) : Bytes :=
  ascii "r/" ++ regionID ++ slash :: key

namespace MerkleStore

/-- `ms.coordinator.GetSecureChannel`, which dereferences the coordinator. -/
def getSecureChannel (env : StoreEnv) : Call Opened Unit := do
  let opened ← Call.read
  if opened.store.coordinated then Call.lift env.channel else Call.crash

def put (env : StoreEnv) (key value : Bytes) : Call Opened Unit := do
  Call.lift env.write
  Call.modify fun opened => { opened with db := opened.db.insert key value }

def erase (env : StoreEnv) (key : Bytes) : Call Opened Unit := do
  Call.lift env.write
  Call.modify fun opened => { opened with db := opened.db.remove key }

def updateMerkleRoot (env : StoreEnv) : Call Opened Unit := do
  let root ← Call.lift env.root
  Call.modify fun opened => { opened with store := { opened.store with lastHash := root } }

def countUpdate : Call Opened Unit :=
  Call.modify fun opened =>
    { opened with store :=
      { opened.store with updateCount := opened.store.updateCount + 1 } }

def insert (env : StoreEnv) (key value : Bytes) : Call Opened Unit := do
  Call.wrapping (ascii "failed to get secure channel") (getSecureChannel env)
  Call.wrapping (ascii "failed to marshal coordination message") (Call.lift env.message)
  Call.wrapping (ascii "failed to send coordination message") (Call.lift env.send)
  let opened ← Call.read
  Call.wrapping (ascii "failed to store value")
    (put env (makeRegionalKey opened.store.regionID key) value)
  countUpdate
  updateMerkleRoot env

def lookup (key : Bytes) : Call Opened Bytes := fun opened =>
  (answer (opened.db (makeRegionalKey opened.store.regionID key)), opened)

def get (key : Bytes) : Call Opened Bytes :=
  lookup key

def getValue (key : Bytes) : Call Opened Bytes :=
  lookup key

def delete (env : StoreEnv) (key : Bytes) : Call Opened Unit := do
  let opened ← Call.read
  erase env (makeRegionalKey opened.store.regionID key)
  updateMerkleRoot env

def remove (env : StoreEnv) (key : Bytes) : Call Opened Unit := do
  let opened ← Call.read
  erase env (makeRegionalKey opened.store.regionID key)

/-! ## What a call changes -/

def SameStore (before after : Opened) : Prop :=
  after.store.regionID = before.store.regionID ∧
    after.store.coordinated = before.store.coordinated

/-- Without a coordinator an `Insert` panics. -/
theorem insert_of_uncoordinated (env : StoreEnv) (key value : Bytes) {opened : Opened}
    (h : opened.store.coordinated = false) :
    insert env key value opened = (.panicked, opened) := by
  obtain ⟨⟨regionID, lastHash, updateCount, coordinated⟩, db⟩ := opened
  cases h
  rfl

/-- The store after a value was put, whose root was then read or not. -/
def updated (store : MerkleStore) (root : Except GoError Bytes) : MerkleStore :=
  { store with
    updateCount := store.updateCount + 1
    lastHash := match root with
      | .ok hash => hash
      | .error _ => store.lastHash }

/-- What `Insert` reports once the value is put. -/
def reported : Except GoError Bytes → Outcome Unit
  | .ok _ => .ok ()
  | .error error => .err error

theorem reported_ne_panicked (root : Except GoError Bytes) : reported root ≠ .panicked := by
  cases root <;> exact nofun

/-- The root decides what is reported. -/
theorem reported_of_isOk {root : Except GoError Bytes} (ok : root.isOk = true) :
    reported root = .ok () := by
  cases root with
  | ok => rfl
  | error => cases ok

theorem reported_of_not_isOk {root : Except GoError Bytes} (fails : ¬ root.isOk = true) :
    ∃ error, reported root = .err error := by
  cases root with
  | ok => exact absurd rfl fails
  | error error => exact ⟨error, rfl⟩

/-- Once the value is put, only reading the root can fail, -/
theorem insert_of_writes {env : StoreEnv} (writes : env.Writes) (key value : Bytes)
    {opened : Opened} (coordinated : opened.store.coordinated = true) :
    insert env key value opened =
      (reported env.root,
        { store := opened.store.updated env.root
          db := opened.db.insert (makeRegionalKey opened.store.regionID key) value }) := by
  obtain ⟨store, db⟩ := opened
  obtain ⟨regionID, lastHash, updateCount, coordinated'⟩ := store
  obtain ⟨channel, message, send, write, root⟩ := env
  obtain ⟨rfl, rfl, rfl, rfl⟩ := writes
  cases coordinated
  cases root <;> rfl

/-- and otherwise an error is returned and nothing changes. -/
theorem insert_of_not_writes {env : StoreEnv} (fails : ¬ env.Writes) (key value : Bytes)
    {opened : Opened} (coordinated : opened.store.coordinated = true) :
    ∃ error, insert env key value opened = (.err error, opened) := by
  obtain ⟨store, db⟩ := opened
  obtain ⟨regionID, lastHash, updateCount, coordinated'⟩ := store
  obtain ⟨channel, message, send, write, root⟩ := env
  cases coordinated
  cases channel <;> cases message <;> cases send <;> cases write
  case ok.ok.ok.ok => exact absurd ⟨rfl, rfl, rfl, rfl⟩ fails
  all_goals exact ⟨_, rfl⟩

/-- **`Insert`** panics exactly without a coordinator.  Otherwise it fails with nothing changed, or
writes the value, and can still report an error. -/
theorem insert_cases (env : StoreEnv) (key value : Bytes) (opened : Opened) :
    opened.store.coordinated = false ∧ insert env key value opened = (.panicked, opened) ∨
      (∃ error, insert env key value opened = (.err error, opened)) ∨
      ((insert env key value opened).1 ≠ .panicked ∧
        SameStore opened (insert env key value opened).2 ∧
        (insert env key value opened).2.db =
          opened.db.insert (makeRegionalKey opened.store.regionID key) value) := by
  cases coordinated : opened.store.coordinated with
  | false => exact Or.inl ⟨rfl, insert_of_uncoordinated env key value coordinated⟩
  | true =>
    right
    by_cases writes : env.Writes
    · right
      rw [insert_of_writes writes key value coordinated]
      exact ⟨reported_ne_panicked _, ⟨rfl, rfl⟩, rfl⟩
    · exact Or.inl (insert_of_not_writes writes key value coordinated)

theorem erase_cases (env : StoreEnv) (key : Bytes) (opened : Opened) :
    (∃ error, erase env key opened = (.err error, opened)) ∨
      erase env key opened = (.ok (), { opened with db := opened.db.remove key }) := by
  obtain ⟨channel, message, send, write, root⟩ := env
  cases write with
  | error error => exact Or.inl ⟨error, rfl⟩
  | ok => exact Or.inr rfl

/-- **`Delete`** never panics.  It fails with nothing changed, or drops the key, and can still
report an error. -/
theorem delete_cases (env : StoreEnv) (key : Bytes) (opened : Opened) :
    (∃ error, delete env key opened = (.err error, opened)) ∨
      ((delete env key opened).1 ≠ .panicked ∧ SameStore opened (delete env key opened).2 ∧
        (delete env key opened).2.db =
          opened.db.remove (makeRegionalKey opened.store.regionID key)) := by
  have unfolded : delete env key opened =
      (erase env (makeRegionalKey opened.store.regionID key) >>= fun _ =>
        updateMerkleRoot env) opened := rfl
  rcases erase_cases env (makeRegionalKey opened.store.regionID key) opened with
    ⟨error, failed⟩ | done
  · left
    exact ⟨error, by rw [unfolded, Call.bind_of_err failed]⟩
  · right
    rw [unfolded, Call.bind_of_ok done]
    obtain ⟨channel, message, send, write, root⟩ := env
    cases root with
    | error error => exact ⟨(nofun : Outcome.err error ≠ .panicked), ⟨rfl, rfl⟩, rfl⟩
    | ok => exact ⟨(nofun : Outcome.ok () ≠ .panicked), ⟨rfl, rfl⟩, rfl⟩

theorem remove_cases (env : StoreEnv) (key : Bytes) (opened : Opened) :
    (∃ error, remove env key opened = (.err error, opened)) ∨
      remove env key opened =
        (.ok (), { opened with
          db := opened.db.remove (makeRegionalKey opened.store.regionID key) }) :=
  erase_cases env (makeRegionalKey opened.store.regionID key) opened

end MerkleStore

open MerkleStore

/-! ## Isolation -/

inductive StoreOp where
  | insert (env : StoreEnv) (key value : Bytes)
  | delete (env : StoreEnv) (key : Bytes)
  | remove (env : StoreEnv) (key : Bytes)

namespace StoreOp

def apply (opened : Opened) : StoreOp → Opened
  | insert env key value => (MerkleStore.insert env key value opened).2
  | delete env key => (MerkleStore.delete env key opened).2
  | remove env key => (MerkleStore.remove env key opened).2

/-- The region stays the same, and no key outside the region changes. -/
def Confined (before after : Opened) : Prop :=
  after.store.regionID = before.store.regionID ∧
    ∀ other, (∀ key, other ≠ makeRegionalKey before.store.regionID key) →
      after.db other = before.db other

/-- Nothing has happened. -/
theorem Confined.refl (opened : Opened) : Confined opened opened :=
  ⟨rfl, fun _ _ => rfl⟩

theorem Confined.trans {first second third : Opened} (h : Confined first second)
    (h' : Confined second third) : Confined first third := by
  refine ⟨h'.1.trans h.1, fun other outside => ?_⟩
  rw [h'.2 other (by rwa [h.1]), h.2 other outside]

/-- One call stays in its region, -/
theorem apply_confined (opened : Opened) (op : StoreOp) : Confined opened (apply opened op) := by
  cases op with
  | insert env key value =>
    rcases insert_cases env key value opened with
      ⟨-, same⟩ | ⟨error, same⟩ | ⟨-, store, db⟩
    iterate 2
      rw [apply, same]
      exact Confined.refl opened
    · refine ⟨store.1, fun other outside => ?_⟩
      rw [apply, db, KeyValue.insert_of_ne _ _ (outside key)]
  | delete env key =>
    rcases delete_cases env key opened with ⟨error, same⟩ | ⟨-, store, db⟩
    · rw [apply, same]
      exact Confined.refl opened
    · refine ⟨store.1, fun other outside => ?_⟩
      rw [apply, db, KeyValue.remove_of_ne _ (outside key)]
  | remove env key =>
    rcases remove_cases env key opened with ⟨error, same⟩ | done
    · rw [apply, same]
      exact Confined.refl opened
    · rw [apply, done]
      exact ⟨rfl, fun other outside => KeyValue.remove_of_ne _ (outside key)⟩

/-- and so does a run. -/
theorem run_confined (opened : Opened) (ops : List StoreOp) :
    Confined opened (run apply opened ops) :=
  run_relates Confined.refl Confined.trans (fun opened op (_ : True) => apply_confined opened op)
    opened fun _ _ => trivial

end StoreOp

/-- No run of calls on the store of region `a` changes what the store of region `b`
returns. -/
def Isolated (a b : Bytes) : Prop :=
  ∀ first second : MerkleStore, first.regionID = a → second.regionID = b →
    ∀ (db : MerkleDB) (ops : List StoreOp) (key : Bytes),
      let after := (run StoreOp.apply { store := first, db } ops).db
      (get key { store := second, db := after }).1 =
          (get key { store := second, db }).1 ∧
        (getValue key { store := second, db := after }).1 =
          (getValue key { store := second, db }).1

/-- Two regional keys can only agree across regions when one region ID, closed by
its slash, starts the other. -/
theorem makeRegionalKey_cases {a b key key' : Bytes}
    (h : makeRegionalKey a key = makeRegionalKey b key') :
    a = b ∨ a ++ [slash] <+: b ∨ b ++ [slash] <+: a := by
  unfold makeRegionalKey at h
  rw [List.append_assoc, List.append_assoc] at h
  exact append_sep_eq_cases (List.append_cancel_left h)

/-- In one region the key determines the entry. -/
theorem makeRegionalKey_inj {regionID key key' : Bytes}
    (h : makeRegionalKey regionID key = makeRegionalKey regionID key') : key = key' := by
  unfold makeRegionalKey at h
  exact (List.cons.inj (List.append_cancel_left h)).2

theorem makeRegionalKey_nested (a rest key : Bytes) :
    makeRegionalKey (a ++ [slash] ++ rest) key = makeRegionalKey a (rest ++ slash :: key) := by
  simp [makeRegionalKey]

/-- Regions with a common key interfere. -/
theorem not_isolated_of_collision {a b key key' : Bytes}
    (h : makeRegionalKey a key = makeRegionalKey b key') : ¬ Isolated a b := by
  intro isolated
  let db : MerkleDB := KeyValue.insert (fun _ => none) (makeRegionalKey b key') []
  have same := answer_injective
    (isolated (.new a) (.new b) rfl rfl db [.remove .ok key] key').1
  have before : db (makeRegionalKey b key') = some [] := KeyValue.insert_self _ _ _
  have after : db.remove (makeRegionalKey a key) (makeRegionalKey b key') = none := by
    rw [h]
    exact KeyValue.remove_self _ _
  cases after.symm.trans (same.trans before)

/-- **When two regions are isolated.**  The stores of two different regions do not
interfere exactly when neither region ID, followed by a slash, starts the other. -/
theorem isolated_iff (a b : Bytes) (someA : a ≠ []) (someB : b ≠ []) (distinct : a ≠ b) :
    Isolated a b ↔ ¬ a ++ [slash] <+: b ∧ ¬ b ++ [slash] <+: a := by
  constructor
  · intro isolated
    refine ⟨?_, ?_⟩
    · rintro ⟨rest, rfl⟩
      exact not_isolated_of_collision (makeRegionalKey_nested a rest []).symm isolated
    · rintro ⟨rest, rfl⟩
      exact not_isolated_of_collision (makeRegionalKey_nested b rest []) isolated
  · rintro ⟨notA, notB⟩ first second rfl rfl db ops key
    have outside : ∀ key', makeRegionalKey second.regionID key ≠
        makeRegionalKey first.regionID key' := by
      intro key' collision
      rcases makeRegionalKey_cases collision with equal | starts | starts
      · exact distinct equal.symm
      · exact notB starts
      · exact notA starts
    have frame := (StoreOp.run_confined { store := first, db } ops).2 _ outside
    exact ⟨congrArg answer frame, congrArg answer frame⟩

/-- Regions `a` and `b` are isolated. -/
theorem isolated_iff_a_b :
    Isolated (ascii "a") (ascii "b") ↔
      ¬ ascii "a" ++ [slash] <+: ascii "b" ∧ ¬ ascii "b" ++ [slash] <+: ascii "a" :=
  isolated_iff (ascii "a") (ascii "b") (by decide) (by decide) (by decide)

/-- Regions `a` and `a/b` are not: removing `b/k` in `a` removes `k` in `a/b`. -/
theorem not_isolated_nested :
    ascii "a" ≠ [] ∧ ascii "a/b" ≠ [] ∧ ascii "a" ≠ ascii "a/b" ∧
      ¬ Isolated (ascii "a") (ascii "a/b") := by
  refine ⟨by decide, by decide, by decide, ?_⟩
  have collision : makeRegionalKey (ascii "a") (ascii "b/k") =
      makeRegionalKey (ascii "a/b") (ascii "k") := by decide
  exact not_isolated_of_collision collision

end Storage

end Aristo
