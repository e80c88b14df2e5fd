import Aristo.Storage.Records

/-!
# Records of the plain state

The functions of `storage/storage.go` that read objects, the input object and regions
through the `GetValue` of whatever state they are given.  Their keys are built by
`makeKey` and have nothing to do with the keys of `StateManager`: an object of a region is
looked for under `r/<region>/4/<id>`, and outside of regions under the byte 4 followed by
the ID.
-/

namespace Aristo

open GoBase Call

namespace Storage

/-! ## Keys -/

def makeKey (regionID : Bytes) (kind : UInt8) (id : Bytes) : Bytes :=
  if regionID = [] then kind :: id
  else ascii "r/" ++ regionID ++ slash :: (Time.padded 1 kind.toNat ++ slash :: id)

def objectKind : UInt8 := 4

def makeObjectKey (regionID id : Bytes) : Bytes :=
  makeKey regionID objectKind id

def inputObjectKey : Bytes := [6]

/-! ## Reading -/

section Reading

variable {σ : Type} (getValue : Bytes → Call σ Bytes)

/-- A read that takes `database.ErrNotFound` for an absent value. -/
def findValue (key : Bytes) : Call σ (Option Bytes) := do
  match ← Call.attempt (getValue key) with
  | .ok value => return some value
  | .error error =>
    if error.is databaseErrNotFound then return none else Call.fail error

/-- The record under a key; a map can be nil. -/
def getRecord {α : Type} (decode : Bytes → Except GoError (Option α)) (key : Bytes) :
    Call σ (Option α) := do
  match ← findValue getValue key with
  | none => return none
  | some value => Call.lift (decode value)

def getObject (id regionID : Bytes) : Call σ (Option (List (List Char × Bytes))) :=
  getRecord getValue Records.unmarshalBytesMap (makeObjectKey regionID id)

def getInputObject : Call σ Bytes := do
  let value ← findValue getValue inputObjectKey
  return value.getD []

def getRegion (id : Bytes) : Call σ (Option (List (List Char × Json))) :=
  getRecord getValue Records.unmarshalMap (regionKey id)

/-- The reads answer from a map, which they leave alone. -/
structure Reads (view : σ → Bytes → Option Bytes) : Prop where
  answers : ∀ key state, (getValue key state).1 = answer (view state key)
  keeps : ∀ key, Call.Keeps view (getValue key)

variable {getValue} {view : σ → Bytes → Option Bytes}

theorem Reads.ends_findValue_bind {α : Type} {next : Option Bytes → Call σ α} {state : σ}
    {Q : Outcome α → σ → Prop} (reads : Reads getValue view) (key : Bytes)
    (found : ∀ after, view after = view state → Call.Ends (next (view state key)) after Q) :
    Call.Ends (findValue getValue key >>= next) state Q := by
  have answers := reads.answers key state
  have kept := reads.keeps key state
  have read : findValue getValue key state = (.ok (view state key), (getValue key state).2) := by
    rcases returned : getValue key state with ⟨outcome, after⟩
    rw [returned] at answers
    cases stored : view state key with
    | none =>
      rw [stored] at answers
      cases answers
      simp [findValue, Call.attempt, bind_apply, returned, errNotFound, GoError.new, GoError.is]
    | some =>
      rw [stored] at answers
      cases answers
      simp [findValue, Call.attempt, bind_apply, returned]
  have ends := found _ kept
  rw [Call.Ends, bind_of_ok read]
  exact ends

/-- The record that a value encodes; without a value there is none. -/
def recordAt {α : Type} (decode : Bytes → Except GoError (Option α)) :
    Option Bytes → Except GoError (Option α)
  | none => .ok none
  | some value => decode value

theorem Reads.ends_getRecord_bind {α β : Type} {decode : Bytes → Except GoError (Option α)}
    {next : Option α → Call σ β} {state : σ} {Q : Outcome β → σ → Prop}
    (reads : Reads getValue view) (key : Bytes)
    (ok : ∀ record after, recordAt decode (view state key) = .ok record →
      view after = view state → Call.Ends (next record) after Q)
    (err : ∀ error after, recordAt decode (view state key) = .error error →
      Q (.err error) after) :
    Call.Ends (getRecord getValue decode key >>= next) state Q := by
  have read : Call.Ends (getRecord getValue decode key) state fun outcome after =>
      view after = view state ∧
        ((∃ record, recordAt decode (view state key) = .ok record ∧ outcome = .ok record) ∨
          ∃ error, recordAt decode (view state key) = .error error ∧ outcome = .err error) := by
    refine reads.ends_findValue_bind _ fun after same => ?_
    cases view state key with
    | none => exact ⟨same, Or.inl ⟨none, rfl, rfl⟩⟩
    | some value =>
      show Call.Ends (Call.lift (decode value)) after _
      rw [recordAt]
      cases decode value with
      | ok record => exact ⟨same, Or.inl ⟨record, rfl, rfl⟩⟩
      | error error => exact ⟨same, Or.inr ⟨error, rfl, rfl⟩⟩
  refine ends_bind read ?_ ?_ ?_
  · rintro record after ⟨same, ⟨_, decoded, equal⟩ | ⟨_, -, equal⟩⟩
    · cases equal
      exact ok record after decoded same
    · cases equal
  · rintro error after ⟨-, ⟨_, -, equal⟩ | ⟨_, broken, equal⟩⟩
    · cases equal
    · cases equal
      exact err error after broken
  · rintro after ⟨-, ⟨_, -, equal⟩ | ⟨_, -, equal⟩⟩
    · cases equal
    · cases equal

theorem recordAt_error {α : Type} {decode : Bytes → Except GoError (Option α)} {kind : GoError}
    (errors : ∀ value error, decode value = .error error → error = kind) {value : Option Bytes}
    {error : GoError} (h : recordAt decode value = .error error) : error = kind := by
  cases value with
  | none => cases h
  | some value => exact errors value error h

theorem Reads.ends_getInputObject_bind {α : Type} {next : Bytes → Call σ α} {state : σ}
    {Q : Outcome α → σ → Prop} (reads : Reads getValue view)
    (found : ∀ after, view after = view state →
      Call.Ends (next ((view state inputObjectKey).getD [])) after Q) :
    Call.Ends (getInputObject getValue >>= next) state Q := by
  have read : Call.Ends (getInputObject getValue) state fun outcome after =>
      outcome = .ok ((view state inputObjectKey).getD []) ∧ view after = view state :=
    reads.ends_findValue_bind _ fun after same => ⟨rfl, same⟩
  refine ends_bind read ?_ (fun _ _ post => nomatch post.1) (fun _ post => nomatch post.1)
  rintro value after ⟨equal, same⟩
  cases equal
  exact found after same

end Reading

end Storage

end Aristo
