import Aristo.Base.Conflicts
import Aristo.Verifier.Batch

/-!
# Conflicts in a batch and the order of its actions

`analyzeActions` for the actions that create objects and create or update regions.  A list is
accepted exactly when its actions are pairwise compatible in their order
(`accepted_iff_pairwise`).  A creation replaces the mark of an update, but not the other way round,
so a region can be updated and then created only; `accepted_in_every_order_iff` says when the order
does not matter.
-/

namespace Aristo

open GoBase Finmap Call

namespace Verifier

/-- The action creates an object, or creates or updates a region. -/
def BatchAction.Modifies : BatchAction → Prop
  | createObject _ => True
  | sendEvent _ => False
  | setInputObject _ => False
  | createRegion _ => True
  | updateRegion _ => True
  | other _ => False

/-- The second action is not refused because of the first. -/
def Compatible : BatchAction → BatchAction → Prop
  | .createObject a, .createObject b => a.id ≠ b.id
  | .createRegion a, .createRegion b => a.regionID ≠ b.regionID
  | .createRegion a, .updateRegion b => a.regionID ≠ b.regionID
  | .updateRegion a, .updateRegion b => a.regionID ≠ b.regionID
  | _, _ => True

/-- `analyzeActions` accepts the actions, from empty maps. -/
def Accepted (printed : Time → Bytes) (acts : List BatchAction) : Prop :=
  ∃ t, analyzeActions printed acts .empty = (.ok (), t)

/-! ## Marks -/

section Marked

def CreatesObject (acts : List BatchAction) (id : Bytes) : Prop :=
  ∃ a : CreateObjectAction, .createObject a ∈ acts ∧ a.id = id

def CreatesRegion (acts : List BatchAction) (regionID : Bytes) : Prop :=
  ∃ a : CreateRegionAction, .createRegion a ∈ acts ∧ a.regionID = regionID

def UpdatesRegion (acts : List BatchAction) (regionID : Bytes) : Prop :=
  ∃ a : UpdateRegionAction, .updateRegion a ∈ acts ∧ a.regionID = regionID

variable {acts : List BatchAction}

variable {act : BatchAction} {id : Bytes}

theorem createsObject_concat_iff :
    CreatesObject (acts ++ [act]) id ↔
      CreatesObject acts id ∨ ∃ a : CreateObjectAction, .createObject a = act ∧ a.id = id := by
  simp only [CreatesObject, List.mem_append, List.mem_singleton, or_and_right, exists_or]

theorem createsRegion_concat_iff :
    CreatesRegion (acts ++ [act]) id ↔
      CreatesRegion acts id ∨
        ∃ a : CreateRegionAction, .createRegion a = act ∧ a.regionID = id := by
  simp only [CreatesRegion, List.mem_append, List.mem_singleton, or_and_right, exists_or]

theorem updatesRegion_concat_iff :
    UpdatesRegion (acts ++ [act]) id ↔
      UpdatesRegion acts id ∨
        ∃ a : UpdateRegionAction, .updateRegion a = act ∧ a.regionID = id := by
  simp only [UpdatesRegion, List.mem_append, List.mem_singleton, or_and_right, exists_or]

/-- What an action has to be compatible with are the marks. -/
theorem compatible_createObject_iff {a : CreateObjectAction} :
    (∀ earlier ∈ acts, Compatible earlier (.createObject a)) ↔ ¬ CreatesObject acts a.id := by
  constructor
  · rintro compatible ⟨b, mem, same⟩
    exact compatible _ mem same
  · intro fresh earlier mem
    cases earlier with
    | createObject b => exact fun same => fresh ⟨b, mem, same⟩
    | _ => trivial

theorem compatible_createRegion_iff {a : CreateRegionAction} :
    (∀ earlier ∈ acts, Compatible earlier (.createRegion a)) ↔
      ¬ CreatesRegion acts a.regionID := by
  constructor
  · rintro compatible ⟨b, mem, same⟩
    exact compatible _ mem same
  · intro fresh earlier mem
    cases earlier with
    | createRegion b => exact fun same => fresh ⟨b, mem, same⟩
    | _ => trivial

theorem compatible_updateRegion_iff {a : UpdateRegionAction} :
    (∀ earlier ∈ acts, Compatible earlier (.updateRegion a)) ↔
      ¬ (UpdatesRegion acts a.regionID ∨ CreatesRegion acts a.regionID) := by
  constructor
  · rintro compatible (⟨b, mem, same⟩ | ⟨b, mem, same⟩)
    · exact compatible _ mem same
    · exact compatible _ mem same
  · intro fresh earlier mem
    cases earlier with
    | createRegion b => exact fun same => fresh (Or.inr ⟨b, mem, same⟩)
    | updateRegion b => exact fun same => fresh (Or.inl ⟨b, mem, same⟩)
    | _ => trivial

/-- What the marks say about the actions so far. -/
structure Marked (acts : List BatchAction) (t : Tracking) : Prop where
  objects : ∀ id, (t.objectModifications.lookup id).any (·.created) = true ↔ CreatesObject acts id
  created : ∀ id, (t.regionModifications.lookup id).any (·.created) = true ↔ CreatesRegion acts id
  touched : ∀ id, ((t.regionModifications.lookup id).any (·.teeUpdated) = true ∨
      (t.regionModifications.lookup id).any (·.created) = true) ↔
    UpdatesRegion acts id ∨ CreatesRegion acts id

/-- No action, no mark. -/
theorem marked_empty : Marked [] .empty where
  objects id := by simp [Tracking.empty, CreatesObject]
  created id := by simp [Tracking.empty, CreatesRegion]
  touched id := by simp [Tracking.empty, CreatesRegion, UpdatesRegion]

end Marked

section Steps

variable {printed : Time → Bytes} {acts : List BatchAction} {t t' : Tracking}

theorem analyzeAction_createObject_eq_ok {a : CreateObjectAction} :
    analyzeAction printed (.createObject a) t = (.ok (), t') ↔
      ¬ (t.objectModifications.lookup a.id).any (·.created) = true ∧ t' = t.createObject a.id := by
  rw [analyzeAction, bind_of_ok (read_apply t), refuse_bind_eq_ok, modify_eq_ok]

theorem analyzeAction_createRegion_eq_ok {a : CreateRegionAction} :
    analyzeAction printed (.createRegion a) t = (.ok (), t') ↔
      ¬ (t.regionModifications.lookup a.regionID).any (·.created) = true ∧
        t' = t.modifyRegion a.regionID { created := true, teeUpdated := false } := by
  rw [analyzeAction, bind_of_ok (read_apply t), refuse_bind_eq_ok, modify_eq_ok]

theorem analyzeAction_updateRegion_eq_ok {a : UpdateRegionAction} :
    analyzeAction printed (.updateRegion a) t = (.ok (), t') ↔
      ¬ ((t.regionModifications.lookup a.regionID).any (·.teeUpdated) = true ∨
          (t.regionModifications.lookup a.regionID).any (·.created) = true) ∧
        t' = t.modifyRegion a.regionID { created := false, teeUpdated := true } := by
  rw [analyzeAction, bind_of_ok (read_apply t), refuse_bind_eq_ok,
    refuse_bind_eq_ok, modify_eq_ok, not_or, and_assoc]

variable (marked : Marked acts t)

include marked

/-- **One action** is accepted when it is compatible with all before it, -/
theorem Marked.accepts {act : BatchAction} (modifies : act.Modifies) :
    (∃ t', analyzeAction printed act t = (.ok (), t')) ↔
      ∀ earlier ∈ acts, Compatible earlier act := by
  cases act with
  | createObject =>
    simp only [analyzeAction_createObject_eq_ok, compatible_createObject_iff, marked.objects,
      exists_and_left, exists_eq, and_true]
  | createRegion =>
    simp only [analyzeAction_createRegion_eq_ok, compatible_createRegion_iff, marked.created,
      exists_and_left, exists_eq, and_true]
  | updateRegion =>
    simp only [analyzeAction_updateRegion_eq_ok, compatible_updateRegion_iff, marked.touched,
      exists_and_left, exists_eq, and_true]
  | sendEvent | setInputObject | other => exact modifies.elim

theorem Marked.createObject (a : CreateObjectAction) :
    Marked (acts ++ [.createObject a]) (t.createObject a.id) where
  objects id := by
    rw [createsObject_concat_iff, ← marked.objects]
    by_cases same : id = a.id
    · subst same
      rw [Tracking.createObject, lookup_insert]
      exact iff_of_true rfl (Or.inr ⟨a, rfl, rfl⟩)
    · rw [Tracking.createObject, lookup_insert_of_ne _ same]
      exact (or_iff_left (by simp [Ne.symm same])).symm
  created id := by
    rw [createsRegion_concat_iff, or_iff_left (by simp)]
    exact marked.created id
  touched id := by
    rw [createsRegion_concat_iff, updatesRegion_concat_iff]
    simp only [reduceCtorEq, false_and, exists_false, or_false]
    exact marked.touched id

theorem Marked.createRegion (a : CreateRegionAction) :
    Marked (acts ++ [.createRegion a])
      (t.modifyRegion a.regionID { created := true, teeUpdated := false }) where
  objects id := by
    rw [createsObject_concat_iff, or_iff_left (by simp)]
    exact marked.objects id
  created id := by
    rw [createsRegion_concat_iff, Tracking.modifyRegion]
    by_cases same : id = a.regionID
    · subst same
      rw [lookup_insert]
      exact iff_of_true rfl (Or.inr ⟨a, rfl, rfl⟩)
    · rw [lookup_insert_of_ne _ same, marked.created, or_iff_left (by simp [Ne.symm same])]
  touched id := by
    rw [createsRegion_concat_iff, updatesRegion_concat_iff, Tracking.modifyRegion]
    by_cases same : id = a.regionID
    · subst same
      rw [lookup_insert]
      exact iff_of_true (Or.inr rfl) (Or.inr (Or.inr ⟨a, rfl, rfl⟩))
    · rw [lookup_insert_of_ne _ same, marked.touched]
      simp [Ne.symm same]

theorem Marked.updateRegion (a : UpdateRegionAction)
    (fresh : ¬ CreatesRegion acts a.regionID) :
    Marked (acts ++ [.updateRegion a])
      (t.modifyRegion a.regionID { created := false, teeUpdated := true }) where
  objects id := by
    rw [createsObject_concat_iff, or_iff_left (by simp)]
    exact marked.objects id
  created id := by
    rw [createsRegion_concat_iff, or_iff_left (by simp), Tracking.modifyRegion]
    by_cases same : id = a.regionID
    · subst same
      rw [lookup_insert]
      exact iff_of_false (by simp) fresh
    · rw [lookup_insert_of_ne _ same, marked.created]
  touched id := by
    rw [createsRegion_concat_iff, updatesRegion_concat_iff, Tracking.modifyRegion]
    by_cases same : id = a.regionID
    · subst same
      rw [lookup_insert]
      exact iff_of_true (Or.inl rfl) (Or.inl (Or.inr ⟨a, rfl, rfl⟩))
    · rw [lookup_insert_of_ne _ same, marked.touched]
      simp [Ne.symm same]

/-- and leaves its mark. -/
theorem Marked.learns {act : BatchAction} (modifies : act.Modifies)
    (taken : analyzeAction printed act t = (.ok (), t')) : Marked (acts ++ [act]) t' := by
  cases act with
  | createObject a =>
    obtain ⟨-, rfl⟩ := analyzeAction_createObject_eq_ok.mp taken
    exact marked.createObject a
  | createRegion a =>
    obtain ⟨-, rfl⟩ := analyzeAction_createRegion_eq_ok.mp taken
    exact marked.createRegion a
  | updateRegion a =>
    obtain ⟨fresh, rfl⟩ := analyzeAction_updateRegion_eq_ok.mp taken
    refine marked.updateRegion a fun created => fresh (Or.inr ?_)
    exact (marked.created _).mpr created
  | sendEvent | setInputObject | other => exact modifies.elim

end Steps

/-! ## Lists -/

section Lists

variable {printed : Time → Bytes} {acts : List BatchAction}

/-- **A list is accepted when its actions are pairwise compatible.** -/
theorem accepted_iff_pairwise (modify : ∀ act ∈ acts, act.Modifies) :
    Accepted printed acts ↔ acts.Pairwise Compatible := by
  have loop : Accepted printed acts ↔
      acts.Pairwise Compatible ∧ ∀ earlier ∈ [], ∀ act ∈ acts, Compatible earlier act :=
    forM_accepts_iff (analyzeAction printed) Compatible BatchAction.Modifies Marked
      (fun _ _ _ marked modifies => marked.accepts modifies)
      (fun _ _ _ _ marked modifies taken => marked.learns modifies taken) marked_empty modify
  exact loop.trans (and_iff_left fun earlier mem => by cases mem)

/-- A pair that is compatible in one order and not in the other updates and creates a region. -/
theorem compatible_symm {first second : BatchAction} (compatible : Compatible first second)
    (apart : ∀ u c, first = .updateRegion u → second = .createRegion c →
      u.regionID ≠ c.regionID) :
    Compatible second first := by
  cases first <;> cases second <;> simp_all [Compatible, eq_comm]

/-- No region is both created and updated. -/
def Apart (acts : List BatchAction) : Prop :=
  ∀ regionID, ¬ (CreatesRegion acts regionID ∧ UpdatesRegion acts regionID)

/-- In every order it is when they are so both ways, -/
theorem accepted_every_order_iff_pairwise (modify : ∀ act ∈ acts, act.Modifies) :
    (∀ other : List BatchAction, other.Perm acts → Accepted printed other) ↔
      acts.Pairwise fun first second => Compatible first second ∧ Compatible second first := by
  rw [← forall_perm_pairwise_iff]
  refine forall_congr' fun other => forall_congr' fun perm => ?_
  exact accepted_iff_pairwise fun act mem => modify act (perm.mem_iff.mp mem)

/-- that is, when no region is both created and updated. -/
theorem pairwise_both_iff (pairwise : acts.Pairwise Compatible) :
    (acts.Pairwise fun first second => Compatible first second ∧ Compatible second first) ↔
      Apart acts := by
  constructor
  · rintro both regionID ⟨⟨c, created, rfl⟩, ⟨u, updated, same⟩⟩
    have : Std.Symm fun first second : BatchAction =>
        Compatible first second ∧ Compatible second first := ⟨fun _ _ => And.symm⟩
    have different : BatchAction.createRegion c ≠ .updateRegion u := by simp
    exact (both.forall created updated different).1 same.symm
  · intro apart
    refine pairwise.imp_of_mem fun first second compatible =>
      ⟨compatible, compatible_symm compatible ?_⟩
    rintro u c rfl rfl same
    exact apart c.regionID ⟨⟨c, second, rfl⟩, ⟨u, first, same⟩⟩

/-- **The order of a batch** does not matter for its conflicts exactly when it has one as it
stands, or no region is both created and updated. -/
theorem accepted_in_every_order_iff (printed : Time → Bytes) (acts : List BatchAction)
    (modify : ∀ act ∈ acts, act.Modifies) :
    (Accepted printed acts ↔ ∀ other : List BatchAction, other.Perm acts →
        Accepted printed other) ↔
      ¬ acts.Pairwise Compatible ∨ Apart acts := by
  rw [accepted_iff_pairwise modify, accepted_every_order_iff_pairwise modify]
  by_cases pairwise : acts.Pairwise Compatible
  · rw [pairwise_both_iff pairwise, iff_true_left pairwise, or_iff_right (not_not.mpr pairwise)]
  · refine iff_of_true (iff_of_false pairwise fun both => ?_) (Or.inl pairwise)
    exact pairwise (both.imp And.left)

end Lists

def createR : BatchAction :=
  .createRegion ⟨ascii "r", [], (attestationO, attestationO)⟩

def updateR : BatchAction :=
  .updateRegion ⟨ascii "r", [], [], (attestationO, attestationO)⟩

/-- An update and a creation of a region are accepted in this order, and not in the other. -/
theorem accepted_update_create :
    Accepted Time.formatRFC3339Nano [updateR, createR] ∧
      [createR, updateR].Perm [updateR, createR] ∧
        ¬ Accepted Time.formatRFC3339Nano [createR, updateR] := by
  refine ⟨?_, List.Perm.swap _ _ _, ?_⟩
  all_goals
    rw [accepted_iff_pairwise (by simp [updateR, createR, BatchAction.Modifies])]
    simp [updateR, createR, Compatible]

def updateS : BatchAction :=
  .updateRegion ⟨ascii "s", [], [], (attestationO, attestationO)⟩

/-- For the creation of one region and the update of another the order does not matter. -/
theorem accepted_in_every_order_create_update :
    Accepted Time.formatRFC3339Nano [createR, updateS] ↔
      ∀ other : List BatchAction, other.Perm [createR, updateS] →
        Accepted Time.formatRFC3339Nano other := by
  refine (accepted_in_every_order_iff Time.formatRFC3339Nano [createR, updateS] ?_).mpr
    (Or.inr ?_)
  · simp [createR, updateS, BatchAction.Modifies]
  · rintro regionID ⟨⟨c, created, rfl⟩, u, updated, same⟩
    simp only [createR, updateS, List.mem_cons, BatchAction.createRegion.injEq, reduceCtorEq,
      BatchAction.updateRegion.injEq, List.not_mem_nil, or_false, false_or] at created updated
    subst created updated
    exact absurd same (by decide)

end Verifier

end Aristo
