import Aristo.XRegion.Intent

/-!
# What `ValidateStateChanges` guarantees

`verdict_order_independent_iff`: a transfer in that relies on a transfer out of another region is
rejected when its own region happens to be visited first.

`transfersConsistent_iff`: the pass compares a transfer in with the target of the last transfer out
of its key only.  It ignores the source that a transfer in names, overwrites an earlier transfer out
and never asks whether one was received; these are the only omissions.
-/

namespace Aristo

open GoBase List

namespace XRegion

namespace CrossRegionIntent

variable {intent : CrossRegionIntent} {order other : List Bytes}

/-! ## The verdict and the order of the regions -/

/-- All orders accept the intent or all orders reject it. -/
def VerdictOrderIndependent (intent : CrossRegionIntent) : Prop :=
  ∀ order other, intent.stateChanges.Visits order → intent.stateChanges.Visits other →
    (intent.Accepts order ↔ intent.Accepts other)

/-- Every transfer in is preceded in its own region's list by a transfer out of
its key. -/
def SelfServed (intent : CrossRegionIntent) : Prop :=
  ∀ region before change after,
    intent.stateChanges.get region = before ++ change :: after →
      change.operation = .transferIn →
        ∃ earlier ∈ before, earlier.operation = .transferOut ∧ earlier.key = change.key

/-- The regions can be lined up so that the last transfer out of its key before
each transfer in targets the region of the transfer in. -/
def Servable (intent : CrossRegionIntent) : Prop :=
  ∃ order, intent.stateChanges.Visits order ∧ intent.AllServed order

/-- Every transfer in is served by the changes of its own region before it. -/
def ServedWithin (intent : CrossRegionIntent) : Prop :=
  ∀ region ∈ intent.stateChanges, ∀ before placed after,
    intent.placedIn region = before ++ placed :: after → Served before placed

/-- When every transfer in has a transfer out of its key in its own region, the
other regions do not matter. -/
theorem SelfServed.allServed_iff (self : intent.SelfServed)
    (visits : intent.stateChanges.Visits order) :
    intent.AllServed order ↔ intent.ServedWithin := by
  have hidden : ∀ region before placed after (seen : List Placed),
      intent.placedIn region = before ++ placed :: after →
        (Served (seen ++ before) placed ↔ Served before placed) := by
    intro region before placed after seen split
    refine forall_congr' fun inward => ?_
    rw [lastOut_append_of_mem]
    -- pull the split of the placed changes back to the region's own list
    obtain ⟨front, rest, list, rfl, htail⟩ := map_eq_append_iff.mp split
    obtain ⟨change, back, rfl, rfl, -⟩ := map_eq_cons_iff.mp htail
    obtain ⟨earlier, mem, out, same⟩ := self region front change back list inward
    exact ⟨(region, earlier), mem_map_of_mem mem, out, same⟩
  constructor
  · intro served region mem before placed after split
    obtain ⟨earlier, later, rfl⟩ := append_of_mem ((visits.mem_iff region).mpr mem)
    exact (hidden region before placed after _ split).mp
      (served _ placed _ (append_cons_eq_flatMap split))
  · intro within before placed after split
    obtain ⟨earlier, region, later, front, back, rfl, hregion, rfl⟩ :=
      flatMap_eq_append_cons split
    have mem : region ∈ intent.stateChanges := (visits.mem_iff region).mp (by simp)
    exact (hidden region front placed back _ hregion).mpr
      (within region mem front placed back hregion)

theorem selfServed_of_all_accept
    (all : ∀ order, intent.stateChanges.Visits order → intent.Accepts order) :
    intent.SelfServed := by
  intro region before change after list inward
  have mem : region ∈ intent.stateChanges := by
    have inList : change ∈ intent.stateChanges.get region := by simp [list]
    exact GoMap.mem_of_mem_get inList
  obtain ⟨order, visits⟩ := GoMap.exists_visits intent.stateChanges
  have first := visits.first mem
  obtain ⟨-, served⟩ := (accepts_iff first).mp (all _ first)
  have visited : intent.visited (region :: order.erase region) =
      before.map (fun change => (region, change)) ++ (region, change) ::
        (after.map (fun change => (region, change)) ++ intent.visited (order.erase region)) := by
    simp [CrossRegionIntent.visited, placedIn, list]
  have found := served _ _ _ visited inward
  obtain ⟨placed, hplaced, out, same, -⟩ := exists_of_lastOut found
  obtain ⟨earlier, hearlier, rfl⟩ := mem_map.mp hplaced
  exact ⟨earlier, hearlier, out, same⟩

/-- **When the verdict is independent of the order.** All orders agree exactly when every transfer
in comes after a transfer out of its key in its own region's list, or the intent is unacceptable in
itself: a transfer does not name its other region, or no line-up of the regions serves every
transfer in. -/
theorem verdict_order_independent_iff (intent : CrossRegionIntent) :
    intent.VerdictOrderIndependent ↔
      intent.SelfServed ∨ ¬ (intent.AllNamed ∧ intent.Servable) := by
  constructor
  · intro independent
    by_cases acceptable : intent.AllNamed ∧ intent.Servable
    · left
      obtain ⟨named, order, visits, served⟩ := acceptable
      have accepted : intent.Accepts order := (accepts_iff visits).mpr ⟨named, served⟩
      exact selfServed_of_all_accept fun other visits' =>
        (independent order other visits visits').mp accepted
    · exact Or.inr acceptable
  · rintro (self | unacceptable) order other visits visits'
    · rw [accepts_iff visits, accepts_iff visits', self.allServed_iff visits,
        self.allServed_iff visits']
    · have rejected : ∀ order, intent.stateChanges.Visits order → ¬ intent.Accepts order := by
        intro order visits accepted
        obtain ⟨named, served⟩ := (accepts_iff visits).mp accepted
        exact unacceptable ⟨named, order, visits, served⟩
      exact iff_of_false (rejected order visits) (rejected other visits')

/-- An intent of region `A` towards region `B` with the given changes, signed by
both regions. -/
def betweenAB (changes : List (Bytes × List StateChange)) : CrossRegionIntent where
  id := ascii "intent"
  sourceRegion := ascii "A"
  targetRegions := [ascii "B"]
  timeWindow := { start := Time.unixUTC 0, duration := 1 }
  signatures := GoMap.ofEntries [(ascii "A", [1]), (ascii "B", [1])]
  stateChanges := GoMap.ofEntries changes

def objectChange (operation : StateOperation) : StateChange where
  key := ascii "object-1"
  value := ascii "data"
  operation := operation
  source := ascii "A"
  target := ascii "B"

def oneChange (operation : StateOperation) : CrossRegionIntent :=
  betweenAB [(ascii "A", [objectChange operation])]

def twoChanges (first second : StateOperation) : CrossRegionIntent :=
  betweenAB [(ascii "A", [objectChange first]), (ascii "B", [objectChange second])]

/-- The transfer of the object from `A` to `B`. -/
def oneTransfer : CrossRegionIntent :=
  twoChanges .transferOut .transferIn

/-- The plainest transfer is accepted when its source is visited first and rejected
when its target is. -/
theorem verdict_of_oneTransfer_depends_on_order :
    ¬ oneTransfer.VerdictOrderIndependent := by
  intro independent
  have distinct : ([ascii "A", ascii "B"] : List Bytes).Nodup := by decide
  have same := independent [ascii "A", ascii "B"] [ascii "B", ascii "A"]
    (GoMap.visits_ofEntries distinct (List.Perm.refl _))
    (GoMap.visits_ofEntries distinct (List.Perm.swap _ _ _))
  exact absurd same (by decide)

/-! ## Consistency of accepted transfers -/

/-- The keys that a pass sees transferred out, in order. -/
def outKeys (intent : CrossRegionIntent) (order : List Bytes) : List Bytes :=
  ((intent.visited order).filter fun placed => placed.2.operation = .transferOut).map
    fun placed => placed.2.key

/-- No key is transferred out more than once. -/
def OutOnce (intent : CrossRegionIntent) : Prop :=
  ∀ order, intent.stateChanges.Visits order → (intent.outKeys order).Nodup

/-- The transfers of an intent are consistent: every transfer in is matched by a
transfer out of its source to its region, every transfer out is matched by a
transfer in at its target, and no key is transferred out twice. -/
structure TransfersConsistent (intent : CrossRegionIntent) : Prop where
  in_matched : ∀ region, ∀ change ∈ intent.stateChanges.get region,
    change.operation = .transferIn →
      ∃ out ∈ intent.stateChanges.get change.source,
        out.operation = .transferOut ∧ out.key = change.key ∧ out.target = region
  out_matched : ∀ region, ∀ change ∈ intent.stateChanges.get region,
    change.operation = .transferOut →
      ∃ inward ∈ intent.stateChanges.get change.target,
        inward.operation = .transferIn ∧ inward.key = change.key
  out_once : intent.OutOnce

/-- Every key that is transferred out is transferred in somewhere. -/
def OutsReceived (intent : CrossRegionIntent) : Prop :=
  ∀ region, ∀ change ∈ intent.stateChanges.get region, change.operation = .transferOut →
    ∃ receiver, ∃ inward ∈ intent.stateChanges.get receiver,
      inward.operation = .transferIn ∧ inward.key = change.key

/-- The region that a transfer in names as its source transfers the key out. -/
def SourcesSend (intent : CrossRegionIntent) : Prop :=
  ∀ region, ∀ change ∈ intent.stateChanges.get region, change.operation = .transferIn →
    ∃ out ∈ intent.stateChanges.get change.source,
      out.operation = .transferOut ∧ out.key = change.key

theorem OutOnce.unique (once : intent.OutOnce) {first second : Placed}
    (hfirst : first.2 ∈ intent.stateChanges.get first.1)
    (hsecond : second.2 ∈ intent.stateChanges.get second.1)
    (out : first.2.operation = .transferOut) (out' : second.2.operation = .transferOut)
    (same : first.2.key = second.2.key) : first = second := by
  obtain ⟨order, visits⟩ := GoMap.exists_visits intent.stateChanges
  have among : ∀ placed : Placed, placed.2 ∈ intent.stateChanges.get placed.1 →
      placed.2.operation = .transferOut →
        placed ∈ (intent.visited order).filter
          fun placed => placed.2.operation = .transferOut := by
    intro placed mem out
    exact mem_filter.mpr ⟨(mem_visited visits).mpr mem, by simpa using out⟩
  exact inj_on_of_nodup_map (once order visits) (among first hfirst out)
    (among second hsecond out') same

theorem exists_out_of_accepts (visits : intent.stateChanges.Visits order)
    (accepted : intent.Accepts order) {region : Bytes} {change : StateChange}
    (mem : change ∈ intent.stateChanges.get region)
    (inward : change.operation = .transferIn) :
    ∃ sender, ∃ out ∈ intent.stateChanges.get sender,
      out.operation = .transferOut ∧ out.key = change.key ∧ out.target = region := by
  obtain ⟨-, served⟩ := (accepts_iff visits).mp accepted
  obtain ⟨before, after, split⟩ := append_of_mem ((mem_visited visits).mpr mem)
  obtain ⟨placed, hplaced, out, same, target⟩ :=
    exists_of_lastOut (served before (region, change) after split inward)
  refine ⟨placed.1, placed.2, (mem_visited visits).mp ?_, out, same, target⟩
  rw [split]
  exact mem_append_left _ hplaced

/-- **What validation leaves out.**  The transfers of an accepted intent are
consistent exactly when no key is transferred out twice, every key transferred out
is transferred in somewhere, and every transfer in names a source that transfers
its key out. -/
theorem transfersConsistent_iff (intent : CrossRegionIntent) (order : List Bytes)
    (visits : intent.stateChanges.Visits order) (accepted : intent.Accepts order) :
    intent.TransfersConsistent ↔
      intent.OutOnce ∧ intent.OutsReceived ∧ intent.SourcesSend := by
  constructor
  · intro consistent
    refine ⟨consistent.out_once, fun region change mem out => ?_,
      fun region change mem inward => ?_⟩
    · exact ⟨change.target, consistent.out_matched region change mem out⟩
    · obtain ⟨sent, hsent, out, same, -⟩ := consistent.in_matched region change mem inward
      exact ⟨sent, hsent, out, same⟩
  · rintro ⟨once, received, sources⟩
    refine ⟨fun region change mem inward => ?_, fun region change mem out => ?_, once⟩
    · -- the transfer out at the named source is the one the pass compared with
      obtain ⟨sent, hsent, out, same⟩ := sources region change mem inward
      obtain ⟨sender, served, hserved, out', same', target⟩ :=
        exists_out_of_accepts visits accepted mem inward
      have equal : (change.source, sent) = (sender, served) :=
        once.unique hsent hserved out out' (same.trans same'.symm)
      obtain ⟨-, rfl⟩ := Prod.mk.inj equal
      exact ⟨sent, hsent, out, same, target⟩
    · -- whoever receives the key was compared with this very transfer out
      obtain ⟨receiver, inward, hinward, isIn, same⟩ := received region change mem out
      obtain ⟨sender, served, hserved, out', same', target⟩ :=
        exists_out_of_accepts visits accepted hinward isIn
      have equal : (region, change) = (sender, served) :=
        once.unique mem hserved out out' (same'.trans same).symm
      obtain ⟨-, rfl⟩ := Prod.mk.inj equal
      rw [target]
      exact ⟨inward, hinward, isIn, same⟩

/-- The transfer of the object from `A` to `B` is accepted and consistent. -/
theorem transfersConsistent_iff_oneTransfer :
    oneTransfer.Accepts [ascii "A", ascii "B"] ∧
      (oneTransfer.TransfersConsistent ↔
        oneTransfer.OutOnce ∧ oneTransfer.OutsReceived ∧ oneTransfer.SourcesSend) :=
  ⟨by decide,
    transfersConsistent_iff oneTransfer [ascii "A", ascii "B"]
      (GoMap.visits_ofEntries (by decide) (List.Perm.refl _)) (by decide)⟩

/-- Validation accepts a transfer out that nobody receives. -/
theorem accepted_transferOut_inconsistent :
    ((oneChange .transferOut).stateChanges.Visits [ascii "A"] ∧
        (oneChange .transferOut).Accepts [ascii "A"]) ∧
      ¬ (oneChange .transferOut).TransfersConsistent := by
  refine ⟨⟨GoMap.visits_ofEntries (by decide) (List.Perm.refl _), by decide⟩, ?_⟩
  intro consistent
  obtain ⟨inward, mem, -⟩ := consistent.out_matched (ascii "A") (objectChange .transferOut)
    (by decide) rfl
  have empty : (oneChange .transferOut).stateChanges.get (ascii "B") = [] := by decide
  rw [show (objectChange .transferOut).target = ascii "B" from rfl, empty] at mem
  exact not_mem_nil mem

end CrossRegionIntent

end XRegion

end Aristo
