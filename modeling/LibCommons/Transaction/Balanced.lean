import LibCommons.Scaled
import LibCommons.Transaction.Settle

namespace LibCommons.Transaction

open Decimal Checked ListFacts List Option LawfulDecimal

variable {D : Type} [Decimal D]

structure PlanOf (input : TransactionIntentInput D) (status : TransactionStatus) (plan : IntentPlan D) : Prop where
  bounded : Safe.InBounds input.total
  positive : isPositive input.total = true
  asset : plan.asset = input.asset
  total : plan.total = input.total
  pending : plan.pending = input.pending
  sources : ∃ operation, resolveOperation input.pending true status = .ok operation ∧
    Built input.asset input.total operation status input.sources plan.sources
  destinations : ∃ operation, resolveOperation input.pending false status = .ok operation ∧
    Built input.asset input.total operation status input.destinations plan.destinations
  sourceSum : equal (sumPostings plan.sources) input.total = true
  destinationSum : equal (sumPostings plan.destinations) input.total = true
  disjoint : ∀ source ∈ plan.sources, ∀ destination ∈ plan.destinations, source.target.balanceID ≠ destination.target.balanceID

theorem build_postings_resolves {asset : String} {total : D} {pending : Bool} {status : TransactionStatus}
    {allocations : List (Allocation D)} {isSource : Bool} {postings : List (Posting D)}
    (nonempty : allocations.length ≠ 0)
    (built : buildPostings asset total pending status allocations isSource = .ok postings) :
    ∃ operation, resolveOperation pending isSource status = .ok operation := by
  cases allocations with
  | nil => simp at nonempty
  | cons =>
    simp only [buildPostings, foldlM_cons, bind_ok_iff] at built
    obtain ⟨_, ⟨_, stepped, _⟩, _⟩ := built
    obtain ⟨_, operation, resolved, _⟩ := build_step_ok _ _ _ _ _ _ _ _ stepped
    exact ⟨operation, resolved⟩

theorem build_intent_plan_ok (input : TransactionIntentInput D) (status : TransactionStatus) (plan : IntentPlan D)
    (built : buildIntentPlan input status = .ok plan) : PlanOf input status plan := by
  simp only [buildIntentPlan, bind_ok_iff, pure_ok_iff, refuse_ok_iff] at built
  obtain ⟨_, _, _, bounded, _, positive, _, someSource, _, someDestination, sources, sourcesBuilt, destinations,
    destinationsBuilt, _, sums, _, disjoint, rfl⟩ := built
  obtain ⟨sourceOperation, sourceResolved⟩ := build_postings_resolves someSource sourcesBuilt
  obtain ⟨destinationOperation, destinationResolved⟩ := build_postings_resolves someDestination destinationsBuilt
  simp only [Bool.or_eq_true, Bool.not_eq_true', not_or, Bool.not_eq_false] at sums
  refine
    { bounded := (check_bounds_ok_iff _ _).mp bounded
      positive := by simpa using positive
      asset := rfl
      total := rfl
      pending := rfl
      sources := ⟨sourceOperation, sourceResolved, build_postings_ok sourceResolved sourcesBuilt⟩
      destinations := ⟨destinationOperation, destinationResolved, build_postings_ok destinationResolved destinationsBuilt⟩
      sourceSum := sums.1
      destinationSum := sums.2
      disjoint := ?_ }
  intro source fromSources destination fromDestinations same
  simp only [List.any_eq_true, contains_iff_mem, List.mem_map, not_exists, not_and] at disjoint
  exact disjoint destination fromDestinations source fromSources same

section

variable [LawfulDecimal D]

theorem val_one_hundred : val (oneHundred : D) = 100 := by simp [oneHundred]

theorem val_share_amount (total share : D) : val (shareAmount total share) = val total * roundPlaces divisionPrecision (val share / 100) := by
  rw [shareAmount, val_mul, val_div _ _ (by simp [val_one_hundred]), val_one_hundred]

theorem val_sum_postings (postings : List (Posting D)) : val (sumPostings postings) = (postings.map fun posting => val posting.amount).sum := by
  rw [sumPostings, val_foldl_add, val_zero, zero_add, List.map_map]
  rfl

theorem built_amount_positive (asset) (total : D) (operation status allocations postings)
    (built : Built asset total operation status allocations postings) (posting)
    (member : posting ∈ postings) : 0 < val posting.amount := by
  rw [built.settled] at member
  obtain ⟨allocation, allocated, rfl⟩ := List.mem_map.mp member
  have accepted := built.accepted allocation allocated
  cases draft : draftAmount total allocation with
  | none => simpa only [settledPosting, draft, getD_none] using
      (is_positive_iff _).mp (built.positive allocation allocated draft)
  | some =>
    simp only [settledPosting, draft, getD_some]
    cases amountEq : allocation.amount with
    | some fixed =>
      simp only [draftAmount, amountEq, some.injEq] at draft
      subst draft
      exact (is_positive_iff _).mp (accepted.amount fixed amountEq).2.2
    | none =>
      cases shareEq : allocation.share with
      | none => simp [draftAmount, amountEq, shareEq] at draft
      | some share =>
        simp only [draftAmount, amountEq, shareEq, map_some, some.injEq] at draft
        subst draft
        exact (is_positive_iff _).mp (accepted.share share shareEq).2.2.2.2

structure SideFaithful (input : TransactionIntentInput D) (status : TransactionStatus) (isSource : Bool)
    (allocations : List (Allocation D)) (postings : List (Posting D)) : Prop where
  perAllocation : List.Forall₂ (fun allocation posting =>
    posting.target = allocation.target ∧ posting.route = allocation.route ∧ posting.asset = input.asset ∧
      posting.status = status ∧ resolveOperation input.pending isSource status = .ok posting.operation)
    allocations postings
  positive : ∀ posting ∈ postings, 0 < val posting.amount
  total : (postings.map fun posting => val posting.amount).sum = val input.total
  fixed : ∀ (index : Nat) (allocation : Allocation D) (posting : Posting D) (amount : D),
    allocations[index]? = some allocation → postings[index]? = some posting → allocation.amount = some amount →
    posting.amount = amount
  share : ∀ (index : Nat) (allocation : Allocation D) (posting : Posting D) (share : D),
    allocations[index]? = some allocation → postings[index]? = some posting → allocation.share = some share →
    val posting.amount = val input.total * roundPlaces 16 (val share / 100)
  remainder : ∀ (index : Nat) (allocation : Allocation D) (posting : Posting D),
    allocations[index]? = some allocation → postings[index]? = some posting → allocation.remainder = true →
    val posting.amount = val input.total - ((postings.eraseIdx index).map fun other => val other.amount).sum
  oneRemainder : ∀ front allocation back, allocations = front ++ allocation :: back → allocation.remainder = true →
    ∀ other ∈ front ++ back, other.remainder = false

theorem built_side_faithful {input : TransactionIntentInput D} {status : TransactionStatus} {isSource : Bool}
    {allocations : List (Allocation D)} {postings : List (Posting D)} {operation : Operation}
    (resolved : resolveOperation input.pending isSource status = .ok operation)
    (built : Built input.asset input.total operation status allocations postings)
    (summed : equal (sumPostings postings) input.total = true) :
    SideFaithful input status isSource allocations postings := by
  have whole : (postings.map fun posting => val posting.amount).sum = val input.total := by
    rw [← val_sum_postings]
    exact (equal_iff _ _).mp summed
  have slot : ∀ (index : Nat) (allocation : Allocation D) (posting : Posting D),
      allocations[index]? = some allocation → postings[index]? = some posting →
      allocation ∈ allocations ∧ posting = settledPosting input.asset input.total
        (sub input.total (allocatedAmount input.total allocations)) operation status allocation := by
    intro index allocation posting here there
    rw [built.settled, getElem?_map, here, map_some, some.injEq] at there
    exact ⟨mem_of_getElem? here, there.symm⟩
  refine ⟨?_, built_amount_positive _ _ _ _ _ _ built, whole, ?_, ?_, ?_, ?_⟩
  · rw [built.settled, forall₂_map_right_iff, forall₂_same]
    intro allocation _
    exact ⟨rfl, rfl, rfl, rfl, resolved⟩
  · intro index allocation posting _ here there amountEq
    obtain ⟨_, rfl⟩ := slot index allocation posting here there
    simp [settledPosting, draftAmount, amountEq]
  · intro index allocation posting share here there shareEq
    obtain ⟨member, rfl⟩ := slot index allocation posting here there
    have amountEq := ((built.accepted allocation member).share share shareEq).1
    simp only [settledPosting, draftAmount, amountEq, shareEq, map_some, getD_some]
    exact val_share_amount input.total share
  · intro index allocation posting _ there _
    have split := sum_erase_idx (postings.map fun other => val other.amount) index (val posting.amount) (by rw [getElem?_map, there, map_some])
    rw [whole, eraseIdx_map] at split
    linarith
  · intro front allocation back split rest other member
    have accepted := built.accepted
    have late : draftAmount input.total allocation = none := by
      have known := (accepted allocation (by simp [split])).remainder
      simpa [rest] using known
    have filled := built.single front allocation back split late other member
    have fromList : other ∈ allocations := by
      rw [split]
      rcases mem_append.mp member with before | after
      · simp [before]
      · simp [after]
    rw [(accepted other fromList).remainder, ← not_isSome, filled]
    rfl

theorem build_intent_plan_balanced (input : TransactionIntentInput D) (status : TransactionStatus)
    (plan : IntentPlan D) (built : buildIntentPlan input status = .ok plan) :
    SideFaithful input status true input.sources plan.sources ∧
      SideFaithful input status false input.destinations plan.destinations ∧
      (∀ source ∈ plan.sources, ∀ destination ∈ plan.destinations,
        source.target.balanceID ≠ destination.target.balanceID) ∧
      plan.asset = input.asset ∧ plan.total = input.total ∧ plan.pending = input.pending := by
  have made := build_intent_plan_ok input status plan built
  obtain ⟨_, sourceResolved, sources⟩ := made.sources
  obtain ⟨_, destinationResolved, destinations⟩ := made.destinations
  exact ⟨built_side_faithful sourceResolved sources made.sourceSum, built_side_faithful destinationResolved destinations
      made.destinationSum,
    made.disjoint, made.asset, made.total, made.pending⟩

end

def sampleInput (pending : Bool) : TransactionIntentInput Scaled where
  asset := "USD"
  total := ⟨100, 0⟩
  pending := pending
  sources := [⟨⟨"acc-a", "bal-a"⟩, some ⟨305, -1⟩, none, false, "route-a"⟩, ⟨⟨"acc-a", "bal-a"⟩, none, some ⟨20, 0⟩, false, ""⟩,
    ⟨⟨"acc-b", "bal-b"⟩, none, none, true, ""⟩]
  destinations := [⟨⟨"acc-c", "bal-c"⟩, none, none, true, "route-c"⟩]

theorem sample_plan_balanced : ∃ plan, buildIntentPlan (sampleInput true) .pending = .ok plan ∧
    SideFaithful (sampleInput true) .pending true (sampleInput true).sources plan.sources ∧
    SideFaithful (sampleInput true) .pending false (sampleInput true).destinations plan.destinations := by
  refine ⟨_, rfl, ?_⟩
  have balanced := build_intent_plan_balanced (sampleInput true) .pending _ rfl
  exact ⟨balanced.1, balanced.2.1⟩

end LibCommons.Transaction
