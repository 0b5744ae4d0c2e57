import LibCommons.Transaction.Balanced
import LibCommons.Transaction.Ledger

namespace LibCommons.Transaction

open Decimal List LawfulDecimal Cells

variable {D : Type} [Decimal D]

def planPostings (plan : IntentPlan D) : List (Posting D) := plan.sources ++ plan.destinations

def touchedIDs (plan : IntentPlan D) : Finset String := ((planPostings plan).map targetID).toFinset

def totalHoldings (ids : Finset String) (balances : Balances D) : ℚ := ∑ id ∈ ids, (balances id).elim 0 holdings

variable {asset : String} {total : D} {status : TransactionStatus} {allocations : List (Allocation D)}

theorem built_targets {operation} {postings} (built : Built asset total operation status allocations postings) :
    postings.map targetID = allocations.map fun allocation => allocation.target.balanceID := by
  rw [built.settled, List.map_map]
  rfl

variable {input : TransactionIntentInput D}

theorem plan_targets {plan} (made : PlanOf input status plan) : (planPostings plan).map targetID =
      (input.sources ++ input.destinations).map fun allocation => allocation.target.balanceID := by
  obtain ⟨_, _, sources⟩ := made.sources
  obtain ⟨_, _, destinations⟩ := made.destinations
  rw [planPostings, map_append, map_append, built_targets sources, built_targets destinations]

variable {first second : TransactionStatus}

theorem touched_same {one other} (oneMade : PlanOf input first one) (otherMade : PlanOf input second other) : touchedIDs one = touchedIDs other := by
  rw [touchedIDs, touchedIDs, plan_targets oneMade, plan_targets otherMade]

theorem sides_opposite {forth back} {one other}
    (oneBuilt : Built asset total forth first allocations one) (otherBuilt : Built asset total back second allocations other)
    {there returned} (thereNamed : effect forth first = some there) (returnNamed : effect back second = some returned)
    (inverse : there + returned = 0) (id) :
    ((own targetID id one).map delta).sum + ((own targetID id other).map delta).sum = 0 := by
  rw [oneBuilt.settled, otherBuilt.settled]
  apply own_sums_cancel
  · intro allocation
    rfl
  intro _ _
  obtain ⟨available, onHold⟩ := Prod.ext_iff.mp inverse
  have availableCast : (there.1 : ℚ) + returned.1 = 0 := by exact_mod_cast available
  have onHoldCast : (there.2 : ℚ) + returned.2 = 0 := by exact_mod_cast onHold
  simp [delta, settledPosting, thereNamed, returnNamed, ← add_mul, availableCast, onHoldCast]

theorem plans_opposite (isPending : input.pending = true) {held canceled} (heldMade : PlanOf input .pending held)
    (canceledMade : PlanOf input .canceled canceled) (id) :
    ((own targetID id (planPostings held)).map delta).sum + ((own targetID id (planPostings canceled)).map delta).sum = 0 := by
  obtain ⟨_, resolved, heldSources⟩ := heldMade.sources
  obtain rfl : _ = Operation.onHold := by simpa [resolveOperation, isPending] using resolved.symm
  obtain ⟨_, resolved, heldDestinations⟩ := heldMade.destinations
  obtain rfl : _ = Operation.credit := by simpa [resolveOperation, isPending] using resolved.symm
  obtain ⟨_, resolved, canceledSources⟩ := canceledMade.sources
  obtain rfl : _ = Operation.release := by simpa [resolveOperation, isPending] using resolved.symm
  obtain ⟨_, resolved, canceledDestinations⟩ := canceledMade.destinations
  obtain rfl : _ = Operation.debit := by simpa [resolveOperation, isPending] using resolved.symm
  have sources := sides_opposite heldSources canceledSources rfl rfl rfl id
  have destinations := sides_opposite heldDestinations canceledDestinations rfl rfl rfl id
  simp only [planPostings, own_append, map_append, sum_append]
  rw [add_add_add_comm, sources, destinations, add_zero]

section

variable [LawfulDecimal D]

theorem side_turnover {total : D} {asset : String} {operation : Operation} {status : TransactionStatus}
    {allocations : List (Allocation D)} {postings : List (Posting D)}
    (built : Built asset total operation status allocations postings)
    (summed : equal (sumPostings postings) total = true) :
    (postings.map turnover).sum = flow operation * val total := by
  have whole : (postings.map fun posting => val posting.amount).sum = val total := by
    rw [← val_sum_postings]
    exact (equal_iff _ _).mp summed
  have uniform : postings.map turnover = postings.map fun posting => flow operation * val posting.amount := by
    refine map_congr_left fun posting member => ?_
    rw [built.settled] at member
    obtain ⟨_, _, rfl⟩ := List.mem_map.mp member
    rfl
  rw [uniform, sum_map_mul_left, whole]

theorem phase_total (input : TransactionIntentInput D) (status : TransactionStatus) (plan : IntentPlan D)
    (made : PlanOf input status plan) (sourceOperation destinationOperation : Operation)
    (sourceResolved : resolveOperation input.pending true status = .ok sourceOperation)
    (destinationResolved : resolveOperation input.pending false status = .ok destinationOperation)
    (order : List (Posting D)) (perm : order.Perm (planPostings plan)) (before after : Balances D)
    (applied : applyPostings before order = some after) :
    totalHoldings (touchedIDs plan) after = totalHoldings (touchedIDs plan) before +
      (flow sourceOperation + flow destinationOperation) * val input.total := by
  have moved := act_all_total applyOne targetID holdings turnover holdings_translates order before after applied
    (touchedIDs plan) (fun posting member => List.mem_toFinset.mpr (List.mem_map_of_mem (perm.subset member)))
  obtain ⟨_, resolved, sources⟩ := made.sources
  cases sourceResolved.symm.trans resolved
  obtain ⟨_, resolved, destinations⟩ := made.destinations
  cases destinationResolved.symm.trans resolved
  have turned : (order.map turnover).sum = (flow sourceOperation + flow destinationOperation) * val input.total := by
    rw [(perm.map turnover).sum_eq, planPostings, map_append, sum_append,
      side_turnover sources made.sourceSum, side_turnover destinations made.destinationSum,
      add_mul]
  rw [← turned]
  exact moved

theorem pending_approved_creates_total (input : TransactionIntentInput D) (isPending : input.pending = true)
    (held approved : IntentPlan D) (heldBuilt : buildIntentPlan input .pending = .ok held)
    (approvedBuilt : buildIntentPlan input .approved = .ok approved) (heldOrder approvedOrder : List (Posting D))
    (heldPerm : heldOrder.Perm (planPostings held)) (approvedPerm : approvedOrder.Perm (planPostings approved))
    (before middle after : Balances D) (holding : applyPostings before heldOrder = some middle)
    (approving : applyPostings middle approvedOrder = some after) :
    totalHoldings (touchedIDs held) after = totalHoldings (touchedIDs held) before + val input.total ∧
      totalHoldings (touchedIDs held) after ≠ totalHoldings (touchedIDs held) before := by
  have heldMade := build_intent_plan_ok input .pending held heldBuilt
  have approvedMade := build_intent_plan_ok input .approved approved approvedBuilt
  have first := phase_total input .pending held heldMade .onHold .credit (by simp [resolveOperation, isPending])
    (by simp [resolveOperation, isPending]) heldOrder heldPerm before middle holding
  have second := phase_total input .approved approved approvedMade .debit .credit
    (by simp [resolveOperation, isPending]) (by simp [resolveOperation, isPending]) approvedOrder approvedPerm middle
    after approving
  -- The destinations are credited in both phases, the sources are debited once.
  rw [touched_same approvedMade heldMade, first] at second
  simp only [flow] at second
  have positive := (is_positive_iff _).mp heldMade.positive
  refine ⟨by linarith, fun same => ?_⟩
  linarith

structure Restored (applied : Nat) (start finish : Balance D) : Prop where
  available : equal finish.available start.available = true
  onHold : equal finish.onHold start.onHold = true
  identity : SameIdentity start finish
  version : finish.version = start.version + Int64.ofNat applied

theorem apply_postings_at {before after : Balances D} {order : List (Posting D)} (applied : applyPostings before order = some after) (id) :
    Option.Rel (fun start finish => position finish = position start + ((own targetID id order).map delta).sum ∧
      finish.version = start.version + Int64.ofNat (own targetID id order).length ∧
      SameIdentity start finish) (before id) (after id) := by
  rcases (act_all_iff _ _ _ _ _).mp applied id with ⟨untouched, same⟩ | ⟨start, finish, found, ran, ended⟩
  · rw [same, untouched]
    cases before id with
    | none => exact .none
    | some start => exact .some ⟨by simp, by simp, same_identity_refl start⟩
  · rw [found, ended]
    obtain ⟨version, identity⟩ := apply_run_versions _ start finish ran
    exact .some ⟨translates_run applyOne position delta position_translates _ start finish ran, version, identity⟩

theorem cancel_undoes_hold (input : TransactionIntentInput D) (isPending : input.pending = true)
    (held canceled : IntentPlan D) (heldBuilt : buildIntentPlan input .pending = .ok held)
    (canceledBuilt : buildIntentPlan input .canceled = .ok canceled) (heldOrder canceledOrder : List (Posting D))
    (heldPerm : heldOrder.Perm (planPostings held)) (canceledPerm : canceledOrder.Perm (planPostings canceled))
    (before middle after : Balances D) (holding : applyPostings before heldOrder = some middle)
    (canceling : applyPostings middle canceledOrder = some after) (id : String) :
    Option.Rel (Restored (own targetID id (heldOrder ++ canceledOrder)).length) (before id) (after id) := by
  have opposite := plans_opposite isPending (build_intent_plan_ok _ _ _ heldBuilt) (build_intent_plan_ok _ _ _ canceledBuilt) id
  rw [← ((own_perm targetID id _ _ heldPerm).map delta).sum_eq,
    ← ((own_perm targetID id _ _ canceledPerm).map delta).sum_eq] at opposite
  have first := apply_postings_at holding id
  have second := apply_postings_at canceling id
  generalize before id = start, middle id = halfway, after id = finish at first second ⊢
  cases first with
  | none =>
    cases second with
    | none => exact .none
  | some first =>
    cases second with
    | some second =>
      obtain ⟨there, thereVersion, thereIdentity⟩ := first
      obtain ⟨back, backVersion, backIdentity⟩ := second
      rw [there, add_assoc, opposite, add_zero] at back
      obtain ⟨available, onHold⟩ := Prod.ext_iff.mp back
      refine .some ⟨(equal_iff _ _).mpr available, (equal_iff _ _).mpr onHold,
        same_identity_trans _ _ _ thereIdentity backIdentity, ?_⟩
      rw [backVersion, thereVersion, own_append, length_append, Int64.ofNat_add, Int64.add_assoc]

end

def sampleBalances : Balances Scaled := fun id =>
  if id = "bal-a" then some (sampleBalance "bal-a" "acc-a" 100)
  else if id = "bal-b" then some (sampleBalance "bal-b" "acc-b" 100)
  else if id = "bal-c" then some (sampleBalance "bal-c" "acc-c" 0)
  else none

theorem sample_approved_creates_total : ∃ (held approved : IntentPlan Scaled) (middle after : Balances Scaled),
    buildIntentPlan (sampleInput true) .pending = .ok held ∧
      buildIntentPlan (sampleInput true) .approved = .ok approved ∧
      applyPostings sampleBalances (planPostings held) = some middle ∧
      applyPostings middle (planPostings approved) = some after ∧
      totalHoldings (touchedIDs held) after ≠ totalHoldings (touchedIDs held) sampleBalances :=
  ⟨_, _, _, _, rfl, rfl, rfl, rfl, (pending_approved_creates_total (sampleInput true) rfl _ _ rfl rfl _ _ (.refl _)
    (.refl _) sampleBalances _ _ rfl rfl).2⟩

def transferInput : TransactionIntentInput Scaled where
  asset := "USD"
  total := ⟨50, 0⟩
  pending := true
  sources := [⟨⟨"acc-a", "bal-a"⟩, some ⟨50, 0⟩, none, false, ""⟩]
  destinations := [⟨⟨"acc-c", "bal-c"⟩, some ⟨50, 0⟩, none, false, ""⟩]

theorem pending_lifecycle_not_conserved : ¬ ∀ (input : TransactionIntentInput Scaled) (held approved : IntentPlan Scaled)
    (before middle after : Balances Scaled), input.pending = true → buildIntentPlan input .pending = .ok held →
      buildIntentPlan input .approved = .ok approved → applyPostings before (planPostings held) = some middle →
      applyPostings middle (planPostings approved) = some after →
      totalHoldings (touchedIDs held) after = totalHoldings (touchedIDs held) before := by
  intro conserved
  have same := conserved transferInput _ _ sampleBalances _ _ rfl rfl rfl rfl rfl
  rw [show touchedIDs _ = {"bal-a", "bal-c"} from rfl] at same
  simp [totalHoldings, holdings, sampleBalances, sampleBalance, targetID, Function.update_apply, Scaled.val_eq] at same

theorem sample_cancel_undoes_hold : ∃ (held canceled : IntentPlan Scaled) (middle after : Balances Scaled),
    buildIntentPlan (sampleInput true) .pending = .ok held ∧
      buildIntentPlan (sampleInput true) .canceled = .ok canceled ∧
      applyPostings sampleBalances (planPostings held) = some middle ∧
      applyPostings middle (planPostings canceled).reverse = some after ∧
      (own targetID "bal-a" (planPostings held ++ (planPostings canceled).reverse)).length = 4 ∧
      ∀ id, Option.Rel (Restored (own targetID id (planPostings held ++ (planPostings canceled).reverse)).length)
        (sampleBalances id) (after id) :=
  ⟨_, _, _, _, rfl, rfl, rfl, rfl, rfl, cancel_undoes_hold (sampleInput true) rfl _ _ rfl rfl _ _ (.refl _)
    (reverse_perm _) sampleBalances _ _ rfl rfl⟩

end LibCommons.Transaction
