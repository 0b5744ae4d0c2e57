import LibCommons.Transaction.Balanced

namespace LibCommons.Transaction

open Decimal Checked List LawfulDecimal

-- The part of the total a share stands for, as share.Div(oneHundred) gives it.
def shareFactor {D : Type} [Decimal D] (share : D) : ℚ := roundPlaces divisionPrecision (val share / 100)

structure ShareAllocation {D : Type} [Decimal D] (allocation : Allocation D) (share : D) : Prop where
  account : Go.trimSpace allocation.target.accountID ≠ ""
  balance : Go.trimSpace allocation.target.balanceID ≠ ""
  amount : allocation.amount = none
  given : allocation.share = some share
  remainder : allocation.remainder = false
  bounded : Safe.InBounds share
  positive : 0 < val share
  atMost : val share ≤ 100

section

variable {D : Type} [Decimal D] [LawfulDecimal D] {asset : String} {total share : D} {pending isSource : Bool}
  {status : TransactionStatus} {operation : Operation} {allocation : Allocation D} {allocations : List (Allocation D)}
  {shares : List D} (resolved : resolveOperation pending isSource status = .ok operation)

include resolved

theorem build_step_share (kind : ShareAllocation allocation share) (positive : 0 < val (shareAmount total share)) (draft : Draft D) :
    buildStep asset total pending status isSource draft allocation =
      .ok ⟨draft.postings ++ [settledPosting asset total zeroValue operation status allocation],
        add draft.allocated (shareAmount total share), draft.remainderIndex⟩ := by
  have target := fun field => (validate_ok_iff allocation.target field).mpr ⟨kind.account, kind.balance⟩
  have bounds := fun field => (check_bounds_ok_iff share field).mpr kind.bounded
  have above : isPositive share = true := (is_positive_iff _).mpr kind.positive
  have below : greaterThan share (oneHundred : D) = false := by simpa [val_one_hundred] using kind.atMost
  have amount : isPositive (mul total (div share oneHundred)) = true := (is_positive_iff _).mpr positive
  simp [buildStep, buildPostingFromAllocation, validateAllocationStrategy, resolveAllocationAmount, settledPosting, draftAmount,
    shareAmount, target, bounds, above, below, amount, resolved, kind.amount, kind.given, kind.remainder, refuse, bind,
    Except.bind, pure, Except.pure]

theorem build_loop_share (kinds : List.Forall₂ ShareAllocation allocations shares)
    (positive : ∀ share ∈ shares, 0 < val (shareAmount total share)) (draft : Draft D) :
    allocations.foldlM (buildStep asset total pending status isSource) draft =
      .ok ⟨draft.postings ++ allocations.map (settledPosting asset total zeroValue operation status),
        (shares.map (shareAmount total)).foldl add draft.allocated, draft.remainderIndex⟩ := by
  induction kinds generalizing draft with
  | nil => simp [pure, Except.pure]
  | cons kind _ ih =>
    rw [foldlM_cons, build_step_share resolved kind (positive _ mem_cons_self)]
    exact (ih (fun share member => positive share (mem_cons_of_mem _ member)) _).trans (by simp)

omit resolved

variable (kinds : List.Forall₂ ShareAllocation allocations shares)

include kinds

theorem settled_shares (remainder : D) :
    ((allocations.map (settledPosting asset total remainder operation status)).map fun posting => val posting.amount) =
      shares.map fun share => val total * shareFactor share := by
  induction kinds with
  | nil => rfl
  | cons kind _ ih =>
    simp only [map_cons, ih]
    simp [settledPosting, draftAmount, kind.amount, kind.given, val_share_amount, shareFactor]

omit [LawfulDecimal D] in
theorem draft_shares (member : share ∈ shares) : ∃ allocation ∈ allocations, allocation.share = some share := by
  induction kinds with
  | nil => cases member
  | cons kind _ ih =>
    cases member with
    | head => exact ⟨_, mem_cons_self, kind.given⟩
    | tail _ later =>
      obtain ⟨allocation, allocated, given⟩ := ih later
      exact ⟨allocation, mem_cons_of_mem _ allocated, given⟩

omit kinds

theorem shares_settle_iff (asset : String) (total : D) (pending isSource : Bool) (status : TransactionStatus)
    (operation : Operation) (allocations : List (Allocation D)) (shares : List D) (positive : 0 < val total)
    (resolved : resolveOperation pending isSource status = .ok operation)
    (kinds : List.Forall₂ ShareAllocation allocations shares) :
    (∃ postings, buildPostings asset total pending status allocations isSource = .ok postings ∧
        (postings.map fun posting => val posting.amount).sum = val total) ↔
      (∀ share ∈ shares, 0 < shareFactor share) ∧ (shares.map shareFactor).sum = 1 := by
  constructor
  · rintro ⟨postings, settled, exact'⟩
    have built := build_postings_ok resolved settled
    rw [built.settled, settled_shares kinds, sum_map_mul_left] at exact'
    refine ⟨?_, mul_left_cancel₀ positive.ne' (exact'.trans (mul_one _).symm)⟩
    intro share member
    obtain ⟨allocation, allocated, given⟩ := draft_shares kinds member
    have amount := (is_positive_iff _).mp ((built.accepted allocation allocated).share share given).2.2.2.2
    rw [val_share_amount] at amount
    exact (mul_pos_iff_of_pos_left positive).mp amount
  · rintro ⟨each, whole⟩
    have amounts : ∀ share ∈ shares, 0 < val (shareAmount total share) := by
      intro share member
      rw [val_share_amount]
      exact mul_pos positive (each share member)
    have sum : (shares.map fun share => val total * shareFactor share).sum = val total := by
      rw [sum_map_mul_left, whole, mul_one]
    refine ⟨allocations.map (settledPosting asset total zeroValue operation status), ?_, by rw [settled_shares kinds, sum]⟩
    have settles : validateAllocatedTotal ((shares.map (shareAmount total)).foldl add zero) total = .ok () := by
      have same : val ((shares.map (shareAmount total)).foldl add zero) = val total := by
        rw [val_foldl_add, val_zero, zero_add, List.map_map, ← sum]
        exact congrArg List.sum (map_congr_left fun share _ => val_share_amount total share)
      simp [validateAllocatedTotal, (equal_iff _ _).mpr same]
    rw [buildPostings, build_loop_share resolved kinds amounts]
    simp [bind, Except.bind, pure, Except.pure, settles]

end

def shareOf (id : String) (share : Scaled) : Allocation Scaled := ⟨⟨id, id⟩, none, some share, false, ""⟩

theorem quarters_settle :
    ∃ postings, buildPostings "USD" (⟨100, 0⟩ : Scaled) false .created [shareOf "a" ⟨25, 0⟩, shareOf "b" ⟨75, 0⟩] true =
        .ok postings ∧ (postings.map fun posting => val posting.amount).sum = val (⟨100, 0⟩ : Scaled) := by
  have kinds : List.Forall₂ ShareAllocation [shareOf "a" ⟨25, 0⟩, shareOf "b" ⟨75, 0⟩] [⟨25, 0⟩, ⟨75, 0⟩] := by
    refine .cons ⟨by decide, by decide, rfl, rfl, rfl, by decide, ?_, ?_⟩
      (.cons ⟨by decide, by decide, rfl, rfl, rfl, by decide, ?_, ?_⟩ .nil) <;> norm_num [Scaled.val_eq]
  have settles := shares_settle_iff "USD" ⟨100, 0⟩ false true .created .debit _ _ (by norm_num [Scaled.val_eq]) rfl kinds
  refine settles.mpr ?_
  norm_num [shareFactor, roundPlaces, roundHalfAway, divisionPrecision, Scaled.val_eq]

theorem thirds_do_not_settle :
    (33333333333333333 + 33333333333333333 + 33333333333333334 : Int) = 100 * 10 ^ 15 ∧
      buildPostings "USD" (⟨100, 0⟩ : Scaled) false .created [shareOf "a" ⟨33333333333333333, -15⟩,
        shareOf "b" ⟨33333333333333333, -15⟩, shareOf "c" ⟨33333333333333334, -15⟩] true =
        .error (newDomainError .transactionValueMismatch "allocations"
          "allocated=999999999999999900e-16 expected=100e0") := by
  exact ⟨by decide, rfl⟩

end LibCommons.Transaction
