import LibCommons.Lib.ListFacts
import LibCommons.Transaction.Plan

namespace LibCommons.Transaction

open Decimal Checked ListFacts List

variable {D : Type} [Decimal D]

-- A remainder allocation contributes nothing until the loop has ended.
def shareAmount (total share : D) : D := mul total (div share oneHundred)

def draftAmount (total : D) (allocation : Allocation D) : Option D :=
  match allocation.amount with
  | some amount => some amount
  | none => allocation.share.map (shareAmount total)

def allocatedAmount (total : D) (allocations : List (Allocation D)) : D := (allocations.filterMap (draftAmount total)).foldl add zero

def settledPosting (asset : String) (total remainder : D) (operation : Operation) (status : TransactionStatus)
    (allocation : Allocation D) : Posting D :=
  ⟨allocation.target, asset, (draftAmount total allocation).getD remainder, operation, status, allocation.route⟩

structure Accepted (total : D) (allocation : Allocation D) : Prop where
  account : Go.trimSpace allocation.target.accountID ≠ ""
  balance : Go.trimSpace allocation.target.balanceID ≠ ""
  remainder : allocation.remainder = (draftAmount total allocation).isNone
  amount : ∀ amount, allocation.amount = some amount → allocation.share = none ∧ Safe.InBounds amount ∧ isPositive amount = true
  share : ∀ share, allocation.share = some share → allocation.amount = none ∧ Safe.InBounds share ∧
    isPositive share = true ∧ greaterThan share (oneHundred : D) = false ∧ isPositive (shareAmount total share) = true

theorem check_bounds_ok_iff (value : D) (field) : checkBounds value field = .ok () ↔ Safe.InBounds value := by
  unfold checkBounds Safe.InBounds
  cases Safe.checkDecimal value with
  | error => simp
  | ok => simp

theorem validate_ok_iff (target : LedgerTarget) (field : String) :
    target.validate field = .ok () ↔ Go.trimSpace target.accountID ≠ "" ∧ Go.trimSpace target.balanceID ≠ "" := by
  unfold LedgerTarget.validate
  by_cases account : Go.trimSpace target.accountID = ""
  · simp [account]
  · by_cases balance : Go.trimSpace target.balanceID = "" <;> simp [account, balance]

variable {total : D} {allocation : Allocation D} {field : String}

-- Exactly one strategy is set, so the three branches are disjoint.
theorem resolve_allocation_ok {amount} {usesRemainder} (account : Go.trimSpace allocation.target.accountID ≠ "")
    (balance : Go.trimSpace allocation.target.balanceID ≠ "") (strategy : validateAllocationStrategy allocation field = .ok ())
    (computed : resolveAllocationAmount total allocation field = .ok (amount, usesRemainder)) :
    Accepted total allocation ∧ amount = (draftAmount total allocation).getD zero ∧ usesRemainder = (draftAmount total allocation).isNone := by
  cases amountEq : allocation.amount with
  | some =>
    have single : allocation.share = none ∧ allocation.remainder = false := by
      cases shareEq : allocation.share <;> cases remainderEq : allocation.remainder <;>
        simp [validateAllocationStrategy, amountEq, shareEq, remainderEq] at strategy ⊢
    simp only [resolveAllocationAmount, amountEq, bind_ok_iff, pure_ok_iff, refuse_ok_iff] at computed
    obtain ⟨_, bounded, _, positive, same⟩ := computed
    cases same
    have draft : draftAmount total allocation = some amount := by simp [draftAmount, amountEq]
    refine ⟨⟨account, balance, by simp [draft, single.2], ?_, ?_⟩, by simp [draft], by simp [draft]⟩
    · intro other same
      cases amountEq.symm.trans same
      exact ⟨single.1, (check_bounds_ok_iff _ _).mp bounded, by simpa using positive⟩
    · intro share present
      simp [single.1] at present
  | none =>
    cases shareEq : allocation.share with
    | some share =>
      have single : allocation.remainder = false := by
        cases remainderEq : allocation.remainder <;> simp [validateAllocationStrategy, amountEq, shareEq, remainderEq] at strategy ⊢
      simp only [resolveAllocationAmount, amountEq, shareEq, bind_ok_iff, pure_ok_iff, refuse_ok_iff] at computed
      obtain ⟨_, bounded, _, range, _, positive, same⟩ := computed
      cases same
      have draft : draftAmount total allocation = some (shareAmount total share) := by
        simp [draftAmount, amountEq, shareEq]
      refine ⟨⟨account, balance, by simp [draft, single], by simp [amountEq], ?_⟩, by simp [draft, shareAmount],
        by simp [draft]⟩
      intro _ same
      cases shareEq.symm.trans same
      simp only [Bool.or_eq_true, Bool.not_eq_true', not_or, Bool.not_eq_false, Bool.not_eq_true] at range
      exact ⟨amountEq, (check_bounds_ok_iff _ _).mp bounded, range.1, range.2, by simpa [shareAmount] using positive⟩
    | none =>
      have draft : draftAmount total allocation = none := by simp [draftAmount, amountEq, shareEq]
      by_cases rest : allocation.remainder = true
      · simp only [resolveAllocationAmount, amountEq, shareEq, rest, if_true, Except.ok.injEq] at computed
        cases computed
        exact ⟨⟨account, balance, by simp [draft, rest], by simp [amountEq], by simp [shareEq]⟩, by simp [draft],
          by simp [draft]⟩
      · simp [resolveAllocationAmount, amountEq, shareEq, rest] at computed

variable {asset : String} {pending : Bool} {status : TransactionStatus} {isSource : Bool}

theorem build_posting_ok {result} (built : buildPostingFromAllocation asset total pending status isSource allocation field = .ok result) :
    Accepted total allocation ∧ ∃ operation, resolveOperation pending isSource status = .ok operation ∧
      result = (settledPosting asset total zeroValue operation status allocation,
        (draftAmount total allocation).getD zero, (draftAmount total allocation).isNone) := by
  unfold buildPostingFromAllocation at built
  simp only [bind_ok_iff, pure_ok_iff] at built
  obtain ⟨_, target, _, strategy, operation, resolved, ⟨_, _⟩, computed, rfl⟩ := built
  obtain ⟨account, balance⟩ := (validate_ok_iff _ _).mp target
  obtain ⟨accepted, rfl, rfl⟩ := resolve_allocation_ok account balance strategy computed
  refine ⟨accepted, operation, resolved, ?_⟩
  cases draft : draftAmount total allocation <;> simp [settledPosting, draft]

theorem build_step_ok (asset) (total : D) (pending status isSource draft next allocation)
    (built : buildStep asset total pending status isSource draft allocation = .ok next) :
    Accepted total allocation ∧ ∃ operation, resolveOperation pending isSource status = .ok operation ∧
      next.postings = draft.postings ++ [settledPosting asset total zeroValue operation status allocation] ∧
      match draftAmount total allocation with
      | some amount => next.allocated = add draft.allocated amount ∧ next.remainderIndex = draft.remainderIndex
      | none => next.allocated = draft.allocated ∧ draft.remainderIndex = none ∧
          next.remainderIndex = some draft.postings.length := by
  simp only [buildStep, bind_ok_iff, pure_ok_iff, refuse_ok_iff] at built
  obtain ⟨_, posted, _, single, rfl⟩ := built
  obtain ⟨accepted, operation, resolved, rfl⟩ := build_posting_ok posted
  refine ⟨accepted, operation, resolved, ?_⟩
  cases draftEq : draftAmount total allocation with
  | some => simp
  | none => simpa [draftEq] using single

-- The remainder index stays, or moves once from -1 to the only remainder allocation.
theorem build_loop_ok (asset) (total : D) (pending status isSource allocations operation)
    (resolved : resolveOperation pending isSource status = .ok operation) (draft last)
    (built : allocations.foldlM (buildStep asset total pending status isSource) draft = .ok last) :
    (∀ allocation ∈ allocations, Accepted total allocation) ∧
      last.postings = draft.postings ++ allocations.map (settledPosting asset total zeroValue operation status) ∧
      last.allocated = (allocations.filterMap (draftAmount total)).foldl add draft.allocated ∧
      ((last.remainderIndex = draft.remainderIndex ∧ ∀ allocation ∈ allocations, (draftAmount total allocation).isSome) ∨
        (draft.remainderIndex = none ∧ ∃ front allocation back, allocations = front ++ allocation :: back ∧
          draftAmount total allocation = none ∧ (∀ other ∈ front ++ back, (draftAmount total other).isSome) ∧
          last.remainderIndex = some (draft.postings.length + front.length))) := by
  induction allocations generalizing draft with
  | nil =>
    cases (pure_ok_iff _ _).mp built
    simp
  | cons head tail ih =>
    rw [foldlM_cons, bind_ok_iff] at built
    obtain ⟨next, stepped, looped⟩ := built
    obtain ⟨accepted, _, chosenEq, postings, changed⟩ := build_step_ok _ _ _ _ _ _ _ _ stepped
    cases resolved.symm.trans chosenEq
    obtain ⟨rest, restPostings, restAllocated, restIndex⟩ := ih next looped
    refine ⟨by simpa using ⟨accepted, rest⟩, by simp [restPostings, postings], ?_, ?_⟩
    · cases draftEq : draftAmount total head with
      | some | none =>
        rw [draftEq] at changed
        simp [restAllocated, draftEq, changed.1]
    cases draftEq : draftAmount total head with
    | some =>
      rw [draftEq] at changed
      rcases restIndex with ⟨stays, filled⟩ | ⟨free, front, allocation, back, split, late, filled, moved⟩
      · exact Or.inl ⟨stays.trans changed.2, by simpa [draftEq] using filled⟩
      refine Or.inr ⟨changed.2 ▸ free, head :: front, allocation, back, by simp [split], late, ?_, ?_⟩
      · simpa [draftEq] using filled
      · simp only [moved, postings, length_append, length_cons, length_nil, Option.some.injEq]
        omega
    | none =>
      rw [draftEq] at changed
      obtain ⟨_, free, taken⟩ := changed
      rcases restIndex with ⟨stays, filled⟩ | ⟨stillFree, _⟩
      · exact Or.inr ⟨free, [], head, tail, rfl, draftEq, by simpa using filled, by simp [stays, taken]⟩
      · simp [taken] at stillFree

structure Built (asset : String) (total : D) (operation : Operation) (status : TransactionStatus)
    (allocations : List (Allocation D)) (postings : List (Posting D)) : Prop where
  accepted : ∀ allocation ∈ allocations, Accepted total allocation
  settled : postings = allocations.map (settledPosting asset total (sub total (allocatedAmount total allocations)) operation status)
  positive : ∀ allocation ∈ allocations, draftAmount total allocation = none →
    isPositive (sub total (allocatedAmount total allocations)) = true
  single : ∀ front allocation back, allocations = front ++ allocation :: back →
    draftAmount total allocation = none → ∀ other ∈ front ++ back, (draftAmount total other).isSome

theorem settled_without_remainder (asset : String) (total first second : D) (operation : Operation)
    (status : TransactionStatus) (allocations : List (Allocation D))
    (filled : ∀ allocation ∈ allocations, (draftAmount total allocation).isSome) :
    allocations.map (settledPosting asset total first operation status) = allocations.map (settledPosting asset total second operation status) := by
  apply map_congr_left
  intro allocation member
  obtain ⟨_, draft⟩ := Option.isSome_iff_exists.mp (filled allocation member)
  simp [settledPosting, draft]

theorem compute_remainder_ok_iff (total allocated remainder : D) : computeRemainderAllocation total allocated = .ok remainder ↔
      isPositive (sub total allocated) = true ∧ sub total allocated = remainder := by
  unfold computeRemainderAllocation
  by_cases positive : isPositive (sub total allocated) = true <;> simp [positive]

theorem build_postings_ok {allocations} {operation} (resolved : resolveOperation pending isSource status = .ok operation) {postings}
    (built : buildPostings asset total pending status allocations isSource = .ok postings) :
    Built asset total operation status allocations postings := by
  simp only [buildPostings, bind_ok_iff] at built
  obtain ⟨draft, looped, finished⟩ := built
  obtain ⟨accepted, drafted, allocated, index⟩ := build_loop_ok asset total pending status isSource allocations operation resolved _ _ looped
  simp only [nil_append] at drafted
  rcases index with ⟨stays, filled⟩ | ⟨_, front, allocation, back, split, late, filled, moved⟩
  · simp only at stays
    simp only [stays, bind_ok_iff, pure_ok_iff] at finished
    obtain ⟨_, _, rfl⟩ := finished
    refine ⟨accepted, ?_, ?_, ?_⟩
    · rw [drafted]
      exact settled_without_remainder asset total _ _ operation status allocations filled
    · intro allocation member missing
      simpa [missing] using filled allocation member
    · intro front allocation back split missing
      simpa [missing] using filled allocation (by simp [split])
  · simp only [length_nil, Nat.zero_add] at moved
    simp only [moved, bind_ok_iff, pure_ok_iff] at finished
    obtain ⟨_, computed, _, _, rfl⟩ := finished
    obtain ⟨positive, rfl⟩ := (compute_remainder_ok_iff _ _ _).mp computed
    have total_eq : draft.allocated = allocatedAmount total allocations := allocated
    rw [total_eq] at positive ⊢
    refine ⟨accepted, ?_, fun _ _ _ => positive, ?_⟩
    · rw [drafted, split, map_append, map_append, map_cons, map_cons, modify_at_split _ _ _ _ front.length (by simp)]
      have filledFront := settled_without_remainder asset total zeroValue
        (sub total (allocatedAmount total (front ++ allocation :: back))) operation status front
        (fun other member => filled other (by simp [member]))
      have filledBack := settled_without_remainder asset total zeroValue
        (sub total (allocatedAmount total (front ++ allocation :: back))) operation status back
        (fun other member => filled other (by simp [member]))
      rw [filledFront, filledBack]
      simp [settledPosting, late]
    · intro front' allocation' back' split' missing
      obtain ⟨rfl, rfl, rfl⟩ := unique_split (fun other => draftAmount total other = none) front back allocation
        (fun other member none => by simpa [none] using filled other member) front' back' allocation'
        (split.symm.trans split') missing
      exact filled

end LibCommons.Transaction
