import LibCommons.Transaction.Settle

namespace LibCommons.Transaction

open Decimal Checked

variable {D : Type} [Decimal D] (balance : Balance D) (posting : Posting D)

def validatePostingAgainstBalance : Except DomainError Unit := do
  posting.target.validate "posting.target"
  refuse (balance.id ≠ posting.target.balanceID) (newDomainError .accountIneligibility
    "posting.target.balanceId" "posting does not belong to the provided balance")
  refuse (balance.accountID ≠ posting.target.accountID) (newDomainError .accountIneligibility
    "posting.target.accountId" "posting account does not match balance account")
  refuse (balance.asset ≠ posting.asset) (newDomainError .assetCodeNotFound "posting.asset" "posting asset does not match balance asset")
  checkBounds posting.amount "posting.amount"
  refuse (!isPositive posting.amount) (newDomainError .invalidInput "posting.amount" "posting amount must be greater than zero")

def applyOnHold : Except DomainError (Balance D) :=
  if posting.status ≠ .pending then
    .error (newDomainError .invalidStateTransition "posting.status" "ON_HOLD requires PENDING status")
  else .ok { balance with
    available := sub balance.available posting.amount
    onHold := add balance.onHold posting.amount }

def applyRelease : Except DomainError (Balance D) :=
  if posting.status ≠ .canceled then
    .error (newDomainError .invalidStateTransition "posting.status" "RELEASE requires CANCELED status")
  else .ok { balance with
    onHold := sub balance.onHold posting.amount
    available := add balance.available posting.amount }

def applyDebit : Except DomainError (Balance D) :=
  match posting.status with
  | .approved => .ok { balance with onHold := sub balance.onHold posting.amount }
  | .created => .ok { balance with available := sub balance.available posting.amount }
  -- A canceled pending destination gives back the credit of the PENDING phase.
  | .canceled => .ok { balance with available := sub balance.available posting.amount }
  | _ => .error (newDomainError .invalidStateTransition "posting.status"
      "DEBIT only supports CREATED, APPROVED, or CANCELED status")

def applyCredit : Except DomainError (Balance D) :=
  match posting.status with
  | .created | .approved | .pending => .ok { balance with available := add balance.available posting.amount }
  | _ => .error (newDomainError .invalidStateTransition "posting.status"
      "CREDIT only supports CREATED, APPROVED, or PENDING status")

def applyPostingOperation : Except DomainError (Balance D) :=
  match posting.operation with
  | .onHold => applyOnHold balance posting
  | .release => applyRelease balance posting
  | .debit => applyDebit balance posting
  | .credit => applyCredit balance posting
  | .other _ => .error (newDomainError .invalidInput "posting.operation" "unsupported operation")

def validatePostingResult : Except DomainError Unit := do
  refuse (isNegative balance.available) (newDomainError .insufficientFunds
    "posting.amount" "operation would result in negative available balance")
  refuse (isNegative balance.onHold) (newDomainError .insufficientFunds
    "posting.amount" "operation would result in negative on-hold balance")

def applyPosting : Except DomainError (Balance D) := do
  validatePostingAgainstBalance balance posting
  let updated ← applyPostingOperation balance posting
  validatePostingResult updated
  return { updated with version := updated.version + 1 }

-- The directions of Available and OnHold, none for a pair the switch refuses.
def effect : Operation → TransactionStatus → Option (ℤ × ℤ)
  | .onHold, .pending => some (-1, 1)
  | .release, .canceled => some (1, -1)
  | .debit, .approved => some (0, -1)
  | .debit, .created => some (-1, 0)
  | .debit, .canceled => some (-1, 0)
  | .credit, .created => some (1, 0)
  | .credit, .approved => some (1, 0)
  | .credit, .pending => some (1, 0)
  | _, _ => none

structure Admissible (balance : Balance D) (posting : Posting D) : Prop where
  accountNamed : Go.trimSpace posting.target.accountID ≠ ""
  balanceNamed : Go.trimSpace posting.target.balanceID ≠ ""
  sameBalance : balance.id = posting.target.balanceID
  sameAccount : balance.accountID = posting.target.accountID
  sameAsset : balance.asset = posting.asset
  bounded : Safe.InBounds posting.amount
  positive : isPositive posting.amount = true

theorem validate_posting_ok_iff : validatePostingAgainstBalance balance posting = .ok () ↔ Admissible balance posting := by
  simp only [validatePostingAgainstBalance, bind_ok_iff, refuse_ok_iff, not_not, Bool.not_eq_true', Bool.not_eq_false]
  constructor
  · rintro ⟨_, target, _, sameBalance, _, sameAccount, _, sameAsset, _, bounded, positive⟩
    obtain ⟨account, balance⟩ := (validate_ok_iff _ _).mp target
    exact ⟨account, balance, sameBalance, sameAccount, sameAsset, (check_bounds_ok_iff _ _).mp bounded, positive⟩
  intro admissible
  exact ⟨(), (validate_ok_iff _ _).mpr ⟨admissible.accountNamed, admissible.balanceNamed⟩, (), admissible.sameBalance, (),
    admissible.sameAccount, (), admissible.sameAsset, (), (check_bounds_ok_iff _ _).mpr admissible.bounded,
    admissible.positive⟩

theorem validate_result_ok_iff :
    validatePostingResult balance = .ok () ↔ isNegative balance.available = false ∧ isNegative balance.onHold = false := by
  simp [validatePostingResult, bind_ok_iff, refuse_ok_iff]

def SameIdentity (before after : Balance D) : Prop :=
  after = { before with available := after.available, onHold := after.onHold, version := after.version }

variable [LawfulDecimal D]

structure Moved (direction : ℤ × ℤ) (amount : D) (before after : Balance D) : Prop where
  available : val after.available = val before.available + direction.1 * val amount
  onHold : val after.onHold = val before.onHold + direction.2 * val amount
  version : after.version = before.version
  identity : SameIdentity before after

theorem apply_operation_spec (balance : Balance D) (posting : Posting D) :
    match effect posting.operation posting.status with
    | some direction => ∃ updated, applyPostingOperation balance posting = .ok updated ∧
        Moved direction posting.amount balance updated
    | none => ∃ refusal, applyPostingOperation balance posting = .error refusal := by
  cases operation : posting.operation <;> cases status : posting.status <;>
    simp only [effect, applyPostingOperation, applyOnHold, applyRelease, applyDebit, applyCredit, operation, status,
      ne_eq, reduceCtorEq, not_true_eq_false, not_false_eq_true, if_true, if_false, Except.ok.injEq,
      Except.error.injEq, exists_eq', exists_eq_left']
  all_goals constructor <;> simp [SameIdentity, sub_eq_add_neg]

theorem apply_posting_ok {balance after : Balance D} {posting : Posting D} (applied : applyPosting balance posting = .ok after) :
    Admissible balance posting ∧ ∃ direction, effect posting.operation posting.status = some direction ∧
      val after.available = val balance.available + direction.1 * val posting.amount ∧
      val after.onHold = val balance.onHold + direction.2 * val posting.amount ∧
      0 ≤ val after.available ∧ 0 ≤ val after.onHold ∧
      after.version = balance.version + 1 ∧ SameIdentity balance after := by
  simp only [applyPosting, bind_ok_iff, pure_ok_iff] at applied
  obtain ⟨_, admitted, _, changed, _, nonnegative, rfl⟩ := applied
  refine ⟨(validate_posting_ok_iff _ _).mp admitted, ?_⟩
  have spec := apply_operation_spec balance posting
  cases named : effect posting.operation posting.status with
  | none =>
    rw [named] at spec
    obtain ⟨_, refused⟩ := spec
    cases refused.symm.trans changed
  | some direction =>
    rw [named] at spec
    obtain ⟨_, computed, moved⟩ := spec
    cases computed.symm.trans changed
    obtain ⟨availableOk, onHoldOk⟩ := (validate_result_ok_iff _).mp nonnegative
    refine ⟨direction, rfl, moved.available, moved.onHold, by simpa using availableOk, by simpa using onHoldOk,
      by rw [moved.version], ?_⟩
    have identity := moved.identity
    unfold SameIdentity at identity ⊢
    rw [identity]

theorem apply_posting_succeeds (balance : Balance D) (posting : Posting D) (direction : ℤ × ℤ) (admissible : Admissible balance posting)
    (named : effect posting.operation posting.status = some direction)
    (availableOk : 0 ≤ val balance.available + direction.1 * val posting.amount)
    (onHoldOk : 0 ≤ val balance.onHold + direction.2 * val posting.amount) :
    ∃ after, applyPosting balance posting = .ok after := by
  have spec := apply_operation_spec balance posting
  rw [named] at spec
  obtain ⟨updated, computed, moved⟩ := spec
  refine ⟨{ updated with version := updated.version + 1 }, ?_⟩
  simp only [applyPosting, bind_ok_iff, pure_ok_iff]
  refine ⟨(), (validate_posting_ok_iff _ _).mpr admissible, updated, computed, (), ?_, rfl⟩
  rw [validate_result_ok_iff]
  simp [moved.available, moved.onHold, availableOk, onHoldOk]

end LibCommons.Transaction
