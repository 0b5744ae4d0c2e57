import LibCommons.Lib.Checked
import LibCommons.Safe.Decimal
import LibCommons.Transaction.Types

namespace LibCommons.Transaction

open Decimal Checked

variable {D : Type} [Decimal D]

def oneHundred : D := newFromInt 100

def checkBounds (value : D) (field : String) : Except DomainError Unit :=
  match Safe.checkDecimal value with
  | .error _ => .error (newDomainError .invalidInput field "value is outside the supported decimal range")
  | .ok _ => .ok ()

def resolveOperation (pending isSource : Bool) (status : TransactionStatus) : Except DomainError Operation :=
  if pending then
    match status with
    | .pending => .ok (if isSource then .onHold else .credit)
    | .canceled => .ok (if isSource then .release else .debit)
    | .approved => .ok (if isSource then .debit else .credit)
    | _ => .error (newDomainError .invalidStateTransition "status"
        "pending transactions only support PENDING, APPROVED, or CANCELED status")
  else
    match status with
    | .created => .ok (if isSource then .debit else .credit)
    | _ => .error (newDomainError .invalidStateTransition "status"
        "non-pending transactions only support CREATED status")

def validateAllocationStrategy (allocation : Allocation D) (field : String) : Except DomainError Unit :=
  let strategyCount := (if allocation.amount.isSome then 1 else 0) + (if allocation.share.isSome then 1 else 0) +
    (if allocation.remainder then 1 else 0)
  if strategyCount ≠ 1 then
    .error (newDomainError .invalidInput field "allocation must define exactly one strategy: amount, share, or remainder")
  else .ok ()

def resolveAllocationAmount (total : D) (allocation : Allocation D) (field : String) : Except DomainError (D × Bool) :=
  match allocation.amount with
  | some amount => do
      checkBounds amount (field ++ ".amount")
      refuse (!isPositive amount) (newDomainError .invalidInput (field ++ ".amount") "amount must be greater than zero")
      return (amount, false)
  | none =>
    match allocation.share with
    | some share => do
        checkBounds share (field ++ ".share")
        refuse (!isPositive share || greaterThan share oneHundred)
          (newDomainError .invalidInput (field ++ ".share") "share must be greater than 0 and at most 100")
        let amount := mul total (div share oneHundred)
        refuse (!isPositive amount) (newDomainError .invalidInput (field ++ ".share") "share produces a non-positive amount")
        return (amount, false)
    | none =>
      if allocation.remainder then .ok (zero, true)
      else .error (newDomainError .invalidInput field "allocation must define exactly one strategy: amount, share, or remainder")

def buildPostingFromAllocation (asset : String) (total : D) (pending : Bool) (status : TransactionStatus)
    (isSource : Bool) (allocation : Allocation D) (field : String) : Except DomainError (Posting D × D × Bool) := do
  allocation.target.validate (field ++ ".target")
  validateAllocationStrategy allocation field
  let operation ← resolveOperation pending isSource status
  let posting : Posting D := ⟨allocation.target, asset, zeroValue, operation, status, allocation.route⟩
  let (amount, usesRemainder) ← resolveAllocationAmount total allocation field
  return if usesRemainder then (posting, zero, true) else ({ posting with amount := amount }, amount, false)

def computeRemainderAllocation (total allocated : D) : Except DomainError D :=
  let remainder := sub total allocated
  if !isPositive remainder then
    .error (newDomainError .transactionValueMismatch "allocations" "remainder is zero or negative")
  else .ok remainder

def validateAllocatedTotal (allocated total : D) : Except DomainError Unit :=
  if !equal allocated total then
    .error (newDomainError .transactionValueMismatch "allocations" ("allocated=" ++ string allocated ++ " expected=" ++ string total))
  else .ok ()

def sumPostings (postings : List (Posting D)) : D := (postings.map Posting.amount).foldl add zero

-- postings holds the slots written so far; none is the Go remainderIndex of -1.
structure Draft (D : Type) where
  postings : List (Posting D)
  allocated : D
  remainderIndex : Option Nat

def buildStep (asset : String) (total : D) (pending : Bool) (status : TransactionStatus) (isSource : Bool)
    (draft : Draft D) (allocation : Allocation D) : Except DomainError (Draft D) := do
  let side := if isSource then "sources" else "destinations"
  let index := draft.postings.length
  let field := side ++ "[" ++ toString index ++ "]"
  let (posting, amount, usesRemainder) ←
    buildPostingFromAllocation asset total pending status isSource allocation field
  refuse (usesRemainder && draft.remainderIndex.isSome)
    (newDomainError .invalidInput (field ++ ".remainder") "only one remainder allocation is allowed")
  return if usesRemainder then ⟨draft.postings ++ [posting], draft.allocated, some index⟩
    else ⟨draft.postings ++ [posting], add draft.allocated amount, draft.remainderIndex⟩

def buildPostings (asset : String) (total : D) (pending : Bool) (status : TransactionStatus)
    (allocations : List (Allocation D)) (isSource : Bool) : Except DomainError (List (Posting D)) := do
  let draft ← allocations.foldlM (buildStep asset total pending status isSource) ⟨[], zero, none⟩
  match draft.remainderIndex with
  | some index =>
    let remainder ← computeRemainderAllocation total draft.allocated
    let postings := draft.postings.modify index (fun posting => { posting with amount := remainder })
    validateAllocatedTotal (add draft.allocated remainder) total
    return postings
  | none =>
    validateAllocatedTotal draft.allocated total
    return draft.postings

def buildIntentPlan (input : TransactionIntentInput D) (status : TransactionStatus) : Except DomainError (IntentPlan D) := do
  refuse (Go.trimSpace input.asset = "") (newDomainError .invalidInput "asset" "asset is required")
  checkBounds input.total "total"
  refuse (!isPositive input.total) (newDomainError .invalidInput "total" "total must be greater than zero")
  refuse (input.sources.length = 0) (newDomainError .invalidInput "sources" "at least one source is required")
  refuse (input.destinations.length = 0) (newDomainError .invalidInput "destinations" "at least one destination is required")
  let sources ← buildPostings input.asset input.total input.pending status input.sources true
  let destinations ← buildPostings input.asset input.total input.pending status input.destinations false
  let sourceTotal := sumPostings sources
  let destinationTotal := sumPostings destinations
  refuse (!equal sourceTotal input.total || !equal destinationTotal input.total) (newDomainError .transactionValueMismatch "total"
      ("source total=" ++ string sourceTotal ++ " destination total=" ++ string destinationTotal ++ " expected=" ++ string input.total))
  let sourceIDs := sources.map (fun source => source.target.balanceID)
  refuse (destinations.any (fun destination => sourceIDs.contains destination.target.balanceID))
    (newDomainError .transactionAmbiguous "destinations" "balance appears as source and destination")
  return ⟨input.asset, input.total, input.pending, sources, destinations⟩

end LibCommons.Transaction
