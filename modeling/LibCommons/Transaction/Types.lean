import LibCommons.Decimal
import LibCommons.Go.Strings

namespace LibCommons.Transaction

-- The Go types are string types: an unknown value takes the default branch of each switch.
inductive Operation where
  | debit
  | credit
  | onHold
  | release
  | other (text : String)
deriving DecidableEq, Repr

inductive TransactionStatus where
  | created
  | approved
  | pending
  | canceled
  | other (text : String)
deriving DecidableEq, Repr

inductive AccountType where
  | internal
  | external
  | other (text : String)
deriving DecidableEq, Repr

inductive ErrorCode where
  | insufficientFunds
  | accountIneligibility
  | accountStatusTransactionRestriction
  | assetCodeNotFound
  | transactionValueMismatch
  | transactionAmbiguous
  | onHoldExternalAccount
  | dataCorruption
  | invalidInput
  | invalidStateTransition
  | crossScope
deriving DecidableEq, Repr

structure DomainError where
  code : ErrorCode
  field : String
  message : String
deriving DecidableEq, Repr

def newDomainError (code : ErrorCode) (field message : String) : DomainError := ⟨code, field, message⟩

-- CreatedAt, UpdatedAt, DeletedAt and Metadata are read by no function.
structure Balance (D : Type) where
  id : String
  organizationID : String
  ledgerID : String
  accountID : String
  asset : String
  available : D
  onHold : D
  version : Int64
  accountType : AccountType
  allowSending : Bool
  allowReceiving : Bool
deriving DecidableEq

structure LedgerTarget where
  accountID : String
  balanceID : String
deriving DecidableEq, Repr

def LedgerTarget.validate (t : LedgerTarget) (field : String) : Except DomainError Unit :=
  if Go.trimSpace t.accountID = "" then
    .error (newDomainError .invalidInput (field ++ ".accountId") "accountId is required")
  else if Go.trimSpace t.balanceID = "" then
    .error (newDomainError .invalidInput (field ++ ".balanceId") "balanceId is required")
  else .ok ()

structure Allocation (D : Type) where
  target : LedgerTarget
  amount : Option D
  share : Option D
  remainder : Bool
  route : String
deriving DecidableEq

structure TransactionIntentInput (D : Type) where
  asset : String
  total : D
  pending : Bool
  sources : List (Allocation D)
  destinations : List (Allocation D)
deriving DecidableEq

structure Posting (D : Type) where
  target : LedgerTarget
  asset : String
  amount : D
  operation : Operation
  status : TransactionStatus
  route : String
deriving DecidableEq

structure IntentPlan (D : Type) where
  asset : String
  total : D
  pending : Bool
  sources : List (Posting D)
  destinations : List (Posting D)
deriving DecidableEq

end LibCommons.Transaction
