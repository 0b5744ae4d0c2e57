import LibCommons.Transaction.Lifecycle

namespace LibCommons.Transaction

open Decimal Checked List LawfulDecimal Cells

variable {D : Type} [Decimal D]

-- The balance catalog is a Go map from balance ID to balance.
abbrev Catalog (D : Type) := AList fun _ : String => Balance D

-- What validateScope keeps between calls; both parts empty before the first scoped balance.
structure ScopeRef where
  refOrgID : String
  refLedgerID : String
deriving DecidableEq, Repr

def validateScope (ref : ScopeRef) (balance : Balance D) (field : String) : Except DomainError ScopeRef :=
  if balance.organizationID ≠ "" ∨ balance.ledgerID ≠ "" then
    if ref.refOrgID = "" ∧ ref.refLedgerID = "" then .ok ⟨balance.organizationID, balance.ledgerID⟩
    else if balance.organizationID ≠ ref.refOrgID then
      .error (newDomainError .crossScope field ("balance organizationId " ++ Go.quote balance.organizationID ++
        " does not match expected " ++ Go.quote ref.refOrgID))
    else if balance.ledgerID ≠ ref.refLedgerID then
      .error (newDomainError .crossScope field ("balance ledgerId " ++ Go.quote balance.ledgerID ++
        " does not match expected " ++ Go.quote ref.refLedgerID))
    else .ok ref
  else .ok ref

def validateExternalDestinationBalance (balance : Balance D) : Except DomainError Unit :=
  if balance.accountType ≠ .external then .ok ()
  else if isNegative balance.available then
    .error (newDomainError .dataCorruption "balance" "external destination account has negative balance, indicating data corruption")
  else if isPositive balance.available then
    .error (newDomainError .insufficientFunds "destinations" "external destination must have zero available balance")
  else .ok ()

def lookupBalance (balances : Catalog D) (posting : Posting D) (refusal : DomainError) : Except DomainError (Balance D) :=
  match balances.lookup posting.target.balanceID with
  | some balance => .ok balance
  | none => .error refusal

def validateSourcePosting (plan : IntentPlan D) (balances : Catalog D) (ref : ScopeRef) (posting : Posting D) :
    Except DomainError ScopeRef := do
  let balance ← lookupBalance balances posting
    (newDomainError .accountIneligibility "sources" "source balance not found")
  refuse (balance.accountID ≠ posting.target.accountID) (newDomainError .accountIneligibility "sources"
    "source posting accountId does not match balance accountId")
  let ref ← validateScope ref balance "sources"
  refuse (balance.asset ≠ plan.asset) (newDomainError .assetCodeNotFound "sources" "source asset does not match transaction asset")
  refuse (!balance.allowSending) (newDomainError .accountStatusTransactionRestriction "sources" "source balance is not allowed to send")
  checkBounds posting.amount "sources"
  refuse (balance.allowSending && lessThan balance.available posting.amount) (newDomainError .insufficientFunds
    "sources" ("source balance available " ++ string balance.available ++ " is less than posting amount " ++ string posting.amount))
  refuse (plan.pending && balance.accountType = .external) (newDomainError .onHoldExternalAccount "sources"
    "external source cannot be put on hold")
  return ref

-- Unlike a source posting, a destination posting has no bounds check of its own.
def validateDestinationPosting (plan : IntentPlan D) (balances : Catalog D) (ref : ScopeRef) (posting : Posting D) :
    Except DomainError ScopeRef := do
  let balance ← lookupBalance balances posting
    (newDomainError .accountIneligibility "destinations" "destination balance not found")
  refuse (balance.accountID ≠ posting.target.accountID) (newDomainError .accountIneligibility "destinations"
    "destination posting accountId does not match balance accountId")
  let ref ← validateScope ref balance "destinations"
  refuse (balance.asset ≠ plan.asset) (newDomainError .assetCodeNotFound "destinations"
    "destination asset does not match transaction asset")
  refuse (!balance.allowReceiving) (newDomainError .accountStatusTransactionRestriction "destinations"
    "destination balance is not allowed to receive")
  validateExternalDestinationBalance balance
  return ref

def validateBalanceEligibility (plan : IntentPlan D) (balances : Catalog D) : Except DomainError Unit := do
  refuse (balances.entries.length = 0) (newDomainError .accountIneligibility "balances" "balance catalog is empty")
  let ref ← plan.sources.foldlM (validateSourcePosting plan balances) ⟨"", ""⟩
  let _ ← plan.destinations.foldlM (validateDestinationPosting plan balances) ref
  return ()

structure Eligible (plan : IntentPlan D) (balances : Catalog D) (posting : Posting D) (balance : Balance D) : Prop where
  found : balances.lookup posting.target.balanceID = some balance
  account : balance.accountID = posting.target.accountID
  asset : balance.asset = plan.asset

omit [Decimal D] in
theorem lookup_balance_ok_iff (balances : Catalog D) (posting : Posting D) (refusal : DomainError) (balance : Balance D) :
    lookupBalance balances posting refusal = .ok balance ↔ balances.lookup posting.target.balanceID = some balance := by
  unfold lookupBalance
  cases balances.lookup posting.target.balanceID with
  | none => simp
  | some => simp

theorem validate_source_ok (plan : IntentPlan D) (balances : Catalog D) (ref next : ScopeRef) (posting : Posting D)
    (accepted : validateSourcePosting plan balances ref posting = .ok next) :
    ∃ balance, Eligible plan balances posting balance ∧ Safe.InBounds posting.amount := by
  simp only [validateSourcePosting, bind_ok_iff, refuse_ok_iff, not_not] at accepted
  obtain ⟨balance, found, _, account, _, _, _, asset, _, _, _, bounded, _⟩ := accepted
  exact ⟨balance, ⟨(lookup_balance_ok_iff _ _ _ _).mp found, account, asset⟩, (check_bounds_ok_iff _ _).mp bounded⟩

theorem validate_destination_ok (plan : IntentPlan D) (balances : Catalog D) (ref next : ScopeRef) (posting : Posting D)
    (accepted : validateDestinationPosting plan balances ref posting = .ok next) :
    ∃ balance, Eligible plan balances posting balance := by
  simp only [validateDestinationPosting, bind_ok_iff, refuse_ok_iff, not_not] at accepted
  obtain ⟨balance, found, _, account, _, _, _, asset, _⟩ := accepted
  exact ⟨balance, ⟨(lookup_balance_ok_iff _ _ _ _).mp found, account, asset⟩⟩

variable {plan : IntentPlan D} {balances : Catalog D}

theorem validate_eligibility_ok (accepted : validateBalanceEligibility plan balances = .ok ()) :
    (∀ posting ∈ plan.sources, ∃ balance, Eligible plan balances posting balance ∧ Safe.InBounds posting.amount) ∧
      ∀ posting ∈ plan.destinations, ∃ balance, Eligible plan balances posting balance := by
  simp only [validateBalanceEligibility, bind_ok_iff] at accepted
  obtain ⟨_, _, _, sources, _, destinations, _⟩ := accepted
  exact ⟨foldlM_ok_all _ _ (fun ref posting next => validate_source_ok plan balances ref next posting) _ _ _ sources,
    foldlM_ok_all _ _ (fun ref posting next => validate_destination_ok plan balances ref next posting) _ _ _ destinations⟩

def sourceDemand (plan : IntentPlan D) (id : String) : ℚ := ((own targetID id plan.sources).map fun posting => val posting.amount).sum

theorem admissible_same_identity (before after : Balance D) (posting : Posting D) (same : SameIdentity before after)
    (admissible : Admissible before posting) : Admissible after posting := by
  unfold SameIdentity at same
  rw [same]
  exact ⟨admissible.accountNamed, admissible.balanceNamed, admissible.sameBalance, admissible.sameAccount,
    admissible.sameAsset, admissible.bounded, admissible.positive⟩

variable {asset : String} {total : D} {operation : Operation} {status : TransactionStatus} {allocations : List (Allocation D)}
  {postings : List (Posting D)} {posting : Posting D} (built : Built asset total operation status allocations postings)

include built

theorem eligible_admissible (sameAsset : plan.asset = asset)
    (keyed : ∀ id balance, balances.lookup id = some balance → balance.id = id) (member : posting ∈ postings)
    (positive : isPositive posting.amount = true) {balance} (eligible : Eligible plan balances posting balance)
    (bounded : Safe.InBounds posting.amount) : Admissible balance posting := by
  rw [built.settled] at member
  obtain ⟨allocation, allocated, rfl⟩ := List.mem_map.mp member
  have accepted := built.accepted allocation allocated
  exact ⟨accepted.account, accepted.balance, keyed _ _ eligible.found, eligible.account, eligible.asset.trans sameAsset, bounded, positive⟩

theorem built_uniform (member : posting ∈ postings) : posting.operation = operation ∧ posting.status = status := by
  rw [built.settled] at member
  obtain ⟨_, _, rfl⟩ := List.mem_map.mp member
  exact ⟨rfl, rfl⟩

omit built

theorem opening_effects {pending} (opening : status = .created ∨ status = .pending) {source destination}
    (sourceResolved : resolveOperation pending true status = .ok source)
    (destinationResolved : resolveOperation pending false status = .ok destination) :
    (∃ held : ℤ, 0 ≤ held ∧ effect source status = some (-1, held)) ∧ effect destination status = some (1, 0) := by
  rcases opening with rfl | rfl
  · cases pending with
    | true => simp [resolveOperation] at sourceResolved
    | false =>
      cases sourceResolved
      cases destinationResolved
      exact ⟨⟨0, by decide, rfl⟩, rfl⟩
  · cases pending with
    | false => simp [resolveOperation] at sourceResolved
    | true =>
      cases sourceResolved
      cases destinationResolved
      exact ⟨⟨1, by decide, rfl⟩, rfl⟩

section

variable [LawfulDecimal D]

theorem credit_run_succeeds (postings : List (Posting D)) (start : Balance D) (admissible : ∀ posting ∈ postings, Admissible start posting)
    (credits : ∀ posting ∈ postings, effect posting.operation posting.status = some (1, 0))
    (availableOk : 0 ≤ val start.available) (onHoldOk : 0 ≤ val start.onHold) :
    ∃ finish, postings.foldlM applyOne start = some finish := by
  induction postings generalizing start with
  | nil => exact ⟨start, rfl⟩
  | cons head _ ih =>
    have positive := (is_positive_iff _).mp (admissible head (by simp)).positive
    obtain ⟨next, applied⟩ := apply_posting_succeeds start head (1, 0) (admissible head (by simp))
      (credits head (by simp)) (by push_cast; linarith) (by push_cast; linarith)
    have stepped := (apply_one_iff _ _ _).mpr applied
    obtain ⟨_, _, nextAvailable, nextOnHold, _, identity⟩ := apply_one_moves start next head stepped
    obtain ⟨finish, ran⟩ := ih next (fun posting later => admissible_same_identity start next posting identity (admissible posting (by simp [later])))
      (fun posting later => credits posting (by simp [later])) nextAvailable nextOnHold
    exact ⟨finish, by simp [stepped, ran]⟩

theorem taking_run_succeeds_iff (postings : List (Posting D)) (start : Balance D) (held : ℤ) (heldOk : 0 ≤ held)
    (admissible : ∀ posting ∈ postings, Admissible start posting)
    (takes : ∀ posting ∈ postings, effect posting.operation posting.status = some (-1, held))
    (availableOk : 0 ≤ val start.available) (onHoldOk : 0 ≤ val start.onHold) :
    (∃ finish, postings.foldlM applyOne start = some finish) ↔ (postings.map fun posting => val posting.amount).sum ≤ val start.available := by
  constructor
  · rintro ⟨finish, ran⟩
    obtain ⟨_, _⟩ := apply_run_nonnegative postings start finish availableOk onHoldOk ran
    have moved := translates_run applyOne position delta position_translates postings start finish ran
    have taken : (postings.map delta).sum.1 = -(postings.map fun posting => val posting.amount).sum := by
      clear ran admissible moved
      induction postings with
      | nil => simp
      | cons head _ ih =>
        have rest := ih fun posting later => takes posting (by simp [later])
        simp only [map_cons, sum_cons, Prod.fst_add, rest, delta, takes head (by simp)]
        push_cast
        ring
    have available := (Prod.ext_iff.mp moved).1
    simp only [position, Prod.fst_add, taken] at available
    linarith
  · intro covered
    induction postings generalizing start with
    | nil => exact ⟨start, rfl⟩
    | cons head tail ih =>
      have positive := (is_positive_iff _).mp (admissible head (by simp)).positive
      have restOk : 0 ≤ (tail.map fun posting => val posting.amount).sum := by
        refine sum_nonneg fun value member => ?_
        obtain ⟨posting, later, rfl⟩ := List.mem_map.mp member
        exact ((is_positive_iff _).mp (admissible posting (by simp [later])).positive).le
      rw [map_cons, sum_cons] at covered
      have heldGrows : 0 ≤ (held : ℚ) * val head.amount := mul_nonneg (by exact_mod_cast heldOk) positive.le
      obtain ⟨next, applied⟩ := apply_posting_succeeds start head (-1, held) (admissible head (by simp))
        (takes head (by simp)) (by push_cast; linarith) (by linarith)
      have stepped := (apply_one_iff _ _ _).mpr applied
      obtain ⟨moved, _, nextAvailable, nextOnHold, _, identity⟩ := apply_one_moves start next head stepped
      have available : val next.available = val start.available - val head.amount := by
        have first := (Prod.ext_iff.mp moved).1
        simp only [position, Prod.fst_add, delta, takes head (by simp)] at first
        rw [first]
        push_cast
        ring
      obtain ⟨finish, ran⟩ := ih next (fun posting later => admissible_same_identity start next posting identity
          (admissible posting (by simp [later])))
        (fun posting later => takes posting (by simp [later])) nextAvailable nextOnHold (by linarith)
      exact ⟨finish, by simp [stepped, ran]⟩

theorem opening_run_succeeds_iff {sources destinations : List (Posting D)} {start : Balance D} {held : ℤ}
    (heldOk : 0 ≤ held) (sourcesOk : ∀ posting ∈ sources, Admissible start posting)
    (destinationsOk : ∀ posting ∈ destinations, Admissible start posting)
    (takes : ∀ posting ∈ sources, effect posting.operation posting.status = some (-1, held))
    (credits : ∀ posting ∈ destinations, effect posting.operation posting.status = some (1, 0))
    (availableOk : 0 ≤ val start.available) (onHoldOk : 0 ≤ val start.onHold) :
    (∃ finish, (sources ++ destinations).foldlM applyOne start = some finish) ↔
      (sources.map fun posting => val posting.amount).sum ≤ val start.available := by
  rw [← taking_run_succeeds_iff sources start held heldOk sourcesOk takes availableOk onHoldOk]
  simp only [foldlM_append, Option.bind_eq_bind, Option.bind_eq_some_iff]
  constructor
  · rintro ⟨finish, middle, ran, _⟩
    exact ⟨middle, ran⟩
  rintro ⟨middle, ran⟩
  obtain ⟨middleAvailable, middleOnHold⟩ := apply_run_nonnegative sources start middle availableOk onHoldOk ran
  obtain ⟨_, identity⟩ := apply_run_versions sources start middle ran
  obtain ⟨finish, credited⟩ := credit_run_succeeds destinations middle
    (fun posting member => admissible_same_identity start middle posting identity (destinationsOk posting member))
    credits middleAvailable middleOnHold
  exact ⟨finish, middle, ran, credited⟩

variable {plan : IntentPlan D} {balances : Catalog D} {id : String}

theorem eligible_run_iff {input : TransactionIntentInput D} {status : TransactionStatus}
    (built : buildIntentPlan input status = .ok plan) (opening : status = .created ∨ status = .pending)
    (keyed : ∀ id balance, balances.lookup id = some balance → balance.id = id)
    (accepted : validateBalanceEligibility plan balances = .ok ())
    (bounded : ∀ posting ∈ plan.destinations, Safe.InBounds posting.amount) {balance : Balance D}
    (found : balances.lookup id = some balance) (availableOk : isNegative balance.available = false)
    (onHoldOk : isNegative balance.onHold = false) :
    (∃ finish, (own targetID id (plan.sources ++ plan.destinations)).foldlM applyOne balance = some finish) ↔
      sourceDemand plan id ≤ val balance.available := by
  have made := build_intent_plan_ok input status plan built
  obtain ⟨_, sourceResolved, sources⟩ := made.sources
  obtain ⟨_, destinationResolved, destinations⟩ := made.destinations
  obtain ⟨⟨_, heldOk, takes⟩, credits⟩ := opening_effects opening sourceResolved destinationResolved
  obtain ⟨sourcesEligible, destinationsEligible⟩ := validate_eligibility_ok accepted
  rw [own_append]
  refine opening_run_succeeds_iff heldOk ?_ ?_ ?_ ?_ ((is_negative_eq_false _).mp availableOk) ((is_negative_eq_false _).mp onHoldOk)
  · intro posting member
    obtain ⟨member, here⟩ := mem_own.mp member
    obtain ⟨other, eligible, inBounds⟩ := sourcesEligible posting member
    obtain rfl : balance = other := Option.some.inj (found.symm.trans (here ▸ eligible.found))
    exact eligible_admissible sources made.asset keyed member ((is_positive_iff _).mpr (built_amount_positive _ _ _ _ _ _ sources posting member))
      eligible inBounds
  · intro posting member
    obtain ⟨member, here⟩ := mem_own.mp member
    obtain ⟨other, eligible⟩ := destinationsEligible posting member
    obtain rfl : balance = other := Option.some.inj (found.symm.trans (here ▸ eligible.found))
    exact eligible_admissible destinations made.asset keyed member
      ((is_positive_iff _).mpr (built_amount_positive _ _ _ _ _ _ destinations posting member))
      eligible (bounded posting member)
  · intro posting member
    obtain ⟨operation, status⟩ := built_uniform sources (mem_own.mp member).1
    rw [operation, status, takes]
  · intro _ member
    obtain ⟨operation, status⟩ := built_uniform destinations (mem_own.mp member).1
    rw [operation, status, credits]

omit [LawfulDecimal D] in
theorem eligible_known (accepted : validateBalanceEligibility plan balances = .ok ()) (absent : balances.lookup id = none) :
    own targetID id (plan.sources ++ plan.destinations) = [] := by
  obtain ⟨sourcesEligible, destinationsEligible⟩ := validate_eligibility_ok accepted
  refine eq_nil_iff_forall_not_mem.mpr fun posting member => ?_
  obtain ⟨member, here⟩ := mem_own.mp member
  have known : ∃ balance, Eligible plan balances posting balance := by
    rcases mem_append.mp member with first | second
    · obtain ⟨balance, eligible, _⟩ := sourcesEligible posting first
      exact ⟨balance, eligible⟩
    · exact destinationsEligible posting second
  obtain ⟨balance, eligible⟩ := known
  have lookup : balances.lookup id = some balance := here ▸ eligible.found
  simp [absent] at lookup

theorem eligible_plan_applies_iff (input : TransactionIntentInput D) (status : TransactionStatus) (plan : IntentPlan D)
    (built : buildIntentPlan input status = .ok plan) (opening : status = .created ∨ status = .pending)
    (balances : Catalog D) (keyed : ∀ id balance, balances.lookup id = some balance → balance.id = id)
    (nonnegative : ∀ id balance, balances.lookup id = some balance →
      isNegative balance.available = false ∧ isNegative balance.onHold = false)
    (accepted : validateBalanceEligibility plan balances = .ok ())
    (bounded : ∀ posting ∈ plan.destinations, Safe.InBounds posting.amount) :
    (∃ after, applyPostings (fun id => balances.lookup id) (plan.sources ++ plan.destinations) = some after) ↔
      ∀ id balance, balances.lookup id = some balance → sourceDemand plan id ≤ val balance.available := by
  have local_run : ∀ id balance, balances.lookup id = some balance →
      ((∃ finish, (own targetID id (plan.sources ++ plan.destinations)).foldlM applyOne balance = some finish) ↔
        sourceDemand plan id ≤ val balance.available) := by
    intro id balance found
    obtain ⟨availableOk, onHoldOk⟩ := nonnegative id balance found
    exact eligible_run_iff built opening keyed accepted bounded found availableOk onHoldOk
  unfold applyPostings
  rw [act_all_succeeds_iff]
  constructor
  · intro each id balance found
    rw [← local_run id balance found]
    rcases each id with none | ⟨_, next, found', ran⟩
    · exact ⟨balance, by rw [none]; rfl⟩
    · cases found.symm.trans found'
      exact ⟨next, ran⟩
  · intro covered id
    cases found : balances.lookup id with
    | some balance =>
      obtain ⟨finish, ran⟩ := (local_run id balance found).mpr (covered id balance found)
      exact Or.inr ⟨balance, finish, rfl, ran⟩
    | none => exact Or.inl (eligible_known accepted found)

end

def catalogOf (balances : List (Balance Scaled)) : Catalog Scaled := (balances.map fun balance => Sigma.mk balance.id balance).toAList

def sampleCatalog : Catalog Scaled :=
  catalogOf [sampleBalance "bal-a" "acc-a" 100, sampleBalance "bal-b" "acc-b" 100, sampleBalance "bal-c" "acc-c" 0]

theorem sample_catalog_lookup {id} {balance} (found : sampleCatalog.lookup id = some balance) :
    balance.id = id ∧ isNegative balance.available = false ∧ isNegative balance.onHold = false := by
  have entry : Sigma.mk id balance ∈ sampleCatalog.entries := AList.mem_lookup_iff.mp found
  rw [show sampleCatalog.entries = [⟨"bal-a", sampleBalance "bal-a" "acc-a" 100⟩,
    ⟨"bal-b", sampleBalance "bal-b" "acc-b" 100⟩, ⟨"bal-c", sampleBalance "bal-c" "acc-c" 0⟩] from rfl] at entry
  simp only [mem_cons, Sigma.mk.injEq, not_mem_nil, or_false] at entry
  rcases entry with ⟨rfl, same⟩ | ⟨rfl, same⟩ | ⟨rfl, same⟩ <;> cases same <;> exact ⟨rfl, rfl, rfl⟩

theorem sample_eligible_applies : ∃ plan, buildIntentPlan (sampleInput false) .created = .ok plan ∧
    validateBalanceEligibility plan sampleCatalog = .ok () ∧
    (∃ after, applyPostings (fun id => sampleCatalog.lookup id) (plan.sources ++ plan.destinations) = some after) ∧
    ∀ id balance, sampleCatalog.lookup id = some balance → sourceDemand plan id ≤ val balance.available := by
  refine ⟨_, rfl, rfl, ⟨_, rfl⟩, ?_⟩
  exact (eligible_plan_applies_iff (sampleInput false) .created _ rfl (Or.inl rfl) sampleCatalog
    (fun id balance found => (sample_catalog_lookup found).1)
    (fun id balance found => (sample_catalog_lookup found).2) rfl (by decide)).mp ⟨_, rfl⟩

def twiceInput : TransactionIntentInput Scaled where
  asset := "USD"
  total := ⟨120, 0⟩
  pending := false
  sources := [⟨⟨"acc-a", "bal-a"⟩, some ⟨60, 0⟩, none, false, ""⟩, ⟨⟨"acc-a", "bal-a"⟩, some ⟨60, 0⟩, none, false, ""⟩]
  destinations := [⟨⟨"acc-c", "bal-c"⟩, none, none, true, ""⟩]

theorem eligibility_not_sufficient : ¬ ∀ (input : TransactionIntentInput Scaled) (status : TransactionStatus)
    (plan : IntentPlan Scaled) (balances : Catalog Scaled), buildIntentPlan input status = .ok plan →
      status = .created ∨ status = .pending → (∀ id balance, balances.lookup id = some balance → balance.id = id) →
      (∀ id balance, balances.lookup id = some balance →
        isNegative balance.available = false ∧ isNegative balance.onHold = false) →
      validateBalanceEligibility plan balances = .ok () →
      ∃ after, applyPostings (fun id => balances.lookup id) (plan.sources ++ plan.destinations) = some after := by
  intro sufficient
  obtain ⟨_, applied⟩ := sufficient twiceInput .created _ sampleCatalog rfl (Or.inl rfl)
    (fun id balance found => (sample_catalog_lookup found).1)
    (fun id balance found => (sample_catalog_lookup found).2) rfl
  cases applied

end LibCommons.Transaction
