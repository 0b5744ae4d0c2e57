import LibCommons.Transaction.Eligibility

namespace LibCommons.Transaction

open Decimal Checked

variable {D : Type} [Decimal D]

structure SourceEligible (plan : IntentPlan D) (balances : Catalog D) (posting : Posting D) (balance : Balance D) : Prop
    extends Eligible plan balances posting balance where
  sends : balance.allowSending = true
  bounded : Safe.InBounds posting.amount
  funded : lessThan balance.available posting.amount = false
  held : plan.pending = true → balance.accountType ≠ .external

structure DestinationEligible (plan : IntentPlan D) (balances : Catalog D) (posting : Posting D) (balance : Balance D) : Prop
    extends Eligible plan balances posting balance where
  receives : balance.allowReceiving = true
  zeroed : balance.accountType = .external → isNegative balance.available = false ∧ isPositive balance.available = false

def scopeOf (balances : Catalog D) (posting : Posting D) : ScopeRef :=
  match balances.lookup posting.target.balanceID with
  | some balance => ⟨balance.organizationID, balance.ledgerID⟩
  | none => ⟨"", ""⟩

structure EligiblePlan (plan : IntentPlan D) (balances : Catalog D) : Prop where
  catalog : balances.entries ≠ []
  sources : ∀ posting ∈ plan.sources, ∃ balance, SourceEligible plan balances posting balance
  destinations : ∀ posting ∈ plan.destinations, ∃ balance, DestinationEligible plan balances posting balance
  scope : ∀ one ∈ plan.sources ++ plan.destinations, ∀ other ∈ plan.sources ++ plan.destinations,
    scopeOf balances one ≠ ⟨"", ""⟩ → scopeOf balances other ≠ ⟨"", ""⟩ → scopeOf balances one = scopeOf balances other

omit [Decimal D] in
theorem validate_scope_iff (ref next : ScopeRef) (balance : Balance D) (field : String) :
    validateScope ref balance field = .ok next ↔ Captures ⟨"", ""⟩ ref ⟨balance.organizationID, balance.ledgerID⟩ next := by
  obtain ⟨org, ledger⟩ := ref
  by_cases bare : balance.organizationID = "" ∧ balance.ledgerID = ""
  · grind [validateScope, Captures]
  by_cases first : org = "" ∧ ledger = ""
  · grind [validateScope, Captures]
  · grind [validateScope, Captures]

theorem external_destination_iff (balance : Balance D) : validateExternalDestinationBalance balance = .ok () ↔ (balance.accountType = .external →
      isNegative balance.available = false ∧ isPositive balance.available = false) := by
  unfold validateExternalDestinationBalance
  by_cases outside : balance.accountType = .external
  · cases isNegative balance.available <;> cases isPositive balance.available <;> simp [outside]
  · simp [outside]

variable (plan : IntentPlan D) (balances : Catalog D) (ref next : ScopeRef) (posting : Posting D)

theorem validate_source_iff : validateSourcePosting plan balances ref posting = .ok next ↔
      (∃ balance, SourceEligible plan balances posting balance) ∧ Captures ⟨"", ""⟩ ref (scopeOf balances posting) next := by
  simp only [validateSourcePosting, bind_ok_iff, refuse_ok_iff, pure_ok_iff, lookup_balance_ok_iff, validate_scope_iff]
  constructor
  · rintro ⟨balance, found, -, account, _, captured, -, asset, -, sends, ⟨⟩, bounded, -, funded, -, held, rfl⟩
    refine ⟨⟨balance, ⟨found, by simpa using account, by simpa using asset⟩, by simpa using sends, (check_bounds_ok_iff _ _).mp bounded, ?_, ?_⟩, ?_⟩
    · simpa [by simpa using sends] using funded
    · simpa using held
    · simpa [scopeOf, found] using captured
  · rintro ⟨⟨balance, eligible⟩, captured⟩
    refine ⟨balance, eligible.found, (), by simp [eligible.account], next, ?_, (), by simp [eligible.asset], (), ?_, (),
      (check_bounds_ok_iff _ _).mpr eligible.bounded, (), ?_, (), ?_, rfl⟩
    · simpa [scopeOf, eligible.found] using captured
    · simp [eligible.sends]
    · simp [eligible.funded]
    · simpa using eligible.held

theorem validate_destination_iff : validateDestinationPosting plan balances ref posting = .ok next ↔
      (∃ balance, DestinationEligible plan balances posting balance) ∧ Captures ⟨"", ""⟩ ref (scopeOf balances posting) next := by
  simp only [validateDestinationPosting, bind_ok_iff, refuse_ok_iff, pure_ok_iff, lookup_balance_ok_iff, validate_scope_iff]
  constructor
  · rintro ⟨balance, found, -, account, _, captured, -, asset, -, receives, ⟨⟩, zeroed, rfl⟩
    refine ⟨⟨balance, ⟨found, by simpa using account, by simpa using asset⟩, by simpa using receives, (external_destination_iff _).mp zeroed⟩, ?_⟩
    simpa [scopeOf, found] using captured
  rintro ⟨⟨balance, eligible⟩, captured⟩
  refine ⟨balance, eligible.found, (), by simp [eligible.account], next, ?_, (), by simp [eligible.asset], (),
    by simp [eligible.receives], (), (external_destination_iff _).mpr eligible.zeroed, rfl⟩
  simpa [scopeOf, eligible.found] using captured

-- The verdict in one fold: the destinations are checked with the reference the sources left.
theorem eligibility_fold (balances : Catalog D) : validateBalanceEligibility plan balances = .ok () ↔ balances.entries ≠ [] ∧
      ∃ last, (plan.sources.map Sum.inl ++ plan.destinations.map Sum.inr).foldlM
        (fun ref => Sum.elim (validateSourcePosting plan balances ref) (validateDestinationPosting plan balances ref))
        ⟨"", ""⟩ = .ok last := by
  simp only [validateBalanceEligibility, bind_ok_iff, refuse_ok_iff, List.foldlM_append, List.foldlM_map, Sum.elim_inl,
    Sum.elim_inr, List.length_eq_zero_iff]
  constructor
  · rintro ⟨-, some, ref, sources, last, destinations, -⟩
    exact ⟨some, last, ref, sources, destinations⟩
  · rintro ⟨some, last, ref, sources, destinations⟩
    exact ⟨(), some, ref, sources, last, destinations, rfl⟩

theorem eligibility_iff (balances : Catalog D) : validateBalanceEligibility plan balances = .ok () ↔ EligiblePlan plan balances := by
  rw [eligibility_fold, foldlM_captures_iff (Sum.elim (scopeOf balances) (scopeOf balances))
    (Sum.elim (fun posting => ∃ balance, SourceEligible plan balances posting balance)
      fun posting => ∃ balance, DestinationEligible plan balances posting balance)]
  · simp only [List.mem_append, List.mem_map, or_imp, forall_and, forall_exists_index, and_imp, forall_apply_eq_imp_iff₂, Sum.elim_inl, Sum.elim_inr]
    constructor
    · rintro ⟨catalog, ⟨sources, destinations⟩, scope⟩
      refine ⟨catalog, sources, destinations, ?_⟩
      simpa only [List.mem_append, or_imp, forall_and] using scope
    · rintro ⟨catalog, sources, destinations, scope⟩
      refine ⟨catalog, ⟨sources, destinations⟩, ?_⟩
      simpa only [List.mem_append, or_imp, forall_and] using scope
  · rintro ref (posting | posting) next
    · exact validate_source_iff plan balances ref next posting
    · exact validate_destination_iff plan balances ref next posting

theorem eligible_permuted {plan : IntentPlan D} {balances : Catalog D} {sources destinations : List (Posting D)}
    (sameSources : sources.Perm plan.sources) (sameDestinations : destinations.Perm plan.destinations)
    (eligible : EligiblePlan plan balances) : EligiblePlan { plan with sources, destinations } balances := by
  refine ⟨eligible.catalog, ?_, ?_, ?_⟩
  · intro posting member
    obtain ⟨balance, passed⟩ := eligible.sources posting (sameSources.mem_iff.mp member)
    exact ⟨balance, ⟨passed.found, passed.account, passed.asset⟩, passed.sends, passed.bounded, passed.funded, passed.held⟩
  · intro posting member
    obtain ⟨balance, passed⟩ := eligible.destinations posting (sameDestinations.mem_iff.mp member)
    exact ⟨balance, ⟨passed.found, passed.account, passed.asset⟩, passed.receives, passed.zeroed⟩
  · have same := sameSources.append sameDestinations
    exact fun one mine other its => eligible.scope one (same.mem_iff.mp mine) other (same.mem_iff.mp its)

theorem eligibility_order_free (plan : IntentPlan D) (balances : Catalog D) :
    (validateBalanceEligibility plan balances = .ok () ↔ EligiblePlan plan balances) ∧
      ∀ sources destinations, sources.Perm plan.sources → destinations.Perm plan.destinations →
        (validateBalanceEligibility { plan with sources, destinations } balances = .ok () ↔
          validateBalanceEligibility plan balances = .ok ()) := by
  refine ⟨eligibility_iff plan balances, ?_⟩
  intro _ _ sameSources sameDestinations
  rw [eligibility_iff, eligibility_iff]
  exact ⟨eligible_permuted sameSources.symm sameDestinations.symm, eligible_permuted sameSources sameDestinations⟩

end LibCommons.Transaction
