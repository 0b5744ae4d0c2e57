import LibCommons.Dlq.Consumer
import LibCommons.Lib.Glob
import LibCommons.Lib.Runes
import LibCommons.Lib.Split

namespace LibCommons.Dlq

open List Bytes

open Bytes (utf8)
open Glob (accepts tokens Plain Simple)

variable (h : Handler) (source : String)

-- Whether scanQueues returns a key, where SCAN answers the keys its pattern matches.
def scanned (key : String) : Bool :=
  accepts (tokens none (utf8 (h.keyPrefix ++ "*:" ++ source).toList)) (utf8 key.toList) && key ≠ h.keyPrefix ++ source

abbrev Tenant (tenantID : String) : Prop := validateKeySegment "tenantID" tenantID = none

abbrev Source : Prop := validateSource source = none

-- A tenant without a name stands for the tenantless queue.
def Unambiguous : Prop := ∀ tenantID tenantID' source source', Tenant tenantID → Tenant tenantID' → Source source → Source source' →
    let key := tenantScopedKeyForTenant h tenantID source
    let key' := tenantScopedKeyForTenant h tenantID' source'
    (key = key' → tenantID = tenantID' ∧ source = source') ∧ extractTenantFromKey h key source = tenantID ∧
      (tenantID ≠ "" → scanned h source key = true) ∧ (scanned h source key' = true → source' = source)

variable {h source} {tenantID source' tenantID' name : String}

theorem segment_clean (valid : validateKeySegment name source = none) : ∀ c ∈ source.toList, disallowed c = false := by
  simpa [validateKeySegment] using valid

theorem source_clean (valid : Source source) : ∀ c ∈ source.toList, disallowed c = false := by
  unfold Source validateSource at valid
  split_ifs at valid
  exact segment_clean valid

theorem clean_free {text : List Char} (clean : ∀ c ∈ text, disallowed c = false) : ':' ∉ text := by
  intro member
  cases clean _ member

theorem clean_plain {text : List Char} (clean : ∀ c ∈ text, disallowed c = false) : ∀ x ∈ utf8 text, Plain x := by
  have free : ∀ rune : Char, rune.toNat < 128 → disallowed rune = true → UInt8.ofNat rune.toNat ∉ utf8 text := by
    intro rune ascii refused
    refine utf8_free rune ascii fun member => ?_
    rw [clean rune member] at refused
    cases refused
  intro x member
  refine ⟨?_, ?_, ?_, ?_⟩ <;> rintro rfl
  · exact free '*' (by decide) rfl member
  · exact free '?' (by decide) rfl member
  · exact free '[' (by decide) rfl member
  · exact free '\\' (by decide) rfl member

def tail (tenantID source : String) : List Char :=
  if tenantID = "" then source.toList else tenantID.toList ++ ':' :: source.toList

theorem key_tail (valid : Tenant tenantID) : (tenantScopedKeyForTenant h tenantID source).toList = h.keyPrefix.toList ++ tail tenantID source := by
  unfold tenantScopedKeyForTenant tail
  by_cases tenantless : tenantID = ""
  · simp [tenantless]
  · simp [tenantless, valid]

theorem tail_injective (valid : Tenant tenantID) (valid' : Tenant tenantID') (known : Source source) (known' : Source source')
    (same : tail tenantID source = tail tenantID' source') : tenantID = tenantID' ∧ source = source' := by
  have free := clean_free (source_clean known)
  have free' := clean_free (source_clean known')
  unfold tail at same
  split_ifs at same with tenantless tenantless' tenantless'
  · exact ⟨tenantless.trans tenantless'.symm, String.toList_inj.mp same⟩
  · rw [same] at free
    simp at free
  · rw [← same] at free'
    simp at free'
  · obtain ⟨tenants, sources⟩ := Split.cut_injective ':' (clean_free (segment_clean valid)) (clean_free (segment_clean valid')) same
    exact ⟨String.toList_inj.mp tenants, String.toList_inj.mp sources⟩

theorem key_extracted (valid : Tenant tenantID) : extractTenantFromKey h (tenantScopedKeyForTenant h tenantID source) source = tenantID := by
  simp only [extractTenantFromKey, key_tail valid, tail]
  by_cases tenantless : tenantID = ""
  · simp [tenantless]
  · have some : tenantID.toList ≠ [] := by simpa using tenantless
    have length := length_pos_iff.mpr some
    have size : (h.keyPrefix.toList ++ (tenantID.toList ++ ':' :: source.toList)).length - (':' :: source.toList).length =
        (h.keyPrefix.toList ++ tenantID.toList).length := by
      simp only [length_append]
      omega
    rw [if_neg tenantless, if_neg (by simp; omega), if_neg (by simp), size, ← append_assoc, drop_left, if_neg (by simp),
      take_left, drop_left, String.ofList_toList]

theorem pattern_bytes (h : Handler) (source : String) :
    utf8 (h.keyPrefix ++ "*:" ++ source).toList = utf8 h.keyPrefix.toList ++ 42 :: 58 :: utf8 source.toList := by
  rw [String.toList_append, String.toList_append, append_assoc, utf8_append]
  rfl

theorem key_bytes (valid : Tenant tenantID) (named : tenantID ≠ "") : utf8 (tenantScopedKeyForTenant h tenantID source).toList =
      utf8 h.keyPrefix.toList ++ (utf8 tenantID.toList ++ 58 :: utf8 source.toList) := by
  rw [key_tail valid, tail, if_neg named, utf8_append, utf8_append]
  rfl

theorem suffix_same {own other : Bytes} (free : 58 ∉ other) (inside : 58 :: own <:+ 58 :: other) : own = other := by
  rcases suffix_cons_iff.mp inside with same | later
  · exact cons_injective same
  · exact absurd (later.subset mem_cons_self) free

section

variable (simple : ∀ x ∈ utf8 h.keyPrefix.toList, Simple x) (known : Source source)
include simple known

theorem key_scanned (valid : Tenant tenantID) (named : tenantID ≠ "") : scanned h source (tenantScopedKeyForTenant h tenantID source) = true := by
  have plain := clean_plain (source_clean known)
  rw [scanned, Bool.and_eq_true, pattern_bytes, key_bytes valid named, decide_eq_true_eq]
  constructor
  · refine Glob.accepts_self simple ?_
    rw [Glob.tokens_star, accepts, List.any_eq_true]
    refine ⟨(utf8 tenantID.toList).length, by simp, ?_⟩
    rw [drop_left, ← append_nil (58 :: utf8 source.toList)]
    refine Glob.accepts_self ?_ rfl
    rw [forall_mem_cons]
    exact ⟨by simp [Simple], fun x member => (plain x member).2.2⟩
  · intro same
    have lists := congrArg String.toList same
    rw [key_tail valid, String.toList_append] at lists
    have tails : tail tenantID source = tail "" source := append_cancel_left lists
    exact named (tail_injective valid rfl known known tails).1

theorem scanned_own (valid' : Tenant tenantID') (known' : Source source')
    (found : scanned h source (tenantScopedKeyForTenant h tenantID' source') = true) : source' = source := by
  have plain : ∀ x ∈ 58 :: utf8 source.toList, Plain x := by
    rw [forall_mem_cons]
    exact ⟨by simp [Plain], clean_plain (source_clean known)⟩
  have star : ∀ x ∈ utf8 h.keyPrefix.toList ++ [42], Simple x := by
    rw [forall_mem_append]
    exact ⟨simple, by simp [Simple]⟩
  have free : 58 ∉ utf8 source.toList := utf8_free ':' (by decide) (clean_free (source_clean known))
  have free' : 58 ∉ utf8 source'.toList := utf8_free ':' (by decide) (clean_free (source_clean known'))
  rw [scanned, Bool.and_eq_true, pattern_bytes, append_cons] at found
  by_cases tenantless : tenantID' = ""
  · -- The pattern has one colon more than the prefix.
    have colons := Glob.accepts_count (x := 58) (forall_mem_append.mpr ⟨star, fun x member => (plain x member).2.2⟩) found.1 (by decide) (by decide)
    rw [key_tail valid', tail, if_pos tenantless] at colons
    simp only [utf8_append, count_append, count_cons_self, count_eq_zero.mpr free, count_eq_zero.mpr free'] at colons
    omega
  · have suffix := Glob.accepts_tail star plain found.1
    rw [key_bytes valid' tenantless, ← append_assoc] at suffix
    have its : 58 :: utf8 source'.toList <:+ _ := suffix_append (utf8 h.keyPrefix.toList ++ utf8 tenantID'.toList) _
    have same : utf8 source'.toList = utf8 source.toList := by
      rcases suffix_or_suffix_of_suffix its suffix with inside | inside
      · exact suffix_same free inside
      · exact (suffix_same free' inside).symm
    exact String.toList_inj.mp (utf8_injective same)

end

theorem missed_ambiguous (h : Handler) (missed : scanned h "s" (tenantScopedKeyForTenant h "t" "s") = false) : ¬ Unambiguous h := by
  intro all
  have found := (all "t" "t" "s" "s" rfl rfl rfl rfl).2.2.1 (by decide)
  rw [missed] at found
  cases found

theorem unambiguous_iff (allowed : Char → Prop) :
    (∀ h : Handler, (∀ c ∈ h.keyPrefix.toList, allowed c) → Unambiguous h) ↔ ¬ allowed '[' ∧ ¬ allowed '\\' := by
  constructor
  · intro all
    refine ⟨fun known => ?_, fun known => ?_⟩
    · exact missed_ambiguous ⟨"[", 1, by decide⟩ (by decide +kernel) (all _ (by simpa using known))
    · exact missed_ambiguous ⟨"\\", 1, by decide⟩ (by decide +kernel) (all _ (by simpa using known))
  · rintro ⟨opening, escape⟩ h over' tenantID tenantID' source source' valid valid' known known'
    have simple : ∀ x ∈ utf8 h.keyPrefix.toList, Simple x := by
      intro x member
      refine ⟨?_, ?_⟩ <;> rintro rfl
      · exact utf8_free '[' (by decide) (fun found => opening (over' _ found)) member
      · exact utf8_free '\\' (by decide) (fun found => escape (over' _ found)) member
    refine ⟨?_, key_extracted valid, key_scanned simple known valid, scanned_own simple known valid' known'⟩
    intro same
    have lists := congrArg String.toList same
    rw [key_tail valid, key_tail valid'] at lists
    exact tail_injective valid valid' known known' (append_cancel_left lists)

-- The pattern [*:s is a class of one byte.
theorem bracket_hides_queue :
    validateKeySegment "tenantID" "t" = none ∧ validateSource "s" = none ∧
      scanned ⟨"[", 1, by decide⟩ "s" (tenantScopedKeyForTenant ⟨"[", 1, by decide⟩ "t" "s") = false := by
  decide +kernel

end LibCommons.Dlq
