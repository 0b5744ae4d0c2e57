import LibCommons.Lib.Bytes

namespace LibCommons.RateLimit

open List

-- Keys, tenants, tier names and identities are Go strings: any bytes.
def text (s : String) : Bytes := Bytes.utf8 s.toList

def keyPrefix : Bytes := text "ratelimit:"

def isTenantIDAlnum (c : UInt8) : Bool := (97 ≤ c && c ≤ 122) || (65 ≤ c && c ≤ 90) || (48 ≤ c && c ≤ 57)

def isValidTenantID : Bytes → Bool
  | [] => false
  | first :: rest =>
    rest.length < 256 && isTenantIDAlnum first && rest.all fun c => isTenantIDAlnum c || c == 45 || c == 95

structure RateLimiter where
  keyPrefix : Bytes

variable (rl : RateLimiter)

def buildKey (tier identity : Bytes) : Bytes :=
  if rl.keyPrefix ≠ [] then rl.keyPrefix ++ text ":" ++ keyPrefix ++ tier ++ text ":" ++ identity
  else tier ++ text ":" ++ identity

def normalizeRateLimitKey (key : Bytes) : Bytes := if keyPrefix.isPrefixOf key then key else keyPrefix ++ key

variable (tenantID : Bytes)

-- none is the error for a tenant with a colon
def getKey (key : Bytes) : Option Bytes :=
  if tenantID = [] then some key
  else if 58 ∈ tenantID then none
  else some (text "tenant" ++ text ":" ++ tenantID ++ text ":" ++ key)

def redisFullKey (key : Bytes) : Option Bytes :=
  if tenantID ≠ [] ∧ isValidTenantID tenantID = false then none else getKey tenantID key

def redisKey (key : Bytes) : Option Bytes := redisFullKey tenantID (normalizeRateLimitKey key)

-- The key incrementCounter counts under.
def counterKey (tenantID tier identity : Bytes) : Option Bytes :=
  if rl.keyPrefix ≠ [] then redisFullKey tenantID (buildKey rl tier identity) else redisKey tenantID (buildKey rl tier identity)

def Accepted : Prop := tenantID = [] ∨ isValidTenantID tenantID = true

theorem normalize_stem (tier identity : Bytes) :
    normalizeRateLimitKey (tier ++ text ":" ++ identity) = normalizeRateLimitKey (tier ++ text ":") ++ identity := by
  -- The name space ends with its only colon, so that the tier's own colon decides.
  have decided : keyPrefix <+: tier ++ text ":" ++ identity ↔ keyPrefix <+: tier ++ text ":" := by
    refine ⟨?_, fun starts => starts.trans (prefix_append ..)⟩
    intro starts
    rcases prefix_or_prefix_of_prefix starts (prefix_append (tier ++ text ":") identity) with inside | short
    · exact inside
    have shape : keyPrefix = text "ratelimit" ++ [58] := by decide
    rw [shape] at short ⊢
    rcases prefix_concat_iff.mp short with same | shorter
    · exact same ▸ prefix_rfl
    · have colon : (58 : UInt8) ∈ text "ratelimit" := shorter.subset (mem_append_right tier (by decide))
      exact absurd colon (by decide)
  simp only [normalizeRateLimitKey, isPrefixOf_iff_prefix, decided]
  split_ifs
  · rfl
  · simp only [append_assoc]

theorem full_key_append (key identity : Bytes) : redisFullKey tenantID (key ++ identity) = (redisFullKey tenantID key).map (· ++ identity) := by
  simp only [redisFullKey, getKey]
  split_ifs <;> simp

theorem counter_key_stem (tenantID tier identity : Bytes) :
    counterKey rl tenantID tier identity = (counterKey rl tenantID tier []).map (· ++ identity) := by
  simp only [counterKey, buildKey, redisKey]
  split_ifs
  · rw [← full_key_append, append_nil]
  · rw [← full_key_append, normalize_stem, append_nil]

theorem no_colon {tenantID} (valid : isValidTenantID tenantID = true) : (58 : UInt8) ∉ tenantID := by
  cases tenantID with
  | nil => cases valid
  | cons =>
    simp only [isValidTenantID, Bool.and_eq_true, List.all_eq_true] at valid
    intro member
    rcases mem_cons.mp member with same | later
    · rw [← same] at valid
      cases valid.1.2
    · cases valid.2 58 later

theorem accepted_counted {tenantID} (accepted : Accepted tenantID) (rl : RateLimiter) (tier : Bytes) :
    ∃ stem, counterKey rl tenantID tier [] = some stem := by
  have full : ∀ key, ∃ stem, redisFullKey tenantID key = some stem := by
    intro key
    rcases accepted with rfl | valid
    · exact ⟨key, rfl⟩
    · simp only [redisFullKey, getKey, valid, no_colon valid]
      split_ifs <;> simp_all
  unfold counterKey
  split
  · exact full _
  · exact full _

end LibCommons.RateLimit
