import LibCommons.Lib.Split
import LibCommons.Idempotency.Middleware
import LibCommons.SignedCursor.Scope

namespace LibCommons.Idempotency

open List

open SignedCursor (GoBytes)

section

-- Tenant and key are Go strings, so any bytes; the provider's UTF-8 strings are those of store_key_address.
abbrev TenantBytes := { tenant : Bytes // (58 : UInt8) ∉ tenant }

def address (keyPrefix : Bytes) (tenant : TenantBytes) (key : Bytes) : Bytes := keyPrefix ++ tenant.val ++ [58] ++ key

variable {H : Type} (m : Middleware H)

theorem resolved_tenant {m : Middleware H} {request : Request} {tenant : String}
    (resolved : resolveTenant m request = .ok tenant) : ':' ∉ tenant.toList := by
  simp only [resolveTenant] at resolved
  split_ifs at resolved with colon
  rwa [Except.ok.inj resolved] at colon

theorem address_injective (keyPrefix) : Function.Injective fun pair : TenantBytes × Bytes => address keyPrefix pair.1 pair.2 := by
  rintro ⟨⟨_, free⟩, _⟩ ⟨⟨_, free'⟩, _⟩ same
  simp only [address, append_assoc, cons_append, nil_append] at same
  obtain ⟨rfl, rfl⟩ := Split.cut_injective 58 free free' (append_cancel_left same)
  rfl

theorem store_key_address {request : Request} {tenant : String} (resolved : resolveTenant m request = .ok tenant)
    (key : String) : bytesOf (storeKey m tenant key) =
      address (bytesOf m.keyPrefix) ⟨bytesOf tenant, Bytes.utf8_free ':' (by decide) (resolved_tenant resolved)⟩ (bytesOf key) := by
  have colon : String.utf8EncodeChar ':' = [58] := by decide
  simp [bytesOf, storeKey, address, Bytes.utf8, colon]

end

structure Operation where
  method : String
  path : Bytes
  body : Bytes
  mutating : isMutating method = true
  oneLine : (10 : UInt8) ∉ path

def Operation.preimage (op : Operation) : Bytes := bytesOf op.method ++ [10] ++ op.path ++ [10] ++ op.body

def Operation.scopedPreimage (op : Operation) (scope : GoBytes) : Bytes :=
  fingerprintScopeDomain ++ bigEndian64 scope.val.length ++ scope.val ++ op.preimage

theorem request_fingerprint_preimage (method path body mutating oneLine) :
    requestFingerprintInput method path body = (Operation.mk method (bytesOf path) body mutating oneLine).preimage := rfl

theorem scoped_fingerprint_preimage (scope method path body mutating oneLine short) : scopedFingerprintInput scope method path body =
      (Operation.mk method (bytesOf path) body mutating oneLine).scopedPreimage ⟨bytesOf scope, short⟩ := rfl

theorem mutating_cases {method} (mutating : isMutating method = true) : method = "POST" ∨ method = "PUT" ∨ method = "PATCH" ∨ method = "DELETE" := by
  simpa [isMutating, or_assoc] using mutating

theorem method_one_line {method} (mutating : isMutating method = true) : (10 : UInt8) ∉ bytesOf method := by
  obtain rfl | rfl | rfl | rfl := mutating_cases mutating <;> decide

-- The domain tag starts with an l, and no method does.
theorem method_untagged {method} (mutating : isMutating method = true) (rest rest') : fingerprintScopeDomain ++ rest ≠ bytesOf method ++ rest' := by
  intro same
  have first := congrArg List.head? same
  revert first
  obtain rfl | rfl | rfl | rfl := mutating_cases mutating <;> exact of_decide_eq_false rfl

theorem preimage_injective : Function.Injective Operation.preimage := by
  rintro ⟨_, _, _, mutating, oneLine⟩ ⟨_, _, _, mutating', oneLine'⟩ same
  simp only [Operation.preimage, append_assoc, cons_append, nil_append] at same
  obtain ⟨methods, rest⟩ := Split.cut_injective 10 (method_one_line mutating) (method_one_line mutating') same
  obtain ⟨rfl, rfl⟩ := Split.cut_injective 10 oneLine oneLine' rest
  obtain rfl := String.toList_injective (Bytes.utf8_injective methods)
  rfl

theorem big_endian_same (n : Nat) : bigEndian64 n = SignedCursor.bigEndian64 n := by
  simp [bigEndian64, SignedCursor.bigEndian64, List.range, List.range.loop]

theorem scoped_injective : Function.Injective fun pair : GoBytes × Operation => pair.2.scopedPreimage pair.1 := by
  rintro ⟨⟨_, short⟩, _⟩ ⟨⟨_, short'⟩, _⟩ same
  simp only [Operation.scopedPreimage, append_assoc, big_endian_same] at same
  obtain ⟨lengths, rest⟩ := append_inj (append_cancel_left same) rfl
  have length := SignedCursor.big_endian_injective _ _ (short.trans (by decide)) (short'.trans (by decide)) lengths
  obtain ⟨rfl, ops⟩ := append_inj rest length
  rw [preimage_injective ops]

theorem scoped_unlike (scope : GoBytes) (op op' : Operation) : op.scopedPreimage scope ≠ op'.preimage := by
  simp only [Operation.scopedPreimage, Operation.preimage, append_assoc]
  exact method_untagged op'.mutating _ _

theorem identities_never_alias :
    (∀ (H : Type) (m : Middleware H) (request request' : Request) (tenant tenant' key key' : String),
      resolveTenant m request = .ok tenant → resolveTenant m request' = .ok tenant' →
        storeKey m tenant key = storeKey m tenant' key' → tenant = tenant' ∧ key = key') ∧
    (∀ keyPrefix, Function.Injective fun pair : TenantBytes × Bytes => address keyPrefix pair.1 pair.2) ∧
    Function.Injective Operation.preimage ∧
    (Function.Injective fun pair : GoBytes × Operation => pair.2.scopedPreimage pair.1) ∧
    ∀ scope (op op' : Operation), op.scopedPreimage scope ≠ op'.preimage := by
  refine ⟨?_, address_injective, preimage_injective, scoped_injective, scoped_unlike⟩
  intro _ _ _ _ _ _ _ _ resolved resolved' same
  have runes := congrArg String.toList same
  simp only [storeKey, String.toList_append, append_assoc] at runes
  obtain ⟨tenants, keys⟩ := Split.cut_injective ':' (resolved_tenant resolved) (resolved_tenant resolved')
    (append_cancel_left runes)
  exact ⟨String.toList_injective tenants, String.toList_injective keys⟩

end LibCommons.Idempotency
