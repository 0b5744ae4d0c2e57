import LibCommons.Lib.Glob
import LibCommons.Lib.Split
import LibCommons.RateLimit.Keys

namespace LibCommons.RateLimit

open List Option

open Glob (accepts tokens Plain)

variable (tenantID : Bytes)

def getPattern (pattern : Bytes) : Option Bytes :=
  if tenantID = [] then some pattern
  else if 58 ∈ tenantID then none
  else some (text "tenant" ++ text ":" ++ tenantID ++ text ":" ++ pattern)

def stripTenantPrefix (prefixedKey : Bytes) : Option Bytes :=
  if tenantID = [] then some prefixedKey
  else if 58 ∈ tenantID then none
  else
    let front := text "tenant" ++ text ":" ++ tenantID ++ text ":"
    some (if front.isPrefixOf prefixedKey then prefixedKey.drop front.length else prefixedKey)

-- The tenants GetKey prefixes, over an alphabet of their own.
def Named (allowed : UInt8 → Prop) : Prop := tenantID ≠ [] ∧ 58 ∉ tenantID ∧ ∀ x ∈ tenantID, allowed x

def Disjoint (allowed : UInt8 → Prop) : Prop := ∀ tenantID tenantID', Named tenantID allowed → Named tenantID' allowed → ∀ key key' pattern,
    (getKey tenantID key = getKey tenantID' key' → tenantID = tenantID' ∧ key = key') ∧
    (getKey tenantID key).bind (stripTenantPrefix tenantID) = some key ∧
    ∀ glob produced, getPattern tenantID pattern = some glob → getKey tenantID' key' = some produced →
      accepts (tokens none glob) produced = true → tenantID' = tenantID

variable {tenantID} {allowed : UInt8 → Prop} {x : UInt8}

def front : Bytes := text "tenant:"

theorem front_plain : ∀ y ∈ front, Plain y := by
  have bytes : front = [116, 101, 110, 97, 110, 116, 58] := by decide
  rw [bytes]
  simp [Plain]

theorem key_named (named : Named tenantID allowed) (key : Bytes) : getKey tenantID key = some (front ++ (tenantID ++ 58 :: key)) := by
  have whole : front = text "tenant" ++ text ":" := by decide
  have colon : text ":" = [58] := by decide
  rw [getKey, if_neg named.1, if_neg named.2.1, whole, colon]
  simp

theorem key_stripped (named : Named tenantID allowed) (key : Bytes) : (getKey tenantID key).bind (stripTenantPrefix tenantID) = some key := by
  rw [getKey, if_neg named.1, if_neg named.2.1, Option.bind_some, stripTenantPrefix, if_neg named.1, if_neg named.2.1]
  simp [ isPrefixOf_iff_prefix]

theorem letter_apart (letter : isTenantIDAlnum x = true) : ∀ y ∈ ([42, 63, 91, 92, 93, 45, 58] : Bytes), x ≠ y := by
  rintro y member rfl
  have refused : ∀ y ∈ ([42, 63, 91, 92, 93, 45, 58] : Bytes), isTenantIDAlnum y = false := by simp [isTenantIDAlnum]
  rw [refused x member] at letter
  cases letter

-- Where the name spaces are disjoint, only the tenant of a single letter has a pattern that its key matches.
theorem letter_own (disjoint : Disjoint allowed) (letter : isTenantIDAlnum x = true) (known : allowed x) (special ending : Bytes)
    (named : Named special allowed) (matched : accepts (tokens none (special ++ 58 :: ending)) [x, 58] = true) : [x] = special := by
  have own : Named [x] allowed := ⟨by simp, by simpa [eq_comm] using letter_apart letter 58, by simpa using known⟩
  refine (disjoint special [x] named own [] [] ending).2.2 _ _ (key_named named ending) (key_named own []) ?_
  exact Glob.accepts_self (fun y member => (front_plain y member).2.2) matched

theorem disjoint_iff (letter : isTenantIDAlnum x = true) (known : allowed x) : Disjoint allowed ↔ ∀ y, allowed y → Plain y := by
  constructor
  · intro disjoint y special
    have own := letter_own disjoint letter known
    have apart := letter_apart letter
    simp only [forall_mem_cons] at apart
    obtain ⟨star, any, opening, escape, closing, dash, colon, -⟩ := apart
    refine ⟨?_, ?_, ?_, ?_⟩ <;> rintro rfl
    · have same := own [42] [] (by simp [Named, special]) (by simp [LibCommons.Glob.tokens.eq_def, accepts, range_succ])
      exact star (singleton_inj.mp same)
    · have same := own [63] [] (by simp [Named, special]) (by simp [LibCommons.Glob.tokens.eq_def, accepts])
      exact any (singleton_inj.mp same)
    · -- [: and the pattern x]: make a class
      have same := own [91] [x, 93, 58] (by simp [Named, special]) (by simp [LibCommons.Glob.tokens.eq_def, accepts, escape, closing, dash])
      exact opening (singleton_inj.mp same)
    · -- the delimiter is escaped
      have same := own [x, 92] [] (by simp [Named, special, known, colon.symm])
        (by simp [LibCommons.Glob.tokens.eq_def, accepts, star, any, opening, escape])
      cases same
  · intro plain tenantID tenantID' named named' key key' pattern
    refine ⟨?_, key_stripped named key, ?_⟩
    · intro same
      rw [key_named named, key_named named'] at same
      exact Split.cut_injective 58 named.2.1 named'.2.1 (append_cancel_left (some.inj same))
    · intro glob produced shape source matched
      obtain rfl := some.inj (shape.symm.trans (key_named named pattern))
      obtain rfl := some.inj (source.symm.trans (key_named named' key'))
      rw [append_cons] at matched
      obtain ⟨rest, same, matched⟩ := Glob.accepts_plain front_plain matched
      rw [← append_cancel_left same] at matched
      have free : ∀ y ∈ tenantID ++ [58], Plain y := by
        rw [forall_mem_append]
        exact ⟨fun y member => plain y (named.2.2 y member), by simp [Plain]⟩
      obtain ⟨rest, same, -⟩ := Glob.accepts_plain free matched
      exact (Split.cut_injective 58 named'.2.1 named.2.1 (by simpa using same)).1

theorem letters_disjoint : isTenantIDAlnum 97 = true ∧ Disjoint fun y => isTenantIDAlnum y = true := by
  have letter : isTenantIDAlnum 97 = true := rfl
  refine ⟨letter, (disjoint_iff letter letter).mpr fun y letter => ?_⟩
  have apart := letter_apart letter
  exact ⟨apart 42 (by simp), apart 63 (by simp), apart 91 (by simp), apart 92 (by simp)⟩

-- The pattern of tenant * matches the keys of tenant a.
theorem star_reaches_others : (getPattern (text "*") []).bind (fun glob => (getKey (text "a") []).map (accepts (tokens none glob))) =
    some true ∧ text "a" ≠ text "*" := by
  decide +kernel

end LibCommons.RateLimit
