import Mathlib

namespace LibCommons.Ssrf

-- netip.Addr. The zero value is no address; a zone, empty for none, is only on IPv6.
inductive Addr where
  | zero
  | four (bits : BitVec 32)
  | six (bits : BitVec 128) (zone : String)
deriving DecidableEq

-- netip.Prefix: the address in front of the slash and how many of its bits count.
inductive Prefix where
  | four (base : BitVec 32) (bits : Nat)
  | six (base : BitVec 128) (bits : Nat)
deriving DecidableEq

def ip4 (a b c d : BitVec 8) : BitVec 32 := a ++ b ++ c ++ d

def ip6 (a b c d e f g h : BitVec 16) : BitVec 128 := a ++ b ++ c ++ d ++ e ++ f ++ g ++ h

namespace Addr

def isValid : Addr → Bool
  | zero => false
  | _ => true

def is4In6 : Addr → Bool
  | six bits _ => bits >>> 32 == 0xffff#128
  | _ => false

def unmap : Addr → Addr
  | six bits zone => if is4In6 (six bits zone) then four (bits.extractLsb' 0 32) else six bits zone
  | addr => addr

def withZone : Addr → String → Addr
  | six bits _, zone => six bits zone
  | addr, _ => addr

def as16 : Addr → BitVec 128
  | zero => 0#128
  | four bits => 0#80 ++ 0xffff#16 ++ bits
  | six bits _ => bits

def isLoopback : Addr → Bool
  | four bits => bits.extractLsb' 24 8 == 127#8
  | six bits _ => bits == 1#128
  | zero => false

def isPrivate : Addr → Bool
  | four bits =>
    bits.extractLsb' 24 8 == 10#8 || (bits.extractLsb' 24 8 == 172#8 && bits.extractLsb' 16 8 &&& 0xf0#8 == 16#8) ||
      (bits.extractLsb' 24 8 == 192#8 && bits.extractLsb' 16 8 == 168#8)
  | six bits _ => bits.extractLsb' 120 8 &&& 0xfe#8 == 0xfc#8
  | zero => false

def isLinkLocalUnicast : Addr → Bool
  | four bits => bits.extractLsb' 24 8 == 169#8 && bits.extractLsb' 16 8 == 254#8
  | six bits _ => bits.extractLsb' 112 16 &&& 0xffc0#16 == 0xfe80#16
  | zero => false

def isLinkLocalMulticast : Addr → Bool
  | four bits => bits.extractLsb' 24 8 == 224#8 && bits.extractLsb' 16 8 == 0#8 && bits.extractLsb' 8 8 == 0#8
  | six bits _ => bits.extractLsb' 112 16 &&& 0xff0f#16 == 0xff02#16
  | zero => false

def isMulticast : Addr → Bool
  | four bits => bits.extractLsb' 24 8 &&& 0xf0#8 == 0xe0#8
  | six bits _ => bits.extractLsb' 120 8 == 0xff#8
  | zero => false

def isUnspecified (addr : Addr) : Bool := addr == four 0#32 || addr == six 0#128 ""

end Addr

def mask6 (bits : Nat) : BitVec 128 := ~~~(BitVec.allOnes 128 >>> bits)

-- An address with a zone is in no prefix, and the two families never meet.
def Prefix.contains : Prefix → Addr → Bool
  | .four base bits, .four addr => (addr ^^^ base) >>> (32 - bits) == 0#32
  | .six base bits, .six addr zone => zone == "" && (addr ^^^ base) &&& mask6 bits == 0#128
  | _, _ => false

def blockedPrefixes : List Prefix := [.four (ip4 0 0 0 0) 8, .four (ip4 100 64 0 0) 10, .four (ip4 192 0 0 0) 24, .four (ip4 192 0 2 0) 24,
    .four (ip4 198 18 0 0) 15, .four (ip4 198 51 100 0) 24, .four (ip4 203 0 113 0) 24, .four (ip4 240 0 0 0) 4,
    .six (ip6 0x2001 0xdb8 0 0 0 0 0 0) 32, .six (ip6 0x100 0 0 0 0 0 0 0) 64, .six (ip6 0x2001 0 0 0 0 0 0 0) 32,
    .six (ip6 0x64 0xff9b 1 0 0 0 0 0) 48]

def nat64WellKnown : Prefix := .six (ip6 0x64 0xff9b 0 0 0 0 0 0) 96

def sixToFour : Prefix := .six (ip6 0x2002 0 0 0 0 0 0 0) 16

def embeddedIPv4 (addr : Addr) : Option (BitVec 32) :=
  if nat64WellKnown.contains addr then some (addr.as16.extractLsb' 0 32)
  else if sixToFour.contains addr then some (addr.as16.extractLsb' 80 32)
  else none

-- The predicates of the standard library IsBlockedAddr asks.
def special (addr : Addr) : Bool :=
  addr.isLoopback || addr.isPrivate || addr.isLinkLocalUnicast || addr.isLinkLocalMulticast || addr.isMulticast || addr.isUnspecified

theorem embedded_four (bits) : embeddedIPv4 (.four bits) = none := rfl

theorem unmap_six {addr : Addr} {v4 : BitVec 32} (embedded : embeddedIPv4 (addr.unmap.withZone "") = some v4) :
    ∃ bits zone, addr = .six bits zone := by
  cases addr with
  | zero | four => cases embedded
  | six bits zone => exact ⟨bits, zone, rfl⟩

-- Only an IPv6 address embeds another, and what it embeds is IPv4.
def isBlockedAddr (addr : Addr) : Bool :=
  if !addr.isValid then true
  else
    let plain := addr.unmap.withZone ""
    match _ : embeddedIPv4 plain with
    | some v4 => isBlockedAddr (.four v4)
    | none => special plain || blockedPrefixes.any fun blocked => blocked.contains plain
termination_by match addr with | .six _ _ => 1 | _ => 0
decreasing_by
  obtain ⟨_, _, rfl⟩ := unmap_six (by assumption)
  exact Nat.zero_lt_one

-- Zone dropped, unmapped, and the IPv4 address a NAT64 or 6to4 address carries in its place.
def canonical (addr : Addr) : Addr :=
  let plain := addr.unmap.withZone ""
  match embeddedIPv4 plain with
  | some v4 => .four v4
  | none => plain

-- The ways to write an IPv4 address.
inductive Writes (a : BitVec 32) : Addr → Prop where
  | plain : Writes a (.four a)
  | mapped (zone) : Writes a (.six (0#80 ++ 0xffff#16 ++ a) zone)
  | nat64 (zone) : Writes a (.six (0x64#16 ++ 0xff9b#16 ++ 0#64 ++ a) zone)
  | sixToFour (rest : BitVec 80) (zone : String) : Writes a (.six (0x2002#16 ++ a ++ rest) zone)

section

theorem append_shift {m n} (high : BitVec m) (low : BitVec n) : (high ++ low) >>> n = high.setWidth (m + n) := by
  ext i hi
  simp [BitVec.getLsbD_append]

variable {bits : Nat}

theorem masked_difference (x y) (fits : bits ≤ 128) : (x ^^^ y) &&& mask6 bits = 0#128 ↔ x >>> (128 - bits) = y >>> (128 - bits) := by
  constructor
  · intro none
    apply BitVec.eq_of_getLsbD_eq
    intro i hi
    have bit := congrArg (fun z => z.getLsbD (128 - bits + i)) none
    simp only [mask6, BitVec.getLsbD_and, BitVec.getLsbD_xor, BitVec.getLsbD_not, BitVec.getLsbD_ushiftRight,
      BitVec.getLsbD_allOnes, BitVec.getLsbD_zero] at bit ⊢
    by_cases inside : 128 - bits + i < 128
    · have off : ¬ bits + (128 - bits + i) < 128 := by omega
      simpa [inside, off] using bit
    · rw [BitVec.getLsbD_of_ge x _ (by omega), BitVec.getLsbD_of_ge y _ (by omega)]
  · intro same
    apply BitVec.eq_of_getLsbD_eq
    intro i hi
    have bit := congrArg (fun z => z.getLsbD (i - (128 - bits))) same
    simp only [mask6, BitVec.getLsbD_and, BitVec.getLsbD_xor, BitVec.getLsbD_not, BitVec.getLsbD_ushiftRight,
      BitVec.getLsbD_allOnes, BitVec.getLsbD_zero] at bit ⊢
    by_cases low : bits + i < 128
    · simp [low, hi]
    · have back : 128 - bits + (i - (128 - bits)) = i := by omega
      rw [back] at bit
      simp [bit]

theorem contains_six (base addr) (fits : bits ≤ 128) :
    (Prefix.six base bits).contains (.six addr "") = true ↔ addr >>> (128 - bits) = base >>> (128 - bits) := by
  simp only [Prefix.contains, BEq.rfl, Bool.true_and, beq_iff_eq]
  exact masked_difference addr base fits

end

theorem unmap_plain {bits : BitVec 128} (zone) (other : bits >>> 32 ≠ 0xffff#128) : (Addr.six bits zone).unmap.withZone "" = .six bits "" := by
  have no : Addr.is4In6 (.six bits zone) = false := by simp [Addr.is4In6, other]
  simp [Addr.unmap, no, Addr.withZone]

theorem writes_canonical {a : BitVec 32} {form : Addr} (writes : Writes a form) : canonical form = .four a := by
  cases writes with
  | plain => rfl
  | mapped zone =>
    have top : (0#80 ++ 0xffff#16 ++ a) >>> 32 = 0xffff#128 := append_shift (0#80 ++ 0xffff#16) a
    have yes : Addr.is4In6 (.six (0#80 ++ 0xffff#16 ++ a) zone) = true := by simp only [Addr.is4In6, top, BEq.rfl]
    have low : (0#80 ++ 0xffff#16 ++ a).extractLsb' 0 32 = a := BitVec.extractLsb'_append_eq_right
    simp only [canonical, Addr.unmap, yes, if_true, low, Addr.withZone, embedded_four]
  | nat64 zone =>
    have top : (0x64#16 ++ 0xff9b#16 ++ 0#64 ++ a) >>> 32 = 0x64ff9b0000000000000000#128 := append_shift (0x64#16 ++ 0xff9b#16 ++ 0#64) a
    have other : (0x64#16 ++ 0xff9b#16 ++ 0#64 ++ a) >>> 32 ≠ 0xffff#128 := by
      rw [top]
      decide
    have inside : nat64WellKnown.contains (.six (0x64#16 ++ 0xff9b#16 ++ 0#64 ++ a) "") = true := by
      apply (contains_six _ _ (by decide)).mpr
      exact top
    have low : (0x64#16 ++ 0xff9b#16 ++ 0#64 ++ a).extractLsb' 0 32 = a := BitVec.extractLsb'_append_eq_right
    simp only [canonical, unmap_plain zone other, embeddedIPv4, inside, if_true, Addr.as16, low]
  | sixToFour rest zone =>
    have regroup : 0x2002#16 ++ a ++ rest = 0x2002#16 ++ (a ++ rest) := BitVec.append_assoc
    have high : (0x2002#16 ++ a ++ rest) >>> 112 = 0x2002#128 := by
      rw [regroup]
      exact append_shift 0x2002#16 (a ++ rest)
    -- The first sixteen bits tell 6to4 from the two forms that end in the address.
    have further (known : BitVec 128) (same : (0x2002#16 ++ a ++ rest) >>> 32 = known) : known >>> 80 = 0x2002#128 := by
      rw [← same, ← BitVec.shiftRight_add]
      exact high
    have other : (0x2002#16 ++ a ++ rest) >>> 32 ≠ 0xffff#128 := by
      intro same
      exact absurd (further _ same) (by decide)
    have outside : nat64WellKnown.contains (.six (0x2002#16 ++ a ++ rest) "") = false := by
      rw [Bool.eq_false_iff]
      intro contained
      exact absurd (further _ ((contains_six _ _ (by decide)).mp contained)) (by decide)
    have inside : sixToFour.contains (.six (0x2002#16 ++ a ++ rest) "") = true := by
      apply (contains_six _ _ (by decide)).mpr
      exact high
    have middle : (0x2002#16 ++ a ++ rest).extractLsb' 80 32 = a := by
      rw [BitVec.extractLsb'_append_eq_of_le (by decide)]
      exact BitVec.extractLsb'_append_eq_right
    simp only [canonical, unmap_plain zone other, embeddedIPv4, outside, Bool.false_eq_true, if_false, inside, if_true, Addr.as16, middle]

theorem blocked_four (bits) : isBlockedAddr (.four bits) =
      (special (.four bits) || blockedPrefixes.any fun blocked => blocked.contains (.four bits)) := by
  rw [isBlockedAddr]
  simp [Addr.isValid, Addr.unmap, Addr.withZone, embedded_four]

theorem canonical_four (bits) : canonical (.four bits) = .four bits := rfl

theorem canonical_zone (bits zone) : canonical (.six bits zone) = canonical (.six bits "") := by
  by_cases mapped : Addr.is4In6 (.six bits "") = true
  · have zoned : Addr.is4In6 (.six bits zone) = true := mapped
    simp only [canonical, Addr.unmap, mapped, zoned, if_true]
  · have zoned : ¬Addr.is4In6 (.six bits zone) = true := mapped
    simp only [canonical, Addr.unmap, if_neg mapped, if_neg zoned, Addr.withZone]

theorem plain_valid {addr : Addr} (valid : addr.isValid = true) : (addr.unmap.withZone "").isValid = true := by
  cases addr with
  | zero => cases valid
  | four => rfl
  | six bits zone =>
    by_cases mapped : Addr.is4In6 (.six bits zone) = true
    · simp [Addr.unmap, mapped, Addr.withZone, Addr.isValid]
    · simp [Addr.unmap, mapped, Addr.withZone, Addr.isValid]

-- The embedded address is IPv4, so the recursion ends at the first step down.
theorem blocked_canonical (addr) : isBlockedAddr addr = (!(canonical addr).isValid || special (canonical addr) ||
        blockedPrefixes.any fun blocked => blocked.contains (canonical addr)) := by
  rw [isBlockedAddr]
  cases valid : addr.isValid with
  | false =>
    cases addr with
    | zero => rfl
    | four | six => cases valid
  | true =>
    have plain := plain_valid valid
    simp only [Bool.not_true, Bool.false_eq_true, if_false]
    split
    case h_1 v4 embedded => simp [canonical, embedded, blocked_four, Addr.isValid]
    case h_2 embedded => simp [canonical, embedded, plain]

theorem embedding_never_hides :
    (∀ (a : BitVec 32) (form : Addr), Writes a form → isBlockedAddr form = isBlockedAddr (.four a)) ∧
    (∀ (bits : BitVec 128) (zone : String), isBlockedAddr (.six bits zone) = isBlockedAddr (.six bits "")) ∧
    ∀ addr : Addr, isBlockedAddr addr = true ↔
      canonical addr = .zero ∨ special (canonical addr) = true ∨
        ∃ blocked ∈ blockedPrefixes, blocked.contains (canonical addr) = true := by
  refine ⟨?_, ?_, ?_⟩
  · intro a form writes
    rw [blocked_canonical form, writes_canonical writes, blocked_canonical (.four a), canonical_four]
  · intro _ _
    rw [blocked_canonical, canonical_zone, ← blocked_canonical]
  · intro addr
    have invalid : (canonical addr).isValid = false ↔ canonical addr = .zero := by
      cases canonical addr <;> simp [Addr.isValid]
    simp only [blocked_canonical, Bool.or_eq_true, Bool.not_eq_true', List.any_eq_true, invalid, or_assoc]

end LibCommons.Ssrf
