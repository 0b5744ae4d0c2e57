import LibCommons.Lib.Json
import LibCommons.Lib.Runes
import LibCommons.Lib.Split

namespace LibCommons.Webhook

open List Bytes Json Option

-- crypto/hmac over SHA-256 stays outside: a key and a message give a MAC.
variable (hmac : Bytes → Bytes → Bytes)

inductive SignatureVersion where
  | signatureV0
  | signatureV1
deriving DecidableEq, Repr

def hexEncode (bytes : Bytes) : Bytes := bytes.flatMap fun byte => utf8 [hexDigit (byte.toNat / 16), hexDigit (byte.toNat % 16)]

def sha256Prefix : Bytes := utf8 ['s', 'h', 'a', '2', '5', '6', '=']

def v1Prefix : Bytes := utf8 ['v', '1', ',']

def formatTimestamp (timestamp : Int64) : Bytes := utf8 (intLiteral timestamp.toInt)

def computeHMAC (payload secret : Bytes) : Bytes := hexEncode (hmac secret payload)

def v1Input (payload : Bytes) (timestamp : Int64) : Bytes := utf8 ['v', '1', ':'] ++ (formatTimestamp timestamp ++ (utf8 ['.'] ++ payload))

def computeHMACv1 (payload : Bytes) (timestamp : Int64) (secret : Bytes) : Bytes :=
  v1Prefix ++ sha256Prefix ++ hexEncode (hmac secret (v1Input payload timestamp))

def computeSignature (sigVersion : SignatureVersion) (payload : Bytes) (timestamp : Int64) (secret : Bytes) : Bytes :=
  match sigVersion with
  | .signatureV1 => computeHMACv1 hmac payload timestamp secret
  | .signatureV0 => sha256Prefix ++ computeHMAC hmac payload secret

inductive SignatureError where
  | v1Mismatch
  | v0Mismatch
  | unrecognizedFormat
  | v1Required
  | outsideTolerance (delta tolerance : Int)
deriving DecidableEq, Repr

def verifySignature (payload : Bytes) (timestamp : Int64) (secret signature : Bytes) : Except SignatureError Unit :=
  if v1Prefix.isPrefixOf signature then
    if signature = computeHMACv1 hmac payload timestamp secret then .ok () else .error .v1Mismatch
  else if sha256Prefix.isPrefixOf signature then
    if signature = sha256Prefix ++ computeHMAC hmac payload secret then .ok () else .error .v0Mismatch
  else .error .unrecognizedFormat

def verifySignatureV1 (payload : Bytes) (timestamp : Int64) (secret signature : Bytes) : Except SignatureError Unit :=
  if v1Prefix.isPrefixOf signature then verifySignature hmac payload timestamp secret signature
  else .error .v1Required

-- now.Sub(time.Unix(timestamp, 0)).Abs(), in nanoseconds; Sub saturates.
def delta (timestamp : Int64) (now : Int) : Int := min |now - timestamp.toInt * 1000000000| (2 ^ 63 - 1)

def verifySignatureWithFreshnessAt (payload : Bytes) (timestamp : Int64) (secret signature : Bytes)
    (tolerance now : Int) : Except SignatureError Unit := do
  verifySignature hmac payload timestamp secret signature
  if v1Prefix.isPrefixOf signature ∧ delta timestamp now > tolerance then
    throw (.outsideTolerance (delta timestamp now) tolerance)

def verifySignatureV1WithFreshnessAt (payload : Bytes) (timestamp : Int64) (secret signature : Bytes)
    (tolerance now : Int) : Except SignatureError Unit := do
  verifySignatureV1 hmac payload timestamp secret signature
  if delta timestamp now > tolerance then
    throw (.outsideTolerance (delta timestamp now) tolerance)

variable (secret : Bytes)

def Accepts (payload : Bytes) (timestamp : Int64) (signature : Bytes) : Prop :=
  verifySignature hmac payload timestamp secret signature = .ok () ∨ verifySignatureV1 hmac payload timestamp secret signature = .ok () ∨
      (∃ tolerance now, verifySignatureWithFreshnessAt hmac payload timestamp secret signature tolerance now = .ok ()) ∨
        ∃ tolerance now, verifySignatureV1WithFreshnessAt hmac payload timestamp secret signature tolerance now = .ok ()

def readSignature (signature : Bytes) : Option (SignatureVersion × Bytes) :=
  if (v1Prefix ++ sha256Prefix).isPrefixOf signature then
    some (.signatureV1, signature.drop (v1Prefix ++ sha256Prefix).length)
  else if sha256Prefix.isPrefixOf signature then some (.signatureV0, signature.drop sha256Prefix.length)
  else none

structure Delivery where
  version : SignatureVersion
  payload : Bytes
  timestamp : Int64
deriving DecidableEq

def Delivery.signature (delivery : Delivery) : Bytes := computeSignature hmac delivery.version delivery.payload delivery.timestamp secret

-- The delivery tells what an accepted triple of a version tells; v0 does not sign the timestamp.
def Delivery.Tells (delivery : Delivery) (version : SignatureVersion) (payload : Bytes) (timestamp : Int64) : Prop :=
  delivery.version = version ∧ delivery.payload = payload ∧ (version = .signatureV1 → delivery.timestamp = timestamp)

def Separated (deliveries : Set Delivery) : Prop :=
  ∀ payload timestamp signature version mac, Accepts hmac secret payload timestamp signature →
    readSignature signature = some (version, mac) →
    (∃ delivery ∈ deliveries, (readSignature (delivery.signature hmac secret)).map Prod.snd = some mac) →
    ∃ delivery ∈ deliveries, (readSignature (delivery.signature hmac secret)).map Prod.snd = some mac ∧
      delivery.Tells version payload timestamp

section

variable (byte : UInt8)

def hexPair : List Char := [hexDigit (byte.toNat / 16), hexDigit (byte.toNat % 16)]

theorem hex_digit_width {n} (small : n < 16) : (String.utf8EncodeChar (hexDigit n)).length = 1 := by
  interval_cases n <;> decide

theorem hex_pair_width : (utf8 (hexPair byte)).length = 2 := by
  have range := byte.toNat_lt
  simp [utf8, hexPair, hex_digit_width (by omega : byte.toNat / 16 < 16), hex_digit_width (by omega : byte.toNat % 16 < 16)]

theorem hex_pair_injective {first second} (same : hexPair first = hexPair second) : first = second := by
  have range := first.toNat_lt
  have range' := second.toNat_lt
  simp only [hexPair, List.cons.injEq, and_true] at same
  have high := congrArg hexValue same.1
  have low := congrArg hexValue same.2
  rw [hex_value_digit _ (by omega), hex_value_digit _ (by omega), some.injEq] at high low
  apply UInt8.toNat_inj.mp
  omega

theorem hex_encode_cons (rest) : hexEncode (byte :: rest) = utf8 (hexPair byte) ++ hexEncode rest := rfl

theorem hex_encode_length (bytes) : (hexEncode bytes).length = 2 * bytes.length := by
  induction bytes with
  | nil => rfl
  | cons _ _ ih =>
    rw [hex_encode_cons, length_append, hex_pair_width, ih, length_cons]
    omega

theorem hex_encode_injective : Function.Injective hexEncode := by
  intro first second same
  have length : first.length = second.length := by
    have lengths := congrArg List.length same
    rw [hex_encode_length, hex_encode_length] at lengths
    omega
  induction first generalizing second with
  | nil => exact (length_eq_zero_iff.mp length.symm).symm
  | cons _ _ ih =>
    cases second with
    | nil => cases length
    | cons =>
      rw [hex_encode_cons, hex_encode_cons] at same
      obtain ⟨head, tail⟩ := append_inj same (by rw [hex_pair_width, hex_pair_width])
      rw [hex_pair_injective (utf8_injective head), ih tail (Nat.succ.inj length)]

theorem digit_bytes {c} (digit : c = '-' ∨ c.isDigit = true) : 46 ∉ String.utf8EncodeChar c := by
  rcases digit with rfl | digit
  · decide
  simp only [Char.isDigit, Bool.and_eq_true, decide_eq_true_eq] at digit
  have low : 48 ≤ c.toNat := digit.1
  have high : c.toNat ≤ 57 := digit.2
  rw [← Char.ofNat_toNat c]
  generalize c.toNat = n at low high
  interval_cases n <;> decide

theorem timestamp_bytes (timestamp : Int64) : 46 ∉ formatTimestamp timestamp := by
  intro member
  obtain ⟨c, listed, encoded⟩ := mem_flatMap.mp member
  apply digit_bytes _ encoded
  unfold intLiteral at listed
  split at listed
  · rcases mem_cons.mp listed with minus | digit
    · exact Or.inl minus
    · exact Or.inr (all_digits _ c digit)
  · exact Or.inr (all_digits _ c listed)

variable {timestamp timestamp' : Int64}

theorem timestamp_injective (same : formatTimestamp timestamp = formatTimestamp timestamp') : timestamp = timestamp' := by
  have parsed := congrArg parseInt64 (utf8_injective same)
  rw [parse_int_literal timestamp.le_toInt timestamp.toInt_lt, parse_int_literal timestamp'.le_toInt timestamp'.toInt_lt, some.injEq] at parsed
  exact Int64.toInt_inj.mp parsed

theorem v1_input_injective {payload payload'} (same : v1Input payload timestamp = v1Input payload' timestamp') :
    payload = payload' ∧ timestamp = timestamp' := by
  have rest := append_cancel_left same
  have dot : utf8 ['.'] = [46] := by decide
  rw [dot, singleton_append, singleton_append] at rest
  have times : formatTimestamp timestamp = formatTimestamp timestamp' := by
    apply (Split.prefix_same 46 _ _ payload' (timestamp_bytes timestamp') (timestamp_bytes timestamp)).mp
    exact ⟨payload, by simpa using rest⟩
  rw [times] at rest
  exact ⟨tail_eq_of_cons_eq (append_cancel_left rest), timestamp_injective times⟩

end

theorem read_v0 (mac) : readSignature (sha256Prefix ++ mac) = some (.signatureV0, mac) := by
  have other : (v1Prefix ++ sha256Prefix).isPrefixOf (sha256Prefix ++ mac) = false := rfl
  have own : sha256Prefix.isPrefixOf (sha256Prefix ++ mac) = true := by simp
  rw [readSignature, if_neg (by simp [other]), if_pos own, drop_left]

theorem read_v1 (mac) : readSignature (v1Prefix ++ sha256Prefix ++ mac) = some (.signatureV1, mac) := by
  have own : (v1Prefix ++ sha256Prefix).isPrefixOf (v1Prefix ++ sha256Prefix ++ mac) = true := by simp
  rw [readSignature, if_pos own, drop_left]

def covered : SignatureVersion → Bytes → Int64 → Bytes
  | .signatureV0, payload, _ => payload
  | .signatureV1, payload, timestamp => v1Input payload timestamp

theorem read_signature (version payload) (timestamp : Int64) (secret) : readSignature (computeSignature hmac version payload timestamp secret) =
      some (version, hexEncode (hmac secret (covered version payload timestamp))) := by
  cases version with
  | signatureV0 => exact read_v0 _
  | signatureV1 => exact read_v1 _

theorem verify_signature (payload) (timestamp : Int64) (secret signature) : verifySignature hmac payload timestamp secret signature = .ok () ↔
      ∃ version, signature = computeSignature hmac version payload timestamp secret := by
  constructor
  · intro accepted
    unfold verifySignature at accepted
    split_ifs at accepted with _ same _ same
    · exact ⟨.signatureV1, same⟩
    · exact ⟨.signatureV0, same⟩
  · rintro ⟨version, rfl⟩
    cases version with
    | signatureV0 =>
      have other : v1Prefix.isPrefixOf (sha256Prefix ++ computeHMAC hmac payload secret) = false := rfl
      have own : sha256Prefix.isPrefixOf (sha256Prefix ++ computeHMAC hmac payload secret) = true := by simp
      simp [verifySignature, computeSignature, other]
    | signatureV1 =>
      have own : v1Prefix.isPrefixOf (computeHMACv1 hmac payload timestamp secret) = true := by simp [computeHMACv1]
      simp [verifySignature, computeSignature, own]

theorem strict_plain (payload) (timestamp : Int64) (secret signature) (strict : verifySignatureV1 hmac payload timestamp secret signature = .ok ()) :
    verifySignature hmac payload timestamp secret signature = .ok () := by
  unfold verifySignatureV1 at strict
  split_ifs at strict
  exact strict

theorem first_ok {check : Except SignatureError Unit} {more : Unit → Except SignatureError Unit}
    (both : (check >>= more) = .ok ()) : check = .ok () := by
  cases check with
  | error => cases both
  | ok => rfl

theorem accepts_iff (secret payload) (timestamp : Int64) (signature) : Accepts hmac secret payload timestamp signature ↔
      ∃ version, signature = computeSignature hmac version payload timestamp secret := by
  rw [← verify_signature]
  constructor
  · rintro (plain | strict | ⟨_, _, fresh⟩ | ⟨_, _, fresh⟩)
    · exact plain
    · exact strict_plain hmac payload timestamp secret signature strict
    · exact first_ok fresh
    · exact strict_plain hmac payload timestamp secret signature (first_ok fresh)
  · exact Or.inl

theorem delivery_mac (secret : Bytes) (delivery : Delivery) : (readSignature (delivery.signature hmac secret)).map Prod.snd =
      some (hexEncode (hmac secret (covered delivery.version delivery.payload delivery.timestamp))) := by
  rw [Delivery.signature, read_signature]
  rfl

def Paired (deliveries : Set Delivery) : Prop := (∀ delivery ∈ deliveries, delivery.version = .signatureV1 →
    ∃ other ∈ deliveries, other.version = .signatureV0 ∧ other.payload = v1Input delivery.payload delivery.timestamp) ∧
  ∀ delivery ∈ deliveries, delivery.version = .signatureV0 → ∀ payload timestamp, delivery.payload = v1Input payload timestamp →
      ∃ other ∈ deliveries, other.version = .signatureV1 ∧ other.payload = payload ∧ other.timestamp = timestamp

variable {delivery : Delivery} {version : SignatureVersion} {payload : Bytes} {timestamp : Int64}

theorem covered_told {deliveries} (paired : Paired deliveries) (sent : delivery ∈ deliveries)
    (same : covered delivery.version delivery.payload delivery.timestamp = covered version payload timestamp) :
    ∃ other ∈ deliveries, other.Tells version payload timestamp := by
  cases signed : delivery.version with
  | signatureV0 =>
    rw [signed] at same
    cases version with
    | signatureV0 => exact ⟨delivery, sent, signed, same, nofun⟩
    | signatureV1 =>
      obtain ⟨other, sent', signed', payload', time'⟩ := paired.2 delivery sent signed payload timestamp same
      exact ⟨other, sent', signed', payload', fun _ => time'⟩
  | signatureV1 =>
    rw [signed] at same
    cases version with
    | signatureV0 =>
      obtain ⟨other, sent', signed', payload'⟩ := paired.1 delivery sent signed
      exact ⟨other, sent', signed', payload'.trans same, nofun⟩
    | signatureV1 =>
      obtain ⟨payload', time'⟩ := v1_input_injective same
      exact ⟨delivery, sent, signed, payload', fun _ => time'⟩

theorem told_covered (told : delivery.Tells version payload timestamp) :
    covered delivery.version delivery.payload delivery.timestamp = covered version payload timestamp := by
  obtain ⟨signed, payload', time⟩ := told
  rw [signed, payload']
  cases version with
  | signatureV0 => rfl
  | signatureV1 => rw [time rfl]

theorem separated_told (secret : Bytes) (deliveries : Set Delivery) (separated : Separated hmac secret deliveries)
    (delivery : Delivery) (sent : delivery ∈ deliveries) (version : SignatureVersion) (payload : Bytes) (timestamp : Int64)
    (same : covered delivery.version delivery.payload delivery.timestamp = covered version payload timestamp) :
    ∃ other ∈ deliveries, other.Tells version payload timestamp := by
  have accepted := (accepts_iff hmac secret payload timestamp _).mpr ⟨version, rfl⟩
  obtain ⟨other, sent', -, told⟩ := separated payload timestamp _ version _ accepted (read_signature hmac version payload timestamp secret)
    ⟨delivery, sent, by rw [delivery_mac, same]⟩
  exact ⟨other, sent', told⟩

theorem separated_iff_paired (secret : Bytes) (collisionFree : Function.Injective (hmac secret))
    (deliveries : Set Delivery) : Separated hmac secret deliveries ↔ Paired deliveries := by
  constructor
  · intro separated
    constructor
    · intro delivery sent signed
      obtain ⟨other, sent', version, payload, -⟩ := separated_told hmac secret deliveries separated delivery sent
        .signatureV0 (v1Input delivery.payload delivery.timestamp) 0 (by rw [signed]; rfl)
      exact ⟨other, sent', version, payload⟩
    intro delivery sent signed payload timestamp reads
    obtain ⟨other, sent', version, payload', time⟩ := separated_told hmac secret deliveries separated delivery sent
      .signatureV1 payload timestamp (by rw [signed]; exact reads)
    exact ⟨other, sent', version, payload', time rfl⟩
  · intro paired payload timestamp signature _ _ accepted read carried
    obtain ⟨_, rfl⟩ := (accepts_iff hmac secret payload timestamp signature).mp accepted
    rw [read_signature, some.injEq, Prod.mk.injEq] at read
    obtain ⟨rfl, rfl⟩ := read
    obtain ⟨_, sent, carries⟩ := carried
    rw [delivery_mac, some.injEq] at carries
    obtain ⟨other, sent', told⟩ := covered_told paired sent (collisionFree (hex_encode_injective carries))
    exact ⟨other, sent', by rw [delivery_mac, told_covered told], told⟩

theorem plain_payload_separated :
    Separated (fun _ message => message) [] {⟨.signatureV0, [], 0⟩} ↔ Paired {⟨.signatureV0, [], 0⟩} :=
  separated_iff_paired (fun _ message => message) [] Function.injective_id {⟨.signatureV0, [], 0⟩}

-- One v1 delivery is enough: its MAC signs the bytes v1:<timestamp>.<payload> as a v0 payload.
theorem v1_replays (secret payload) (timestamp : Int64) : ¬Separated hmac secret {⟨.signatureV1, payload, timestamp⟩} := by
  intro separated
  obtain ⟨_, sent, version, -, -⟩ := separated_told hmac secret _ separated ⟨.signatureV1, payload, timestamp⟩ rfl
    .signatureV0 (v1Input payload timestamp) 0 rfl
  rw [Set.mem_singleton_iff] at sent
  rw [sent] at version
  cases version

theorem v1_delivery_passes_as_v0 :
    ¬∀ (hmac : Bytes → Bytes → Bytes) (secret : Bytes), Function.Injective (hmac secret) →
      ∀ deliveries : Set Delivery, Separated hmac secret deliveries := by
  intro claimed
  apply v1_replays (fun _ message => message) [] [] 0
  exact claimed (fun _ message => message) [] Function.injective_id _

end LibCommons.Webhook
