import LibCommons.SignedCursor.Codec

namespace LibCommons.SignedCursor

open List Bytes Json Idempotency

theorem of_nat_mod {n m} (same : UInt8.ofNat n = UInt8.ofNat m) : n % 256 = m % 256 := by
  have value := congrArg UInt8.toNat same
  simpa using value

theorem big_endian_injective (n m : Nat) (small : n < 2 ^ 64) (small' : m < 2 ^ 64) (same : bigEndian64 n = bigEndian64 m) : n = m := by
  simp only [bigEndian64, List.cons.injEq, and_true] at same
  obtain ⟨b7, b6, b5, b4, b3, b2, b1, b0⟩ := same
  replace b7 := of_nat_mod b7
  replace b6 := of_nat_mod b6
  replace b5 := of_nat_mod b5
  replace b4 := of_nat_mod b4
  replace b3 := of_nat_mod b3
  replace b2 := of_nat_mod b2
  replace b1 := of_nat_mod b1
  replace b0 := of_nat_mod b0
  norm_num at b7 b6 b5 b4 b3 b2 b1 b0 small small'
  omega

theorem parts_injective (parts parts' : List GoBytes) (same : (parts.map Subtype.val).flatMap (fun part => bigEndian64 part.length ++ part) =
      (parts'.map Subtype.val).flatMap (fun part => bigEndian64 part.length ++ part)) : parts = parts' := by
  induction parts generalizing parts' with
  | nil =>
    cases parts' with
    | nil => rfl
    | cons => cases same
  | cons part _ ih =>
    cases parts' with
    | nil => cases same
    | cons part' rest' =>
      simp only [map_cons, flatMap_cons, append_assoc] at same
      obtain ⟨lengths, tail⟩ := append_inj same rfl
      have length := big_endian_injective _ _ (part.2.trans (by decide)) (part'.2.trans (by decide)) lengths
      obtain ⟨head, more⟩ := append_inj tail length
      rw [Subtype.ext head, ih rest' more]

theorem label_long (domain : Domain) : 17 ≤ domain.label.length := by cases domain <;> decide

theorem label_apart {domain domain' : Domain} {rest rest' : Bytes} (same : domain.label ++ rest = domain'.label ++ rest') : domain = domain' := by
  have front := congrArg (List.take 17) same
  rw [take_append_of_le_length (label_long domain), take_append_of_le_length (label_long domain')] at front
  revert front
  cases domain <;> cases domain' <;> decide

theorem mac_input_injective (domain domain' : Domain) (parts parts' : List GoBytes)
    (same : macInput domain (parts.map Subtype.val) = macInput domain' (parts'.map Subtype.val)) :
    domain = domain' ∧ parts = parts' := by
  obtain rfl := label_apart same
  exact ⟨rfl, parts_injective parts parts' (append_cancel_left same)⟩

section

theorem field_version : fieldNamed envelopeFields "v" = some .version := rfl

theorem field_payload : fieldNamed envelopeFields "p" = some .payload := rfl

theorem field_identity : fieldNamed envelopeFields "i" = some .identity := rfl

theorem field_context : fieldNamed envelopeFields "c" = some .context := rfl

variable (payload : Option Bytes)

theorem store_payload : storePayload none (payloadValue payload) = some payload := by
  cases payload with
  | none => rfl
  | some => simp [payloadValue, storePayload, storeBytes, base64_round_trip]

theorem unmarshal_marshal {envelope} (low : -2 ^ 63 ≤ envelope.version) (high : envelope.version < 2 ^ 63) :
    unmarshal (marshal envelope) = some envelope := by
  have parsed : parseBytes (marshal envelope) = some (.obj (envelopeMembers envelope)) := by
    apply parse_bytes_render
    intro _ present
    simp only [envelopeMembers, mem_cons, not_mem_nil, or_false] at present
    rcases present with rfl | rfl | rfl | rfl
    · exact int_literal envelope.version
    · cases envelope.payload <;> trivial
    · trivial
    · trivial
  obtain ⟨_, _, _, _⟩ := envelope
  rw [unmarshal, parsed]
  have number := parse_int_literal low high
  simp [storeStruct, envelopeMembers, storeEnvelopeField, storeInt, number, store_payload,
    storeString, field_version, field_payload, field_identity, field_context]

def Plain (text : List Char) : Prop := ∀ c ∈ text, escape c = [c] ∧ c.utf8Size = 1

variable {text : List Char}

theorem render_plain (plain : Plain text) : renderString (String.ofList text) = '"' :: (text ++ ['"']) := by
  have same : text.flatMap escape = text := by
    calc
      text.flatMap escape = text.flatMap fun c => [c] := flatMap_congr fun c member => (plain c member).1
      _ = text := by simp
  simp [renderString, same]

theorem sextet_escape (n : Nat) : escape (sextet n) = [sextet n] ∧ (sextet n).utf8Size = 1 := by
  by_cases small : n < 64
  · revert n
    decide +kernel
  · rw [sextet, getD_eq_default _ _ (by simpa using small)]
    decide

theorem base64_plain (bytes) : Plain (base64Encode bytes) := by
  have pad : escape '=' = ['='] ∧ '='.utf8Size = 1 := by decide
  induction bytes using base64Encode.induct with
  | case1 => simp [Plain, base64Encode]
  | case2 | case3 => simp [Plain, base64Encode, sextet_escape, pad]
  | case4 _ _ _ _ ih => simpa [Plain, base64Encode, sextet_escape] using ih

theorem url_sextet_escape (n : Nat) : escape (urlSextet n) = [urlSextet n] := by
  by_cases small : n < 64
  · revert n
    decide +kernel
  · rw [urlSextet, getD_eq_default _ _ (by simpa using small)]
    decide

theorem raw_url_plain (bytes) : Plain (rawUrlEncode bytes) := by
  induction bytes using rawUrlEncode.induct with
  | case1 => simp [Plain, rawUrlEncode]
  | case2 | case3 => simp [Plain, rawUrlEncode, url_sextet_escape, url_sextet_plain]
  | case4 _ _ _ _ ih => simpa [Plain, rawUrlEncode, url_sextet_escape, url_sextet_plain] using ih

theorem single_bytes (all : (text.all fun c => c.utf8Size == 1) = true) : ∀ c ∈ text, c.utf8Size = 1 := by
  simpa using all

theorem payload_text : (∀ c ∈ render (payloadValue payload), c.utf8Size = 1) ∧
      (render (payloadValue payload)).length ≤ 4 + ((payload.getD []).length + 2) / 3 * 4 := by
  cases payload with
  | none =>
    have null : render (payloadValue none) = ['n', 'u', 'l', 'l'] := by simp [payloadValue, render]
    rw [null]
    exact ⟨single_bytes (by decide), Nat.le_add_right 4 _⟩
  | some payload =>
    have quote : '"'.utf8Size = 1 := by decide
    simp only [payloadValue, render, render_plain (base64_plain payload)]
    constructor
    · intro c member
      simp only [mem_cons, mem_append, not_mem_nil, or_false] at member
      rcases member with rfl | inside | rfl
      · exact quote
      · exact (base64_plain payload c inside).2
      · exact quote
    · simp [base64_length]
      omega

theorem marshal_length {identity context} (plain : Plain identity) (plain' : Plain context) :
    (marshal ⟨currentVersion, payload, String.ofList identity, String.ofList context⟩).length ≤
      30 + ((payload.getD []).length + 2) / 3 * 4 + identity.length + context.length := by
  have text : render (.obj (envelopeMembers ⟨currentVersion, payload, String.ofList identity, String.ofList context⟩)) =
      ['{', '"', 'v', '"', ':', '1', ',', '"', 'p', '"', ':'] ++ render (payloadValue payload) ++
        [',', '"', 'i', '"', ':', '"'] ++ identity ++ ['"', ',', '"', 'c', '"', ':', '"'] ++ context ++ ['"', '}'] := by
    have v : renderString "v" = ['"', 'v', '"'] := by decide
    have p : renderString "p" = ['"', 'p', '"'] := by decide
    have i : renderString "i" = ['"', 'i', '"'] := by decide
    have c : renderString "c" = ['"', 'c', '"'] := by decide
    have one : Nat.toDigits 10 1 = ['1'] := by decide
    simp [envelopeMembers, render, renderMember, renderMembers, render_plain plain, render_plain plain', currentVersion, intLiteral, one, v, p, i, c]
  obtain ⟨single, _⟩ := payload_text payload
  rw [marshal, renderBytes, utf8_length, text]
  · simp only [length_append, length_cons, length_nil]
    omega
  rw [text]
  simp only [forall_mem_append]
  exact ⟨⟨⟨⟨⟨⟨single_bytes (by decide), single⟩, single_bytes (by decide)⟩, fun c member => (plain c member).2⟩,
    single_bytes (by decide)⟩, fun c member => (plain' c member).2⟩, single_bytes (by decide)⟩

end

section

variable (hmac : Bytes → Bytes → Bytes)

-- The bytes two bindings put into their fingerprints do not collide in a truncated tag.
def CollisionFree (key : Bytes) (inputs : Set Bytes) : Prop := Set.InjOn (fun input => (hmac key input).take fingerprintBytes) inputs

def Binding.inputs (binding : Binding) : Set Bytes :=
  {macInput .identity (binding.identity.map Subtype.val), macInput .context (binding.context.map Subtype.val)}

def sealedBody (key : Bytes) (payload : Option Bytes) (binding : Binding) : Bytes :=
  marshal ⟨currentVersion, payload, fingerprint hmac key .identity binding.identity, fingerprint hmac key .context binding.context⟩

def token (key : Bytes) (payload : Option Bytes) (binding : Binding) : Bytes := utf8 (rawUrlEncode (sealedBody hmac key payload binding ++
    mac hmac key .body [sealedBody hmac key payload binding]))

variable (digest : ∀ key message, (hmac key message).length = tagSize)
  (key : Bytes) (payload : Option Bytes) (binding : Binding)

theorem encode_token (sized : key.length = keySize) (small : (payload.getD []).length ≤ maxPayloadLen)
    (identified : hasIdentity binding.identity = true) :
    encode hmac key payload binding = .ok (token hmac key payload binding) := by
  rw [encode, if_neg (not_not.mpr sized), if_neg (by simp [identified]), if_neg (not_lt.mpr small)]
  rfl

include digest in
theorem fingerprint_length (domain : Domain) (terms : List GoBytes) :
    (rawUrlEncode ((mac hmac key domain (terms.map Subtype.val)).take fingerprintBytes)).length = 22 := by
  rw [raw_url_length, length_take, mac, digest]
  rfl

include digest in
theorem body_length (small : (payload.getD []).length ≤ maxPayloadLen) : (sealedBody hmac key payload binding).length ≤ 2806 := by
  have bound := marshal_length payload (raw_url_plain ((mac hmac key .identity (binding.identity.map Subtype.val)).take fingerprintBytes))
    (raw_url_plain ((mac hmac key .context (binding.context.map Subtype.val)).take fingerprintBytes))
  rw [fingerprint_length hmac digest, fingerprint_length hmac digest] at bound
  unfold maxPayloadLen at small
  apply bound.trans
  omega

include digest in
theorem token_length (small : (payload.getD []).length ≤ maxPayloadLen) : (token hmac key payload binding).length ≤ maxTokenLen := by
  have body := body_length hmac digest key payload binding small
  have tag : (mac hmac key .body [sealedBody hmac key payload binding]).length = 32 := digest _ _
  rw [token, utf8_length fun c member => (raw_url_text _ c member).2.2, raw_url_length, length_append, tag]
  unfold maxTokenLen
  omega

theorem unmarshal_body : unmarshal (sealedBody hmac key payload binding) =
      some ⟨currentVersion, payload, fingerprint hmac key .identity binding.identity, fingerprint hmac key .context binding.context⟩ :=
  unmarshal_marshal (show -2 ^ 63 ≤ currentVersion by decide) (show currentVersion < 2 ^ 63 by decide)

theorem body_nonempty : 0 < (sealedBody hmac key payload binding).length := by
  apply length_pos_iff.mpr
  intro empty
  have read := unmarshal_body hmac key payload binding
  rw [empty] at read
  cases read

include digest in
theorem decode_token (other) (sized : key.length = keySize) (small : (payload.getD []).length ≤ maxPayloadLen)
    (identified : hasIdentity other.identity = true) :
    decode hmac key (token hmac key payload binding) other =
      if fingerprint hmac key .identity binding.identity ≠ fingerprint hmac key .identity other.identity then
        .error .errIdentityMismatch
      else if fingerprint hmac key .context binding.context ≠ fingerprint hmac key .context other.context then
        .error .errContextMismatch
      else .ok payload := by
  have length := token_length hmac digest key payload binding small
  have raw : rawUrlDecode (runes (token hmac key payload binding)) =
      some (sealedBody hmac key payload binding ++ mac hmac key .body [sealedBody hmac key payload binding]) := by
    rw [token, runes_utf8, raw_url_round_trip]
  have tag : (mac hmac key .body [sealedBody hmac key payload binding]).length = tagSize := digest _ _
  have cut : (sealedBody hmac key payload binding ++ mac hmac key .body [sealedBody hmac key payload binding]).length -
      tagSize = (sealedBody hmac key payload binding).length := by
    rw [length_append, tag, Nat.add_sub_cancel]
  have long : ¬(sealedBody hmac key payload binding ++ mac hmac key .body [sealedBody hmac key payload binding]).length ≤ tagSize := by
    have some := body_nonempty hmac key payload binding
    rw [length_append, tag]
    omega
  rw [decode, if_neg (not_not.mpr sized), if_neg (by simp [identified]), if_neg (not_lt.mpr length), raw]
  simp only [if_neg long, cut, take_left, drop_left, ne_eq, not_true_eq_false, if_false, unmarshal_body]

theorem fingerprint_apart (domain : Domain) (terms terms' : List GoBytes) (inputs : Set Bytes)
    (free : CollisionFree hmac key inputs) (mine : macInput domain (terms.map Subtype.val) ∈ inputs)
    (other : macInput domain (terms'.map Subtype.val) ∈ inputs)
    (same : fingerprint hmac key domain terms = fingerprint hmac key domain terms') : terms = terms' := by
  have text := congrArg rawUrlDecode (String.ofList_injective same)
  rw [raw_url_round_trip, raw_url_round_trip, Option.some.injEq] at text
  exact (mac_input_injective domain domain terms terms' (free mine other text)).2

end

-- The tag length is SHA-256's. No two of the inputs the two bindings are fingerprinted from share a truncated tag.
theorem cursor_bound_to_scope (hmac : Bytes → Bytes → Bytes) (digest : ∀ key message, (hmac key message).length = tagSize)
    (key : Bytes) (sized : key.length = keySize) (payload : Option Bytes)
    (small : (payload.getD []).length ≤ maxPayloadLen) (binding : Binding)
    (identified : hasIdentity binding.identity = true) :
    (∃ token, encode hmac key payload binding = .ok token ∧ token.length ≤ maxTokenLen ∧
      decode hmac key token binding = .ok payload ∧
      ∀ other : Binding, CollisionFree hmac key (binding.inputs ∪ other.inputs) →
        other.identity ≠ binding.identity ∨ other.context ≠ binding.context →
        ∃ refusal, decode hmac key token other = .error refusal) ∧
    ∀ (domain domain' : Domain) (parts parts' : List GoBytes),
      macInput domain (parts.map Subtype.val) = macInput domain' (parts'.map Subtype.val) →
        domain = domain' ∧ parts = parts' := by
  refine ⟨⟨token hmac key payload binding, encode_token hmac key payload binding sized small identified,
    token_length hmac digest key payload binding small, ?_, ?_⟩, mac_input_injective⟩
  · rw [decode_token hmac digest key payload binding binding sized small identified]
    simp
  intro other free differs
  by_cases identified' : hasIdentity other.identity = true
  · rw [decode_token hmac digest key payload binding other sized small identified']
    split_ifs with identity context
    · exact ⟨_, rfl⟩
    · exact ⟨_, rfl⟩
    · have sameIdentity := fingerprint_apart hmac key .identity _ _ _ free
        (Set.mem_union_left _ (Set.mem_insert _ _)) (Set.mem_union_right _ (Set.mem_insert _ _)) (not_not.mp identity)
      have sameContext := fingerprint_apart hmac key .context _ _ _ free
        (Set.mem_union_left _ (Set.mem_insert_of_mem _ rfl)) (Set.mem_union_right _ (Set.mem_insert_of_mem _ rfl))
        (not_not.mp context)
      exact absurd differs (by simp [sameIdentity, sameContext])
  · exact ⟨.errEmptyIdentity, by rw [decode, if_neg (not_not.mpr sized), if_pos (by simp [identified'])]⟩

def tailDigest (_ message : Bytes) : Bytes := (message.reverse ++ List.replicate tagSize 0).take tagSize

theorem tail_digest_length (key message) : (tailDigest key message).length = tagSize := by
  simp [tailDigest]

def tenant (name : UInt8) : Binding := ⟨[⟨[name], Nat.one_lt_two_pow (by decide)⟩], []⟩

theorem tenants_collision_free : CollisionFree tailDigest (List.replicate 32 0) ((tenant 97).inputs ∪ (tenant 98).inputs) := by
  intro first mine second theirs same
  have apart : ∀ input ∈ (tenant 97).inputs ∪ (tenant 98).inputs, input = macInput .identity [[97]] ∨
      input = macInput .identity [[98]] ∨ input = macInput .context [] := by
    rintro input ((rfl | rfl) | (rfl | rfl))
    · exact .inl rfl
    · exact .inr (.inr rfl)
    · exact .inr (.inl rfl)
    · exact .inr (.inr rfl)
  revert same
  rcases apart first mine with rfl | rfl | rfl <;> rcases apart second theirs with rfl | rfl | rfl <;> decide

theorem tenant_cursor_bound :
    ∃ token, encode tailDigest (List.replicate 32 0) (some [1, 2]) (tenant 97) = .ok token ∧
      decode tailDigest (List.replicate 32 0) token (tenant 97) = .ok (some [1, 2]) ∧
      ∃ refusal, decode tailDigest (List.replicate 32 0) token (tenant 98) = .error refusal := by
  obtain ⟨⟨token, minted, -, back, refused⟩, -⟩ := cursor_bound_to_scope tailDigest tail_digest_length
    (List.replicate 32 0) (by decide) (some [1, 2]) (by decide) (tenant 97) (by decide)
  exact ⟨token, minted, back, refused (tenant 98) tenants_collision_free (.inl (by decide))⟩

end LibCommons.SignedCursor
