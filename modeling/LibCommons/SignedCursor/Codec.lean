import LibCommons.Lib.Base64Url
import LibCommons.Idempotency.Wire

namespace LibCommons.SignedCursor

open Bytes

open Json (Value)
open Idempotency (storeStruct storeString storeInt storeBytes fieldNamed)

-- A Go string or byte slice: its length is an int.
abbrev GoBytes := { bytes : Bytes // bytes.length < 2 ^ 63 }

-- crypto/hmac over SHA-256 stays outside: a key and a message give a tag.
variable (hmac : Bytes → Bytes → Bytes)

def keySize : Nat := 32
def tagSize : Nat := 32
def currentVersion : Int := 1
def maxPayloadLen : Nat := 2048
def maxTokenLen : Nat := 4096
def fingerprintBytes : Nat := 16

inductive Domain where
  | body
  | identity
  | context
deriving DecidableEq, Repr

def Domain.label : Domain → Bytes
  | body => utf8 "lc-signedcursor-body-v1".toList
  | identity => utf8 "lc-signedcursor-identity-v1".toList
  | context => utf8 "lc-signedcursor-context-v1".toList

inductive CursorError where
  | errInvalidKey
  | errEmptyIdentity
  | errPayloadTooLarge (got limit : Nat)
  | errMalformed
  | errSignature
  | errVersion (got want : Int)
  | errIdentityMismatch
  | errContextMismatch
deriving DecidableEq, Repr

structure Binding where
  identity : List GoBytes
  context : List GoBytes
deriving DecidableEq

-- The wire body. A nil payload is none.
structure Envelope where
  version : Int := 0
  payload : Option Bytes := none
  identity : String := ""
  context : String := ""
deriving DecidableEq, Repr

def bigEndian64 (n : Nat) : Bytes :=
  [UInt8.ofNat (n / 256 ^ 7), UInt8.ofNat (n / 256 ^ 6), UInt8.ofNat (n / 256 ^ 5), UInt8.ofNat (n / 256 ^ 4),
    UInt8.ofNat (n / 256 ^ 3), UInt8.ofNat (n / 256 ^ 2), UInt8.ofNat (n / 256), UInt8.ofNat n]

-- What mac writes into the HMAC.
def macInput (domain : Domain) (parts : List Bytes) : Bytes := domain.label ++ parts.flatMap fun part => bigEndian64 part.length ++ part

def mac (key : Bytes) (domain : Domain) (parts : List Bytes) : Bytes := hmac key (macInput domain parts)

def fingerprint (key : Bytes) (domain : Domain) (terms : List GoBytes) : String :=
  String.ofList (rawUrlEncode ((mac hmac key domain (terms.map Subtype.val)).take fingerprintBytes))

def hasIdentity (terms : List GoBytes) : Bool := terms.any fun term => term.val ≠ []

def payloadValue : Option Bytes → Value
  | none => .null
  | some payload => .str (String.ofList (base64Encode payload))

def envelopeMembers (envelope : Envelope) : List (String × Value) :=
  [("v", .num (Json.intLiteral envelope.version)), ("p", payloadValue envelope.payload),
    ("i", .str envelope.identity), ("c", .str envelope.context)]

-- json.Marshal has no failing case for these field types.
def marshal (envelope : Envelope) : Bytes := Json.renderBytes (.obj (envelopeMembers envelope))

inductive EnvelopeField where
  | version
  | payload
  | identity
  | context

def envelopeFields : List (String × EnvelopeField) := [("v", .version), ("p", .payload), ("i", .identity), ("c", .context)]

def storePayload (current : Option Bytes) : Value → Option (Option Bytes)
  | .null => some none
  | value => (storeBytes (current.getD []) value).map some

def storeEnvelopeField (envelope : Envelope) (member : String × Value) : Option Envelope :=
  match fieldNamed envelopeFields member.1 with
  | none => some envelope
  | some .version => (storeInt envelope.version member.2).map fun number => { envelope with version := number }
  | some .payload => (storePayload envelope.payload member.2).map fun bytes => { envelope with payload := bytes }
  | some .identity => (storeString envelope.identity member.2).map fun text => { envelope with identity := text }
  | some .context => (storeString envelope.context member.2).map fun text => { envelope with context := text }

def unmarshal (body : Bytes) : Option Envelope := (Json.parseBytes body).bind (storeStruct {} storeEnvelopeField)

def encode (key : Bytes) (payload : Option Bytes) (binding : Binding) : Except CursorError Bytes :=
  if key.length ≠ keySize then .error .errInvalidKey
  else if !hasIdentity binding.identity then .error .errEmptyIdentity
  else if (payload.getD []).length > maxPayloadLen then
    .error (.errPayloadTooLarge (payload.getD []).length maxPayloadLen)
  else
    let body := marshal
      { version := currentVersion
        payload := payload
        identity := fingerprint hmac key .identity binding.identity
        context := fingerprint hmac key .context binding.context }
    .ok (utf8 (rawUrlEncode (body ++ mac hmac key .body [body])))

-- The tag is checked before a byte of the body is parsed.
def decode (key token : Bytes) (binding : Binding) : Except CursorError (Option Bytes) :=
  if key.length ≠ keySize then .error .errInvalidKey
  else if !hasIdentity binding.identity then .error .errEmptyIdentity
  else if token.length > maxTokenLen then .error .errMalformed
  else match rawUrlDecode (runes token) with
    | none => .error .errMalformed
    | some raw =>
      if raw.length ≤ tagSize then .error .errMalformed
      else
        let body := raw.take (raw.length - tagSize)
        let tag := raw.drop (raw.length - tagSize)
        if tag ≠ mac hmac key .body [body] then .error .errSignature
        else match unmarshal body with
          | none => .error .errMalformed
          | some envelope =>
            if envelope.version ≠ currentVersion then .error (.errVersion envelope.version currentVersion)
            else if envelope.identity ≠ fingerprint hmac key .identity binding.identity then
              .error .errIdentityMismatch
            else if envelope.context ≠ fingerprint hmac key .context binding.context then .error .errContextMismatch
            else .ok envelope.payload

end LibCommons.SignedCursor
