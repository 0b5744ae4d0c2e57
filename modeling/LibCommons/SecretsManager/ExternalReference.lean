import LibCommons.Lib.Json
import LibCommons.Lib.Runes
import LibCommons.Go.Strings

namespace LibCommons.SecretsManager

open Bytes

-- A uuid.UUID and its String form in lower case.
abbrev UUID := { bytes : Bytes // bytes.length = 16 }

def hexText (bytes : Bytes) : List Char := bytes.flatMap fun byte => [Json.hexDigit (byte.toNat / 16), Json.hexDigit (byte.toNat % 16)]

def UUID.string (id : UUID) : Bytes := utf8 (hexText (id.val.take 4) ++ '-' :: hexText ((id.val.drop 4).take 2) ++
    '-' :: hexText ((id.val.drop 6).take 2) ++ '-' :: hexText ((id.val.drop 8).take 2) ++
    '-' :: hexText (id.val.drop 10))

-- uuid.Parse stays outside; it is documented to read what String writes.
variable (uuidParse : Bytes → Option UUID)

def ReadsString : Prop := ∀ id : UUID, uuidParse id.string = some id

def maxSecretIDLength : Int := 512

def externalTenantPathSegment : Bytes := utf8 "tenants".toList

structure ExternalCredentialScope where
  environment : Bytes
  tenantID : Bytes
  application : Bytes
  target : Bytes
deriving DecidableEq, Repr

structure ExternalCredentialReference where
  secretID : Bytes
deriving DecidableEq, Repr

inductive Sentinel where
  | errExternalInvalidInput
  | errExternalInvalidPathSegment
deriving DecidableEq, Repr

-- fmt.Errorf("%w: detail", sentinel)
structure ExternalError where
  sentinel : Sentinel
  detail : String
deriving DecidableEq, Repr

def Sentinel.text : Sentinel → String
  | errExternalInvalidInput => "invalid input for external credentials"
  | errExternalInvalidPathSegment => "invalid path segment for external credentials"

def ExternalError.message (error : ExternalError) : String := error.sentinel.text ++ ": " ++ error.detail

-- strings.TrimSpace on a string that need not be valid UTF-8.
def trimLeft : Nat → Bytes → Bytes
  | 0, bytes => bytes
  | fuel + 1, bytes =>
    match (runes bytes).head? with
    | some c => if Go.isSpace c then trimLeft fuel (bytes.drop c.utf8Size) else bytes
    | none => bytes

def trimRight : Nat → Bytes → Bytes
  | 0, bytes => bytes
  | fuel + 1, bytes =>
    match (runes bytes).getLast? with
    | some c => if Go.isSpace c then trimRight fuel (bytes.take (bytes.length - c.utf8Size)) else bytes
    | none => bytes

def trimSpace (bytes : Bytes) : Bytes := trimRight bytes.length (trimLeft bytes.length bytes)

def isAWSSecretNameCharacter (char : Char) : Bool :=
  (decide ('a' ≤ char) && decide (char ≤ 'z')) || (decide ('A' ≤ char) && decide (char ≤ 'Z')) ||
    (decide ('0' ≤ char) && decide (char ≤ '9')) || decide (char ∈ "_+=.@-".toList)

def validateCanonicalExternalSegment (name : String) (value : Bytes) : Except ExternalError Unit :=
  if trimSpace value = [] then .error ⟨.errExternalInvalidInput, name ++ " is required"⟩
  else if value ≠ trimSpace value ∨ utf8 "..".toList <:+: value then
    .error ⟨.errExternalInvalidPathSegment, name ++ " is not canonical"⟩
  else if (runes value).all isAWSSecretNameCharacter then .ok ()
  else .error ⟨.errExternalInvalidPathSegment, name ++ " is not canonical"⟩

def validateCanonicalExternalVersion (version : Bytes) : Except ExternalError Unit :=
  if trimSpace version = [] then .error ⟨.errExternalInvalidInput, "version is required"⟩
  else
    match uuidParse version with
    | none => .error ⟨.errExternalInvalidPathSegment, "version is not canonical"⟩
    | some parsed =>
      if parsed.string ≠ version then .error ⟨.errExternalInvalidPathSegment, "version is not canonical"⟩
      else .ok ()

def validateSegments : List (String × Bytes) → Except ExternalError Unit
  | [] => .ok ()
  | segment :: segments => do
      validateCanonicalExternalSegment segment.1 segment.2
      validateSegments segments

def scopeSegments (scope : ExternalCredentialScope) : List (String × Bytes) :=
  [("tenantID", scope.tenantID), ("application", scope.application), ("target", scope.target)] ++
    if scope.environment ≠ [] then [("environment", scope.environment)] else []

def validateExternalCredentialScope (scope : ExternalCredentialScope) : Except ExternalError Unit := validateSegments (scopeSegments scope)

structure ExternalReferenceSegments where
  env : Bytes
  tenantOrgID : Bytes
  applicationName : Bytes
  targetService : Bytes
  version : Bytes
deriving DecidableEq, Repr

def ExternalReferenceSegments.scope (segments : ExternalReferenceSegments) : ExternalCredentialScope :=
  ⟨segments.env, segments.tenantOrgID, segments.applicationName, segments.targetService⟩

def ExternalReferenceSegments.matches (segments : ExternalReferenceSegments) (scope : ExternalCredentialScope) : Bool :=
  segments.env == scope.environment && segments.tenantOrgID == scope.tenantID &&
    segments.applicationName == scope.application && segments.targetService == scope.target

def external : Bytes := utf8 "external".toList
def credentials : Bytes := utf8 "credentials".toList
def versions : Bytes := utf8 "versions".toList

def parseExternalSecretVersionReference : List Bytes → Option ExternalReferenceSegments
  | [tenants, env, tenantOrgID, applicationName, fourth, targetService, sixth, seventh, version] =>
    if tenants ≠ externalTenantPathSegment ∨ env = [] ∨ fourth ≠ external ∨ sixth ≠ credentials ∨ seventh ≠ versions then none
    else some ⟨env, tenantOrgID, applicationName, targetService, version⟩
  | [tenants, tenantOrgID, applicationName, third, targetService, fifth, sixth, version] =>
    if tenants ≠ externalTenantPathSegment ∨ third ≠ external ∨ fifth ≠ credentials ∨ sixth ≠ versions then none
    else some ⟨[], tenantOrgID, applicationName, targetService, version⟩
  | _ => none

-- The error of the version check is replaced.
def validateParsedExternalReference (parsed : ExternalReferenceSegments) : Except ExternalError Unit :=
  match validateCanonicalExternalVersion uuidParse parsed.version with
  | .error _ => .error ⟨.errExternalInvalidPathSegment, "reference is not canonical"⟩
  | .ok () => .ok ()

def parseExternalCredentialReference (reference : Bytes) (scope : ExternalCredentialScope) :
    Except ExternalError ExternalCredentialReference :=
  if trimSpace reference = [] then .error ⟨.errExternalInvalidInput, "reference is required"⟩
  else if (reference.length : Int) > maxSecretIDLength then
    .error ⟨.errExternalInvalidPathSegment, "reference is not canonical"⟩
  else do
    validateExternalCredentialScope scope
    match parseExternalSecretVersionReference (reference.splitOn 47) with
    | none => .error ⟨.errExternalInvalidPathSegment, "reference is not canonical for scope"⟩
    | some parsed =>
      if parsed.matches scope then do
        validateParsedExternalReference uuidParse parsed
        .ok ⟨reference⟩
      else .error ⟨.errExternalInvalidPathSegment, "reference is not canonical for scope"⟩

-- The loop of externalReferenceLengthAllowed from a length on.
def lengthAllowedFrom : Int → List Bytes → Bool
  | _, [] => true
  | length, part :: parts =>
    if length > maxSecretIDLength ∨ (part.length : Int) > maxSecretIDLength - length then false
    else lengthAllowedFrom (length + part.length) parts

def externalReferenceLengthAllowed (parts : List Bytes) : Bool := lengthAllowedFrom (parts.length - 1) parts

def referenceParts (env tenantOrgID applicationName targetService version : Bytes) : List Bytes :=
  [externalTenantPathSegment] ++ (if env ≠ [] then [env] else []) ++
    [tenantOrgID, applicationName, external, targetService, credentials, versions, version]

def join (parts : List Bytes) : Bytes := List.intercalate [47] parts

def buildExternalSecretVersionReference (env tenantOrgID applicationName targetService version : Bytes) :
    Except ExternalError ExternalCredentialReference := do
  let scope : ExternalCredentialScope := ⟨env, tenantOrgID, applicationName, targetService⟩
  validateExternalCredentialScope scope
  validateCanonicalExternalVersion uuidParse version
  let parts := referenceParts env tenantOrgID applicationName targetService version
  if externalReferenceLengthAllowed parts then parseExternalCredentialReference uuidParse (join parts) scope
  else .error ⟨.errExternalInvalidPathSegment, "reference is not canonical"⟩

end LibCommons.SecretsManager
