import LibCommons.Lib.Bytes

namespace LibCommons.S3

-- The SDK's pointers are options; ToString and ToBool read nil as the zero value.
structure ObjectVersion where
  key : Option Bytes
  versionId : Option Bytes
  isLatest : Option Bool
  deriving DecidableEq, Repr

structure DeleteMarkerEntry where
  key : Option Bytes
  isLatest : Option Bool
  deriving DecidableEq, Repr

def toString (value : Option Bytes) : Bytes := value.getD []

def toBool (value : Option Bool) : Bool := value.getD false

structure ListObjectVersionsInput where
  bucket : Bytes
  keyPrefix : Bytes
  maxKeys : Nat
  keyMarker : Option Bytes
  versionIdMarker : Option Bytes
  deriving DecidableEq, Repr

structure ListObjectVersionsOutput where
  versions : List ObjectVersion
  deleteMarkers : List DeleteMarkerEntry
  isTruncated : Option Bool
  nextKeyMarker : Option Bytes
  nextVersionIdMarker : Option Bytes
  deriving DecidableEq, Repr

inductive RetainedError (E : Type) where
  | retainedVersionAmbiguous
  | listFailed (cause : E)
  | statFailed (cause : E)
  deriving DecidableEq, Repr

def retainedRecoveryMaxKeys : Nat := 2

def retainedRecoveryMaxPages : Nat := 32

variable {E M : Type}

section

variable (resolvedKey : Bytes)

-- With the version found so far and whether the sorted listing has passed the key.
def scanVersions : List ObjectVersion → Bytes → Except (RetainedError E) (Bytes × Bool)
  | [], versionID => .ok (versionID, false)
  | version :: rest, versionID =>
    if resolvedKey < toString version.key then .ok (versionID, true)
    else if toString version.key ≠ resolvedKey then scanVersions rest versionID
    else if versionID ≠ [] ∨ toBool version.isLatest = false ∨ toString version.versionId = [] then
      .error .retainedVersionAmbiguous
    else scanVersions rest (toString version.versionId)

def scanDeleteMarkers : List DeleteMarkerEntry → Bool → Except (RetainedError E) Bool
  | [], passedKey => .ok passedKey
  | marker :: rest, passedKey =>
    if resolvedKey < toString marker.key then scanDeleteMarkers rest true
    else if toString marker.key = resolvedKey ∧ toBool marker.isLatest = true then .error .retainedVersionAmbiguous
    else scanDeleteMarkers rest passedKey

def scanRetainedVersionPage (output : ListObjectVersionsOutput) (versionID : Bytes) : Except (RetainedError E) (Bytes × Bool) :=
  match scanVersions resolvedKey output.versions versionID with
  | .error err => .error err
  | .ok (versionID, passedKey) =>
    match scanDeleteMarkers resolvedKey output.deleteMarkers passedKey with
    | .error err => .error err
    | .ok passedKey => .ok (versionID, passedKey)

end

section

-- ListObjectVersions of the SDK; a nil output is none.
variable (listObjectVersions : ListObjectVersionsInput → Except E (Option ListObjectVersionsOutput))

def scanPages (resolvedKey : Bytes) : Nat → ListObjectVersionsInput → Bytes → Except (RetainedError E) Bytes
  | 0, _, _ => .error .retainedVersionAmbiguous
  | pages + 1, input, versionID =>
    match listObjectVersions input with
    | .error cause => .error (.listFailed cause)
    | .ok none => .error .retainedVersionAmbiguous
    | .ok (some output) =>
      match scanRetainedVersionPage resolvedKey output versionID with
      | .error err => .error err
      | .ok (versionID, passedKey) =>
        if passedKey = true ∨ toBool output.isTruncated = false then
          if versionID = [] then .error .retainedVersionAmbiguous else .ok versionID
        else if output.nextKeyMarker = none ∧ output.nextVersionIdMarker = none then
          .error .retainedVersionAmbiguous
        else
          scanPages resolvedKey pages
            { input with keyMarker := output.nextKeyMarker, versionIdMarker := output.nextVersionIdMarker } versionID

def firstInput (bucket resolvedKey : Bytes) : ListObjectVersionsInput where
  bucket := bucket
  keyPrefix := resolvedKey
  maxKeys := retainedRecoveryMaxKeys
  keyMarker := none
  versionIdMarker := none

def selectRetainedVersion (bucket resolvedKey : Bytes) : Except (RetainedError E) Bytes :=
  scanPages listObjectVersions resolvedKey retainedRecoveryMaxPages (firstInput bucket resolvedKey) []

variable (statResolvedVersion : Bytes → Bytes → Except E M)

def recoverRetainedVersion (bucket resolvedKey : Bytes) : Except (RetainedError E) M :=
  match selectRetainedVersion listObjectVersions bucket resolvedKey with
  | .error err => .error err
  | .ok versionID => (statResolvedVersion resolvedKey versionID).mapError .statFailed

end

-- What a bucket's history holds, in the order S3 lists it.
inductive Entry where
  | version (held : ObjectVersion)
  | deleteMarker (held : DeleteMarkerEntry)
  deriving DecidableEq, Repr

namespace Entry

def key : Entry → Bytes
  | .version held => toString held.key
  | .deleteMarker held => toString held.key

def asVersion : Entry → Option ObjectVersion
  | .version held => some held
  | .deleteMarker _ => none

def asDeleteMarker : Entry → Option DeleteMarkerEntry
  | .version _ => none
  | .deleteMarker held => some held

end Entry

def exactVersions (resolvedKey : Bytes) (page : List Entry) : List ObjectVersion :=
  (page.filterMap Entry.asVersion).filter (fun version => toString version.key = resolvedKey)

-- The version the bucket holds alone and undeleted under exactly this key.
structure Sole (history : List Entry) (resolvedKey : Bytes) (versionID : Bytes) : Prop where
  only : ∃ version, exactVersions resolvedKey history = [version] ∧ toBool version.isLatest = true ∧ toString version.versionId = versionID
  named : versionID ≠ []
  undeleted : ∀ marker, Entry.deleteMarker marker ∈ history → toString marker.key = resolvedKey → toBool marker.isLatest = false

def listing (history : List Entry) (resolvedKey : Bytes) : List Entry := history.filter (fun entry => resolvedKey.isPrefixOf entry.key)

inductive Serves (listObjectVersions : ListObjectVersionsInput → Except E (Option ListObjectVersionsOutput)) :
    ListObjectVersionsInput → List (List Entry) → Prop where
  | last (input) (page : List Entry) (output : ListObjectVersionsOutput)
      (answered : listObjectVersions input = .ok (some output)) (versions : output.versions = page.filterMap Entry.asVersion)
      (markers : output.deleteMarkers = page.filterMap Entry.asDeleteMarker) (whole : toBool output.isTruncated = false) :
      Serves listObjectVersions input [page]
  | more (input) (page : List Entry) (output : ListObjectVersionsOutput) (rest)
      (answered : listObjectVersions input = .ok (some output)) (versions : output.versions = page.filterMap Entry.asVersion)
      (markers : output.deleteMarkers = page.filterMap Entry.asDeleteMarker) (truncated : toBool output.isTruncated = true)
      (continued : output.nextKeyMarker ≠ none ∨ output.nextVersionIdMarker ≠ none) (later : Serves listObjectVersions
        { input with keyMarker := output.nextKeyMarker, versionIdMarker := output.nextVersionIdMarker } rest) :
      Serves listObjectVersions input (page :: rest)

end LibCommons.S3
