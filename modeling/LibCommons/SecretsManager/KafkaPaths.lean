import LibCommons.SecretsManager.ExternalReference

namespace LibCommons.SecretsManager

open Bytes List

def tenantsPathRoot : Bytes := utf8 "tenants".toList

def kafkaSecretLeaf : Bytes := utf8 "kafka".toList

def Traverses (value : Bytes) : Prop := 47 ∈ value ∨ 92 ∈ value ∨ [46, 46] <:+: value

instance (value : Bytes) : Decidable (Traverses value) := inferInstanceAs (Decidable (_ ∨ _))

-- none is an error, here and below.
def validatePathSegmentWithErrors (value : Bytes) : Option Bytes :=
  let trimmed := trimSpace value
  if trimmed = [] then none else if Traverses trimmed then none else some trimmed

def validateOptionalEnv (env : Bytes) : Option Bytes :=
  let cleanEnv := trimSpace env
  if cleanEnv = [] then some [] else if Traverses cleanEnv then none else some cleanEnv

def kafkaSafe (r : Char) : Bool := ('a' ≤ r && r ≤ 'z') || ('0' ≤ r && r ≤ '9')

-- unicode.ToLower, of which only the safe characters matter.
variable (toLower : Char → Char)

def sanitizeKafkaSegment (s : Bytes) : Bytes := utf8 (((runes s).map toLower).filter kafkaSafe)

def stripDashes (tenantID : Bytes) : Bytes := tenantID.filter fun c => c ≠ 45

def buildModuleKafkaSecretPath (env tenantID module' : Bytes) : Bytes :=
  let envPrefix := if env ≠ [] then env ++ [47] else []
  tenantsPathRoot ++ [47] ++ envPrefix ++ stripDashes tenantID ++ [47] ++ sanitizeKafkaSegment toLower module' ++ [47] ++ kafkaSecretLeaf

def getModuleKafkaCredentials (env tenantID module' : Bytes) : Option Bytes := do
  let cleanTenantID ← validatePathSegmentWithErrors tenantID
  let cleanModule := sanitizeKafkaSegment toLower module'
  if cleanModule = [] then none
  else do
    let cleanEnv ← validateOptionalEnv env
    some (buildModuleKafkaSecretPath toLower cleanEnv cleanTenantID cleanModule)

def parseModuleKafkaSecretPath (env secretPath : Bytes) : Option (Bytes × Bytes) :=
  let cleanEnv := trimSpace env
  let expected := if cleanEnv ≠ [] then 5 else 4
  let segments := secretPath.splitOn 47
  if segments.length ≠ expected then none
  else if segments.head? ≠ some tenantsPathRoot ∨ segments.getLast? ≠ some kafkaSecretLeaf then none
  else if cleanEnv ≠ [] ∧ segments[1]? ≠ some cleanEnv then none
  else
    let tenantID := segments.getD (segments.length - 3) []
    let module' := segments.getD (segments.length - 2) []
    if tenantID = [] ∨ module' = [] then none
    else if stripDashes tenantID ≠ tenantID then none
    else if sanitizeKafkaSegment toLower module' ≠ module' then none
    else some (tenantID, module')

def segmentsOf (cleanEnv tenantID module' : Bytes) : List Bytes :=
  tenantsPathRoot :: ((if cleanEnv ≠ [] then [cleanEnv] else []) ++ [tenantID, module', kafkaSecretLeaf])

-- The path of a tenant segment without dashes and a sanitised module segment.
def Shaped (env secretPath tenantID module' : Bytes) : Prop :=
  secretPath.splitOn 47 = segmentsOf (trimSpace env) tenantID module' ∧ stripDashes tenantID = tenantID ∧ module' ≠ [] ∧
    sanitizeKafkaSegment toLower module' = module'

def ParsesBack (env secretPath : Bytes) : Prop := ((∃ ref, parseModuleKafkaSecretPath toLower env secretPath = some ref) ↔
    ∃ tenantID module', getModuleKafkaCredentials toLower env tenantID module' = some secretPath) ∧
  ∀ tenantID module', parseModuleKafkaSecretPath toLower env secretPath = some (tenantID, module') →
    getModuleKafkaCredentials toLower env tenantID module' = some secretPath

variable {toLower} {env secretPath tenantID module' : Bytes}

theorem build_segments (env tenantID module' : Bytes) : buildModuleKafkaSecretPath toLower env tenantID module' =
    [47].intercalate (segmentsOf env (stripDashes tenantID) (sanitizeKafkaSegment toLower module')) := by
  by_cases empty : env = []
  · simp [buildModuleKafkaSecretPath, segmentsOf, empty, intercalate]
  · simp [buildModuleKafkaSecretPath, segmentsOf, empty, intercalate]

theorem segments_tenant (cleanEnv : Bytes) {tenant name}
    (same : segmentsOf cleanEnv tenantID module' = segmentsOf cleanEnv tenant name) : tenantID = tenant := by
  have ends := append_cancel_left (cons_injective same)
  simp only [cons.injEq] at ends
  exact ends.1

theorem parse_iff (toLower : Char → Char) : parseModuleKafkaSecretPath toLower env secretPath = some (tenantID, module') ↔
    Shaped toLower env secretPath tenantID module' ∧ tenantID ≠ [] := by
  unfold parseModuleKafkaSecretPath Shaped segmentsOf
  generalize secretPath.splitOn 47 = segments
  by_cases empty : trimSpace env = []
  · simp only [empty, ne_eq, not_true_eq_false, if_false, false_and]
    rcases segments with _ | ⟨root, _ | ⟨tenant, _ | ⟨name, _ | ⟨leaf, _ | ⟨more, rest⟩⟩⟩⟩⟩ <;> simp
    grind
  · simp only [empty, ne_eq, not_false_eq_true, if_true, true_and]
    rcases segments with _ | ⟨root, _ | ⟨clean, _ | ⟨tenant, _ | ⟨name, _ | ⟨leaf, _ | ⟨more, rest⟩⟩⟩⟩⟩⟩ <;> simp
    grind

theorem sanitize_free (toLower : Char → Char) (s : Bytes) : 47 ∉ sanitizeKafkaSegment toLower s := by
  refine utf8_free '/' (by decide) ?_
  intro member
  cases (mem_filter.mp member).2

theorem sanitize_again (same : ∀ r, kafkaSafe r = true → toLower r = r) (s : Bytes) :
    sanitizeKafkaSegment toLower (sanitizeKafkaSegment toLower s) = sanitizeKafkaSegment toLower s := by
  rw [sanitizeKafkaSegment, sanitizeKafkaSegment, runes_utf8]
  have kept : ∀ r ∈ ((runes s).map toLower).filter kafkaSafe, kafkaSafe r = true := fun r member => (mem_filter.mp member).2
  rw [map_congr_left fun r member => same r (kept r member), map_id', filter_eq_self.mpr kept]

theorem trim_sublist (bytes : Bytes) : trimSpace bytes <+ bytes := by
  have left : ∀ fuel bytes, trimLeft fuel bytes <+ bytes := by
    intro fuel bytes
    fun_induction trimLeft fuel bytes with
    | case2 _ _ _ _ _ ih => exact ih.trans (drop_sublist ..)
    | _ => exact Sublist.refl _
  have right : ∀ fuel bytes, trimRight fuel bytes <+ bytes := by
    intro fuel bytes
    fun_induction trimRight fuel bytes with
    | case2 _ _ _ _ _ ih => exact ih.trans (take_sublist ..)
    | _ => exact Sublist.refl _
  exact (right _ _).trans (left _ _)

theorem validate_iff (value clean : Bytes) : validatePathSegmentWithErrors value = some clean ↔
    clean = trimSpace value ∧ clean ≠ [] ∧ ¬ Traverses clean := by
  unfold validatePathSegmentWithErrors
  grind

section

variable {cleanEnv : Bytes} (same : ∀ r, kafkaSafe r = true → toLower r = r) (accepted : validateOptionalEnv env = some cleanEnv)
include accepted

theorem env_clean : cleanEnv = trimSpace env ∧ 47 ∉ cleanEnv := by
  unfold validateOptionalEnv Traverses at accepted
  grind

theorem split_iff (free : 47 ∉ tenantID) (s : Bytes) : secretPath.splitOn 47 = segmentsOf (trimSpace env) tenantID (sanitizeKafkaSegment toLower s) ↔
      [47].intercalate (segmentsOf (trimSpace env) tenantID (sanitizeKafkaSegment toLower s)) = secretPath := by
  constructor
  · intro split
    rw [← split, intercalate_splitOn]
  · rintro rfl
    obtain ⟨rfl, clean⟩ := env_clean accepted
    refine splitOn_intercalate 47 ?_ (cons_ne_nil _ _)
    have root : 47 ∉ tenantsPathRoot := by decide
    have leaf : 47 ∉ kafkaSecretLeaf := by decide
    have name := sanitize_free toLower s
    intro segment member
    unfold segmentsOf at member
    grind

include same

theorem get_iff : getModuleKafkaCredentials toLower env tenantID module' = some secretPath ↔
    ∃ clean, validatePathSegmentWithErrors tenantID = some clean ∧
      Shaped toLower env secretPath (stripDashes clean) (sanitizeKafkaSegment toLower module') := by
  obtain ⟨rfl, -⟩ := env_clean accepted
  unfold getModuleKafkaCredentials Shaped
  cases known : validatePathSegmentWithErrors tenantID with
  | none => simp
  | some clean =>
    have free : 47 ∉ stripDashes clean := fun slash => ((validate_iff _ _).mp known).2.2 (.inl (mem_filter.mp slash).1)
    have dashless : stripDashes (stripDashes clean) = stripDashes clean := by simp [stripDashes]
    by_cases empty : sanitizeKafkaSegment toLower module' = []
    · simp [empty]
    · simp [empty, accepted, build_segments, sanitize_again same, dashless, split_iff accepted free]

end

def sample (tenantID : String) : Bytes := utf8 ("tenants/" ++ tenantID ++ "/m/kafka").toList

end LibCommons.SecretsManager
