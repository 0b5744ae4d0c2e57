import LibCommons.TenantManager.Mongo

namespace LibCommons.TenantConfigs

open List Option

section

variable {P : Type}

structure DatabaseConfig (P : Type) where
  postgreSQL : Option P
  postgreSQLReplica : Option P

-- The Databases map in the order sortedKeys gives it.
structure TenantConfig (P : Type) where
  databases : List (String × DatabaseConfig P)
  sorted : (databases.map Prod.fst).Pairwise (· < ·)

variable (config : TenantConfig P) (module' : String)

-- A configuration together with the key of its entry, which the source does not return.
def TenantConfig.select (field : DatabaseConfig P → Option P) : Option (String × P) :=
  if module' ≠ "" then
    (config.databases.find? fun entry => entry.1 = module').bind fun entry => (field entry.2).map (entry.1, ·)
  else config.databases.findSome? fun entry => (field entry.2).map (entry.1, ·)

def TenantConfig.getPostgreSQLConfig : Option (String × P) := config.select module' DatabaseConfig.postgreSQL

def TenantConfig.getPostgreSQLReplicaConfig : Option (String × P) := config.select module' DatabaseConfig.postgreSQLReplica

structure PostgresConnection (P : Type) where
  connectionStringPrimary : String
  connectionStringReplica : String
  primary : String × P
  replica : Option (String × P)

-- The outside: BuildConnectionString, the schema check and Connect.
structure Outside (P : Type) where
  buildConnectionString : P → Option String
  connects : P → String → String → Bool

def resolveReplicaConnection (outside : Outside P) : Option (String × Option (String × P)) :=
  match config.getPostgreSQLReplicaConfig module' with
  | none => some ("", none)
  | some replica => (outside.buildConnectionString replica.2).map (·, some replica)

def buildTenantPostgresConnection (outside : Outside P) : Option (PostgresConnection P) := do
  let pgConfig ← config.getPostgreSQLConfig module'
  let primaryConnStr ← outside.buildConnectionString pgConfig.2
  let (replicaConnStr, replica) ← resolveReplicaConnection config module' outside
  if outside.connects pgConfig.2 primaryConnStr replicaConnStr then
    some ⟨primaryConnStr, replicaConnStr, pgConfig, replica⟩
  else none

def BelongTogether : Prop := ∀ outside conn replica, buildTenantPostgresConnection config module' outside = some conn →
    conn.replica = some replica → conn.primary.1 = replica.1

-- The first entry with either of the two has both, or the other one is nowhere.
def Paired : List (String × DatabaseConfig P) → Prop
  | [] => True
  | (_, ⟨none, none⟩) :: rest => Paired rest
  | (_, ⟨some _, some _⟩) :: _ => True
  | (_, ⟨some _, none⟩) :: rest => ∀ entry ∈ rest, entry.2.postgreSQLReplica = none
  | (_, ⟨none, some _⟩) :: rest => ∀ entry ∈ rest, entry.2.postgreSQL = none

theorem built_together_iff : BelongTogether config module' ↔ ∀ primary replica, config.getPostgreSQLConfig module' = some primary →
      config.getPostgreSQLReplicaConfig module' = some replica → primary.1 = replica.1 := by
  constructor
  · intro together primary replica first second
    refine together ⟨fun _ => some "", fun _ _ _ => true⟩ ⟨"", "", primary, some replica⟩ replica ?_ rfl
    simp [buildTenantPostgresConnection, resolveReplicaConnection, first, second]
  intro alike _ _ replica built found
  simp only [buildTenantPostgresConnection, bind_eq_bind, bind_eq_some_iff] at built
  obtain ⟨primary, first, _, -, ⟨_, _⟩, resolved, built⟩ := built
  split at built
  · cases built
    cases found
    unfold resolveReplicaConnection at resolved
    split at resolved
    · cases resolved
    rename_i own second
    obtain ⟨_, -, same⟩ := map_eq_some_iff.mp resolved
    cases same
    exact alike primary replica first second
  · cases built

variable {databases rest : List (String × DatabaseConfig P)} {field : DatabaseConfig P → Option P} {found : String × P}

theorem first_found (search : databases.findSome? (fun entry => (field entry.2).map (entry.1, ·)) = some found) :
    ∃ entry ∈ databases, entry.1 = found.1 ∧ field entry.2 ≠ none := by
  obtain ⟨entry, member, here⟩ := exists_of_findSome?_eq_some search
  obtain ⟨_, field, same⟩ := map_eq_some_iff.mp here
  exact ⟨entry, member, by rw [← same], by rw [field]; rintro ⟨⟩⟩

theorem nowhere_iff {key : String} (above : ∀ entry ∈ rest, key < entry.1) : (∀ entry ∈ rest, field entry.2 = none) ↔
      ∀ found, rest.findSome? (fun entry => (field entry.2).map (entry.1, ·)) = some found → key = found.1 := by
  constructor
  · intro nowhere found search
    obtain ⟨entry, member, -, given⟩ := first_found search
    exact absurd (nowhere entry member) given
  intro same
  cases search : rest.findSome? fun entry => (field entry.2).map (entry.1, ·) with
  | none => simpa using search
  | some found =>
    obtain ⟨entry, member, here, -⟩ := first_found search
    have later := above entry member
    rw [here, ← same found search] at later
    exact absurd later (lt_irrefl key)

theorem paired_iff (sorted : (databases.map Prod.fst).Pairwise (· < ·)) : Paired databases ↔ ∀ primary replica,
      databases.findSome? (fun entry => entry.2.postgreSQL.map (entry.1, ·)) = some primary →
      databases.findSome? (fun entry => entry.2.postgreSQLReplica.map (entry.1, ·)) = some replica →
      primary.1 = replica.1 := by
  induction databases with
  | nil => simp [Paired]
  | cons entry rest ih =>
    obtain ⟨first, later⟩ := pairwise_cons.mp sorted
    have above : ∀ other ∈ rest, entry.1 < other.1 := fun other member => first _ (List.mem_map_of_mem member)
    rcases entry with ⟨key, _ | primary, _ | replica⟩
    · simpa [Paired] using ih later
    · simp only [Paired, findSome?_cons, map_some, map_none, nowhere_iff above]
      grind
    · simp only [Paired, findSome?_cons, map_some, map_none, nowhere_iff above]
      grind
    · simp [Paired]

variable {config module'} in
theorem named_together (named : module' ≠ "") (search : config.select module' field = some found) : found.1 = module' := by
  rw [TenantConfig.select, if_pos named, bind_eq_some_iff] at search
  obtain ⟨_, here, picked⟩ := search
  obtain ⟨_, -, rfl⟩ := map_eq_some_iff.mp picked
  simpa using find?_some here

end

open TenantMongo

structure MongoDBConfig where
  uri : String
  host : String
  port : Int
  database : String
  username : String
  password : String
  authSource : String
  directConnection : Bool
  maxPoolSize : Nat
  tls : Bool
  tlsCAFile : String
  tlsCertFile : String
  tlsKeyFile : String
  tlsSkipVerify : Bool

def hasSeparateCertAndKey (cfg : MongoDBConfig) : Bool :=
  cfg.tls && cfg.tlsCertFile ≠ "" && cfg.tlsKeyFile ≠ "" && cfg.tlsCertFile ≠ cfg.tlsKeyFile

def given (condition : Prop) [Decidable condition] (name value : String) : List (String × String) :=
  if condition then [(name, value)] else []

def buildMongoQueryParams (cfg : MongoDBConfig) : List (String × String) := (if cfg.authSource ≠ "" then [("authSource", cfg.authSource)]
    else given (cfg.database ≠ "" ∧ cfg.username ≠ "") "authSource" "admin") ++
  given cfg.directConnection "directConnection" "true" ++ given cfg.tls "tls" "true" ++
  if cfg.tls ∧ ¬ hasSeparateCertAndKey cfg then
    given (cfg.tlsCAFile ≠ "") "tlsCAFile" cfg.tlsCAFile ++
    given (cfg.tlsCertFile ≠ "" ∨ cfg.tlsKeyFile ≠ "") "tlsCertificateKeyFile"
      (if cfg.tlsCertFile = "" then cfg.tlsKeyFile else cfg.tlsCertFile) ++
    given cfg.tlsSkipVerify "tlsInsecure" "true"
  else []

-- net/url: the scheme of a parsed text, and the text of host, port, credentials, path and query.
structure NetURL where
  scheme : String → Option String
  text : String → Int → Option (String × String) → String → List (String × String) → String

def buildMongoURI (url : NetURL) (cfg : MongoDBConfig) : Option String :=
  if cfg.uri ≠ "" then
    if url.scheme cfg.uri = some "mongodb" ∨ url.scheme cfg.uri = some "mongodb+srv" then some cfg.uri else none
  else if cfg.host = "" ∨ cfg.port = 0 then none
  else some (url.text cfg.host cfg.port (if cfg.username ≠ "" ∧ cfg.password ≠ "" then some (cfg.username, cfg.password) else none)
    ("/" ++ cfg.database) (buildMongoQueryParams cfg))

-- What buildTLSConfigFromFiles reads.
structure TLSFiles where
  certFile : String
  keyFile : String
  caFile : String
  skipVerify : Bool
deriving DecidableEq

def tlsFiles (cfg : MongoDBConfig) : Option TLSFiles :=
  if hasSeparateCertAndKey cfg then some ⟨cfg.tlsCertFile, cfg.tlsKeyFile, cfg.tlsCAFile, cfg.tlsSkipVerify⟩ else none

def taken (cfg : MongoDBConfig) (uri : String) : MongoConfig := ⟨uri, cfg.database, cfg.maxPoolSize, hasSeparateCertAndKey cfg⟩

-- URI, database, effective pool size and TLS configuration of the client built from cfg.
def client (url : NetURL) (cfg : MongoDBConfig) : Option (String × String × Nat × Option TLSFiles) :=
  (buildMongoURI url cfg).map fun uri => (uri, cfg.database, effectiveMaxPool cfg.maxPoolSize, tlsFiles cfg)

variable (url : NetURL) {old new : MongoDBConfig} {oldURI newURI : String}

theorem unchanged_iff : hasMongoConfigChanged (some (taken old oldURI)) (some old.database) (taken new newURI) = false ↔
    oldURI = newURI ∧ old.database = new.database ∧
      effectiveMaxPool old.maxPoolSize = effectiveMaxPool new.maxPoolSize ∧ (tlsFiles old).isSome = (tlsFiles new).isSome := by
  have separate : ∀ cfg, (tlsFiles cfg).isSome = hasSeparateCertAndKey cfg := by
    intro _
    unfold tlsFiles
    split <;> simp_all
  simp only [hasMongoConfigChanged, taken, separate]
  grind

theorem change_detected_iff (cached : buildMongoURI url old = some oldURI) (fresh : buildMongoURI url new = some newURI) :
    (hasMongoConfigChanged (some (taken old oldURI)) (some old.database) (taken new newURI) = false ↔
      client url old = client url new) ↔
    (oldURI = newURI → old.database = new.database → effectiveMaxPool old.maxPoolSize = effectiveMaxPool new.maxPoolSize →
      ∀ before ∈ tlsFiles old, ∀ after ∈ tlsFiles new, before = after) := by
  rw [unchanged_iff, client, client, cached, fresh]
  simp only [map_some, Option.some.injEq, Prod.mk.injEq]
  cases tlsFiles old <;> cases tlsFiles new <;> simp

def mutualTLS (certFile : String) : MongoDBConfig :=
  ⟨"", "db", 27017, "ledger", "", "", "", false, 0, true, "ca.pem", certFile, "key.pem", false⟩

def hostOnly : NetURL := ⟨fun _ => none, fun host _ _ _ _ => host⟩

-- A renewed certificate under another path leaves the old client in place.
theorem renewed_certificate_missed :
    ¬ (hasMongoConfigChanged (some (taken (mutualTLS "2025.pem") "db")) (some "ledger") (taken (mutualTLS "2026.pem") "db") =
      false ↔ client hostOnly (mutualTLS "2025.pem") = client hostOnly (mutualTLS "2026.pem")) := by
  decide

theorem kept_certificate_unchanged :
    (hasMongoConfigChanged (some (taken (mutualTLS "2025.pem") "db")) (some "ledger") (taken (mutualTLS "2025.pem") "db") =
      false ↔ client hostOnly (mutualTLS "2025.pem") = client hostOnly (mutualTLS "2025.pem")) :=
  (change_detected_iff hostOnly rfl rfl).mpr fun _ _ _ _ one _ two => mem_unique one two

end LibCommons.TenantConfigs
