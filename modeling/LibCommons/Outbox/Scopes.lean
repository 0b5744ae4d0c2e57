import LibCommons.Lib.Json
import LibCommons.Outbox.LastError
import LibCommons.Outbox.Topology

namespace LibCommons.Topology

open List Json

section

variable (toLower : String → String)

-- The database a configuration leads to: host, port, database and schema as a server tells them apart.
def physical (config : PostgreSQLConfig) : String × Int × String × String :=
  let host := toLower (Go.trimSpace config.host)
  (if host.toList.getLast? = some '.' then String.ofList host.toList.dropLast else host,
    if config.port = 0 then 5432 else config.port, Go.trimSpace config.database,
    if Go.trimSpace config.schema = "" then "public" else Go.trimSpace config.schema)

structure NulFree (config : PostgreSQLConfig) : Prop where
  host : '\x00' ∉ config.host.toList
  database : '\x00' ∉ config.database.toList
  schema : '\x00' ∉ config.schema.toList

theorem int_text (n : Int) : (toString n).toList = intLiteral n := by
  cases n with
  | ofNat n =>
    rw [intLiteral, if_neg (Int.not_lt.mpr (Int.natCast_nonneg n) : ¬ Int.ofNat n < 0)]
    exact String.toList_ofList
  | negSucc n =>
    rw [intLiteral, if_pos (Int.negSucc_lt_zero n)]
    exact (String.toList_append ..).trans (congrArg (List.cons '-') String.toList_ofList)

theorem int_literal_injective : Function.Injective intLiteral := by
  intro _ _ same
  have minus : ∀ (k : Nat) rest, Nat.toDigits 10 k ≠ '-' :: rest := by
    intro k _ starts
    have digit := all_digits k '-' (by simp [starts])
    cases digit
  have value : ∀ k k' : Nat, Nat.toDigits 10 k = Nat.toDigits 10 k' → k = k' := by
    intro _ _ digits
    have both := congrArg (Nat.ofDigitChars 10 · 0) digits
    simpa only [Nat.ofDigitChars_ten_toDigits] using both
  unfold intLiteral at same
  split at same <;> split at same
  · have abs := value _ _ (cons_injective same)
    omega
  · exact absurd same.symm (minus _ _)
  · exact absurd same (minus _ _)
  · have abs := value _ _ same
    omega

theorem int_text_free (n : Int) : '\x00' ∉ (toString n).toList := by
  rw [int_text, intLiteral]
  have free : '\x00' ∉ Nat.toDigits 10 n.natAbs := by
    intro member
    have digit := all_digits n.natAbs _ member
    cases digit
  split
  · simp [free]
  · exact free

variable {toLower} (keeps : ∀ text : String, '\x00' ∉ text.toList → '\x00' ∉ (toLower text).toList)

include keeps in
theorem physical_free {config} (free : NulFree config) :
    '\x00' ∉ (physical toLower config).1.toList ∧ '\x00' ∉ (physical toLower config).2.2.1.toList := by
  have host := keeps (Go.trimSpace config.host) fun member => free.host (Outbox.trim_mem member)
  refine ⟨?_, fun member => free.database (Outbox.trim_mem member)⟩
  simp only [physical]
  split
  · rw [String.toList_ofList]
    exact fun member => host (mem_of_mem_dropLast member)
  · exact host

include keeps in
theorem identity_iff {config config'} (free : NulFree config) (free' : NulFree config') :
    postgresResourceIdentity toLower config = postgresResourceIdentity toLower config' ↔ physical toLower config = physical toLower config' := by
  have shape : ∀ config, (postgresResourceIdentity toLower config).toList = (physical toLower config).1.toList ++ '\x00' ::
      ((toString (physical toLower config).2.1).toList ++ '\x00' :: ((physical toLower config).2.2.1.toList ++ '\x00' ::
        (physical toLower config).2.2.2.toList)) := by
    intro _
    simp [postgresResourceIdentity, physical]
  constructor
  · intro same
    have texts := congrArg String.toList same
    rw [shape, shape] at texts
    obtain ⟨host, texts⟩ := Split.cut_injective _ (physical_free keeps free).1 (physical_free keeps free').1 texts
    obtain ⟨port, texts⟩ := Split.cut_injective _ (int_text_free _) (int_text_free _) texts
    obtain ⟨database, schema⟩ := Split.cut_injective _ (physical_free keeps free).2 (physical_free keeps free').2 texts
    rw [int_text, int_text] at port
    exact Prod.ext (String.toList_injective host) (Prod.ext (int_literal_injective port)
      (Prod.ext (String.toList_injective database) (String.toList_injective schema)))
  · intro same
    apply String.toList_injective
    rw [shape, shape, same]

end

def reached (config : TenantConfig) (tenantID : String) (names : List String) : List (TenantDispatchScope × PostgreSQLConfig) :=
  names.filterMap fun name => (config.getPostgreSQLConfig name).map fun found => (⟨tenantID, name⟩, found)

structure Firsts {A B K : Type} (key : B → K) (taken : List K) (candidates : List (A × B)) (names : List A) (picked : List (A × B)) :
    Prop where
  names : picked.map Prod.fst = names
  order : picked.Sublist candidates
  distinct : picked.Pairwise fun one other => key one.2 ≠ key other.2
  fresh : ∀ entry ∈ picked, key entry.2 ∉ taken
  first : ∀ front entry back, candidates = front ++ entry :: back → key entry.2 ∉ taken →
    (∀ earlier ∈ front, key earlier.2 ≠ key entry.2) → entry ∈ picked

section

variable {A B K : Type} {key : B → K} {taken : List K} {candidates picked : List (A × B)} {names : List A} {entry : A × B}

theorem firsts_cons (free : key entry.2 ∉ taken) (firsts : Firsts key (key entry.2 :: taken) candidates names picked) :
    Firsts key taken (entry :: candidates) (entry.1 :: names) (entry :: picked) := by
  refine ⟨congrArg (List.cons entry.1) firsts.names, firsts.order.cons_cons _, ?_, ?_, ?_⟩
  · refine pairwise_cons.mpr ⟨?_, firsts.distinct⟩
    intro other member same
    exact firsts.fresh other member (same ▸ mem_cons_self ..)
  · intro other member
    rcases mem_cons.mp member with rfl | later
    · exact free
    · exact fun taken => firsts.fresh other later (mem_cons_of_mem _ taken)
  · intro front other back shape unseen earliest
    cases front with
    | nil =>
      obtain ⟨rfl, -⟩ := List.cons.inj shape
      exact mem_cons_self ..
    | cons _ front =>
      obtain ⟨rfl, tail⟩ := List.cons.inj shape
      refine mem_cons_of_mem _ (firsts.first front other back tail ?_ ?_)
      · rw [mem_cons, not_or]
        exact ⟨(earliest entry (mem_cons_self ..)).symm, unseen⟩
      · exact fun one member => earliest one (mem_cons_of_mem _ member)

theorem firsts_skip (seen : key entry.2 ∈ taken) (firsts : Firsts key taken candidates names picked) :
    Firsts key taken (entry :: candidates) names picked := by
  refine { firsts with order := firsts.order.cons _, first := ?_ }
  intro front other back shape unseen earliest
  cases front with
  | nil =>
    obtain ⟨rfl, -⟩ := List.cons.inj shape
    exact absurd seen unseen
  | cons _ front =>
    exact firsts.first front other back (List.cons.inj shape).2 unseen fun one member => earliest one (mem_cons_of_mem _ member)

theorem firsts_key {L : Type} {other : B → L} (firsts : Firsts key [] candidates names picked)
    (same : ∀ one ∈ candidates, ∀ next ∈ candidates, key one.2 = key next.2 ↔ other one.2 = other next.2) :
    Firsts other [] candidates names picked := by
  have inside := firsts.order.subset
  refine ⟨firsts.names, firsts.order, ?_, fun _ _ => not_mem_nil, ?_⟩
  · refine firsts.distinct.imp_of_mem ?_
    intro one next here there _
    rwa [Ne, ← same one (inside here) next (inside there)]
  intro front entry back shape _ earliest
  refine firsts.first front entry back shape not_mem_nil ?_
  intro one member
  rw [Ne, same one (by simp [shape, member]) entry (by simp [shape])]
  exact earliest one member

end

variable {config : TenantConfig}

theorem module_scopes_firsts (toLower : String → String) (config : TenantConfig) (tenantID : String) (names taken : List String) :
    ∃ picked, Firsts (postgresResourceIdentity toLower) taken (reached config tenantID names)
      (moduleScopes toLower config tenantID taken names) picked := by
  induction names generalizing taken with
  | nil =>
    refine ⟨[], rfl, nil_sublist _, List.Pairwise.nil, (by rintro _ ⟨⟩), ?_⟩
    intro _ _ _ shape
    simp [reached] at shape
  | cons name _ ih =>
    rw [moduleScopes, reached, filterMap_cons]
    cases config.getPostgreSQLConfig name with
    | none => exact ih taken
    | some found =>
      dsimp only [Option.map_some]
      split
      · rename_i seen
        obtain ⟨picked, firsts⟩ := ih taken
        exact ⟨picked, firsts_skip seen firsts⟩
      · rename_i new
        obtain ⟨picked, firsts⟩ := ih (postgresResourceIdentity toLower found :: taken)
        exact ⟨(⟨tenantID, name⟩, found) :: picked, firsts_cons new firsts⟩

theorem configured {name} {found} (got : config.getPostgreSQLConfig name = some found) : ∃ entry ∈ config.databases, entry.2 = some found := by
  unfold TenantConfig.getPostgreSQLConfig at got
  split at got
  · obtain ⟨_, _, shape, -⟩ := lookup_eq_some_iff.mp (Option.join_eq_some_iff.mp got)
    exact ⟨(name, some found), by simp [shape], rfl⟩
  · obtain ⟨entry, member, same⟩ := exists_of_findSome?_eq_some got
    exact ⟨entry, member, same⟩

theorem scopes_one_per_database (resolver : ModulePoolResolver) (config : TenantConfig) (tenantID : String)
    (generic : PostgreSQLConfig) (found : config.getPostgreSQLConfig "" = some generic)
    (keeps : ∀ text : String, '\x00' ∉ text.toList → '\x00' ∉ (resolver.toLower text).toList)
    (free : ∀ entry ∈ config.databases, ∀ database, entry.2 = some database → NulFree database) :
    ∃ scopes picked, scopesForTenant resolver (some config) tenantID = some scopes ∧
      picked.head? = some (⟨tenantID, ""⟩, generic) ∧
      Firsts (physical resolver.toLower) [] ((⟨tenantID, ""⟩, generic) :: reached config tenantID resolver.modules.names)
        scopes picked := by
  obtain ⟨picked, firsts⟩ := module_scopes_firsts resolver.toLower config tenantID resolver.modules.names
    [postgresResourceIdentity resolver.toLower generic]
  have clean : ∀ entry ∈ (⟨tenantID, ""⟩, generic) :: reached config tenantID resolver.modules.names, NulFree entry.2 := by
    intro entry member
    obtain ⟨name, got⟩ : ∃ name, config.getPostgreSQLConfig name = some entry.2 := by
      rcases mem_cons.mp member with rfl | later
      · exact ⟨"", found⟩
      · obtain ⟨name, -, held⟩ := mem_filterMap.mp later
        obtain ⟨database, got, rfl⟩ := Option.map_eq_some_iff.mp held
        exact ⟨name, got⟩
    obtain ⟨held, inside, same⟩ := configured got
    exact free held inside entry.2 same
  refine ⟨_, (⟨tenantID, ""⟩, generic) :: picked, by simp [scopesForTenant, found], rfl, firsts_key (firsts_cons not_mem_nil firsts) ?_⟩
  intro one here next there
  exact identity_iff keeps (clean one here) (clean next there)

theorem spelled_twice_one_scope :
    ∃ scopes picked, scopesForTenant ⟨"root", ⟨["ledger", "report"], by decide, by decide⟩, 1, id, by decide⟩
        (some ⟨[("ledger", some ⟨"db", 0, "one", ""⟩), ("report", some ⟨" db.", 5432, "one", "public"⟩)]⟩) "t" = some scopes ∧
      picked.head? = some (⟨"t", ""⟩, ⟨"db", 0, "one", ""⟩) ∧
      Firsts (physical id) [] ((⟨"t", ""⟩, ⟨"db", 0, "one", ""⟩) :: reached
        ⟨[("ledger", some ⟨"db", 0, "one", ""⟩), ("report", some ⟨" db.", 5432, "one", "public"⟩)]⟩ "t" ["ledger", "report"])
        scopes picked := by
  refine scopes_one_per_database ⟨"root", ⟨["ledger", "report"], by decide, by decide⟩, 1, id, by decide⟩ _ "t" _ rfl
    (fun _ => id) ?_
  intro entry member database held
  simp only [mem_cons, not_mem_nil, or_false] at member
  rcases member with rfl | rfl <;> cases held <;> exact ⟨by decide, by decide, by decide⟩

end LibCommons.Topology
