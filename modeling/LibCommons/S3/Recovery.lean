import LibCommons.S3.RetainedStorage

namespace LibCommons.S3

open List Option

variable {E M : Type}

section

variable (resolvedKey : Bytes)

def Deleted (markers : List DeleteMarkerEntry) : Prop :=
  ∃ marker ∈ markers, toString marker.key = resolvedKey ∧ toBool marker.isLatest = true

instance (markers : List DeleteMarkerEntry) : Decidable (Deleted resolvedKey markers) :=
  inferInstanceAs (Decidable (∃ marker ∈ markers, toString marker.key = resolvedKey ∧ toBool marker.isLatest = true))

-- The verdict on the versions of the exact key alone; none where they are ambiguous.
def judge : List ObjectVersion → Bytes → Option Bytes
  | [], versionID => some versionID
  | version :: rest, versionID =>
    if versionID ≠ [] ∨ toBool version.isLatest = false ∨ toString version.versionId = [] then none
    else judge rest (toString version.versionId)

def verdict (page : List Entry) (versionID : Bytes) : Option Bytes :=
  if Deleted resolvedKey (page.filterMap Entry.asDeleteMarker) then none
  else judge (exactVersions resolvedKey page) versionID

def reported (found : Option Bytes) (passedKey : Bool) : Except (RetainedError E) (Bytes × Bool) :=
  match found with
  | none => .error .retainedVersionAmbiguous
  | some versionID => .ok (versionID, passedKey)

def Passed (page : List Entry) : Prop := ∃ entry ∈ page, resolvedKey < entry.key

instance (page : List Entry) : Decidable (Passed resolvedKey page) := inferInstanceAs (Decidable (∃ entry ∈ page, resolvedKey < entry.key))

def Ordered (page : List Entry) : Prop := page.Pairwise (fun first second => first.key ≤ second.key)

variable (page : List Entry)

theorem mem_versions (version) : version ∈ page.filterMap Entry.asVersion ↔ Entry.version version ∈ page := by
  rw [mem_filterMap]
  constructor
  · rintro ⟨entry, listed, shown⟩
    cases entry with
    | version => cases shown; exact listed
    | deleteMarker => cases shown
  · intro listed
    exact ⟨_, listed, rfl⟩

theorem mem_markers (marker) : marker ∈ page.filterMap Entry.asDeleteMarker ↔ Entry.deleteMarker marker ∈ page := by
  rw [mem_filterMap]
  constructor
  · rintro ⟨entry, listed, shown⟩
    cases entry with
    | version => cases shown
    | deleteMarker => cases shown; exact listed
  · intro listed
    exact ⟨_, listed, rfl⟩

theorem passed_iff : Passed resolvedKey page ↔ (∃ version ∈ page.filterMap Entry.asVersion, resolvedKey < toString version.key) ∨
      (∃ marker ∈ page.filterMap Entry.asDeleteMarker, resolvedKey < toString marker.key) := by
  constructor
  · intro passed
    obtain ⟨entry, member, beyond⟩ := passed
    cases entry with
    | version held => exact .inl ⟨held, (mem_versions page held).mpr member, beyond⟩
    | deleteMarker held => exact .inr ⟨held, (mem_markers page held).mpr member, beyond⟩
  · intro either
    rcases either with ⟨held, member, beyond⟩ | ⟨held, member, beyond⟩
    · exact ⟨.version held, (mem_versions page held).mp member, beyond⟩
    · exact ⟨.deleteMarker held, (mem_markers page held).mp member, beyond⟩

theorem beyond_not_exact (above : ∀ entry ∈ page, resolvedKey < entry.key) (versionID) : verdict resolvedKey page versionID = some versionID := by
  have versions : exactVersions resolvedKey page = [] := by
    apply filter_eq_nil_iff.mpr
    intro version inside
    simpa [Entry.key] using (Std.ne_of_lt (above _ ((mem_versions page version).mp inside))).symm
  have undeleted : ¬ Deleted resolvedKey (page.filterMap Entry.asDeleteMarker) := by
    rintro ⟨marker, inside, mine, _⟩
    exact Std.ne_of_lt (above _ ((mem_markers page marker).mp inside)) mine.symm
  rw [verdict, if_neg undeleted, versions, judge]

theorem judge_append (earlier later versionID) : judge (earlier ++ later) versionID = (judge earlier versionID).bind (judge later) := by
  induction earlier generalizing versionID with
  | nil => rfl
  | cons _ _ ih =>
    simp only [cons_append, judge]
    split
    · rfl
    · exact ih _

theorem deleted_cons (marker markers) : Deleted resolvedKey (marker :: markers) ↔
      (toString marker.key = resolvedKey ∧ toBool marker.isLatest = true) ∨ Deleted resolvedKey markers := by
  simp [Deleted]

theorem deleted_append (earlier later) : Deleted resolvedKey (earlier ++ later) ↔ Deleted resolvedKey earlier ∨ Deleted resolvedKey later := by
  simp only [Deleted, mem_append, or_and_right, exists_or]

theorem exact_versions_append (earlier later) : exactVersions resolvedKey (earlier ++ later) =
      exactVersions resolvedKey earlier ++ exactVersions resolvedKey later := by
  rw [exactVersions, filterMap_append, filter_append]
  rfl

theorem verdict_append (earlier later versionID) : verdict resolvedKey (earlier ++ later) versionID =
      (verdict resolvedKey earlier versionID).bind (verdict resolvedKey later) := by
  simp only [verdict, exact_versions_append, filterMap_append, deleted_append, judge_append]
  by_cases early : Deleted resolvedKey (earlier.filterMap Entry.asDeleteMarker)
  · rw [if_pos (.inl early), if_pos early]
    rfl
  rw [if_neg early]
  cases judge (exactVersions resolvedKey earlier) versionID with
  | none => rw [bind_none, bind_none, ite_self]
  | some => simp only [early, false_or, bind_some, verdict]

end

section

variable (resolvedKey : Bytes)

theorem scan_versions (versions) (versionID : Bytes) (ordered : versions.Pairwise (fun first second => toString first.key ≤ toString second.key)) :
    scanVersions (E := E) resolvedKey versions versionID =
      reported (judge (versions.filter (fun version => toString version.key = resolvedKey)) versionID)
        (decide (∃ version ∈ versions, resolvedKey < toString version.key)) := by
  induction versions generalizing versionID with
  | nil => simp [scanVersions, judge, reported]
  | cons version versions ih =>
    obtain ⟨least, ordered⟩ := pairwise_cons.mp ordered
    simp only [scanVersions]
    by_cases beyond : resolvedKey < toString version.key
    · have nothing : (version :: versions).filter (fun other => toString other.key = resolvedKey) = [] := by
        apply filter_eq_nil_iff.mpr
        intro other member
        rcases mem_cons.mp member with same | later
        · simpa [same] using (Std.ne_of_lt beyond).symm
        · simpa using (Std.ne_of_lt (Std.lt_of_lt_of_le beyond (least other later))).symm
      simp [nothing, judge, beyond, reported]
    · have same : decide (∃ other ∈ version :: versions, resolvedKey < toString other.key) =
          decide (∃ other ∈ versions, resolvedKey < toString other.key) := by simp [beyond]
      rw [if_neg beyond, same]
      by_cases mine : toString version.key = resolvedKey
      · rw [if_neg (by simp [mine]), filter_cons_of_pos (by simp [mine])]
        simp only [judge]
        split
        · rfl
        · exact ih _ ordered
      · rw [if_pos mine, filter_cons_of_neg (by simp [mine])]
        exact ih _ ordered

theorem scan_delete_markers (markers : List DeleteMarkerEntry) (passedKey : Bool) : scanDeleteMarkers (E := E) resolvedKey markers passedKey =
      if Deleted resolvedKey markers then .error .retainedVersionAmbiguous
      else .ok (passedKey || decide (∃ marker ∈ markers, resolvedKey < toString marker.key)) := by
  induction markers generalizing passedKey with
  | nil => simp [scanDeleteMarkers, Deleted]
  | cons marker _ ih =>
    rw [scanDeleteMarkers]
    by_cases beyond : resolvedKey < toString marker.key
    · have other : toString marker.key ≠ resolvedKey := (Std.ne_of_lt beyond).symm
      rw [if_pos beyond, ih]
      simp [deleted_cons, beyond, other]
    rw [if_neg beyond]
    by_cases bad : toString marker.key = resolvedKey ∧ toBool marker.isLatest = true
    · rw [if_pos bad, if_pos ⟨marker, mem_cons_self, bad⟩]
    · rw [if_neg bad, ih]
      simp only [deleted_cons, bad, false_or, exists_mem_cons_iff, beyond]

theorem scan_page (page output) (versionID : Bytes) (versions : output.versions = page.filterMap Entry.asVersion)
    (markers : output.deleteMarkers = page.filterMap Entry.asDeleteMarker) (ordered : Ordered page) :
    scanRetainedVersionPage (E := E) resolvedKey output versionID =
      reported (verdict resolvedKey page versionID) (decide (Passed resolvedKey page)) := by
  have sorted : (page.filterMap Entry.asVersion).Pairwise (fun first second => toString first.key ≤ toString second.key) := by
    apply List.Pairwise.filterMap Entry.asVersion _ ordered
    intro first second below version shown _ shown'
    cases first with
    | deleteMarker => cases shown
    | version =>
      cases second with
      | deleteMarker => cases shown'
      | version => cases shown; cases shown'; exact below
  rw [scanRetainedVersionPage, versions, markers, scan_versions resolvedKey _ versionID sorted, ← exactVersions, verdict]
  cases judge (exactVersions resolvedKey page) versionID with
  | none =>
    rw [ite_self]
    rfl
  | some =>
    rw [reported]
    simp only [scan_delete_markers]
    by_cases deleted : Deleted resolvedKey (page.filterMap Entry.asDeleteMarker)
    · rw [if_pos deleted, if_pos deleted]
      rfl
    · rw [if_neg deleted, if_neg deleted]
      simp only [reported, passed_iff, Bool.decide_or]

def settled (found : Option Bytes) : Except (RetainedError E) Bytes :=
  match found with
  | none => .error .retainedVersionAmbiguous
  | some versionID => if versionID = [] then .error .retainedVersionAmbiguous else .ok versionID

-- A page that has passed the key ends the scan, and later pages cannot change the verdict.
theorem scan_pages (listObjectVersions : ListObjectVersionsInput → Except E (Option ListObjectVersionsOutput))
    (input : ListObjectVersionsInput) (pages : List (List Entry)) (served : Serves listObjectVersions input pages)
    (ordered : Ordered pages.flatten) (fuel : Nat) (enough : pages.length ≤ fuel) (versionID : Bytes) :
    scanPages listObjectVersions resolvedKey fuel input versionID = settled (verdict resolvedKey pages.flatten versionID) := by
  induction served generalizing fuel versionID with
  | last _ page output answered versions markers whole =>
    obtain ⟨fuel, rfl⟩ : ∃ less, fuel = less + 1 := Nat.exists_eq_add_of_le' enough
    rw [flatten_singleton] at ordered ⊢
    simp only [scanPages, answered, scan_page resolvedKey page output versionID versions markers ordered]
    cases verdict resolvedKey page versionID with
    | none => rfl
    | some => simp only [reported, whole, or_true, if_true, settled]
  | more _ page output rest answered versions markers truncated _ _ ih =>
    rw [length_cons] at enough
    obtain ⟨fuel, rfl⟩ : ∃ less, fuel = less + 1 := Nat.exists_eq_add_of_le' (Nat.le_of_add_left_le enough)
    rw [flatten_cons] at ordered ⊢
    obtain ⟨here, after, across⟩ := pairwise_append.mp ordered
    rw [verdict_append]
    simp only [scanPages, answered, scan_page resolvedKey page output versionID versions markers here]
    cases verdict resolvedKey page versionID with
    | none => rfl
    | some found =>
      rw [bind_some]
      simp only [reported]
      by_cases passed : Passed resolvedKey page
      · obtain ⟨past, member, beyond⟩ := passed
        have above : ∀ entry ∈ rest.flatten, resolvedKey < entry.key := fun entry inside =>
          Std.lt_of_lt_of_le beyond (across past member entry inside)
        rw [if_pos (.inl (decide_eq_true ⟨past, member, beyond⟩)), beyond_not_exact resolvedKey _ above, settled]
      · rw [if_neg (by simp [passed, truncated]), if_neg (by tauto)]
        exact ih after fuel (by omega) found

theorem settled_ok (found : Option Bytes) (versionID : Bytes) : settled (E := E) found = .ok versionID ↔ found = some versionID ∧ versionID ≠ [] := by
  cases found with
  | none => simp [settled]
  | some other =>
    by_cases blank : other = []
    · simp only [settled, blank, if_true, Option.some.injEq, reduceCtorEq, false_iff]
      exact fun both => both.2 both.1.symm
    · simp only [settled, blank, if_false, Except.ok.injEq, Option.some.injEq]
      exact ⟨fun same => ⟨same, same ▸ blank⟩, And.left⟩

theorem settled_error {found : Option Bytes} (none' : ∀ versionID, settled (E := E) found ≠ .ok versionID) :
    settled (E := E) found = .error .retainedVersionAmbiguous := by
  cases found with
  | none => rfl
  | some other =>
    by_cases blank : other = []
    · exact if_pos blank
    · exact absurd (if_neg blank) (none' other)

theorem judge_sole (versions) {versionID} (named : versionID ≠ []) : judge versions [] = some versionID ↔
      ∃ version, versions = [version] ∧ toBool version.isLatest = true ∧ toString version.versionId = versionID := by
  cases versions with
  | nil => simpa [judge] using named.symm
  | cons version versions =>
    simp only [judge, ne_eq, not_true_eq_false, false_or]
    by_cases unfit : toBool version.isLatest = false ∨ toString version.versionId = []
    · rw [if_pos unfit]
      constructor
      · intro impossible
        cases impossible
      rintro ⟨_, same, latest, found⟩
      obtain ⟨rfl, rfl⟩ := cons_eq_cons.mp same
      rcases unfit with stale | blank
      · rw [stale] at latest
        cases latest
      · exact absurd (found.symm.trans blank) named
    · rw [not_or, Bool.not_eq_false] at unfit
      rw [if_neg (by simp [unfit])]
      cases versions with
      | nil => simp [judge, unfit.1]
      | cons => simp [judge, unfit.2]

theorem verdict_sole (entries versionID) : verdict resolvedKey entries [] = some versionID ∧ versionID ≠ [] ↔ Sole entries resolvedKey versionID := by
  constructor
  · rintro ⟨chosen, named⟩
    rw [verdict] at chosen
    by_cases deleted : Deleted resolvedKey (entries.filterMap Entry.asDeleteMarker)
    · rw [if_pos deleted] at chosen
      cases chosen
    rw [if_neg deleted] at chosen
    refine ⟨(judge_sole _ named).mp chosen, named, ?_⟩
    intro marker listed mine
    rw [← Bool.not_eq_true]
    intro latest
    exact deleted ⟨marker, (mem_markers entries marker).mpr listed, mine, latest⟩
  · intro sole
    have undeleted : ¬ Deleted resolvedKey (entries.filterMap Entry.asDeleteMarker) := by
      rintro ⟨marker, listed, mine, latest⟩
      have stale := sole.undeleted marker ((mem_markers entries marker).mp listed) mine
      rw [latest] at stale
      cases stale
    rw [verdict, if_neg undeleted]
    exact ⟨(judge_sole _ sole.named).mpr sole.only, sole.named⟩

theorem exact_versions_listing (history) : exactVersions resolvedKey (listing history resolvedKey) = exactVersions resolvedKey history := by
  induction history with
  | nil => rfl
  | cons entry history ih =>
    have apart : exactVersions resolvedKey (entry :: history) = exactVersions resolvedKey [entry] ++ exactVersions resolvedKey history :=
      exact_versions_append resolvedKey [entry] history
    have next : listing (entry :: history) resolvedKey =
        if resolvedKey.isPrefixOf entry.key = true then entry :: listing history resolvedKey
        else listing history resolvedKey := filter_cons
    by_cases inside : resolvedKey.isPrefixOf entry.key = true
    · rw [next, if_pos inside, apart, ← ih]
      exact exact_versions_append resolvedKey [entry] (listing history resolvedKey)
    have outside : exactVersions resolvedKey [entry] = [] := by
      cases entry with
      | deleteMarker => rfl
      | version held =>
        have other : toString held.key ≠ resolvedKey := fun same => inside (by simp [Entry.key, same])
        simp [exactVersions, Entry.asVersion, other]
    rw [next, if_neg inside, apart, outside, nil_append, ih]

theorem sole_listing (history entries) (whole : entries.Perm (listing history resolvedKey)) (versionID) :
    Sole entries resolvedKey versionID ↔ Sole history resolvedKey versionID := by
  have versions : (exactVersions resolvedKey entries).Perm (exactVersions resolvedKey history) := by
    rw [← exact_versions_listing resolvedKey history]
    exact (whole.filterMap _).filter _
  have markers : ∀ marker : DeleteMarkerEntry, toString marker.key = resolvedKey →
      (Entry.deleteMarker marker ∈ entries ↔ Entry.deleteMarker marker ∈ history) := by
    intro marker mine
    rw [whole.mem_iff, listing, mem_filter]
    simp [Entry.key, mine]
  constructor
  · intro sole
    obtain ⟨version, alone, fit⟩ := sole.only
    refine ⟨⟨version, ?_, fit⟩, sole.named, ?_⟩
    · rw [alone] at versions
      exact perm_singleton.mp versions.symm
    · intro marker listed mine
      exact sole.undeleted marker ((markers marker mine).mpr listed) mine
  · intro sole
    obtain ⟨version, alone, fit⟩ := sole.only
    refine ⟨⟨version, ?_, fit⟩, sole.named, ?_⟩
    · rw [alone] at versions
      exact perm_singleton.mp versions
    · intro marker listed mine
      exact sole.undeleted marker ((markers marker mine).mp listed) mine

end

theorem sole_held {history} {resolvedKey versionID} (sole : Sole history resolvedKey versionID) :
    ∃ version, Entry.version version ∈ history ∧ toString version.key = resolvedKey ∧ toString version.versionId = versionID := by
  obtain ⟨version, alone, _, found⟩ := sole.only
  have member : version ∈ exactVersions resolvedKey history := by
    rw [alone]
    exact mem_singleton_self version
  obtain ⟨listed, mine⟩ := mem_filter.mp member
  exact ⟨version, (mem_versions history version).mp listed, of_decide_eq_true mine, found⟩

theorem recover_retained_version_exact (history : List Entry) (pages : List (List Entry)) (bucket resolvedKey : Bytes)
    (listObjectVersions : ListObjectVersionsInput → Except E (Option ListObjectVersionsOutput))
    (statResolvedVersion : Bytes → Bytes → Except E M)
    (served : Serves listObjectVersions (firstInput bucket resolvedKey) pages)
    (whole : pages.flatten.Perm (listing history resolvedKey)) (ordered : Ordered pages.flatten)
    (few : pages.length ≤ 32) :
    (∀ versionID, selectRetainedVersion listObjectVersions bucket resolvedKey = .ok versionID ↔
      Sole history resolvedKey versionID) ∧
    (∀ versionID, Sole history resolvedKey versionID →
      recoverRetainedVersion listObjectVersions statResolvedVersion bucket resolvedKey =
        (statResolvedVersion resolvedKey versionID).mapError .statFailed) ∧
    ((∀ versionID, ¬ Sole history resolvedKey versionID) →
      recoverRetainedVersion listObjectVersions statResolvedVersion bucket resolvedKey = .error .retainedVersionAmbiguous) ∧
    (∀ versionID, selectRetainedVersion listObjectVersions bucket resolvedKey = .ok versionID →
      ∃ version, Entry.version version ∈ history ∧ toString version.key = resolvedKey ∧
        toString version.versionId = versionID) := by
  have scanned : selectRetainedVersion listObjectVersions bucket resolvedKey =
      settled (verdict resolvedKey pages.flatten []) :=
    scan_pages resolvedKey listObjectVersions _ pages served ordered retainedRecoveryMaxPages few []
  have selects : ∀ versionID, selectRetainedVersion listObjectVersions bucket resolvedKey = .ok versionID ↔
      Sole history resolvedKey versionID := by
    intro versionID
    rw [scanned, settled_ok, verdict_sole, sole_listing resolvedKey history _ whole]
  refine ⟨selects, ?_, ?_, ?_⟩
  · intro versionID sole
    rw [recoverRetainedVersion, (selects versionID).mpr sole]
  · intro missing
    have refused : selectRetainedVersion listObjectVersions bucket resolvedKey = .error .retainedVersionAmbiguous := by
      rw [scanned]
      apply settled_error
      intro versionID chosen
      rw [← scanned] at chosen
      exact missing versionID ((selects versionID).mp chosen)
    rw [recoverRetainedVersion, refused]
  · intro versionID chosen
    exact sole_held ((selects versionID).mp chosen)

def reportKey : Bytes := [114]

def reportHistory : List Entry := [.version ⟨some reportKey, some [49], some true⟩, .deleteMarker ⟨some reportKey, some false⟩,
    .version ⟨some [114, 46], some [50], some true⟩]

def listReports (input : ListObjectVersionsInput) : Except Unit (Option ListObjectVersionsOutput) :=
  if input.keyMarker = none then
    .ok (some ⟨[⟨some reportKey, some [49], some true⟩], [⟨some reportKey, some false⟩], some true, some reportKey, none⟩)
  else .ok (some ⟨[⟨some [114, 46], some [50], some true⟩], [], some false, none, none⟩)

theorem report_recovered :
    recoverRetainedVersion listReports (fun _ versionID => .ok versionID) [98] reportKey = .ok [49] := by
  have served : Serves listReports (firstInput [98] reportKey) [reportHistory.take 2, reportHistory.drop 2] :=
    .more _ _ _ _ rfl rfl rfl rfl (.inl (by decide)) (.last _ _ _ rfl rfl rfl rfl)
  have recovered := recover_retained_version_exact reportHistory [reportHistory.take 2, reportHistory.drop 2] [98] reportKey
    listReports (fun _ versionID => .ok versionID) served (by decide) (by unfold Ordered; decide) (by decide)
  exact recovered.2.1 [49] ⟨⟨_, rfl, rfl, rfl⟩, by decide, by simp [reportHistory, toBool]⟩

end LibCommons.S3
