import LibCommons.Lib.Threads

namespace LibCommons.Crypto

open Threads
open Function (update update_of_ne update_self)

abbrev Bytes := List UInt8

-- HKDF with AES-GCM and the SHA-256 a key is told by, with what is assumed of sealing.
structure Suite (K : Type) where
  derive : String → Bytes → K
  id : K → Bytes
  aeadSeal : K → (nonce plaintext data : Bytes) → Bytes
  aeadOpen : K → (nonce ciphertext data : Bytes) → Option Bytes
  opens : ∀ key nonce plaintext data, aeadOpen key nonce (aeadSeal key nonce plaintext data) data = some plaintext
  refuses : ∀ key other nonce plaintext data, other ≠ key → aeadOpen other nonce (aeadSeal key nonce plaintext data) data = none

inductive SealerError where
  | emptySecret
  | secretTooShort
  | ciphertextTooShort
  | openFailed

structure Keyset (K : Type) where
  current : K
  previous : Option K

def nonceSize : Nat := 12

def minSecretLen : Nat := 32

variable {K I : Type} (suite : Suite K)

def deriveAEAD (purpose : String) (secret : Bytes) : Except SealerError K :=
  if secret = [] then .error .emptySecret
  else if secret.length < minSecretLen then .error .secretTooShort
  else .ok (suite.derive purpose secret)

def Keyset.currentID (ks : Keyset K) : Bytes := suite.id ks.current

def Keyset.sealWith (ks : Keyset K) (nonce plaintext data : Bytes) : Bytes :=
  nonce ++ suite.aeadSeal ks.current nonce plaintext data

def Keyset.openWith (ks : Keyset K) (sealed data : Bytes) : Except SealerError Bytes :=
  if sealed.length < nonceSize then .error .ciphertextTooShort
  else
    let tried := (ks.current :: ks.previous.toList).findSome? fun aead =>
      suite.aeadOpen aead (sealed.take nonceSize) (sealed.drop nonceSize) data
    tried.elim (.error .openFailed) .ok

-- The pointer holds the keyset published last; a keyset is told from the others by its number.
structure Sealer (K : Type) where
  keys : Nat → Keyset K
  latest : Nat

inductive Phase (K : Type) where
  | idle
  | rotating (aead : K)
  | loaded (aead : K) (old : Nat)

-- Each call with the number of the keyset it saw or published.
inductive Label (K : Type) where
  | quiet
  | sealed (number : Nat) (plaintext data sealed : Bytes)
  | opened (number : Nat) (sealed data : Bytes) (result : Except SealerError Bytes)
  | rotated (number : Nat) (aead : K)
  | refused (err : SealerError)

def Sealer.publish (s : Sealer K) (aead : K) : Sealer K :=
  ⟨update s.keys (s.latest + 1) ⟨aead, some (s.keys s.latest).current⟩, s.latest + 1⟩

inductive Move (purpose : String) (i : I) : Sealer K → Phase K → Label K → Sealer K → Phase K → Prop where
  | seals (s nonce plaintext data) (random : nonce.length = nonceSize) : Move purpose i s .idle
      (.sealed s.latest plaintext data ((s.keys s.latest).sealWith suite nonce plaintext data)) s .idle
  | opens (s sealed data) : Move purpose i s .idle (.opened s.latest sealed data ((s.keys s.latest).openWith suite sealed data)) s .idle
  | rotate (s next aead) (derived : deriveAEAD suite purpose next = .ok aead) : Move purpose i s .idle .quiet s (.rotating aead)
  | refuse (s next err) (derived : deriveAEAD suite purpose next = .error err) : Move purpose i s .idle (.refused err) s .idle
  | same (s aead) (equal : (s.keys s.latest).currentID suite = suite.id aead) :
      Move purpose i s (.rotating aead) (.rotated s.latest aead) s .idle
  | load (s aead) (differs : (s.keys s.latest).currentID suite ≠ suite.id aead) :
      Move purpose i s (.rotating aead) .quiet s (.loaded aead s.latest)
  | swap (s aead) : Move purpose i s (.loaded aead s.latest) (.rotated (s.latest + 1) aead) (s.publish aead) .idle
  | retry (s aead old) (moved : old ≠ s.latest) : Move purpose i s (.loaded aead old) .quiet s (.rotating aead)

-- NewSealer has derived the key.
def start (aead : K) : Threads I (Sealer K) (Phase K) := ⟨⟨fun _ => ⟨aead, none⟩, 0⟩, fun _ => .idle⟩

def Linked (s : Sealer K) : Prop := ∀ n, n < s.latest → (s.keys (n + 1)).previous = some (s.keys n).current ∧
    (s.keys (n + 1)).currentID suite ≠ (s.keys n).currentID suite

def Fits (s : Sealer K) : Phase K → Prop
  | .loaded aead old => old ≤ s.latest ∧ (s.keys old).currentID suite ≠ suite.id aead
  | _ => True

def Tells (s : Sealer K) : Label K → Prop
  | .sealed n plaintext data sealed => n ≤ s.latest ∧
      ∃ nonce, nonce.length = nonceSize ∧ sealed = (s.keys n).sealWith suite nonce plaintext data
  | .opened n sealed data result => n ≤ s.latest ∧ result = (s.keys n).openWith suite sealed data
  | .rotated n aead => n ≤ s.latest ∧ (s.keys n).currentID suite = suite.id aead
  | _ => True

-- Published keysets stay what they were.
structure Grows (s next : Sealer K) : Prop where
  latest : s.latest ≤ next.latest
  keys : ∀ n, n ≤ s.latest → next.keys n = s.keys n

variable {suite} {s next : Sealer K} {purpose : String} {phase after : Phase K} {label : Label K} {i : I}

theorem publish_grows (s : Sealer K) (aead : K) : Grows s (s.publish aead) := by
  refine ⟨Nat.le_succ _, ?_⟩
  intro n within
  exact update_of_ne (by omega) ..

theorem fits_grows (grows : Grows s next) (fits : Fits suite s phase) : Fits suite next phase := by
  cases phase with
  | loaded aead old =>
    refine ⟨fits.1.trans grows.latest, ?_⟩
    rw [grows.keys old fits.1]
    exact fits.2
  | _ => trivial

theorem tells_grows (grows : Grows s next) (tells : Tells suite s label) : Tells suite next label := by
  cases label with
  | sealed | opened | rotated =>
    refine ⟨tells.1.trans grows.latest, ?_⟩
    rw [grows.keys _ tells.1]
    exact tells.2
  | _ => trivial

theorem publish_linked (linked : Linked suite s) {aead : K} (differs : (s.keys s.latest).currentID suite ≠ suite.id aead) :
    Linked suite (s.publish aead) := by
  intro n within
  have grows := (publish_grows s aead).keys
  rcases Nat.lt_succ_iff_lt_or_eq.mp within with before | rfl
  · rw [grows (n + 1) before, grows n (by omega)]
    exact linked n before
  · rw [grows _ (le_refl _)]
    simpa [Sealer.publish, Keyset.currentID] using differs.symm

theorem move_tells (linked : Linked suite s) (fits : Fits suite s phase) (moves : Move suite purpose i s phase label next after) :
    Grows s next ∧ Linked suite next ∧ Fits suite next after ∧ Tells suite next label := by
  have stays : Grows s s := ⟨le_refl _, fun _ _ => rfl⟩
  cases moves with
  | seals nonce _ _ random => exact ⟨stays, linked, trivial, le_refl _, nonce, random, rfl⟩
  | opens => exact ⟨stays, linked, trivial, le_refl _, rfl⟩
  | same _ equal => exact ⟨stays, linked, trivial, le_refl _, equal⟩
  | load _ differs => exact ⟨stays, linked, ⟨le_refl _, differs⟩, trivial⟩
  | swap aead =>
    refine ⟨publish_grows s aead, publish_linked linked fits.2, trivial, le_refl _, ?_⟩
    simp [Sealer.publish, Keyset.currentID]
  | rotate | refuse | retry => exact ⟨stays, linked, trivial, trivial⟩

theorem moves_keep (purpose : String) : Keeps (Move (I := I) suite purpose) (Linked suite) fun _ s phase => Fits suite s phase := by
  refine ⟨?_, ?_⟩
  · intro i _ _ _ _ _ linked fits moves
    obtain ⟨-, linked, fits, -⟩ := move_tells linked fits moves
    exact ⟨linked, fits⟩
  · intro i j _ _ _ _ _ _ _ linked fits other moves
    exact fits_grows (move_tells linked fits moves).1 other

variable {keys : Keyset K} {key : K} {nonce plaintext data : Bytes}

theorem open_sealed (sized : nonce.length = nonceSize) : keys.openWith suite (nonce ++ suite.aeadSeal key nonce plaintext data) data =
      ((keys.current :: keys.previous.toList).findSome? fun aead =>
        suite.aeadOpen aead nonce (suite.aeadSeal key nonce plaintext data) data).elim (.error .openFailed) .ok := by
  rw [Keyset.openWith, if_neg (by simp [sized]), ← sized, List.take_left, List.drop_left]

theorem open_kept (sized : nonce.length = nonceSize) (kept : keys.current = key ∨ keys.previous = some key) :
    keys.openWith suite (nonce ++ suite.aeadSeal key nonce plaintext data) data = .ok plaintext := by
  rw [open_sealed sized]
  by_cases current : keys.current = key
  · simp [current, suite.opens]
  · simp [kept.resolve_left current, suite.opens, suite.refuses key _ _ _ _ current]

theorem open_dropped (sized : nonce.length = nonceSize) (current : keys.current ≠ key) (previous : keys.previous ≠ some key) :
    keys.openWith suite (nonce ++ suite.aeadSeal key nonce plaintext data) data = .error .openFailed := by
  rw [open_sealed sized]
  have refused : ∀ aead ∈ keys.current :: keys.previous.toList, suite.aeadOpen aead nonce (suite.aeadSeal key nonce plaintext data) data = none := by
    intro aead member
    apply suite.refuses
    rintro rfl
    simp [current.symm, previous] at member
  rw [List.findSome?_eq_none_iff.mpr refused]
  rfl

variable [DecidableEq I] {labels : List (I × Label K)} {state : Threads I (Sealer K) (Phase K)}

theorem told_run {first : K} (run : Run (Step (Move suite purpose)) (start first) labels state) :
    Linked suite state.world ∧ ∀ i label, (i, label) ∈ labels → Tells suite state.world label := by
  have told := Run.history (fun past state => Good (Linked suite) (fun _ s phase => Fits suite s phase) state ∧
    ∀ i label, (i, label) ∈ past → Tells suite state.world label) ?_ _ state labels [] run ⟨⟨?_, fun _ => trivial⟩, by simp⟩
  · exact ⟨told.1.1, told.2⟩
  · intro past state label next told step
    refine ⟨good_step (moves_keep purpose) state label next told.1 step, ?_⟩
    cases step with
    | move i label world phase moves =>
      obtain ⟨grows, -, -, tells⟩ := move_tells told.1.1 (told.1.2 i) moves
      intro j other member
      rcases List.mem_append.mp member with earlier | last
      · exact tells_grows grows (told.2 j other earlier)
      · cases List.mem_singleton.mp last
        exact tells
  · intro n within
    cases within

def plainSuite : Suite UInt8 where
  derive _ secret := secret.headD 0
  id key := [key]
  aeadSeal key _ plaintext _ := key :: plaintext
  aeadOpen key _ ciphertext _ := if ciphertext.head? = some key then some ciphertext.tail else none
  opens := by simp
  refuses := by simp [eq_comm]

end LibCommons.Crypto
