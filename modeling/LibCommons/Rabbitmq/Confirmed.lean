import LibCommons.Rabbitmq.Ownership

namespace LibCommons.Rabbitmq

open Process List
open Function (forall_update_iff update update_of_ne update_self)

def Stage.aloft : Stage → Bool
  | .publish _ (.sent _) | .publish _ .corrupted => true
  | _ => false

section

variable {I : Type} (channel : Channel I)

def Settled : Prop := channel.confirms = [] ∧ (channel.alive = true → channel.outcomes.length = channel.sent.length)

-- The message sent last is the only one that can still be confirmed.
def Awaited (position : Nat) : Prop := position + 1 = channel.sent.length ∧
    ((channel.confirms = [] ∧ (channel.alive = true → channel.outcomes.length = position)) ∨
      ∃ confirmed, channel.confirms = [confirmed] ∧ channel.outcomes.length = position + 1 ∧
        channel.outcomes[position]? = some confirmed.ack)

def Noticed (position : Nat) : Prop := position ∈ channel.returned → channel.returns ≠ []

structure Sent (channels : Nat → Channel I) (actor : Actor I) (publishing : Publishing) (ch position : Nat) : Prop where
  here : (channels ch).sent[position]? = some (actor, publishing)
  only : ∀ other k payload, (channels other).sent[k]? = some (actor, payload) → other = ch ∧ k = position

def Unsent (channels : Nat → Channel I) (actor : Actor I) : Prop :=
  ∀ (ch k : Nat) (payload : Publishing), (channels ch).sent[k]? ≠ some (actor, payload)

def Delivered (channels : Nat → Channel I) (actor : Actor I) (publishing : Publishing) : Prop :=
  ∃ ch position, Sent channels actor publishing ch position ∧ (channels ch).outcomes[position]? = some true ∧
    position ∉ (channels ch).returned

def Sends (channels : Nat → Channel I) (actor : Actor I) : Stage → Prop
  | .publish _ .called | .publish _ .locked => Unsent channels actor
  | .publish _ (.loaded pub) | .publish _ (.drained pub) => Unsent channels actor ∧ Settled (channels pub.confirms)
  | .publish publishing (.sent pub) => ∃ position, Sent channels actor publishing pub.confirms position ∧
      Awaited (channels pub.confirms) position ∧ Noticed (channels pub.confirms) position
  | .publish publishing (.acked pub) => ∃ position, Sent channels actor publishing pub.confirms position ∧
      (channels pub.confirms).outcomes[position]? = some true ∧ Noticed (channels pub.confirms) position
  | .publish publishing (.leaving true) | .publish publishing (.left true) => Delivered channels actor publishing
  | _ => True

structure Grows (actor : Option (Actor I)) (before after : Channel I) : Prop where
  sent : ∃ more, after.sent = before.sent ++ more ∧ ∀ message ∈ more, some message.1 = actor
  outcomes : ∃ more, after.outcomes = before.outcomes ++ more
  returned : ∀ k ∈ after.returned, k ∈ before.returned ∨ k < before.sent.length ∧ before.outcomes[k]? ≠ some true

variable {before after : Channel I}

theorem grows_same (actor) (sent : after.sent = before.sent) (outcomes : after.outcomes = before.outcomes)
    (returned : after.returned = before.returned) : Grows actor before after :=
  ⟨⟨[], by simp [sent], by simp⟩, ⟨[], by simp [outcomes]⟩, fun k member => .inl (returned ▸ member)⟩

variable {channels later : Nat → Channel I} {actor : Actor I} {stepper : Option (Actor I)} {publishing : Publishing}
  {ch position : Nat}

theorem sent_before (grows : Grows stepper before after) (other : some actor ≠ stepper) {k : Nat} {payload : Publishing}
    (found : after.sent[k]? = some (actor, payload)) : before.sent[k]? = some (actor, payload) := by
  obtain ⟨_, same, own⟩ := grows.sent
  rw [same, getElem?_append] at found
  split at found
  · exact found
  · exact absurd (own _ (mem_of_getElem? found)) other

theorem sent_grows (sent : Sent channels actor publishing ch position)
    (grows : ∀ k, Grows stepper (channels k) (later k)) (other : some actor ≠ stepper) :
    Sent later actor publishing ch position := by
  constructor
  · obtain ⟨_, same, -⟩ := (grows ch).sent
    rw [same]
    exact getElem?_append_left (List.getElem?_eq_some_iff.mp sent.here).1 ▸ sent.here
  · intro k place payload found
    exact sent.only k place payload (sent_before (grows k) other found)

theorem unsent_grows (unsent : Unsent channels actor) (grows : ∀ k, Grows stepper (channels k) (later k))
    (other : some actor ≠ stepper) : Unsent later actor := by
  intro k place payload found
  exact unsent k place payload (sent_before (grows k) other found)

theorem outcome_grows (grows : Grows stepper before after) {ack} (known : before.outcomes[position]? = some ack) :
    after.outcomes[position]? = some ack := by
  obtain ⟨_, same⟩ := grows.outcomes
  rw [same, getElem?_append_left (List.getElem?_eq_some_iff.mp known).1]
  exact known

theorem delivered_grows (delivered : Delivered channels actor publishing)
    (grows : ∀ k, Grows stepper (channels k) (later k)) (other : some actor ≠ stepper) :
    Delivered later actor publishing := by
  obtain ⟨ch, position, sent, acked, kept⟩ := delivered
  refine ⟨ch, position, sent_grows sent grows other, outcome_grows (grows ch) acked, ?_⟩
  intro returned
  rcases (grows ch).returned position returned with before | ⟨-, unacked⟩
  · exact kept before
  · exact unacked acked

variable {stage : Stage}

theorem sends_other (sends : Sends channels actor stage) (free : stage.holds = false)
    (grows : ∀ k, Grows stepper (channels k) (later k)) (other : some actor ≠ stepper) : Sends later actor stage := by
  cases stage with
  | publish _ stage =>
    cases stage with
    | called => exact unsent_grows sends grows other
    | left ok =>
      cases ok with
      | false => trivial
      | true => exact delivered_grows sends grows other
    | _ => cases free
  | _ => trivial

theorem aloft_holds (aloft : stage.aloft = true) : stage.holds = true := by
  unfold Stage.aloft at aloft
  split at aloft <;> first | rfl | cases aloft

theorem entered_sends (entering : stage.entering = true) (sends : Sends channels actor stage) :
    stage.aloft = false ∧ Sends channels actor stage.entered := by
  unfold Stage.entering at entering
  split at entering <;> first | exact ⟨rfl, sends⟩ | exact ⟨rfl, trivial⟩ | cases entering

theorem left_sends (leaving : stage.leaving = true) (sends : Sends channels actor stage) : stage.aloft = false ∧ Sends channels actor stage.left := by
  unfold Stage.leaving at leaving
  split at leaving
  · exact ⟨rfl, trivial⟩
  · rename_i ok
    cases ok with
    | false => exact ⟨rfl, trivial⟩
    | true => exact ⟨rfl, sends⟩
  all_goals first | exact ⟨rfl, trivial⟩ | cases leaving

theorem emitted_sends {setting} {next} {state} (emits : Emits setting stage state next) : stage.aloft = false ∧ Sends channels actor next := by
  cases emits <;> exact ⟨rfl, trivial⟩

variable (aside : ∀ publishing, stage.root ≠ .publish publishing .called)

include aside

theorem aside_ground : stage.aloft = false := by
  cases stage with
  | publish publishing => exact absurd rfl (aside publishing)
  | _ => rfl

theorem aside_sends : Sends channels actor stage := by
  cases stage with
  | publish publishing => exact absurd rfl (aside publishing)
  | _ => trivial

end

structure Flight {I : Type} (world : World I) (know : Actor I → Stage) : Prop where
  settled : world.publisher.closed = false → (∀ actor, (know actor).aloft = false) → Settled (world.channels world.publisher.confirms)
  bounded : ∀ ch, ∀ k ∈ (world.channels ch).returned, k < (world.channels ch).sent.length
  fresh : ∀ ch, world.installed ≤ ch → (world.channels ch).sent = [] ∧ (world.channels ch).outcomes = []
  sends : ∀ actor, Sends world.channels actor (know actor)

section

variable {I : Type} {setting : Setting} {calls : I → Call} {world after : World I} {know : Actor I → Stage}
  {actor : Actor I} {channels : Nat → Channel I}

theorem bounded_grows {later : Nat → Channel I} {stepper : Option (Actor I)}
    (bounded : ∀ ch, ∀ k ∈ (channels ch).returned, k < (channels ch).sent.length)
    (grows : ∀ ch, Grows stepper (channels ch) (later ch)) : ∀ ch, ∀ k ∈ (later ch).returned, k < (later ch).sent.length := by
  intro ch k member
  obtain ⟨_, same, -⟩ := (grows ch).sent
  have before : k < (channels ch).sent.length := by
    rcases (grows ch).returned k member with old | ⟨known, -⟩
    · exact bounded ch k old
    · exact known
  rw [same, length_append]
  omega

variable [DecidableEq I] {mine : Stage}

theorem flight_quiet (flight : Flight world know) (channels : after.channels = world.channels)
    (installed : after.installed = world.installed) (opened : after.publisher.closed = false →
      world.publisher.closed = false ∧ after.publisher.confirms = world.publisher.confirms)
    (ground : (know actor).aloft = false ∨ after.publisher.closed = true) (own : Sends after.channels actor mine) :
    Flight after (update know actor mine) := by
  constructor
  · intro still aground
    obtain ⟨before, same⟩ := opened still
    rw [channels, same]
    refine flight.settled before ?_
    intro other
    by_cases itself : other = actor
    · subst itself
      rcases ground with low | closed
      · exact low
      · exact absurd (closed.symm.trans still) (by rintro ⟨⟩)
    · simpa [itself] using aground other
  · rw [channels]
    exact flight.bounded
  · rw [channels, installed]
    exact flight.fresh
  · refine (forall_update_iff know fun other stage => Sends after.channels other stage).mpr ⟨own, ?_⟩
    intro other _
    rw [channels]
    exact flight.sends other

theorem flight_held (owned : Owned calls world know) (flight : Flight world know) (held : (know actor).holds = true)
    (grows : ∀ ch, Grows (some actor) (world.channels ch) (after.channels ch))
    (fresh : ∀ ch, after.installed ≤ ch → (after.channels ch).sent = [] ∧ (after.channels ch).outcomes = [])
    (settled : after.publisher.closed = false → mine.aloft = false → Settled (after.channels after.publisher.confirms))
    (own : Sends after.channels actor mine) : Flight after (update know actor mine) := by
  have free : ∀ other, other ≠ actor → (know other).holds = false := by
    intro other different
    by_contra also
    have apart := holder_alone owned different (by simpa using also)
    exact absurd (held.symm.trans apart) (by rintro ⟨⟩)
  refine ⟨?_, bounded_grows flight.bounded grows, fresh, ?_⟩
  · intro still aground
    exact settled still (by simpa using aground actor)
  · refine (forall_update_iff know fun other stage => Sends after.channels other stage).mpr ⟨own, ?_⟩
    intro other different
    exact sends_other (flight.sends other) (free other different) grows (fun same => different (Option.some.inj same))

omit [DecidableEq I] in
theorem grows_on (stepper : Option (Actor I)) (channels : Nat → Channel I) (ch : Nat) (next : Channel I)
    (grows : Grows stepper (channels ch) next) : ∀ k, Grows stepper (channels k) (update channels ch next k) :=
  (forall_update_iff channels fun k channel => Grows stepper (channels k) channel).mpr ⟨grows, fun _ _ => grows_same stepper rfl rfl rfl⟩

variable {ch : Nat} {next : Channel I}

theorem flight_notices (owned : Owned calls world know) (flight : Flight world know) (held : (know actor).holds = true)
    (sent : next.sent = (world.channels ch).sent) (outcomes : next.outcomes = (world.channels ch).outcomes)
    (returned : next.returned = (world.channels ch).returned) (settled : world.publisher.closed = false → mine.aloft = false →
      Settled (update world.channels ch next world.publisher.confirms))
    (own : Sends (update world.channels ch next) actor mine) :
    Flight { world with channels := update world.channels ch next } (update know actor mine) := by
  refine flight_held owned flight held (grows_on _ world.channels ch next (grows_same _ sent outcomes returned)) ?_ settled own
  refine (forall_update_iff world.channels fun k channel =>
    world.installed ≤ k → channel.sent = [] ∧ channel.outcomes = []).mpr ⟨?_, fun k _ => flight.fresh k⟩
  rw [sent, outcomes]
  exact flight.fresh ch

omit [DecidableEq I] in
theorem settled_notices {current} (settled : Settled (channels current)) (kept : Settled (channels ch) → Settled next) :
    Settled (update channels ch next current) := by
  by_cases same : current = ch
  · subst same
    simpa using kept settled
  · simpa [same] using settled

theorem holder_settled (owned : Owned calls world know) (flight : Flight world know) (held : (know actor).holds = true)
    (ground : (know actor).aloft = false) (opened : world.publisher.closed = false) :
    Settled (world.channels world.publisher.confirms) := by
  refine flight.settled opened ?_
  intro other
  by_cases same : other = actor
  · rw [same, ground]
  · by_contra aloft
    have apart := holder_alone owned same (aloft_holds (by simpa using aloft))
    exact absurd (held.symm.trans apart) (by rintro ⟨⟩)

omit [DecidableEq I] in
theorem sent_last (unsent : Unsent channels actor) (publishing : Publishing) (ch : Nat) :
    Sent (update channels ch { channels ch with sent := (channels ch).sent ++ [(actor, publishing)] }) actor
      publishing ch (channels ch).sent.length := by
  constructor
  · simp
  refine (forall_update_iff channels fun other channel => ∀ k payload,
    channel.sent[k]? = some (actor, payload) → other = ch ∧ k = (channels ch).sent.length).mpr ⟨?_, ?_⟩
  · intro k payload found
    refine ⟨rfl, ?_⟩
    rw [getElem?_append] at found
    split at found
    · exact absurd found (unsent ch k payload)
    · have inside := (List.getElem?_eq_some_iff.mp found).1
      simp only [length_singleton] at inside
      omega
  · intro other _ k payload found
    exact absurd found (unsent other k payload)

variable {publishing : Publishing} {pub : Publisher} (owned : Owned calls world know)

include owned

theorem flight_publish (flight : Flight world know) (was : know actor = .publish publishing (.drained pub)) (own : pub.ch = some ch) :
    Flight (world.onChannel ch fun channel => { channel with sent := channel.sent ++ [(actor, publishing)] })
      (update know actor (.publish publishing (.sent pub))) := by
  have held : (know actor).holds = true := by
    rw [was]
    rfl
  have fits := owned.fits actor
  have sends := flight.sends actor
  rw [was] at fits sends
  obtain ⟨found, confirms, -, -⟩ := fits
  obtain ⟨unsent, settled⟩ := sends
  obtain rfl : ch = pub.confirms := by
    rw [found] at own
    exact (Option.some.inj own).symm.trans confirms.symm
  refine flight_held owned flight held ?_ ?_ (by rintro _ ⟨⟩) ?_
  · exact grows_on _ world.channels _ _ ⟨⟨[(actor, publishing)], rfl, by simp⟩, ⟨[], by simp⟩, fun k => .inl⟩
  · have number := owned.shape.number
    refine (forall_update_iff world.channels fun k channel =>
      world.installed ≤ k → channel.sent = [] ∧ channel.outcomes = []).mpr ⟨?_, fun k _ => flight.fresh k⟩
    intro _
    omega
  · refine ⟨(world.channels pub.confirms).sent.length, sent_last unsent publishing pub.confirms, ?_, ?_⟩
    · simp only [World.onChannel, update_self]
      exact ⟨by simp, .inl settled⟩
    · simp only [World.onChannel, update_self]
      intro returned
      exact absurd (flight.bounded pub.confirms _ returned) (lt_irrefl _)

theorem flight_confirmed (flight : Flight world know) (was : know actor = .publish publishing (.sent pub)) {confirmed} {rest}
    (head : (world.channels pub.confirms).confirms = confirmed :: rest) :
    Flight (world.onChannel pub.confirms fun channel => { channel with confirms := rest })
      (update know actor (.publish publishing (waited pub (.confirmed confirmed)))) := by
  have held : (know actor).holds = true := by
    rw [was]
    rfl
  have sends := flight.sends actor
  rw [was] at sends
  obtain ⟨position, sent, ⟨last, ⟨none, -⟩ | ⟨only, one, all, acked⟩⟩, noticed⟩ := sends
  · rw [none] at head
    cases head
  rw [one] at head
  cases head
  have same : ∀ k, Grows none (world.channels k) (update world.channels pub.confirms { world.channels pub.confirms with confirms := [] } k) :=
    grows_on none world.channels _ _ (grows_same none rfl rfl rfl)
  refine flight_notices owned flight held rfl rfl rfl ?_ ?_
  · intro _ _
    have own := owned.fits actor
    rw [was] at own
    rw [← own.2.1, update_self]
    exact ⟨rfl, fun _ => by rw [all, last]⟩
  · simp only [waited]
    split
    · rename_i positive
      refine ⟨position, sent_grows sent same (by rintro ⟨⟩), ?_, ?_⟩
      · simpa [positive] using acked
      · simpa [Noticed] using noticed
    · trivial

theorem flight_install (flight : Flight world know) (held : (know actor).holds = true)
    (own : ∀ channels : Nat → Channel I, Sends channels actor mine) : Flight world.install (update know actor mine) := by
  obtain ⟨unsent, unconfirmed⟩ := flight.fresh world.installed (le_refl _)
  refine flight_held owned flight held (grows_on _ world.channels _ _ ?_) ?_ ?_ (own _)
  · exact ⟨⟨[], by simp [unsent, freshChannel], by simp⟩, ⟨[], by simp [unconfirmed, freshChannel]⟩, (by rintro _ ⟨⟩)⟩
  · intro ch beyond
    have apart : ch ≠ world.installed := by
      have more : world.installed + 1 ≤ ch := beyond
      omega
    simp only [World.install, update_of_ne apart]
    exact flight.fresh ch (Nat.le_of_succ_le beyond)
  · intro _ _
    simp only [World.install, update_self]
    exact ⟨rfl, fun _ => rfl⟩

omit owned

variable {op : PubOp}

theorem flight_aside (flight : Flight world know) (result) (may : pubMay setting (know actor) op)
    (aside : ∀ publishing, (know actor).root ≠ .publish publishing .called) (channels : after.channels = world.channels)
    (installed : after.installed = world.installed) (opened : after.publisher.closed = false →
      world.publisher.closed = false ∧ after.publisher.confirms = world.publisher.confirms) :
    Flight after (update know actor (pubLearn (know actor) op result)) := by
  refine flight_quiet flight channels installed opened (.inl (aside_ground aside)) (aside_sends ?_)
  rwa [learn_root result may]

theorem flight_act {result : PubRes op} (owned : Owned calls world know) (flight : Flight world know)
    (may : pubMay setting (know actor) op) (done : PubExec setting actor op world result after) :
    Flight after (update know actor (pubLearn (know actor) op result)) := by
  have sends := flight.sends actor
  cases op with
  | lock =>
    obtain ⟨-, rfl⟩ := done
    obtain ⟨ground, own⟩ := entered_sends may sends
    exact flight_quiet flight rfl rfl (fun opened => ⟨opened, rfl⟩) (.inl ground) own
  | unlock =>
    cases done
    obtain ⟨ground, own⟩ := left_sends may sends
    exact flight_quiet flight rfl rfl (fun opened => ⟨opened, rfl⟩) (.inl ground) own
  | load =>
    obtain ⟨rfl, rfl⟩ := done
    obtain ⟨publishing, was⟩ := may
    have ground : (know actor).aloft = false := by
      rw [was]
      rfl
    refine flight_quiet flight rfl rfl (fun opened => ⟨opened, rfl⟩) (.inl ground) ?_
    rw [was] at sends
    simp only [was, pubLearn]
    split
    · rename_i accepted
      refine ⟨sends, ?_⟩
      simp only [Publisher.accepts, Bool.and_eq_true, Bool.not_eq_true'] at accepted
      exact holder_settled owned flight (by rw [was]; rfl) ground accepted.1
    · trivial
  | drainReturns returns =>
    cases done
    obtain ⟨publishing, pub, was, rfl⟩ := may
    rw [was] at sends
    have same := grows_on none world.channels pub.returns { world.channels pub.returns with returns := [] } (grows_same none rfl rfl rfl)
    have settled : ∀ ch, Settled (world.channels ch) → Settled (update world.channels pub.returns
        { world.channels pub.returns with returns := [] } ch) := fun ch before => settled_notices before id
    refine flight_notices owned flight (by rw [was]; rfl) rfl rfl rfl ?_ ?_
    · intro opened _
      exact settled _ (holder_settled owned flight (by rw [was]; rfl) (by rw [was]; rfl) opened)
    · simp only [was, pubLearn]
      exact ⟨unsent_grows sends.1 same (by rintro ⟨⟩), settled _ sends.2⟩
  | publishWithContext =>
    obtain ⟨pub, was, own⟩ := may
    rcases done with ⟨rfl, rfl⟩ | ⟨failed, rfl⟩
    · simp only [was, pubLearn]
      exact flight_publish owned flight was own
    refine flight_quiet flight rfl rfl (fun opened => ⟨opened, rfl⟩) (.inl (by rw [was]; rfl)) ?_
    cases result with
    | none => exact absurd rfl failed
    | some =>
      rw [was]
      trivial
  | select =>
    obtain ⟨publishing, pub, was, rfl, rfl⟩ := may
    have held : (know actor).holds = true := by
      rw [was]
      rfl
    have fits := owned.fits actor
    rw [was] at fits
    obtain ⟨-, own, -, signal⟩ := fits
    simp only [was, pubLearn]
    cases result with
    | confirmed =>
      obtain ⟨rest, head, rfl⟩ := done
      exact flight_confirmed owned flight was head
    | streamClosed =>
      obtain ⟨dead, empty, rfl⟩ := done
      refine flight_held owned flight held (fun _ => grows_same _ rfl rfl rfl) flight.fresh ?_ trivial
      intro _ _
      rw [← own]
      exact ⟨empty, fun alive => absurd (dead.symm.trans alive) (by rintro ⟨⟩)⟩
    | signalled =>
      obtain ⟨raised, rfl⟩ := done
      have closed := (owned.shape.signalled _ raised).2 signal
      exact flight_quiet flight rfl rfl (fun opened => ⟨opened, rfl⟩) (.inr closed) trivial
    | timedOut | cancelled =>
      cases done
      exact flight_held owned flight held (fun _ => grows_same _ rfl rfl rfl) flight.fresh (by rintro _ ⟨⟩) trivial
  | takeReturn returns =>
    obtain ⟨rfl, rfl⟩ := done
    obtain ⟨publishing, pub, was, rfl⟩ := may
    have fits := owned.fits actor
    rw [was] at fits sends
    have same : pub.returns = pub.confirms := fits.2.2.1.trans fits.2.1.symm
    refine flight_notices owned flight (by rw [was]; rfl) rfl rfl rfl ?_ ?_
    · intro opened _
      exact settled_notices (holder_settled owned flight (by rw [was]; rfl) (by rw [was]; rfl) opened) id
    rw [was]
    cases head : (world.channels pub.returns).returns with
    | cons => trivial
    | nil =>
      obtain ⟨position, sent, acked, noticed⟩ := sends
      have grows := grows_on none world.channels pub.returns { world.channels pub.returns with returns := (world.channels pub.returns).returns.tail }
        (grows_same none rfl rfl rfl)
      refine delivered_grows ⟨pub.confirms, position, sent, acked, ?_⟩ grows (by rintro ⟨⟩)
      intro returned
      exact noticed returned (same ▸ head)
  | invalidate =>
    cases done
    obtain ⟨publishing, was⟩ := may
    refine flight_quiet flight rfl rfl (by rintro ⟨⟩) (.inr rfl) ?_
    rw [was]
    trivial
  | setHealth =>
    cases done
    obtain ⟨next, emits⟩ := may
    simp only [pubLearn, emits_emitted emits]
    obtain ⟨ground, own⟩ := emitted_sends emits
    exact flight_quiet flight rfl rfl (fun opened => ⟨opened, rfl⟩) (.inl ground) own
  | signalCurrent =>
    cases done
    obtain ⟨publishing, was⟩ := may
    exact flight_quiet flight rfl rfl (fun opened => ⟨opened, rfl⟩) (.inl (by rw [was]; rfl)) sends
  | closeChannel ch =>
    obtain ⟨held, ground⟩ : (know actor).holds = true ∧ (know actor).aloft = false := by
      rcases may with ⟨publishing, was⟩ | was | ⟨own, was⟩ <;> rw [was] <;> exact ⟨rfl, rfl⟩
    have own : ∀ channels : Nat → Channel I, Sends channels actor (pubLearn (know actor) (.closeChannel ch) result) := by
      intro channels
      rcases may with ⟨publishing, was⟩ | was | ⟨own, was⟩ <;> rw [was] <;> trivial
    have dies : Flight (world.die ch) (update know actor (pubLearn (know actor) (.closeChannel ch) result)) := by
      refine flight_notices owned flight held rfl rfl rfl ?_ (own _)
      intro opened _
      exact settled_notices (holder_settled owned flight held ground opened) fun before => ⟨before.1, (by rintro ⟨⟩)⟩
    rcases done with ⟨-, rfl⟩ | ⟨-, -, rfl | rfl⟩
    · exact dies
    · exact flight_quiet flight rfl rfl (fun opened => ⟨opened, rfl⟩) (.inl ground) (own _)
    · exact dies
  | drainConfirms =>
    obtain ⟨count, rfl⟩ := done
    obtain ⟨held, ground⟩ : (know actor).holds = true ∧ (know actor).aloft = false := by
      rcases may with was | ⟨own, was⟩ <;> rw [was] <;> exact ⟨rfl, rfl⟩
    refine flight_notices owned flight held rfl rfl rfl ?_ ?_
    · intro opened _
      refine settled_notices (holder_settled owned flight held ground opened) fun before => ⟨?_, before.2⟩
      simp [before.1]
    · rcases may with was | ⟨own, was⟩ <;> rw [was] <;> trivial
  | shut =>
    have aside : ∀ publishing, (know actor).root ≠ .publish publishing .called := by
      rw [may]
      rintro _ ⟨⟩
    simp only [PubExec] at done
    split at done
    · obtain ⟨rfl, rfl⟩ := done
      exact flight_aside flight _ may aside rfl rfl fun opened => ⟨opened, rfl⟩
    · obtain ⟨rfl, rfl⟩ := done
      exact flight_aside flight _ may aside rfl rfl (by rintro ⟨⟩)
  | awaitClose =>
    obtain ⟨rfl, -, -⟩ := done
    refine flight_aside flight _ may ?_ rfl rfl fun opened => ⟨opened, rfl⟩
    rw [may]
    rintro _ ⟨⟩
  | markClosed =>
    obtain ⟨rfl, rfl⟩ := done
    refine flight_aside flight _ may ?_ rfl rfl (by rintro ⟨⟩)
    obtain ⟨ch, was⟩ := may
    rw [was]
    rintro _ ⟨⟩
  | prepare =>
    have aside : ∀ publishing, (know actor).root ≠ .publish publishing .called := by
      obtain ⟨ch, was⟩ := may
      rw [was]
      rintro _ ⟨⟩
    simp only [PubExec] at done
    split at done
    · obtain ⟨rfl, rfl⟩ := done
      exact flight_aside flight _ may aside rfl rfl fun opened => ⟨opened, rfl⟩
    · obtain ⟨rfl, rfl⟩ := done
      exact flight_aside flight _ may aside rfl rfl (by rintro ⟨⟩)
  | install =>
    have aside : ∀ publishing, (know actor).root ≠ .publish publishing .called := by
      rcases may with was | ⟨ch, was⟩ <;> rw [was] <;> rintro _ ⟨⟩
    have refused : Flight world (update know actor (pubLearn (know actor) .install result)) :=
      flight_aside flight _ may aside rfl rfl fun opened => ⟨opened, rfl⟩
    simp only [PubExec] at done
    split at done
    · obtain ⟨-, rfl⟩ := done
      exact refused
    rcases done with ⟨-, rfl⟩ | ⟨-, rfl⟩ | ⟨text, -, rfl⟩
    · refine flight_install owned flight ?_ fun _ => aside_sends ?_
      · rcases may with was | ⟨ch, was⟩ <;> rw [was] <;> rfl
      · rwa [learn_root _ may]
    · exact refused
    · exact refused
  | readDone | pollDone | backoff =>
    obtain ⟨-, rfl⟩ := done
    refine flight_aside flight _ may ?_ rfl rfl fun opened => ⟨opened, rfl⟩
    obtain ⟨ch, was⟩ := may
    rw [was]
    rintro _ ⟨⟩
  | _ =>
    cases done
    refine flight_aside flight _ may ?_ rfl rfl fun opened => ⟨opened, rfl⟩
    obtain ⟨ch, was⟩ := may
    rw [was]
    rintro _ ⟨⟩

end

section

variable {I : Type} {setting : Setting} {calls : I → Call} {world after : World I} {know : Actor I → Stage}

structure Serves (before after : Channel I) : Prop where
  grows : Grows none before after
  settled : Settled before → Settled after
  awaited : ∀ position, Awaited before position → Awaited after position
  noticed : ∀ position, Noticed before position → Noticed after position

theorem serves_same (channel : Channel I) : Serves channel channel := ⟨grows_same none rfl rfl rfl, id, fun _ => id, fun _ => id⟩

variable {channel : Channel I}

theorem serves_confirm (ack : Bool) (alive : channel.alive = true) (next : channel.outcomes.length < channel.sent.length) :
    Serves channel { channel with
      outcomes := channel.outcomes ++ [ack]
      confirms := channel.confirms ++ [⟨channel.outcomes.length + 1, ack⟩] } := by
  constructor
  · exact ⟨⟨[], by simp, by simp⟩, ⟨[ack], rfl⟩, fun k => .inl⟩
  · rintro ⟨-, all⟩
    have whole := all alive
    omega
  · rintro position ⟨last, ⟨empty, before⟩ | ⟨_, _, _, -⟩⟩
    · obtain rfl := before alive
      refine ⟨last, .inr ⟨⟨channel.outcomes.length + 1, ack⟩, by simp [empty], by simp, by simp⟩⟩
    · omega
  · exact fun position => id

theorem serves_hand {position} (ret : Return) (sent : position < channel.sent.length) (unacked : channel.outcomes[position]? ≠ some true) :
    Serves channel { channel with returned := position :: channel.returned, returns := channel.returns ++ [ret] } := by
  constructor
  · refine ⟨⟨[], by simp, by simp⟩, ⟨[], by simp⟩, ?_⟩
    intro _ member
    rcases mem_cons.mp member with rfl | before
    · exact .inr ⟨sent, unacked⟩
    · exact .inl before
  · exact id
  · exact fun position => id
  · intro _ _ _
    simp

theorem serves_die (channel : Channel I) : Serves channel { channel with alive := false } := by
  constructor
  · exact grows_same none rfl rfl rfl
  · exact fun settled => ⟨settled.1, (by rintro ⟨⟩)⟩
  · rintro position ⟨last, ⟨empty, -⟩ | confirmed⟩
    · exact ⟨last, .inl ⟨empty, (by rintro ⟨⟩)⟩⟩
    · exact ⟨last, .inr confirmed⟩
  · exact fun position => id

variable (moved : Broker world after)

include moved

theorem broker_serves : ∀ ch, Serves (world.channels ch) (after.channels ch) := by
  have others : ∀ ch next, Serves (world.channels ch) next → ∀ k, Serves (world.channels k) (update world.channels ch next k) := by
    intro ch next serves
    exact (forall_update_iff world.channels fun k channel => Serves (world.channels k) channel).mpr ⟨serves, fun k _ => serves_same _⟩
  cases moved with
  | confirm ch ack alive next => exact others ch _ (serves_confirm ack alive next)
  | hand ch _ ret _ sent unacked => exact others ch _ (serves_hand ret sent unacked)
  | die ch => exact others ch _ (serves_die _)

theorem broker_fresh {ch} (unsent : (world.channels ch).sent = []) (unconfirmed : (world.channels ch).outcomes = []) :
    (after.channels ch).sent = [] ∧ (after.channels ch).outcomes = [] := by
  cases moved with
  | confirm other _ _ next =>
    have apart : ch ≠ other := by
      rintro rfl
      simp [unsent] at next
    simpa [World.onChannel, apart] using ⟨unsent, unconfirmed⟩
  | hand other _ _ _ sent =>
    have apart : ch ≠ other := by
      rintro rfl
      simp [unsent] at sent
    simpa [World.onChannel, apart] using ⟨unsent, unconfirmed⟩
  | die other =>
    by_cases same : ch = other
    · subst same
      simpa [World.die, World.onChannel] using ⟨unsent, unconfirmed⟩
    · simpa [World.die, World.onChannel, same] using ⟨unsent, unconfirmed⟩

theorem broker_publisher : after.publisher = world.publisher ∧ after.installed = world.installed := by
  cases moved <;> exact ⟨rfl, rfl⟩

omit moved

theorem sends_serves {channels later : Nat → Channel I} {actor : Actor I} {stage : Stage}
    (sends : Sends channels actor stage) (serves : ∀ ch, Serves (channels ch) (later ch)) : Sends later actor stage := by
  have grows : ∀ ch, Grows none (channels ch) (later ch) := fun ch => (serves ch).grows
  cases stage with
  | publish _ stage =>
    cases stage with
    | called | locked => exact unsent_grows sends grows (by rintro ⟨⟩)
    | loaded pub | drained pub => exact ⟨unsent_grows sends.1 grows (by rintro ⟨⟩), (serves _).settled sends.2⟩
    | sent =>
      obtain ⟨position, sent, awaited, noticed⟩ := sends
      exact ⟨position, sent_grows sent grows (by rintro ⟨⟩), (serves _).awaited position awaited, (serves _).noticed position noticed⟩
    | acked =>
      obtain ⟨position, sent, acked, noticed⟩ := sends
      exact ⟨position, sent_grows sent grows (by rintro ⟨⟩), outcome_grows (grows _) acked, (serves _).noticed position noticed⟩
    | leaving ok | left ok =>
      cases ok with
      | false => trivial
      | true => exact delivered_grows sends grows (by rintro ⟨⟩)
    | _ => trivial
  | _ => trivial

theorem flight_broker (flight : Flight world know) (moved : Broker world after) : Flight after know := by
  obtain ⟨publisher, installed⟩ := broker_publisher moved
  have serves := broker_serves moved
  constructor
  · intro opened ground
    rw [publisher] at opened ⊢
    exact (serves _).settled (flight.settled opened ground)
  · exact bounded_grows flight.bounded fun ch => (serves ch).grows
  · intro ch beyond
    rw [installed] at beyond
    obtain ⟨unsent, unconfirmed⟩ := flight.fresh ch beyond
    exact broker_fresh moved unsent unconfirmed
  · intro actor
    exact sends_serves (flight.sends actor) serves

theorem flight_launched (calls) : Flight (constructed I) (Actor.stage calls) := by
  refine ⟨fun _ _ => ⟨rfl, fun _ => rfl⟩, (by rintro _ _ ⟨⟩), fun _ _ => ⟨rfl, rfl⟩, ?_⟩
  intro actor
  obtain ⟨_, was⟩ | was | was | was | ⟨ch, was⟩ := stage_cases calls actor
  · rw [was]
    intro _ _ _
    simp [constructed, freshChannel]
  all_goals
    rw [was]
    trivial

theorem flight_keeps [DecidableEq I] : Keeps (pubOutline setting) (pubSemantics setting)
    fun world know => Owned calls world know ∧ Flight world know where
  sees _ _ _ _ _ _ := trivial
  act _ _ _ _ _ _ both may done := ⟨owned_act both.1 may done, flight_act both.1 both.2 may done⟩
  wait _ _ _ _ _ _ _ moved := moved.elim
  drift _ _ _ both moved := ⟨owned_broker both.1 moved, flight_broker both.2 moved⟩

end

theorem nil_means_delivered {I : Type} [DecidableEq I] (setting : Setting) (calls : I → Call)
    (labels : List (Event (Actor I) PubOp PubRes)) (last : PubPool I)
    (run : Run (Step (pubSemantics setting)) (launched setting calls) labels last) (i : I)
    (succeeded : last.threads (.call i) = .ret (.published none)) :
    ∃ publishing, (calls i).publishing = some publishing ∧ publishing.mandatory = true ∧
      ∃ ch position, (last.world.channels ch).sent[position]? = some (.call i, publishing) ∧
        (∀ other k payload, (last.world.channels other).sent[k]? = some (.call i, payload) → other = ch ∧ k = position) ∧
        (last.world.channels ch).outcomes[position]? = some true ∧ position ∉ (last.world.channels ch).returned := by
  obtain ⟨know, tracks, owned, flight⟩ :=
    keeps_run flight_keeps (tracks_launched calls) ⟨owned_launched calls, flight_launched calls⟩ run
  have finished := tracks (.call i)
  have sends := flight.sends (.call i)
  have root := owned.roots (.call i)
  rw [succeeded] at finished
  cases stage : know (.call i) with
  | publish publishing =>
    rw [stage] at finished sends root
    obtain ⟨err, _, same, rfl, told⟩ := finished
    cases same
    obtain rfl := told rfl
    obtain ⟨ch, position, sent, acked, kept⟩ := sends
    have own : (calls i).publishing = some publishing ∧ publishing.mandatory = true := by
      revert root
      simp only [Actor.stage]
      cases calls i with
      | publish =>
        intro root
        cases root
        exact ⟨rfl, rfl⟩
      | close | reconnect => rintro ⟨⟩
    exact ⟨publishing, own.1, own.2, ch, position, sent.here, sent.only, acked, kept⟩
  | close | reconnect =>
    rw [stage] at finished
    obtain ⟨⟨_, same⟩, -⟩ := finished
    cases same
  | monitor =>
    rw [stage] at finished
    cases finished.1

def sampleSetting : Setting := ⟨none, false⟩

def samplePublishing : Publishing := ⟨"orders", "created", true, false, [1]⟩

def sampleCalls (_ : Unit) : Call := .publish "orders" "created" false false [1]

theorem sample_publish : Run.Leads (Step (pubSemantics sampleSetting)) (launched sampleSetting sampleCalls) fun last =>
    last.threads (.call ()) = .ret (.published none) := by
  refine leads_exec _ _ (.call ()) .lock () _ _ rfl ⟨rfl, rfl⟩ ?_
  refine leads_exec _ _ (.call ()) .load (constructed Unit).publisher _ _ rfl ⟨rfl, rfl⟩ ?_
  refine leads_exec _ _ (.call ()) (.drainReturns 0) () _ _ rfl rfl ?_
  refine leads_exec _ _ (.call ()) (.publishWithContext 0 samplePublishing) none _ _ rfl (.inl ⟨rfl, rfl⟩) ?_
  refine leads_broker (.confirm 0 true rfl (zero_lt_one)) ?_
  refine leads_exec _ _ (.call ()) (.select 0 0) (.confirmed ⟨1, true⟩) _ _ rfl ⟨[], rfl, rfl⟩ ?_
  refine leads_exec _ _ (.call ()) (.takeReturn 0) none _ _ rfl ⟨rfl, rfl⟩ ?_
  refine leads_exec _ _ (.call ()) .unlock () _ _ rfl rfl ?_
  exact Run.leads_here _ _ rfl

theorem sample_delivered : Run.Leads (Step (pubSemantics sampleSetting)) (launched sampleSetting sampleCalls) fun last =>
    last.threads (.call ()) = .ret (.published none) ∧ ∃ ch position,
      (last.world.channels ch).sent[position]? = some (.call (), samplePublishing) ∧
      (last.world.channels ch).outcomes[position]? = some true ∧ position ∉ (last.world.channels ch).returned := by
  obtain ⟨labels, last, run, succeeded⟩ := sample_publish
  obtain ⟨_, own, -, ch, position, sent, -, acked, kept⟩ :=
    nil_means_delivered sampleSetting sampleCalls labels last run () succeeded
  cases own
  exact ⟨labels, last, run, succeeded, ch, position, sent, acked, kept⟩

end LibCommons.Rabbitmq
