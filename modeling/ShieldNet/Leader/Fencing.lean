import ShieldNet.Leader.Election

/-!
# Fencing tokens

`internal/service/leader/fencing.go`: each term of leadership has an epoch, which the session reads
from the database, or else the generation of the process. The terms are the times that `TryLock`
told a replica it has the lock, in that order; a history beside the election keeps them with the
epochs that were read and stored for them.

Over any sequence of events, with sessions lost and processes restarted, the epochs rise from term
to term as long as each term reads its epoch (`epochs_increase`): the read is made on the session
that has the lock, and the next term begins only after that. A term that falls back to the
generation can have an epoch below that of an earlier term (`fallback_epoch_is_older`).
-/

namespace ShieldNet.Leader

open Elector List Function

structure FencingToken where
  lockId : Int
  epoch : ℕ

def FencingToken.newerThan (token other : FencingToken) : Bool :=
  token.lockId = other.lockId && other.epoch < token.epoch

def Elector.fencingToken (lockId : Int) (elector : Elector) : Option FencingToken :=
  if elector.isLeader then some ⟨lockId, elector.epoch⟩ else none

/-! ## Terms -/

/-- The terms of leadership, each by its session: those that were granted, in order, and the
epochs that were read and stored. -/
structure Terms where
  granted : List ℕ
  read : ℕ → Option ℕ
  stored : ℕ → Option ℕ

open Terms

namespace Terms

def grant (terms : Terms) (session : ℕ) : Terms :=
  { terms with granted := terms.granted ++ [session] }

def setRead (terms : Terms) (session epoch : ℕ) : Terms :=
  { terms with read := update terms.read session (some epoch) }

def setStored (terms : Terms) (session epoch : ℕ) : Terms :=
  { terms with stored := update terms.stored session (some epoch) }

theorem read_setRead {terms : Terms} {session epoch other : ℕ} :
    (terms.setRead session epoch).read other =
      if other = session then some epoch else terms.read other :=
  update_apply ..

theorem stored_setStored {terms : Terms} {session epoch other : ℕ} :
    (terms.setStored session epoch).stored other =
      if other = session then some epoch else terms.stored other :=
  update_apply ..

end Terms

/-- What a step adds to the history. -/
def Terms.record (terms : Terms) (after : Phase) : Phase → Terms
  | .tryLock session =>
    match after with
    | .countTerm _ => terms.grant session
    | _ => terms
  | .readEpoch session =>
    match after with
    | .storeEpoch _ epoch => terms.setRead session epoch
    | _ => terms
  | .storeEpoch session epoch => terms.setStored session epoch
  | .follower | .openSession | .closeProbe _ | .countTerm _ | .raiseFlag _ | .leader _ | .ping _
  | .unlock _ | .close _ | .lowerFlag => terms

structure Fenced (ι : Type) where
  election : Election ι
  terms : Terms

open Fenced

variable {ι : Type} [DecidableEq ι]

def Fenced.new : Fenced ι := ⟨.new, ⟨[], fun _ => none, fun _ => none⟩⟩

def Fenced.step (fenced : Fenced ι) (event : ElectionEvent ι) : Fenced ι where
  election := fenced.election.step event
  terms :=
    match event with
    | .step replica answer increase =>
      fenced.terms.record
        ((fenced.election.elector replica).advance answer increase fenced.election.server).2.phase
        (fenced.election.elector replica).phase
    | .tick _ | .relinquish _ | .lose _ | .restart _ => fenced.terms

def Precedes (epochs : ℕ → Option ℕ) (earlier later : ℕ) : Prop :=
  ∀ before ∈ epochs earlier, ∀ after ∈ epochs later, before < after

/-- The history against the server. A session that has the lock and knows it is the last term. -/
structure TermsSound (server : LockServer) (terms : Terms) : Prop where
  opened : ∀ session ∈ terms.granted, session < server.opened
  distinct : terms.granted.Nodup
  readGranted : ∀ session epoch, terms.read session = some epoch → session ∈ terms.granted
  bound : ∀ session epoch, terms.read session = some epoch → epoch ≤ server.lastEpoch
  ordered : terms.granted.Pairwise (Precedes terms.read)
  storedRead : ∀ session epoch, terms.stored session = some epoch → terms.read session = some epoch
  last : ∀ session ∈ terms.granted, server.holder = some session →
    ∃ before, terms.granted = before ++ [session]

def Knows (terms : Terms) (elector : Elector) : Prop :=
  match elector.phase with
  | .follower | .openSession | .closeProbe _ | .lowerFlag => True
  | .tryLock session => session ∉ terms.granted
  | .countTerm session | .readEpoch session =>
    session ∈ terms.granted ∧ terms.read session = none
  | .storeEpoch session epoch => session ∈ terms.granted ∧ terms.read session = some epoch
  | .raiseFlag session | .leader session | .ping session | .unlock session | .close session =>
    session ∈ terms.granted ∧ terms.stored session = some elector.epoch

/-- The read of an epoch is answered, if the replica is about to read one. -/
def LockServer.readAnswered (server : LockServer) (answer : Answer) : Phase → Bool
  | .readEpoch session => (server.reply session answer).isOk
  | .follower | .openSession | .tryLock _ | .closeProbe _ | .countTerm _ | .storeEpoch ..
  | .raiseFlag _ | .leader _ | .ping _ | .unlock _ | .close _ | .lowerFlag => true

def ReadsEpoch (fenced : Fenced ι) : ElectionEvent ι → Prop
  | .step replica answer _ => fenced.election.server.readAnswered answer
      (fenced.election.elector replica).phase = true
  | .tick _ | .relinquish _ | .lose _ | .restart _ => True

structure FencedSound (fenced : Fenced ι) : Prop where
  sound : Sound fenced.election
  terms : TermsSound fenced.election.server fenced.terms
  knows : ∀ replica, Knows fenced.terms (fenced.election.elector replica)

/-! ## One step -/

/-- What a step on a session leaves of the history to the other replicas. -/
structure Extends (terms later : Terms) (session : ℕ) : Prop where
  granted : later.granted = terms.granted ∨ later.granted = terms.granted ++ [session]
  read : ∀ other ≠ session, later.read other = terms.read other
  stored : ∀ other ≠ session, later.stored other = terms.stored other

theorem extends_refl {terms : Terms} {session : ℕ} : Extends terms terms session :=
  ⟨.inl rfl, fun _ _ => rfl, fun _ _ => rfl⟩

theorem Extends.mem {terms later : Terms} {session other : ℕ} (ext : Extends terms later session)
    (member : other ∈ terms.granted) : other ∈ later.granted := by
  rcases ext.granted with same | grown
  · rw [same]
    exact member
  · rw [grown]
    exact mem_append_left _ member

theorem Knows.extends {terms later : Terms} {session : ℕ} {elector : Elector}
    (knows : Knows terms elector) (ext : Extends terms later session)
    (foreign : elector.phase.session? ≠ some session) : Knows later elector := by
  rw [Knows] at knows ⊢
  cases here : elector.phase with
  | tryLock other =>
    rw [here] at knows foreign
    have differs : other ≠ session := fun same => foreign (same ▸ rfl)
    rcases ext.granted with same | grown
    · simpa only [same] using knows
    · simp only [grown, mem_append, mem_singleton, not_or]
      exact ⟨knows, differs⟩
  | countTerm other | readEpoch other | storeEpoch other epoch =>
    rw [here] at knows foreign
    have differs : other ≠ session := fun same => foreign (same ▸ rfl)
    exact ⟨ext.mem knows.1, (ext.read other differs).trans knows.2⟩
  | raiseFlag other | leader other | ping other | unlock other | close other =>
    rw [here] at knows foreign
    have differs : other ≠ session := fun same => foreign (same ▸ rfl)
    exact ⟨ext.mem knows.1, (ext.stored other differs).trans knows.2⟩
  | _ => trivial

variable {server server' : LockServer} {terms : Terms} {elector : Elector} {answer : Answer}
  {increase session epoch : ℕ}

section

variable (sound : TermsSound server terms)
include sound

/-- The history stays when the lock goes to no term from before. -/
theorem TermsSound.mono (opened : server.opened ≤ server'.opened)
    (epoch : server.lastEpoch ≤ server'.lastEpoch)
    (holder : ∀ session ∈ terms.granted, server'.holder = some session →
      server.holder = some session) : TermsSound server' terms where
  opened session member := (sound.opened session member).trans_le opened
  distinct := sound.distinct
  readGranted := sound.readGranted
  bound session value read := (sound.bound session value read).trans epoch
  ordered := sound.ordered
  storedRead := sound.storedRead
  last session member now := sound.last session member (holder session member now)

theorem TermsSound.free : TermsSound (server.free session) terms :=
  sound.mono le_rfl le_rfl fun _ _ holder => (LockServer.free_holder.mp holder).1

theorem TermsSound.unread (new : session ∉ terms.granted) : terms.read session = none := by
  cases read : terms.read session with
  | none => rfl
  | some epoch => exact absurd (sound.readGranted session epoch read) new

/-- **A term is granted**, after all terms so far. -/
theorem TermsSound.grant (inside : session < server.opened) (new : session ∉ terms.granted) :
    TermsSound (server.grant session) (terms.grant session) := by
  refine ⟨?_, ?_, ?_, sound.bound, ?_, sound.storedRead, ?_⟩
  · exact forall_mem_append.mpr ⟨sound.opened, forall_mem_singleton.mpr inside⟩
  · rw [Terms.grant, nodup_append_comm]
    exact nodup_cons.mpr ⟨new, sound.distinct⟩
  · exact fun other epoch read => mem_append_left _ (sound.readGranted other epoch read)
  · rw [Terms.grant, pairwise_append]
    refine ⟨sound.ordered, pairwise_singleton _ _, ?_⟩
    intro earlier _ later isLast before _ after read
    rw [mem_singleton.mp isLast, sound.unread new] at read
    cases read
  · intro other _ holder
    cases holder
    exact ⟨_, rfl⟩

/-- **The last term reads its epoch**, which is above all epochs so far. -/
theorem TermsSound.setRead {before : List ℕ} (last : terms.granted = before ++ [session])
    (above : server.lastEpoch < epoch) (unread : terms.read session = none) :
    TermsSound { server with lastEpoch := epoch } (terms.setRead session epoch) := by
  have member : session ∈ terms.granted := last ▸ mem_append_right _ mem_cons_self
  refine ⟨sound.opened, sound.distinct, ?_, ?_, ?_, ?_, sound.last⟩
  · intro other value read
    rw [read_setRead] at read
    split at read
    case isTrue same => exact same ▸ member
    case isFalse => exact sound.readGranted other value read
  · intro other value read
    rw [read_setRead] at read
    split at read
    case isTrue =>
      cases read
      exact le_rfl
    case isFalse => exact (sound.bound other value read).trans above.le
  · -- the terms before the last one have the epochs that they had
    have distinct := sound.distinct
    have ordered := sound.ordered
    rw [last, nodup_append_comm] at distinct
    have earlier := (nodup_cons.mp distinct).1
    have old : ∀ other ∈ before, (terms.setRead session epoch).read other = terms.read other := by
      intro other inside
      rw [read_setRead, if_neg]
      rintro rfl
      exact earlier inside
    change terms.granted.Pairwise _
    rw [last, pairwise_append] at ordered ⊢
    refine ⟨?_, pairwise_singleton _ _, ?_⟩
    · refine ordered.1.imp_of_mem ?_
      intro first second firstInside secondInside precedes
      rw [Precedes, old first firstInside, old second secondInside]
      exact precedes
    · intro first firstInside second isLast value read after readAfter
      rw [old first firstInside] at read
      rw [mem_singleton.mp isLast, read_setRead, if_pos rfl] at readAfter
      cases readAfter
      exact (sound.bound first value read).trans_lt above
  · intro other value stored
    have read := sound.storedRead other value stored
    rw [read_setRead, if_neg]
    · exact read
    · rintro rfl
      cases unread.symm.trans read

theorem TermsSound.setStored (read : terms.read session = some epoch) :
    TermsSound server (terms.setStored session epoch) := by
  refine ⟨sound.opened, sound.distinct, sound.readGranted, sound.bound, sound.ordered, ?_,
    sound.last⟩
  intro other value stored
  rw [stored_setStored] at stored
  split at stored
  case isTrue same =>
    cases stored
    exact same ▸ read
  case isFalse => exact sound.storedRead other value stored

end

/-- What the step of a replica leaves: the history, what the replica knows, and what the others
know. -/
structure StepFenced (terms : Terms) (phase : Phase) (server : LockServer) (later : Terms)
    (elector : Elector) : Prop where
  sound : TermsSound server later
  knows : Knows later elector
  spares : ∃ session, (later = terms ∨ phase.session? = some session) ∧ Extends terms later session

theorem stepFenced_of_same {phase : Phase} (sound : TermsSound server terms)
    (knows : Knows terms elector) : StepFenced terms phase server terms elector :=
  ⟨sound, knows, 0, .inl rfl, extends_refl⟩

theorem not_mem_lost_of_reply (answered : (server.reply session answer).isOk) :
    session ∉ server.lost := by
  intro lost
  rw [LockServer.reply, if_pos lost] at answered
  cases answered

theorem tryLock_fenced {generation registered : ℕ} {isLeader : Bool}
    (sound : TermsSound server terms) (new : session ∉ terms.granted)
    (inside : session < server.opened) :
    StepFenced terms (.tryLock session) (advance answer increase server
        ⟨.tryLock session, generation, registered, isLeader⟩).1
      (terms.record (advance answer increase server
        ⟨.tryLock session, generation, registered, isLeader⟩).2.phase (.tryLock session))
      (advance answer increase server ⟨.tryLock session, generation, registered, isLeader⟩).2 := by
  dsimp only [advance]
  split
  case isTrue isFree =>
    cases server.reply session answer with
    | ok =>
      exact ⟨sound.grant inside new,
        ⟨mem_append_right _ mem_cons_self, sound.unread new⟩, session, .inr rfl,
        .inr rfl, fun _ _ => rfl, fun _ _ => rfl⟩
    | failed applied =>
      cases applied with
      | true =>
        refine stepFenced_of_same (sound.mono le_rfl le_rfl ?_) trivial
        intro other member holder
        cases holder
        exact absurd member new
      | false => exact stepFenced_of_same sound trivial
  case isFalse => exact stepFenced_of_same sound trivial

/-- **One step of a replica**, which reads its epoch if it is there. -/
theorem advance_fenced (sound : TermsSound server terms) (knows : Knows terms elector)
    (opened : ∀ session, elector.phase.session? = some session → session < server.opened)
    (held : ∀ session, elector.phase.held? = some session →
      session ∈ server.lost ∨ server.holder = some session)
    (reads : ∀ session, elector.phase = .readEpoch session → (server.reply session answer).isOk) :
    StepFenced terms elector.phase (elector.advance answer increase server).1
      (terms.record (elector.advance answer increase server).2.phase elector.phase)
      (elector.advance answer increase server).2 := by
  rcases elector with ⟨phase, generation, registered, isLeader⟩
  cases phase with
  | follower => exact stepFenced_of_same sound trivial
  | openSession =>
    dsimp only [advance]
    split
    case isTrue =>
      refine stepFenced_of_same (sound.mono (Nat.le_succ _) le_rfl fun _ _ => id) ?_
      exact fun member => absurd (sound.opened _ member) (Nat.lt_irrefl _)
    case isFalse => exact stepFenced_of_same sound trivial
  | tryLock session => exact tryLock_fenced sound knows (opened session rfl)
  | closeProbe session => exact stepFenced_of_same sound.free trivial
  | readEpoch session =>
    have answered := reads session rfl
    have holder := (held session rfl).resolve_left (not_mem_lost_of_reply answered)
    obtain ⟨before, last⟩ := sound.last session knows.1 holder
    dsimp only [advance]
    rw [if_pos answered]
    refine ⟨sound.setRead last (by omega) knows.2, ⟨knows.1, ?_⟩, session, .inr rfl, .inl rfl, ?_,
      fun _ _ => rfl⟩
    · rw [record, read_setRead, if_pos rfl]
    · intro other differs
      rw [record, read_setRead, if_neg differs]
  | storeEpoch session epoch =>
    refine ⟨sound.setStored knows.2, ⟨knows.1, ?_⟩, session, .inr rfl, .inl rfl, fun _ _ => rfl, ?_⟩
    · exact stored_setStored.trans (if_pos rfl)
    · exact fun other differs => stored_setStored.trans (if_neg differs)
  | ping session =>
    dsimp only [advance]
    split <;> exact stepFenced_of_same sound knows
  | unlock session =>
    dsimp only [advance]
    split
    case isTrue => exact stepFenced_of_same sound.free knows
    case isFalse => exact stepFenced_of_same sound knows
  | close session => exact stepFenced_of_same sound.free trivial
  | lowerFlag => exact stepFenced_of_same sound trivial
  | _ => exact stepFenced_of_same sound knows

/-! ## Every run -/

variable {fenced : Fenced ι}

theorem FencedSound.set {replica : ι} (sound : FencedSound fenced)
    (knows : Knows fenced.terms elector) (other : ι) :
    Knows fenced.terms ((fenced.election.setElector replica elector).elector other) := by
  rw [elector_setElector]
  split
  case isTrue => exact knows
  case isFalse => exact sound.knows other

omit [DecidableEq ι] in
theorem FencedSound.leader {replica : ι} (sound : FencedSound fenced)
    (here : (fenced.election.elector replica).phase = .leader session) :
    session ∈ fenced.terms.granted ∧
      fenced.terms.stored session = some (fenced.election.elector replica).epoch := by
  have knows := sound.knows replica
  rwa [Knows, here] at knows

/-- **Every event keeps the history**, when each term reads its epoch. -/
theorem FencedSound.step {event : ElectionEvent ι} (sound : FencedSound fenced)
    (reads : ReadsEpoch fenced event) : FencedSound (fenced.step event) := by
  have next := sound.sound.step event
  cases event with
  | tick replica =>
    refine ⟨next, ?_, ?_⟩
    · rw [Fenced.step, server_tick]
      exact sound.terms
    · rw [Fenced.step, Election.step]
      split <;> rename_i here
      case h_1 => exact sound.set trivial
      case h_2 => exact sound.set (sound.leader here)
      all_goals exact sound.knows
  | relinquish replica =>
    refine ⟨next, ?_, ?_⟩
    · rw [Fenced.step, server_relinquish]
      exact sound.terms
    · rw [Fenced.step, Election.step]
      split <;> rename_i here
      case h_1 => exact sound.set (sound.leader here)
      all_goals exact sound.knows
  | step replica answer increase =>
    have moved : StepFenced _ _ _ _ _ := @advance_fenced fenced.election.server fenced.terms
      (fenced.election.elector replica) answer increase sound.terms (sound.knows replica)
      (sound.sound.opened replica) (sound.sound.held replica) (by
        intro session here
        rw [ReadsEpoch, here] at reads
        exact reads)
    refine ⟨next, moved.sound, ?_⟩
    intro other
    change Knows _ (update fenced.election.elector replica _ other)
    by_cases own : other = replica
    · subst own
      rw [update_self]
      exact moved.knows
    · rw [update_of_ne own]
      obtain ⟨session, same | has, ext⟩ := moved.spares
      · change Knows (fenced.terms.record _ _) _
        rw [same]
        exact sound.knows other
      · exact (sound.knows other).extends ext fun hasToo =>
          own (sound.sound.distinct other replica session hasToo has)
  | lose session =>
    refine ⟨next, sound.terms.mono le_rfl le_rfl ?_, sound.knows⟩
    exact fun _ _ holder => (LockServer.free_holder.mp holder).1
  | restart replica => exact ⟨next, sound.terms, sound.set trivial⟩

omit [DecidableEq ι] in
theorem fencedSound_new : FencedSound (new : Fenced ι) :=
  ⟨sound_new, ⟨fun _ member => absurd member not_mem_nil, .nil, nofun, nofun, .nil, nofun,
    fun _ member => absurd member not_mem_nil⟩, fun _ => trivial⟩

/-- **A newer term has a larger epoch**, over any sequence of events of any replicas, with sessions
lost and processes restarted, as long as each term reads its epoch: the epochs stored rise in the
order in which the terms were granted, `NewerThan` says so of their tokens, and the token of a
leader has the epoch that was stored for its term. -/
theorem epochs_increase {lockId : Int} {events : List (ElectionEvent ι)}
    (reads : AlongRun step ReadsEpoch (new : Fenced ι) events) :
    (events.foldl step new).terms.granted.Pairwise (fun earlier later =>
      ∀ before ∈ (events.foldl step new).terms.stored earlier,
        ∀ after ∈ (events.foldl step new).terms.stored later,
          before < after ∧ FencingToken.newerThan ⟨lockId, after⟩ ⟨lockId, before⟩ = true) ∧
    ∀ replica session token,
      ((events.foldl step new).election.elector replica).phase = .leader session →
        ((events.foldl step new).election.elector replica).fencingToken lockId = some token →
          session ∈ (events.foldl step new).terms.granted ∧
            (events.foldl step new).terms.stored session = some token.epoch := by
  have reached := reads.invariant FencedSound (fun _ _ sound reads => sound.step reads)
    fencedSound_new
  constructor
  · refine reached.terms.ordered.imp ?_
    intro earlier later precedes before storedBefore after storedAfter
    have rises : before < after := precedes before (reached.terms.storedRead _ _ storedBefore) after
      (reached.terms.storedRead _ _ storedAfter)
    refine ⟨rises, ?_⟩
    rw [FencingToken.newerThan, Bool.and_eq_true]
    exact ⟨decide_eq_true rfl, decide_eq_true rises⟩
  · intro replica session token here handed
    rw [fencingToken, Option.ite_none_right_eq_some] at handed
    cases handed.2
    exact reached.leader here

/-! ## A term that does not read its epoch -/

section Examples

instance (fenced : Fenced ι) (event : ElectionEvent ι) : Decidable (ReadsEpoch fenced event) :=
  match event with
  | .step .. => inferInstanceAs (Decidable (_ = true))
  | .tick _ | .relinquish _ | .lose _ | .restart _ => .isTrue trivial

def secondTerm (read : Answer) : List (ElectionEvent Bool) :=
  flatten [.tick false :: steps false 3, [.step false .ok 999], steps false 2,
    .relinquish false :: steps false 3, .tick true :: steps true 3, [.step true read 0],
    steps true 2]

def epochsOf (events : List (ElectionEvent Bool)) : List (Option ℕ) :=
  (events.foldl step new).terms.granted.map (events.foldl step new).terms.stored

/-- **A newer term with a smaller epoch.** The second term cannot read its epoch, and its process
is in its first generation. -/
theorem fallback_epoch_is_older : epochsOf (secondTerm (.failed false)) = [some 1000, some 1] ∧
    ((secondTerm (.failed false)).foldl step new).election.isLeader true = true ∧
    FencingToken.newerThan ⟨7, 1⟩ ⟨7, 1000⟩ = false := by
  decide +kernel

theorem epochs_increase_second_term : epochsOf (secondTerm .ok) = [some 1000, some 1001] ∧
    ((secondTerm .ok).foldl step new).terms.granted.Pairwise (fun earlier later =>
      ∀ before ∈ ((secondTerm .ok).foldl step new).terms.stored earlier,
        ∀ after ∈ ((secondTerm .ok).foldl step new).terms.stored later,
          before < after ∧ FencingToken.newerThan ⟨7, after⟩ ⟨7, before⟩ = true) :=
  ⟨by decide +kernel, (epochs_increase (by decide +kernel)).1⟩

end Examples

end ShieldNet.Leader
