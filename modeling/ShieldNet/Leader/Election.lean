import Mathlib.Data.Fintype.Defs
import Mathlib.Order.Nat
import ShieldNet.Lib.Runs

/-!
# Leader election on an advisory lock

`LeaderElector` of `internal/service/leader`: a replica opens a session, tries to take the lock
with it, and publishes its leadership through a flag of its own; as the leader it pings the session
and steps down when that fails. `tick` and `relinquish` run under a mutex, each session call and
each store of an atomic in them is one step.

The server grants the lock to one session and frees it on `Unlock`, on `Close`, or when it finds
the session lost. A call may fail, and one that fails may have taken effect; on a session that is
lost every call fails. `Epoch` returns a value above all it has returned before.

While no session is lost, at most one replica has its flag up, as long as no lock is granted while
a replica that has given it up has still to lower its flag (`leader_once`). A replica that steps
down unlocks before it lowers the flag, and another may be faster (`leader_twice`).
-/

namespace ShieldNet.Leader

/-- Where a replica stands: between two ticks as a follower or as the leader, or in one of the
steps of `tick`, `demoteLocked` and `relinquish`. The session goes with it. -/
inductive Phase where
  | follower
  | openSession
  | tryLock (session : ℕ)
  | closeProbe (session : ℕ)
  | countTerm (session : ℕ)
  | readEpoch (session : ℕ)
  | storeEpoch (session epoch : ℕ)
  | raiseFlag (session : ℕ)
  | leader (session : ℕ)
  | ping (session : ℕ)
  | unlock (session : ℕ)
  | close (session : ℕ)
  | lowerFlag

def Phase.session? : Phase → Option ℕ
  | .follower | .openSession | .lowerFlag => none
  | .tryLock session | .closeProbe session | .countTerm session | .readEpoch session
  | .storeEpoch session _ | .raiseFlag session | .leader session | .ping session | .unlock session
  | .close session => some session

/-- The session of a replica that was told it has the lock and has not given it up. -/
def Phase.held? : Phase → Option ℕ
  | .follower | .openSession | .tryLock _ | .closeProbe _ | .close _ | .lowerFlag => none
  | .countTerm session | .readEpoch session | .storeEpoch session _ | .raiseFlag session
  | .leader session | .ping session | .unlock session => some session

structure Elector where
  phase : Phase
  generation : ℕ
  epoch : ℕ
  isLeader : Bool

def Elector.new : Elector := ⟨.follower, 0, 0, false⟩

/-- The server of the lock. Sessions are numbered as they are opened. -/
structure LockServer where
  holder : Option ℕ
  opened : ℕ
  lost : List ℕ
  lastEpoch : ℕ

open LockServer

namespace LockServer

variable (server : LockServer)

/-- Calls fail on a session that is lost. -/
def reply (session : ℕ) (answer : Answer) : Answer :=
  if session ∈ server.lost then .failed false else answer

def free (session : ℕ) : LockServer :=
  { server with holder := if server.holder = some session then none else server.holder }

def grant (session : ℕ) : LockServer := { server with holder := some session }

end LockServer

def Elector.advance (answer : Answer) (increase : ℕ) (server : LockServer) (elector : Elector) :
    LockServer × Elector :=
  match elector.phase with
  | .follower | .leader _ => (server, elector)
  | .openSession =>
    if answer.isOk then
      ({ server with opened := server.opened + 1 },
        { elector with phase := .tryLock server.opened })
    else (server, { elector with phase := .follower })
  | .tryLock session =>
    if server.holder = none then
      (if (server.reply session answer).applied then server.grant session else server,
        { elector with
          phase :=
            if (server.reply session answer).isOk then .countTerm session
            else .closeProbe session })
    else (server, { elector with phase := .closeProbe session })
  | .closeProbe session => (server.free session, { elector with phase := .follower })
  | .countTerm session =>
    (server, { elector with phase := .readEpoch session, generation := elector.generation + 1 })
  | .readEpoch session =>
    -- `acquireEpoch` falls back to the generation
    if (server.reply session answer).isOk then
      ({ server with lastEpoch := server.lastEpoch + 1 + increase },
        { elector with phase := .storeEpoch session (server.lastEpoch + 1 + increase) })
    else (server, { elector with phase := .storeEpoch session elector.generation })
  | .storeEpoch session epoch => (server, { elector with phase := .raiseFlag session, epoch })
  | .raiseFlag session => (server, { elector with phase := .leader session, isLeader := true })
  | .ping session =>
    (server, { elector with
      phase := if (server.reply session answer).isOk then .leader session else .unlock session })
  | .unlock session =>
    (if (server.reply session answer).applied then server.free session else server,
      { elector with phase := .close session })
  | .close session => (server.free session, { elector with phase := .lowerFlag })
  | .lowerFlag => (server, { elector with phase := .follower, isLeader := false })

structure Election (ι : Type) where
  server : LockServer
  elector : ι → Elector

open Election

/-- What can happen: a tick, a shutdown, the next step of a replica, the server finds a session
lost, or a process is restarted. -/
inductive ElectionEvent (ι : Type) where
  | tick (replica : ι)
  | relinquish (replica : ι)
  | step (replica : ι) (answer : Answer) (increase : ℕ)
  | lose (session : ℕ)
  | restart (replica : ι)

namespace Election

variable {ι : Type} [DecidableEq ι] (election : Election ι)

def setElector (replica : ι) (elector : Elector) : Election ι :=
  { election with elector := Function.update election.elector replica elector }

def step : ElectionEvent ι → Election ι
  | .tick replica =>
    match (election.elector replica).phase with
    | .follower =>
      election.setElector replica { election.elector replica with phase := .openSession }
    | .leader session =>
      election.setElector replica { election.elector replica with phase := .ping session }
    | .openSession | .tryLock _ | .closeProbe _ | .countTerm _ | .readEpoch _ | .storeEpoch ..
    | .raiseFlag _ | .ping _ | .unlock _ | .close _ | .lowerFlag => election
  | .relinquish replica =>
    match (election.elector replica).phase with
    | .leader session =>
      election.setElector replica { election.elector replica with phase := .unlock session }
    | .follower | .openSession | .tryLock _ | .closeProbe _ | .countTerm _ | .readEpoch _
    | .storeEpoch .. | .raiseFlag _ | .ping _ | .unlock _ | .close _ | .lowerFlag => election
  | .step replica answer increase =>
    let next := (election.elector replica).advance answer increase election.server
    { election with server := next.1 }.setElector replica next.2
  | .lose session =>
    { election with
      server := { election.server.free session with lost := session :: election.server.lost } }
  | .restart replica => election.setElector replica .new

def isLeader (replica : ι) : Bool := (election.elector replica).isLeader

def new : Election ι := ⟨⟨none, 0, [], 0⟩, fun _ => .new⟩

end Election

/-! ## What a step can do -/

def Phase.published : Phase → Bool
  | .leader _ | .ping _ | .unlock _ | .close _ | .lowerFlag => true
  | .follower | .openSession | .tryLock _ | .closeProbe _ | .countTerm _ | .readEpoch _
  | .storeEpoch .. | .raiseFlag _ => false

/-- The replica has given the lock up, or is about to be told so, and has still to lower its
flag. -/
def Phase.stepsDown : Phase → Bool
  | .close _ | .lowerFlag => true
  | .follower | .openSession | .tryLock _ | .closeProbe _ | .countTerm _ | .readEpoch _
  | .storeEpoch .. | .raiseFlag _ | .leader _ | .ping _ | .unlock _ => false

/-- What a step of a replica does to the lock and to its own place. -/
inductive Change (server : LockServer) (phase : Phase) : LockServer → Phase → Prop
  | inside {server' : LockServer} {phase' : Phase} (holder : server'.holder = server.holder)
      (opened : server'.opened = server.opened) (lost : server'.lost = server.lost)
      (session : ∀ s, phase'.session? = some s → phase.session? = some s)
      (held : ∀ s, phase'.held? = some s → phase.held? = some s) :
      Change server phase server' phase'
  | opens : Change server phase { server with opened := server.opened + 1 }
      (.tryLock server.opened)
  | grants {session : ℕ} {phase' : Phase} (here : phase = .tryLock session)
      (isFree : server.holder = none) (next : phase'.session? = some session) :
      Change server phase (server.grant session) phase'
  | frees {session : ℕ} {phase' : Phase} (own : phase.session? = some session)
      (next : ∀ s, phase'.session? = some s → s = session) (gone : phase'.held? = none) :
      Change server phase (server.free session) phase'

variable {server : LockServer} {elector : Elector} {answer : Answer} {increase : ℕ} {phase : Phase}

theorem change_of_eq {phase' : Phase} (session : phase'.session? = phase.session?)
    (held : phase'.held? = phase.held?) : Change server phase server phase' :=
  .inside rfl rfl rfl (fun _ same => session ▸ same) (fun _ same => held ▸ same)

theorem change_of_none {phase' : Phase} (session : phase'.session? = none)
    (held : phase'.held? = none) : Change server phase server phase' := by
  refine .inside rfl rfl rfl ?_ ?_
  · intro s same
    cases session.symm.trans same
  · intro s same
    cases held.symm.trans same

/-- **What a step can do.** -/
theorem advance_change : Change server elector.phase (elector.advance answer increase server).1
    (elector.advance answer increase server).2.phase := by
  rw [Elector.advance]
  cases here : elector.phase with
  | openSession =>
    dsimp only
    split
    case isTrue => exact .opens
    case isFalse => exact change_of_none rfl rfl
  | tryLock session =>
    dsimp only
    split
    case isTrue isFree =>
      cases server.reply session answer with
      | ok => exact .grants rfl isFree rfl
      | failed applied =>
        cases applied with
        | true => exact .grants rfl isFree rfl
        | false => exact change_of_eq rfl rfl
    case isFalse => exact change_of_eq rfl rfl
  | closeProbe session => exact .frees rfl nofun rfl
  | countTerm session => exact change_of_eq rfl rfl
  | readEpoch session =>
    dsimp only
    split
    case isTrue => exact .inside rfl rfl rfl (fun _ => id) (fun _ => id)
    case isFalse => exact change_of_eq rfl rfl
  | storeEpoch _ _ | raiseFlag _ => exact change_of_eq rfl rfl
  | ping session =>
    dsimp only
    split <;> exact change_of_eq rfl rfl
  | unlock session =>
    dsimp only
    split
    case isTrue => exact .frees rfl (fun s same => (Option.some.inj same).symm) rfl
    case isFalse => exact .inside rfl rfl rfl (fun _ => id) nofun
  | close session => exact .frees rfl nofun rfl
  | lowerFlag => exact change_of_none rfl rfl
  | _ =>
    rw [here]
    exact change_of_eq rfl rfl

/-! ## Sessions and the lock -/

/-- Each replica has sessions of its own, and the one that was told it has the lock has it, unless
its session is lost. -/
structure Sound {ι : Type} (election : Election ι) : Prop where
  opened : ∀ replica session, (election.elector replica).phase.session? = some session →
    session < election.server.opened
  holder : ∀ session, election.server.holder = some session → session < election.server.opened
  distinct : ∀ replica other session, (election.elector replica).phase.session? = some session →
    (election.elector other).phase.session? = some session → replica = other
  held : ∀ replica session, (election.elector replica).phase.held? = some session →
    session ∈ election.server.lost ∨ election.server.holder = some session
  published : ∀ replica, (election.elector replica).isLeader = true →
    (election.elector replica).phase.published = true

variable {ι : Type} [DecidableEq ι] {election : Election ι} {replica : ι}

omit [DecidableEq ι] in
theorem sound_new : Sound (new : Election ι) := by
  constructor <;> nofun

theorem Phase.session?_of_held? {session : ℕ} (held : phase.held? = some session) :
    phase.session? = some session := by
  cases phase <;> first | exact held | cases held

theorem elector_setElector {other : ι} : (election.setElector replica elector).elector other =
    if other = replica then elector else election.elector other :=
  Function.update_apply ..

section Change

variable {server' : LockServer} {phase phase' : Phase} {session : ℕ}

variable (change : Change server phase server' phase')

include change

theorem Change.opened_le : server.opened ≤ server'.opened := by
  cases change with
  | inside _ opened => exact opened.ge
  | opens => exact Nat.le_succ _
  | _ => exact le_rfl

theorem Change.lost : server'.lost = server.lost := by
  cases change with
  | inside _ _ lost => exact lost
  | _ => rfl

theorem Change.has (has : phase'.session? = some session) :
    phase.session? = some session ∨ (session = server.opened ∧ session < server'.opened) := by
  cases change with
  | inside _ _ _ same => exact .inl (same session has)
  | opens =>
    cases has
    exact .inr ⟨rfl, Nat.lt_succ_self _⟩
  | grants here _ next =>
    obtain rfl := Option.some.inj (next.symm.trans has)
    exact .inl (here ▸ rfl)
  | frees own next =>
    obtain rfl := next session has
    exact .inl own

theorem Change.holder (holder : server'.holder = some session) :
    server.holder = some session ∨ (server.holder = none ∧ phase = .tryLock session) := by
  cases change with
  | inside same => exact .inl (same ▸ holder)
  | opens => exact .inl holder
  | grants here isFree =>
    cases holder
    exact .inr ⟨isFree, here⟩
  | frees =>
    rw [free] at holder
    split at holder
    case isTrue => cases holder
    case isFalse => exact .inl holder

theorem Change.keeps
    (holder : server.holder = some session) (foreign : phase.session? ≠ some session) :
    server'.holder = some session := by
  cases change with
  | inside same => exact same.trans holder
  | opens => exact holder
  | grants here isFree => cases isFree.symm.trans holder
  | frees own =>
    rw [free, if_neg, holder]
    rw [holder, ← own]
    exact foreign.symm

theorem Change.held (held : phase'.held? = some session) :
    (phase.held? = some session ∧ server'.holder = server.holder) ∨
      server'.holder = some session := by
  cases change with
  | inside same _ _ _ heldSame => exact .inl ⟨heldSame session held, same⟩
  | opens => cases held
  | grants _ _ next =>
    rw [← next.symm.trans (Phase.session?_of_held? held)]
    exact .inr rfl
  | frees _ _ gone => cases gone.symm.trans held

end Change

/-- **A step of a replica keeps the sessions apart.** -/
theorem Sound.change (sound : Sound election)
    (change : Change election.server (election.elector replica).phase server elector.phase)
    (published : elector.isLeader → elector.phase.published) :
    Sound ({ election with server }.setElector replica elector) := by
  -- no other replica has the session of the one that moves
  have apart : ∀ other ≠ replica, ∀ session,
      (election.elector other).phase.session? = some session →
        elector.phase.session? ≠ some session := by
    intro other foreign session has hasToo
    rcases change.has hasToo with own | ⟨rfl, -⟩
    · exact foreign (sound.distinct other replica session has own)
    · exact absurd (sound.opened other _ has) (Nat.lt_irrefl _)
  constructor
  · intro other session has
    rw [elector_setElector] at has
    split at has
    case isTrue =>
      rcases change.has has with own | ⟨-, inside⟩
      · exact (sound.opened replica session own).trans_le change.opened_le
      · exact inside
    case isFalse => exact (sound.opened other session has).trans_le change.opened_le
  · intro session holder
    rcases change.holder holder with before | ⟨-, here⟩
    · exact (sound.holder session before).trans_le change.opened_le
    · have own : (election.elector replica).phase.session? = some session := by rw [here]; rfl
      exact (sound.opened replica session own).trans_le change.opened_le
  · intro first second session hasFirst hasSecond
    rw [elector_setElector] at hasFirst hasSecond
    split at hasFirst
    case isTrue isFirst =>
      split at hasSecond
      case isTrue isSecond => exact isFirst.trans isSecond.symm
      case isFalse foreign => exact absurd hasFirst (apart second foreign session hasSecond)
    case isFalse foreign =>
      split at hasSecond
      case isTrue => exact absurd hasSecond (apart first foreign session hasFirst)
      case isFalse => exact sound.distinct first second session hasFirst hasSecond
  · intro other session held
    change session ∈ server.lost ∨ server.holder = some session
    rw [change.lost]
    rw [elector_setElector] at held
    split at held
    case isTrue =>
      rcases change.held held with ⟨before, same⟩ | now
      · rw [same]
        exact sound.held replica session before
      · exact .inr now
    case isFalse foreign =>
      refine (sound.held other session held).imp_right ?_
      intro holder
      refine change.keeps holder ?_
      intro own
      exact foreign (sound.distinct other replica session (Phase.session?_of_held? held) own)
  · intro other raised
    rw [elector_setElector] at raised ⊢
    split at raised
    case isTrue own =>
      rw [if_pos own]
      exact published raised
    case isFalse foreign =>
      rw [if_neg foreign]
      exact sound.published other raised

/-! ## Every event -/

/-- The flag is up only where it has been raised and not yet lowered. -/
theorem published_advance (published : elector.isLeader → elector.phase.published)
    (raised : (elector.advance answer increase server).2.isLeader) :
    (elector.advance answer increase server).2.phase.published := by
  rw [Elector.advance] at raised ⊢
  cases here : elector.phase with
  | follower | leader =>
    simp only [here] at raised published ⊢
    exact published raised
  | openSession | tryLock | readEpoch =>
    rw [here] at raised published
    dsimp only at raised
    split at raised <;> exact absurd (published raised) Bool.false_ne_true
  | raiseFlag => rfl
  | ping =>
    dsimp only
    split <;> rfl
  | unlock | close => rfl
  | lowerFlag =>
    rw [here] at raised
    exact absurd raised Bool.false_ne_true
  | _ =>
    rw [here] at raised published
    exact absurd (published raised) Bool.false_ne_true

/-- A replica that steps down had the lock, as far as it knew. -/
theorem stepsDown_advance
    (down : (elector.advance answer increase server).2.phase.stepsDown) :
    elector.phase.stepsDown ∨ ∃ session, elector.phase.held? = some session := by
  rw [Elector.advance] at down
  cases here : elector.phase with
  | openSession =>
    rw [here] at down
    dsimp only at down
    split at down <;> cases down
  | tryLock session =>
    rw [here] at down
    dsimp only at down
    split at down
    case isTrue =>
      dsimp only at down
      split at down <;> cases down
    case isFalse => cases down
  | countTerm session | readEpoch session | storeEpoch session | raiseFlag session
  | leader session | ping session | unlock session => exact .inr ⟨session, rfl⟩
  | close | lowerFlag => exact .inl rfl
  | _ =>
    simp only [here] at down
    cases down

/-- What the tick, the shutdown or the next step of a replica leads to. -/
structure Moves (election : Election ι) (replica : ι) (server : LockServer) (elector : Elector) :
    Prop where
  change : Change election.server (election.elector replica).phase server elector.phase
  published : ((election.elector replica).isLeader = true →
    (election.elector replica).phase.published = true) →
      elector.isLeader = true → elector.phase.published = true
  stepsDown : elector.phase.stepsDown = true → (election.elector replica).phase.stepsDown = true ∨
      ∃ session, (election.elector replica).phase.held? = some session

def ElectionEvent.replica? : ElectionEvent ι → Option ι
  | .tick replica | .relinquish replica | .step replica .. => some replica
  | .lose _ | .restart _ => none

theorem step_stays :
    ∃ server elector, election = { election with server }.setElector replica elector ∧
      Moves election replica server elector := by
  refine ⟨election.server, election.elector replica, ?_, change_of_eq rfl rfl, id, .inl⟩
  rw [setElector, Function.update_eq_self]

theorem step_turns (session : phase.session? = (election.elector replica).phase.session?)
    (held : phase.held? = (election.elector replica).phase.held?)
    (published : (election.elector replica).phase.published → phase.published)
    (down : phase.stepsDown = false) :
    ∃ server elector, election.setElector replica { election.elector replica with phase } =
        { election with server }.setElector replica elector ∧
      Moves election replica server elector := by
  refine ⟨election.server, _, rfl, change_of_eq session held,
    fun before raised => published (before raised), ?_⟩
  intro isDown
  cases down.symm.trans isDown

/-- **An event that is about a replica moves it.** -/
theorem step_moves {event : ElectionEvent ι} (about : event.replica? = some replica) :
    ∃ server elector, election.step event = { election with server }.setElector replica elector ∧
      Moves election replica server elector := by
  cases event with
  | tick other =>
    cases about
    rw [step]
    split <;> rename_i here
    case h_1 => exact step_turns (by rw [here]; rfl) (by rw [here]; rfl) (by rw [here]; nofun) rfl
    case h_2 => exact step_turns (by rw [here]; rfl) (by rw [here]; rfl) (fun _ => rfl) rfl
    all_goals exact step_stays
  | relinquish other =>
    cases about
    rw [step]
    split <;> rename_i here
    case h_1 => exact step_turns (by rw [here]; rfl) (by rw [here]; rfl) (fun _ => rfl) rfl
    all_goals exact step_stays
  | step other answer increase =>
    cases about
    exact ⟨_, _, rfl, advance_change, published_advance, stepsDown_advance⟩
  | _ => cases about

theorem LockServer.free_holder {session other : ℕ} :
    (server.free session).holder = some other ↔ server.holder = some other ∧ other ≠ session := by
  rw [free]
  split
  case isTrue same =>
    rw [same]
    refine ⟨nofun, ?_⟩
    rintro ⟨has, differs⟩
    exact absurd (Option.some.inj has).symm differs
  case isFalse differs =>
    refine ⟨fun has => ⟨has, ?_⟩, fun both => both.1⟩
    rintro rfl
    exact differs has

/-- **Every event keeps the sessions apart.** -/
theorem Sound.step (sound : Sound election) (event : ElectionEvent ι) :
    Sound (election.step event) := by
  have moves : ∀ replica, event.replica? = some replica → Sound (election.step event) := by
    intro replica about
    obtain ⟨server, elector, same, moves⟩ := @step_moves ι _ election replica event about
    rw [same]
    exact sound.change moves.change (moves.published (sound.published replica))
  cases event with
  | tick replica | relinquish replica | step replica => exact moves replica rfl
  | lose session =>
    refine ⟨sound.opened, ?_, sound.distinct, ?_, sound.published⟩
    · exact fun other holder => sound.holder other (free_holder.mp holder).1
    · intro replica held has
      by_cases gone : held = session
      · exact .inl (gone ▸ List.mem_cons_self)
      · rcases sound.held replica held has with lost | holder
        · exact .inl (List.mem_cons_of_mem _ lost)
        · exact .inr (free_holder.mpr ⟨holder, gone⟩)
  | restart replica =>
    exact @Sound.change election.server _ ι _ election replica sound (change_of_none rfl rfl) nofun

/-! ## One leader -/

/-- The replica has the lock, or has given it up and has still to lower its flag. -/
def Active (election : Election ι) (replica : ι) : Prop :=
  (∃ session, (election.elector replica).phase.session? = some session ∧
    election.server.holder = some session) ∨ (election.elector replica).phase.stepsDown = true

structure Exclusive (election : Election ι) : Prop where
  sound : Sound election
  alive : election.server.lost = []
  single : ∀ replica other, Active election replica → Active election other → replica = other

def Phase.triesLock : Phase → Bool
  | .tryLock _ => true
  | .follower | .openSession | .closeProbe _ | .countTerm _ | .readEpoch _ | .storeEpoch ..
  | .raiseFlag _ | .leader _ | .ping _ | .unlock _ | .close _ | .lowerFlag => false

/-- The lock is not granted while another replica steps down. -/
def GrantsApart (election : Election ι) : ElectionEvent ι → Prop
  | .step replica answer _ => (election.elector replica).phase.triesLock = true →
      election.server.holder = none → answer.applied = true →
        ∀ other ≠ replica, (election.elector other).phase.stepsDown = false
  | .tick _ | .relinquish _ | .lose _ | .restart _ => True

omit [DecidableEq ι] in
theorem Exclusive.active (exclusive : Exclusive election)
    (raised : election.isLeader replica) : Active election replica := by
  have published := exclusive.sound.published replica raised
  have held := exclusive.sound.held replica
  rw [exclusive.alive] at held
  rw [Active]
  cases here : (election.elector replica).phase with
  | leader session | ping session | unlock session =>
    refine .inl ⟨session, rfl, (held session (by rw [here]; rfl)).resolve_left List.not_mem_nil⟩
  | close | lowerFlag => exact .inr rfl
  | _ =>
    rw [here] at published
    cases published

theorem Exclusive.active_of_moves {server : LockServer} {elector : Elector}
    (exclusive : Exclusive election) (moves : Moves election replica server elector) {other : ι}
    (active : Active ({ election with server }.setElector replica elector) other) :
    Active election other ∨ (other = replica ∧ ∃ session,
      (election.elector replica).phase = .tryLock session ∧ election.server.holder = none ∧
        server.holder = some session) := by
  have sound := exclusive.sound
  rw [Active, elector_setElector] at active
  split at active
  case isTrue own =>
    subst own
    rcases active with ⟨session, has, holder⟩ | down
    · rcases moves.change.holder holder with before | ⟨isFree, here⟩
      · rcases moves.change.has has with had | ⟨rfl, -⟩
        · exact .inl (.inl ⟨session, had, before⟩)
        · exact absurd (sound.holder _ before) (Nat.lt_irrefl _)
      · exact .inr ⟨rfl, session, here, isFree, holder⟩
    · rcases moves.stepsDown down with before | ⟨session, held⟩
      · exact .inl (.inr before)
      · have holder := sound.held other session held
        rw [exclusive.alive] at holder
        exact .inl (.inl ⟨session, Phase.session?_of_held? held,
          holder.resolve_left List.not_mem_nil⟩)
  case isFalse foreign =>
    rcases active with ⟨session, has, holder⟩ | down
    · rcases moves.change.holder holder with before | ⟨-, here⟩
      · exact .inl (.inl ⟨session, has, before⟩)
      · have own : (election.elector replica).phase.session? = some session := by rw [here]; rfl
        exact absurd (sound.distinct other replica session has own) foreign
    · exact .inl (.inr down)

/-- A tick or a shutdown does not call the server at once. -/
theorem server_tick (election : Election ι) (replica : ι) :
    (election.step (.tick replica)).server = election.server := by
  rw [step]
  split <;> rfl

theorem server_relinquish (election : Election ι) (replica : ι) :
    (election.step (.relinquish replica)).server = election.server := by
  rw [step]
  split <;> rfl

theorem Elector.applied_of_granted {server : LockServer} {elector : Elector} {answer : Answer}
    {increase session : ℕ} (here : elector.phase = .tryLock session)
    (isFree : server.holder = none)
    (granted : (elector.advance answer increase server).1.holder = some session) :
    answer.applied = true := by
  by_contra without
  have nothing : (server.reply session answer).applied = false := by
    rw [LockServer.reply]
    split
    case isTrue => rfl
    case isFalse => exact Bool.not_eq_true _ ▸ without
  simp only [Elector.advance, here, isFree, if_pos, nothing, Bool.false_eq_true, if_false] at granted
  cases granted

/-- **One replica at most is active**, when the lock is not granted while another steps down. -/
theorem Exclusive.step {event : ElectionEvent ι} (exclusive : Exclusive election)
    (about : event.replica? = some replica) (apart : GrantsApart election event) :
    Exclusive (election.step event) := by
  have sound := exclusive.sound.step event
  obtain ⟨server, elector, same, moves⟩ := @step_moves ι _ election replica event about
  have stored : (election.step event).server = server := by rw [same]; rfl
  -- where the lock is granted, no replica has been active
  have granted : ∀ session, (election.elector replica).phase = .tryLock session →
      election.server.holder = none → server.holder = some session → ∀ other ≠ replica,
        ¬ Active election other := by
    rintro session here isFree now other foreign (⟨held, -, holder⟩ | down)
    · cases isFree.symm.trans holder
    · cases event with
      | step moved answer increase =>
        cases about
        have applied := Elector.applied_of_granted here isFree (stored ▸ now)
        cases (apart (by rw [here]; rfl) isFree applied other foreign).symm.trans down
      | tick moved =>
        rw [← stored, server_tick, isFree] at now
        cases now
      | relinquish moved =>
        rw [← stored, server_relinquish, isFree] at now
        cases now
      | _ => cases about
  refine ⟨sound, ?_, ?_⟩
  · rw [stored]
    exact moves.change.lost.trans exclusive.alive
  · intro first second firstActive secondActive
    rw [same] at firstActive secondActive
    rcases exclusive.active_of_moves moves firstActive with
      firstBefore | ⟨rfl, session, here, isFree, now⟩
    · rcases exclusive.active_of_moves moves secondActive with
        secondBefore | ⟨rfl, session, here, isFree, now⟩
      · exact exclusive.single first second firstBefore secondBefore
      · by_contra differs
        exact granted session here isFree now first differs firstBefore
    · by_contra differs
      rcases exclusive.active_of_moves moves secondActive with secondBefore | ⟨same, -⟩
      · exact granted session here isFree now second (Ne.symm differs) secondBefore
      · exact differs same.symm

omit [DecidableEq ι] in
theorem exclusive_new : Exclusive (new : Election ι) := by
  refine ⟨sound_new, rfl, ?_⟩
  rintro replica other (⟨session, has, -⟩ | down)
  · cases has
  · cases down

/-- No session is lost, by itself or with its process. -/
def ElectionEvent.keepsSessions : ElectionEvent ι → Bool
  | .tick _ | .relinquish _ | .step .. => true
  | .lose _ | .restart _ => false

/-- **At most one leader while sessions stay alive**, for any number of replicas and any
interleaving of their ticks, shutdowns and steps, with any session call failing; provided that the
lock is not granted while a replica that has called `Unlock` has still to lower its flag. -/
theorem leader_once {events : List (ElectionEvent ι)} {first second : ι}
    (alive : ∀ event ∈ events, event.keepsSessions = true)
    (apart : AlongRun step GrantsApart (new : Election ι) events)
    (distinct : first ≠ second) :
    ¬ ((events.foldl step new).isLeader first = true ∧
      (events.foldl step new).isLeader second = true) := by
  rintro ⟨firstLeads, secondLeads⟩
  have reached := (apart.and_forall alive).invariant Exclusive ?_ exclusive_new
  · exact distinct (reached.single first second (reached.active firstLeads)
      (reached.active secondLeads))
  · rintro election event exclusive ⟨keeps, apart⟩
    cases event with
    | lose | restart => cases keeps
    | _ => exact exclusive.step rfl apart

/-! ## A flag that is lowered late -/

section Examples

instance [Fintype ι] (election : Election ι) (event : ElectionEvent ι) :
    Decidable (GrantsApart election event) := by
  cases event <;> dsimp only [GrantsApart] <;> infer_instance

def steps {ι : Type} (replica : ι) (count : ℕ) : List (ElectionEvent ι) :=
  List.replicate count (.step replica .ok 0)

def leads {ι : Type} (replica : ι) : List (ElectionEvent ι) := .tick replica :: steps replica 6

/-- The first replica is shut down and has unlocked when the second one ticks. -/
def overtaken : List (ElectionEvent Bool) :=
  List.flatten [leads false, .relinquish false :: steps false 1, leads true]

/-- The first replica has lowered its flag when the second one ticks. -/
def handedOver : List (ElectionEvent Bool) :=
  List.flatten [leads false, .relinquish false :: steps false 3, leads true]

/-- **Two leaders, with no session lost.** -/
theorem leader_twice : (overtaken.foldl step new).isLeader false = true ∧
    (overtaken.foldl step new).isLeader true = true := by
  decide +kernel

theorem leader_once_handed_over : (handedOver.foldl step new).isLeader true = true ∧
    ¬ ((handedOver.foldl step new).isLeader false = true ∧
      (handedOver.foldl step new).isLeader true = true) :=
  ⟨by decide +kernel, leader_once (by decide +kernel) (by decide +kernel) (by decide)⟩

end Examples

end ShieldNet.Leader
