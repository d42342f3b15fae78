import ShieldNet.Lib.ReadCommitted
import ShieldNet.Policy.Compiler

/-!
# Signing keys on Postgres

The key service of `internal/service/policy/keys.go` over
`internal/repository/postgres/policy_signing_key.go`, for one tenant. A repository
call is a transaction: its statements and its commit are steps, a statement takes
its snapshot in one step and its effect in a later one, and calls run in any order.

In every schedule at most one key is active, and a status moves only from active
to rotated or revoked and from rotated to revoked. `CreateIfNoHistory` is one
statement but two steps. A key that is created and revoked in between is in neither
the snapshot nor the index, so the insert goes through. In every run in which no
`Revoke` of the active key commits while such an insert is under way, `EnsureKey`
makes a key only for a tenant that has none (`revocation_not_undone`).
-/

namespace ShieldNet.Policy

open Service Option

open ReadCommitted (Rules Database Outcome)
open ReadCommitted.Database

/-! ## Keys -/

/-- The index on active keys, and how the status of a key may move. -/
def keyRules : Rules PolicySigningKeyStatus where
  exclusive status := status = .active
  moves old new :=
    match old, new with
    | .active, .rotated | .active, .revoked | .rotated, .revoked => true
    | _, _ => false

abbrev KeyDatabase := Database String keyRules

variable (db : KeyDatabase)

def KeyDatabase.insertActive (tx : Nat) (keyId : String) : Outcome KeyDatabase :=
  db.insert tx keyId .active rfl

open KeyDatabase

/-- `UPDATE … SET status = 'rotated' WHERE status = 'active'`, on the key that the
snapshot found. -/
def KeyDatabase.retire (tx : Nat) (target : String) : Outcome KeyDatabase :=
  db.update tx target (fun status => status = .active) .rotated
    (fun old => by cases old <;> decide) rfl

/-- `UPDATE … SET status = 'revoked' WHERE key_id = … AND status IN ('active',
'rotated')`. -/
def KeyDatabase.markRevoked (tx : Nat) (keyId : String) : Outcome KeyDatabase :=
  db.update tx keyId (fun status => status = .active || status = .rotated) .revoked
    (fun old => by cases old <;> decide) rfl

/-! ## Calls -/

/-- A request to the key service; `keyId` is what `newKeyID` gives, or the key to
revoke. -/
inductive KeyRequest where
  | ensureKey (keyId : String)
  | createInitial (keyId : String)
  | rotate (keyId : String)
  | rotateOrCreate (keyId : String)
  | revoke (keyId : String)

/-- The call that `Create` or `Rotate` of the repository is for. -/
inductive KeyCaller where
  | createInitial
  | rotate
  | rotateOrCreate (attempt : Nat)

inductive KeyOutcome where
  | ensured
  | created (keyId : String)
  | rotated (keyId : String)
  | revoked (keyId : String)

inductive KeyCall where
  /-- `EnsureKey`: `GetActive`, `CreateIfNoHistory` and again `GetActive`. -/
  | probe (keyId : String)
  | createIfNoHistory (keyId : String)
  | insertIfNoHistory (tx : Nat) (keyId : String) (history : Bool)
  | confirm
  /-- `Create`. -/
  | create (caller : KeyCaller) (keyId : String)
  | insert (caller : KeyCaller) (tx : Nat) (keyId : String)
  /-- `Rotate`. -/
  | rotate (caller : KeyCaller) (keyId : String)
  | retire (caller : KeyCaller) (tx : Nat) (keyId target : String)
  | replace (caller : KeyCaller) (tx : Nat) (keyId : String)
  /-- `Revoke`. -/
  | revoke (keyId : String)
  | markRevoked (tx : Nat) (keyId : String)
  | commit (outcome : KeyOutcome) (tx : Nat)
  | returned (result : Except ServiceError KeyOutcome)

open KeyCall

/-- What the world decides at a step: the statement or the commit fails, and the
transaction is rolled back. -/
structure KeyInput where
  fails : Bool

def rotateOrCreateMaxAttempts : Nat := 4

variable (caller : KeyCaller) (keyId : String)

/-- What a call does when there is no active key to rotate. -/
def KeyCaller.afterNotFound : KeyCall :=
  match caller with
  | .rotateOrCreate attempt => .create (.rotateOrCreate attempt) keyId
  | .createInitial | .rotate => .returned (.error (.repository .notFound))

def KeyCaller.afterConflict : KeyCall :=
  match caller with
  | .rotateOrCreate attempt =>
    if attempt + 1 < rotateOrCreateMaxAttempts then .rotate (.rotateOrCreate (attempt + 1)) keyId
    else .returned (.error
      (.wrapped "policy: rotate-or-create raced 4 times" (.repository .conflict)))
  | .createInitial | .rotate => .returned (.error (.repository .conflict))

namespace KeyCall

def start : KeyRequest → KeyCall
  | .ensureKey keyId => .probe keyId
  | .createInitial keyId => .create .createInitial keyId
  | .rotate keyId => .rotate .rotate keyId
  | .rotateOrCreate keyId => .rotate (.rotateOrCreate 0) keyId
  | .revoke keyId =>
    if keyId = "" then .returned (.error (.repository .invalidArgument)) else .revoke keyId

def unavailable : KeyCall := .returned (.error .unavailable)

/-- What follows a statement: it waits, it is refused and the transaction rolled
back, or it is done. -/
def settle (db : KeyDatabase) (tx : Nat) (outcome : Outcome KeyDatabase)
    (waiting refused done : KeyCall) : KeyDatabase × KeyCall :=
  match outcome with
  | .waits => (db, waiting)
  | .refused => (db.rollback tx, refused)
  | .done stored => (stored, done)

def advance (input : KeyInput) (db : KeyDatabase) : KeyCall → KeyDatabase × KeyCall
  | .probe keyId =>
    if input.fails then (db, unavailable)
    else
      match db.holder with
      | some _ => (db, .returned (.ok .ensured))
      | none => (db, .createIfNoHistory keyId)
  | .createIfNoHistory keyId =>
    if input.fails then (db, unavailable)
    -- the snapshot of `WHERE NOT EXISTS`
    else (db.begin, .insertIfNoHistory db.nextTx keyId db.hasHistory)
  | .insertIfNoHistory tx keyId history =>
    if input.fails then (db.rollback tx, unavailable)
    else if history then (db.rollback tx, .confirm)
    else settle db tx (db.insertActive tx keyId) (.insertIfNoHistory tx keyId history) .confirm
      (.commit .ensured tx)
  | .confirm =>
    match input.fails, db.holder with
    | false, some _ => (db, .returned (.ok .ensured))
    | _, _ => (db, .returned (.error PolicyCall.rotationRequired))
  | .create caller keyId =>
    if input.fails then (db, unavailable) else (db.begin, .insert caller db.nextTx keyId)
  | .insert caller tx keyId =>
    if input.fails then (db.rollback tx, unavailable)
    else settle db tx (db.insertActive tx keyId) (.insert caller tx keyId)
      (caller.afterConflict keyId) (.commit (.created keyId) tx)
  | .rotate caller keyId =>
    if input.fails then (db, unavailable)
    else
      match db.holder with
      | none => (db.begin, caller.afterNotFound keyId)
      | some target => (db.begin, .retire caller db.nextTx keyId target)
  | .retire caller tx keyId target =>
    if input.fails then (db.rollback tx, unavailable)
    else settle db tx (db.retire tx target) (.retire caller tx keyId target)
      (caller.afterNotFound keyId) (.replace caller tx keyId)
  | .replace caller tx keyId =>
    if input.fails then (db.rollback tx, unavailable)
    else settle db tx (db.insertActive tx keyId) (.replace caller tx keyId)
      (caller.afterConflict keyId) (.commit (.rotated keyId) tx)
  | .revoke keyId =>
    if input.fails then (db, unavailable)
    else
      match db.status keyId with
      | some .active | some .rotated => (db.begin, .markRevoked db.nextTx keyId)
      | some .revoked | none => (db.begin, .returned (.error (.repository .notFound)))
  | .markRevoked tx keyId =>
    if input.fails then (db.rollback tx, unavailable)
    else settle db tx (db.markRevoked tx keyId) (.markRevoked tx keyId)
      (.returned (.error (.repository .notFound))) (.commit (.revoked keyId) tx)
  | .commit outcome tx =>
    if input.fails then (db.rollback tx, unavailable)
    else (db.commit tx, .returned (.ok outcome))
  | .returned result => (db, .returned result)

end KeyCall

def keyService : Service KeyDatabase KeyRequest KeyInput KeyCall where
  start := start
  advance := advance

namespace KeyCall

def number : KeyCall → Option Nat
  | .insertIfNoHistory tx _ _ | .insert _ tx _ | .retire _ tx _ _ | .replace _ tx _
  | .markRevoked tx _ | .commit _ tx => some tx
  | .probe _ | .createIfNoHistory _ | .confirm | .create _ _ | .rotate _ _ | .revoke _
  | .returned _ => none

def readNoKey : KeyCall → Bool
  | .insertIfNoHistory _ _ history => !history
  | _ => false

/-- The step puts a key of `EnsureKey` into the table, or commits it. -/
def EnsureCreates (input : KeyInput) (db : KeyDatabase) : KeyCall → Prop
  | .insertIfNoHistory tx keyId history =>
    input.fails = false ∧ history = false ∧ ∃ stored, db.insertActive tx keyId = .done stored
  | .commit .ensured _ => input.fails = false
  | _ => False

end KeyCall

/-- When a `Revoke` of the active key is about to commit, no `EnsureKey` is under way
that has read that there is no key. -/
def RevokeSparesEnsure (input : KeyInput) (system : Shared KeyDatabase KeyCall) : KeyCall → Prop
  | .commit (.revoked keyId) _ => input.fails = false → system.store.status keyId = some .active →
      ∀ other ∈ system.calls, other.readNoKey = false
  | _ => True

instance (input : KeyInput) (system : Shared KeyDatabase KeyCall) :
    (call : KeyCall) → Decidable (RevokeSparesEnsure input system call)
  | .commit (.revoked _) _ => inferInstanceAs (Decidable (_ → _))
  | .commit .ensured _ | .commit (.created _) _ | .commit (.rotated _) _ | .probe _
  | .createIfNoHistory _ | .insertIfNoHistory .. | .confirm | .create .. | .insert .. | .rotate ..
  | .retire .. | .replace .. | .revoke _ | .markRevoked .. | .returned _ => .isTrue trivial

/-! ## What a step does -/

namespace KeyCall

inductive Effect (input : KeyInput) (db : KeyDatabase) (call : KeyCall) : KeyDatabase → Prop where
  | none : Effect input db call db
  | begun : Effect input db call db.begin
  | wrote {tx key new stored}
      (holds : call.number = some tx) (written : Written db tx key new stored) :
      Effect input db call stored
  | rolledBack {tx} (holds : call.number = some tx) : Effect input db call (db.rollback tx)
  | committed {outcome tx} (commits : call = .commit outcome tx)
      (connected : input.fails = false) : Effect input db call (db.commit tx)

/-- What a step does to the table, and which transaction the call has open after it. -/
structure Stepped (input : KeyInput) (db : KeyDatabase) (call : KeyCall)
    (result : KeyDatabase × KeyCall) : Prop where
  effect : Effect input db call result.1
  number : (result.1.nextTx = db.nextTx ∧
      (result.2.number = none ∨ result.2.number = call.number)) ∨
    (result.1.nextTx = db.nextTx + 1 ∧ (result.2.number = none ∨ result.2.number = some db.nextTx))

variable {input : KeyInput} {db stored : KeyDatabase} {call other next : KeyCall} {tx : Nat}
  {outcome : Outcome KeyDatabase} {waiting refused done : KeyCall}

theorem stepped_idle (free : next.number = none ∨ next.number = call.number) :
    Stepped input db call (db, next) :=
  ⟨.none, .inl ⟨rfl, free⟩⟩

theorem stepped_begin (free : next.number = none ∨ next.number = some db.nextTx) :
    Stepped input db call (db.begin, next) :=
  ⟨.begun, .inr ⟨rfl, free⟩⟩

theorem stepped_rollback (holds : call.number = some tx) (free : next.number = none) :
    Stepped input db call (db.rollback tx, next) :=
  ⟨.rolledBack holds, .inl ⟨rfl, .inl free⟩⟩

theorem stepped_settle (holds : call.number = some tx)
    (written : ∀ stored, outcome = .done stored → ∃ key new, Written db tx key new stored)
    (waits : waiting.number = some tx) (free : refused.number = none)
    (keeps : done.number = some tx) :
    Stepped input db call (settle db tx outcome waiting refused done) := by
  cases outcome with
  | waits => exact stepped_idle (.inr (waits.trans holds.symm))
  | refused => exact stepped_rollback holds free
  | done stored =>
    obtain ⟨key, new, written⟩ := written stored rfl
    exact ⟨.wrote holds written, .inl ⟨written.nextTx, .inr (keeps.trans holds.symm)⟩⟩

end KeyCall

theorem KeyDatabase.insertActive_done {db stored : KeyDatabase} {tx : Nat} {keyId : String}
    (done : db.insertActive tx keyId = .done stored) :
    Written db tx keyId .active stored ∧ ∀ key, db.status key = some .active →
      ∃ changed, db.changeOf tx key = some changed := by
  obtain ⟨written, locked⟩ := insert_done done
  exact ⟨written, fun key active => locked key .active active rfl⟩

theorem KeyDatabase.written_of_insertActive {db : KeyDatabase} {tx : Nat} {keyId : String}
    (stored : KeyDatabase) (done : db.insertActive tx keyId = .done stored) :
    ∃ key new, Written db tx key new stored :=
  ⟨keyId, .active, (insertActive_done done).1⟩

theorem KeyCaller.number_afterNotFound : (caller.afterNotFound keyId).number = none := by
  cases caller <;> rfl

theorem KeyCaller.number_afterConflict : (caller.afterConflict keyId).number = none := by
  cases caller with
  | rotateOrCreate attempt =>
    rw [KeyCaller.afterConflict]
    split <;> rfl
  | _ => rfl

namespace KeyCall

variable {input : KeyInput} {db stored : KeyDatabase} {call other : KeyCall} {tx : Nat}

/-- **What one step of a call does.** -/
theorem advance_stepped (input : KeyInput) (db : KeyDatabase) (call : KeyCall) :
    Stepped input db call (advance input db call) := by
  cases call with
  | probe keyId =>
    rw [advance]
    repeat' split
    all_goals exact stepped_idle (.inl rfl)
  | insertIfNoHistory tx keyId history =>
    rw [advance]
    split
    case isTrue => exact stepped_rollback rfl rfl
    split
    case isTrue => exact stepped_rollback rfl rfl
    case isFalse => exact stepped_settle rfl written_of_insertActive rfl rfl rfl
  | confirm =>
    rw [advance]
    split <;> exact stepped_idle (.inl rfl)
  | insert caller tx keyId =>
    rw [advance]
    split
    case isTrue => exact stepped_rollback rfl rfl
    exact stepped_settle rfl written_of_insertActive rfl (caller.number_afterConflict keyId) rfl
  | rotate caller keyId =>
    rw [advance]
    split
    case isTrue => exact stepped_idle (.inl rfl)
    split
    case h_1 => exact stepped_begin (.inl (caller.number_afterNotFound keyId))
    case h_2 => exact stepped_begin (.inr rfl)
  | retire caller tx keyId target =>
    rw [advance]
    split
    case isTrue => exact stepped_rollback rfl rfl
    exact stepped_settle rfl (fun _ done => ⟨_, _, (update_done done).1⟩) rfl
      (caller.number_afterNotFound keyId) rfl
  | replace caller tx keyId =>
    rw [advance]
    split
    case isTrue => exact stepped_rollback rfl rfl
    exact stepped_settle rfl written_of_insertActive rfl (caller.number_afterConflict keyId) rfl
  | revoke keyId =>
    rw [advance]
    split
    case isTrue => exact stepped_idle (.inl rfl)
    split
    case h_1 | h_2 => exact stepped_begin (.inr rfl)
    case h_3 | h_4 => exact stepped_begin (.inl rfl)
  | markRevoked tx keyId =>
    rw [advance]
    split
    case isTrue => exact stepped_rollback rfl rfl
    case isFalse =>
      exact stepped_settle rfl (fun _ done => ⟨_, _, (update_done done).1⟩) rfl rfl rfl
  | commit outcome tx =>
    rw [advance]
    split
    case isTrue => exact stepped_rollback rfl rfl
    case isFalse connected =>
      exact ⟨.committed rfl (Bool.eq_false_of_not_eq_true connected), .inl ⟨rfl, .inl rfl⟩⟩
  | returned result => exact stepped_idle (.inl rfl)
  | _ =>
    rw [advance]
    split
    case isTrue => exact stepped_idle (.inl rfl)
    case isFalse => exact stepped_begin (.inr rfl)

theorem numbered : keyService.Numbered number Database.nextTx where
  start request := by
    cases request with
    | revoke keyId =>
      change (if keyId = "" then _ else _ : KeyCall).number = none
      split <;> rfl
    | _ => rfl
  advance input db call := (advance_stepped input db call).number

/-! ### Committed keys -/

/-- A step commits a transaction, or leaves what is committed. -/
theorem Effect.status_cases (effect : Effect input db call stored) :
    (∃ outcome tx, call = .commit outcome tx ∧ input.fails = false ∧ stored = db.commit tx) ∨
      ∀ key, stored.status key = db.status key := by
  cases effect with
  | wrote _ written => exact .inr written.status
  | rolledBack => exact .inr fun _ => status_rollback
  | committed commits connected => exact .inl ⟨_, _, commits, connected, rfl⟩
  | _ => exact .inr fun _ => rfl

/-- A step leaves the changes of the transactions that the call does not have open. -/
theorem Effect.changeOf_other (effect : Effect input db call stored)
    (others : call.number ≠ some tx) (key : String) :
    stored.changeOf tx key = db.changeOf tx key := by
  have differ : ∀ {own}, call.number = some own → tx ≠ own := by
    rintro own holds rfl
    exact others holds
  cases effect with
  | wrote holds written =>
    rw [written.changeOf, if_neg fun both => differ holds both.2]
  | rolledBack holds => rw [changeOf_rollback, if_neg (differ holds)]
  | committed commits => rw [changeOf_commit, if_neg (differ (commits ▸ rfl))]
  | _ => rfl

end KeyCall

/-! ## What every run keeps -/

/-- The committed keys of a later state are those of an earlier one, each where it
was or moved on. -/
def KeyDatabase.MovesTo (earlier later : KeyDatabase) : Prop :=
  ∀ key old, earlier.status key = some old →
    ∃ new, later.status key = some new ∧ (new = old ∨ keyRules.moves old new = true)

def KeyDatabase.OneActive : Prop :=
  ∀ key other, db.status key = some .active → db.status other = some .active → key = other

theorem KeyDatabase.oneActive : db.OneActive :=
  fun _ _ active active' => status_unique active rfl active' rfl

namespace KeyDatabase

variable {earlier middle later db : KeyDatabase} {tx : Nat}

theorem MovesTo.refl (db : KeyDatabase) : db.MovesTo db :=
  fun _ old committed => ⟨old, committed, .inl rfl⟩

theorem MovesTo.trans (early : earlier.MovesTo middle) (late : middle.MovesTo later) :
    earlier.MovesTo later := by
  intro key old committed
  obtain ⟨between, committed', first⟩ := early key old committed
  obtain ⟨new, committed'', second⟩ := late key between committed'
  refine ⟨new, committed'', ?_⟩
  rcases first with rfl | first
  · exact second
  · rcases second with rfl | second
    · exact .inr first
    · right
      revert first second
      cases old <;> cases between <;> cases new <;> decide

theorem movesTo_commit : db.MovesTo (db.commit tx) := by
  intro key old committed
  rw [status_commit, committed]
  cases changed : db.changeOf tx key with
  | none => exact ⟨old, rfl, .inl rfl⟩
  | some new => exact ⟨new, rfl, .inr (moves_of_changeOf committed changed)⟩

end KeyDatabase

/-- **Committed keys move forward in every run.** -/
theorem run_movesTo (before after : List (Move KeyRequest KeyInput)) :
    (keyService.run db before).store.MovesTo (keyService.run db (before ++ after)).store := by
  rw [run_append]
  apply List.foldlRecOn (motive := fun system : Shared KeyDatabase KeyCall =>
    (keyService.run db before).store.MovesTo system.store) after keyService.step
    (MovesTo.refl _)
  intro system moved move _
  rcases step_store keyService system move with same | ⟨input, call, -, next⟩
  · rw [same]
    exact moved
  · rw [next]
    apply moved.trans
    rcases (advance_stepped input system.store call).effect.status_cases with
      ⟨_, tx, -, -, same⟩ | same
    · exact same ▸ movesTo_commit
    · exact fun key old committed => ⟨old, (same key).trans committed, .inl rfl⟩

/-! ## What an `EnsureKey` knows -/

namespace KeyDatabase

def Unheard (db : KeyDatabase) : Prop := ∀ key, db.status key = none

def HasActive (db : KeyDatabase) : Prop := ∃ key, db.status key = some .active

def Untouched (db : KeyDatabase) (tx : Nat) : Prop := ∀ key, db.changeOf tx key = none

def Claims (db : KeyDatabase) (tx : Nat) : Prop := ∃ key, db.changeOf tx key = some .active

def Opened (db : KeyDatabase) : Prop := ∀ tx key, db.nextTx ≤ tx → db.changeOf tx key = none

variable {db stored : KeyDatabase} {tx other : Nat} {keyId : String}

theorem Unheard.congr (unheard : db.Unheard) (same : ∀ key, stored.status key = db.status key) :
    stored.Unheard :=
  fun key => (same key).trans (unheard key)

theorem HasActive.congr (active : db.HasActive) (same : ∀ key, stored.status key = db.status key) :
    stored.HasActive := by
  obtain ⟨key, active⟩ := active
  exact ⟨key, (same key).trans active⟩

/-- A transaction changes a key that is not committed only to insert it. -/
theorem active_of_changeOf {key : String} {status : PolicySigningKeyStatus}
    (uncommitted : db.status key = none) (changed : db.changeOf tx key = some status) :
    status = .active :=
  of_decide_eq_true (exclusive_of_changeOf uncommitted changed)

theorem Claims.hasActive_commit (claims : db.Claims tx) : HasActive (db.commit tx) := by
  obtain ⟨key, changed⟩ := claims
  exact ⟨key, by rw [status_commit, changed, some_or]⟩

/-- The first commit of a transaction leaves no key, or an active one. -/
theorem Unheard.commit (unheard : db.Unheard) :
    Unheard (db.commit tx) ∨ HasActive (db.commit tx) := by
  by_cases inserts : db.Claims tx
  · exact .inr inserts.hasActive_commit
  · refine .inl fun key => ?_
    rw [status_commit, unheard key, or_none, eq_none_iff_forall_ne_some]
    intro status changed
    cases active_of_changeOf (unheard key) changed
    exact inserts ⟨key, changed⟩

/-- While one transaction has inserted the first key, no other can commit one. -/
theorem Unheard.commit_other (unheard : db.Unheard) (claims : db.Claims other)
    (differ : tx ≠ other) : Unheard (db.commit tx) := by
  intro key
  rw [status_commit, unheard key, or_none, eq_none_iff_forall_ne_some]
  intro status changed
  obtain ⟨claimed, changed'⟩ := claims
  cases active_of_changeOf (unheard key) changed
  exact differ (changeOf_unique changed rfl changed' rfl)

theorem HasActive.commit_revoked (active : db.HasActive)
    (only : ∀ key status, db.changeOf tx key = some status → key = keyId)
    (spared : db.status keyId ≠ some .active) : HasActive (db.commit tx) := by
  obtain ⟨key, active⟩ := active
  refine ⟨key, ?_⟩
  cases changed : db.changeOf tx key with
  | none => rw [status_commit, changed, none_or, active]
  | some status => exact absurd (only key status changed ▸ active) spared

end KeyDatabase

namespace KeyCall

variable {input : KeyInput} {db stored : KeyDatabase} {call other : KeyCall} {tx : Nat}

/-- What a call knows of the table at each of its places. An `EnsureKey` that has
read no key finds none, or an active one that will refuse its insert. -/
def Knows (db : KeyDatabase) : KeyCall → Prop
  | .insertIfNoHistory tx _ history =>
    db.Untouched tx ∧ (history = false → db.Unheard ∨ db.HasActive)
  | .markRevoked tx _ => db.Untouched tx
  | .commit .ensured tx => db.Claims tx ∧ db.Unheard
  | .commit (.created _) tx | .commit (.rotated _) tx => db.Claims tx
  | .commit (.revoked keyId) tx => ∀ key status, db.changeOf tx key = some status → key = keyId
  | _ => True

theorem knows_of_number_none (free : call.number = none) : Knows db call := by
  cases call with
  | insertIfNoHistory | markRevoked | commit => cases free
  | _ => exact trivial

theorem claims_of_written {key : String} (written : Written db tx key .active stored) :
    stored.Claims tx :=
  ⟨key, by rw [written.changeOf, if_pos ⟨rfl, rfl⟩]⟩

/-- **An `EnsureKey` inserts only where no key is committed.** -/
theorem unheard_of_insert {keyId : String} {history : Bool}
    (knows : Knows db (.insertIfNoHistory tx keyId history)) (empty : history = false)
    (done : db.insertActive tx keyId = .done stored) : db.Unheard := by
  rcases knows.2 empty with unheard | ⟨key, active⟩
  · exact unheard
  · obtain ⟨changed, changes⟩ := (insertActive_done done).2 key active
    rw [knows.1 key] at changes
    cases changes

/-- After a statement the call knows what its next place needs, if it does when it
waits and when it is done. -/
theorem knows_settle {outcome : Outcome KeyDatabase} {waiting refused done : KeyCall}
    (waits : Knows db waiting) (free : refused.number = none)
    (effective : ∀ stored, outcome = .done stored → Knows stored done) :
    Knows (settle db tx outcome waiting refused done).1
      (settle db tx outcome waiting refused done).2 := by
  cases outcome with
  | waits => exact waits
  | refused => exact knows_of_number_none free
  | done stored => exact effective stored rfl

/-- A call whose statement fails has no transaction open after it. -/
theorem number_of_fails (fails : input.fails) : (advance input db call).2.number = none := by
  cases call with
  | confirm =>
    rw [advance]
    split <;> rfl
  | returned => rfl
  | _ =>
    rw [advance, if_pos fails]
    rfl

theorem knows_own (opened : db.Opened) (knows : Knows db call) :
    Knows (advance input db call).1 (advance input db call).2 := by
  by_cases fails : input.fails
  · exact knows_of_number_none (number_of_fails fails)
  have fresh : Untouched db.begin db.nextTx := fun key => opened _ key (Nat.le_refl _)
  cases call with
  | createIfNoHistory keyId =>
    rw [advance, if_neg fails]
    exact ⟨fresh, fun empty => .inl (hasHistory_eq_false_iff.mp empty)⟩
  | insertIfNoHistory tx keyId history =>
    rw [advance, if_neg fails]
    split
    case isTrue => exact trivial
    case isFalse empty =>
      apply knows_settle knows rfl
      intro stored done
      have written := (insertActive_done done).1
      have unheard := unheard_of_insert knows (Bool.eq_false_of_not_eq_true empty) done
      exact ⟨claims_of_written written, unheard.congr written.status⟩
  | insert caller tx keyId =>
    rw [advance, if_neg fails]
    exact knows_settle trivial (caller.number_afterConflict keyId) fun stored done =>
      claims_of_written (insertActive_done done).1
  | rotate caller keyId =>
    rw [advance, if_neg fails]
    split
    case h_1 => exact knows_of_number_none (caller.number_afterNotFound keyId)
    case h_2 => exact trivial
  | retire caller tx keyId target =>
    rw [advance, if_neg fails]
    exact knows_settle trivial (caller.number_afterNotFound keyId) fun _ _ => trivial
  | replace caller tx keyId =>
    rw [advance, if_neg fails]
    exact knows_settle trivial (caller.number_afterConflict keyId) fun stored done =>
      claims_of_written (insertActive_done done).1
  | revoke keyId =>
    rw [advance, if_neg fails]
    split
    case h_1 | h_2 => exact fresh
    case h_3 | h_4 => exact trivial
  | markRevoked tx keyId =>
    rw [advance, if_neg fails]
    apply knows_settle knows rfl
    intro stored done key status changed
    rw [(update_done done).1.changeOf] at changed
    split at changed
    case isTrue both => exact both.1
    rw [knows key] at changed
    cases changed
  | _ =>
    rw [advance]
    repeat' split
    all_goals exact trivial

/-- What a call knows stands while others move, unless they revoke the active key
under an `EnsureKey` that has read no key. -/
theorem knows_stable (effect : Effect input db call stored) (knows : Knows db call)
    (knows' : Knows db other) (apart : ∀ tx, other.number = some tx → call.number ≠ some tx)
    (spares : ∀ keyId tx, call = .commit (.revoked keyId) tx → input.fails = false →
      other.readNoKey → db.status keyId ≠ some .active) : Knows stored other := by
  have same : ∀ {tx}, other.number = some tx → ∀ key, stored.changeOf tx key = db.changeOf tx key :=
    fun holds key => effect.changeOf_other (apart _ holds) key
  cases other with
  | insertIfNoHistory tx keyId history =>
    refine ⟨fun key => (same rfl key).trans (knows'.1 key), ?_⟩
    intro empty
    rcases effect.status_cases with ⟨outcome, own, rfl, connected, rfl⟩ | kept
    · rcases knows'.2 empty with unheard | active
      · exact unheard.commit
      · right
        cases outcome with
        | ensured => exact knows.1.hasActive_commit
        | revoked revokedId =>
          exact active.commit_revoked knows
            (spares revokedId own rfl connected (by rw [empty]; rfl))
        | _ => exact Claims.hasActive_commit knows
    · exact (knows'.2 empty).imp (fun unheard => unheard.congr kept) fun active => active.congr kept
  | markRevoked tx keyId => exact fun key => (same rfl key).trans (knows' key)
  | commit outcome tx =>
    cases outcome with
    | ensured =>
      obtain ⟨⟨key, claimed⟩, unheard⟩ := knows'
      refine ⟨⟨key, (same rfl key).trans claimed⟩, ?_⟩
      rcases effect.status_cases with ⟨outcome, own, rfl, connected, rfl⟩ | kept
      · exact unheard.commit_other ⟨key, claimed⟩ fun equal => apart tx rfl (equal ▸ rfl)
      · exact unheard.congr kept
    | revoked keyId => exact fun key status changed => knows' key status (same rfl key ▸ changed)
    | _ =>
      obtain ⟨key, claimed⟩ := knows'
      exact ⟨key, (same rfl key).trans claimed⟩
  | _ => exact trivial

theorem Effect.opened (effect : Effect input db call stored) (opened : db.Opened)
    (below : ∀ tx, call.number = some tx → tx < db.nextTx) : stored.Opened := by
  cases effect with
  | none => exact opened
  | begun => exact fun tx key later => opened tx key (Nat.le_of_succ_le later)
  | wrote holds written =>
    intro tx key later
    rw [written.nextTx] at later
    have begun := below _ holds
    rw [written.changeOf, if_neg (by omega)]
    exact opened tx key later
  | rolledBack =>
    intro tx key later
    rw [changeOf_rollback, opened tx key later, ite_self]
  | committed =>
    intro tx key later
    rw [changeOf_commit, opened tx key later, ite_self]

end KeyCall

/-! ## Revocation is not undone -/

/-- **In every state of a run that revokes the active key under no `EnsureKey`, each
call knows what it needs**, from a table on which no transaction is open. -/
theorem run_knows {db : KeyDatabase} {moves : List (Move KeyRequest KeyInput)}
    (quiet : ∀ tx, db.Untouched tx)
    (spares : AlongRun keyService.step (AtMove RevokeSparesEnsure) (idle db) moves) :
    Asserts Opened Knows (keyService.run db moves) := by
  have distinct := alongRun_atMove_and (DistinctNumbers number Database.nextTx)
    (fun _ move => numbered.step move) spares distinctNumbers_idle
  apply run_asserts Opened Knows _ _ _ (fun tx key _ => quiet tx key) distinct
  · intro db request _
    exact knows_of_number_none (numbered.start request)
  · rintro input system call asserted underWay ⟨distinct, -⟩
    exact ⟨(advance_stepped input system.store call).effect.opened asserted.store
      (distinct.below call underWay), knows_own asserted.store (asserted.calls call underWay)⟩
  · rintro input system call other asserted apart ⟨distinct, spares⟩
    apply knows_stable (advance_stepped input system.store call).effect
      (asserted.calls call apart.mem_left) (asserted.calls other apart.mem_right)
    · intro tx held heldToo
      exact distinct.apart call other apart tx heldToo held
    · rintro keyId tx rfl connected read active
      rw [spares connected active other apart.mem_right] at read
      cases read

/-- Revocation is not undone in a run: at most one key is active at any time, the
status of a key only moves on, and `EnsureKey` creates a key only for a tenant that
has none. -/
structure RevocationNotUndone (db : KeyDatabase) (moves : List (Move KeyRequest KeyInput)) :
    Prop where
  oneActive : ∀ before after, moves = before ++ after → (keyService.run db before).store.OneActive
  forward : ∀ before middle after, moves = before ++ middle ++ after →
    (keyService.run db before).store.MovesTo (keyService.run db (before ++ middle)).store
  ensured : ∀ before index input after call, moves = before ++ .resume index input :: after →
    (keyService.run db before).calls[index]? = some call →
      call.EnsureCreates input (keyService.run db before).store →
        (keyService.run db before).store.Unheard

/-- **Revocation is not undone** in any run of `EnsureKey`, `CreateInitial`, `Rotate`,
`RotateOrCreate` and `Revoke` in which no `Revoke` of the active key commits while an
`EnsureKey` is under way that has read that there is no key. -/
theorem revocation_not_undone (moves : List (Move KeyRequest KeyInput))
    (quiet : ∀ tx, db.Untouched tx)
    (spares : AlongRun keyService.step (AtMove RevokeSparesEnsure) (idle db) moves) :
    RevocationNotUndone db moves where
  oneActive _ _ _ := oneActive _
  forward before middle _ _ := run_movesTo db before middle
  ensured before index input after call split found creates := by
    rw [split] at spares
    have knows := (run_knows quiet (alongRun_append.mp spares).1).calls call
      (List.mem_of_getElem? found)
    cases call with
    | insertIfNoHistory tx keyId history =>
      obtain ⟨-, empty, stored, done⟩ := creates
      exact unheard_of_insert knows empty done
    | commit outcome tx =>
      cases outcome with
      | ensured => exact knows.2
      | _ => exact creates.elim
    | _ => exact creates.elim

def noKeys : KeyDatabase where
  table := ⟨[], List.nodup_nil⟩
  nextTx := 0
  consistent := by constructor <;> intros <;> contradiction

theorem noKeys_untouched (tx : Nat) : noKeys.Untouched tx := fun _ => rfl

def ensureThenRevoke : List (Move KeyRequest KeyInput) :=
  .request (.ensureKey "k1") :: List.replicate 4 (.resume 0 ⟨false⟩) ++
    .request (.revoke "k1") :: List.replicate 3 (.resume 1 ⟨false⟩)

theorem ensureThenRevoke_not_undone : RevocationNotUndone noKeys ensureThenRevoke ∧
    (keyService.run noKeys ensureThenRevoke).store.status "k1" = some .revoked :=
  ⟨revocation_not_undone noKeys ensureThenRevoke noKeys_untouched (by decide), rfl⟩

/-- `EnsureKey` has read that there is no key; then another key is created and
revoked. -/
def revokeWhileEnsuring : List (Move KeyRequest KeyInput) :=
  .request (.ensureKey "k1") :: List.replicate 2 (.resume 0 ⟨false⟩) ++
    .request (.createInitial "k2") :: List.replicate 3 (.resume 1 ⟨false⟩) ++
    .request (.revoke "k2") :: List.replicate 3 (.resume 2 ⟨false⟩)

/-- **`EnsureKey` makes a key for a tenant whose key has been revoked.** Its snapshot is
older than the revoked key, and the index has no active key to refuse the insert. -/
theorem ensureKey_creates_after_revocation :
    ¬ RevocationNotUndone noKeys (revokeWhileEnsuring ++ List.replicate 2 (.resume 0 ⟨false⟩)) ∧
      (keyService.run noKeys revokeWhileEnsuring).store.status "k2" = some .revoked ∧
      (keyService.run noKeys (revokeWhileEnsuring ++
        List.replicate 2 (.resume 0 ⟨false⟩))).store.status "k1" = some .active := by
  refine ⟨?_, rfl, rfl⟩
  intro holds
  have unheard := holds.ensured revokeWhileEnsuring 0 ⟨false⟩ [.resume 0 ⟨false⟩] _ rfl rfl
    ⟨rfl, rfl, _, rfl⟩ "k2"
  cases unheard

end ShieldNet.Policy
