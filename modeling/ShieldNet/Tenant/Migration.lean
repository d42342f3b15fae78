import ShieldNet.Lib.Interleaving
import ShieldNet.Lib.Table
import ShieldNet.Lib.Text

/-!
# Moving a tenant to another region

`RegionMigrator` of `internal/service/tenant/migrate_region.go`: a pipeline of five steps, each
with an undo, over a row of `tenant_migrations` that says how far it has come. `Start` opens a
migration and drives it; `Resume` drives the one that is under way. When a step fails, the
steps that were done or attempted are undone in reverse order.

A call of a plane or of a repository may fail, and one that fails may have taken effect. A
driver may stop anywhere. The planes are seen through what they are for: which region holds
the tenant's key envelopes, telemetry and objects, and what the region column says. The audit
log, logging and the place of the tenant among the points of presence are left out; the
checkpoint stands in its decoded form.
-/

namespace ShieldNet.Tenant

open Text

/-! ## Regions -/

/-- `unicode.ToLower`. -/
structure RuneCase where
  lower : Char → Char
  lower_idem : ∀ c, lower (lower c) = lower c
  isSpace_lower : ∀ c, isSpace (lower c) = isSpace c

def RuneCase.ascii : RuneCase := ⟨Char.toLower, toLower_idem, isSpace_toLower⟩

variable (letters : RuneCase) (region : Text)

def RuneCase.normalize : Text := (trimSpace region).map letters.lower

theorem RuneCase.normalize_idem :
    letters.normalize (letters.normalize region) = letters.normalize region := by
  rw [normalize, normalize, trimSpace_map letters.isSpace_lower, trimSpace_idem, List.map_map]
  exact List.map_congr_left fun c _ => letters.lower_idem c

def isTokenChar (c : Char) : Bool := ('a' ≤ c && c ≤ 'z') || ('0' ≤ c && c ≤ '9')

def regionToken : Text → Bool
  | [] => false
  | first :: rest =>
    isTokenChar first && rest.length ≤ 62 && rest.all fun c => isTokenChar c || c = '-'

/-- `residency.ValidateRegion` finds nothing wrong. -/
def RuneCase.validRegion : Bool :=
  letters.normalize region ≠ [] && regionToken (letters.normalize region)

/-! ## Migrations -/

inductive MigrationState where
  | pending
  | rewrappingKeys
  | copyingTelemetry
  | copyingObjects
  | reassigningPop
  | updatingRegion
  | completed
  | rollingBack
  | rolledBack
  | failed
  deriving DecidableEq

def MigrationState.isTerminal : MigrationState → Bool
  | .completed | .rolledBack | .failed => true
  | .pending | .rewrappingKeys | .copyingTelemetry | .copyingObjects | .reassigningPop
  | .updatingRegion | .rollingBack => false

inductive Step where
  | rewrapKeys
  | copyTelemetry
  | copyObjects
  | reassignPop
  | updateRegion
  deriving DecidableEq

namespace Step

def state : Step → MigrationState
  | .rewrapKeys => .rewrappingKeys
  | .copyTelemetry => .copyingTelemetry
  | .copyObjects => .copyingObjects
  | .reassignPop => .reassigningPop
  | .updateRegion => .updatingRegion

def all : List Step := [.rewrapKeys, .copyTelemetry, .copyObjects, .reassignPop, .updateRegion]

/-- The steps that write the tenant's data into the target region. -/
def copying : List Step := [.rewrapKeys, .copyTelemetry, .copyObjects]

end Step

/-- `stepStatusDone`, `stepStatusAttempted` and `stepStatusRolledBack`. -/
inductive StepStatus where
  | done
  | attempted
  | rolledBack
  deriving DecidableEq

structure StepRecord where
  status : StepStatus
  metadata : Option String

abbrev Checkpoint := Step → Option StepRecord

namespace Checkpoint

variable (cp : Checkpoint) (step : Step)

def set (record : StepRecord) : Checkpoint := fun other =>
  if other = step then some record else cp other

def done : Bool := (cp step).any fun record => record.status = .done

def undoable : Bool :=
  (cp step).any fun record => record.status = .done || record.status = .attempted

end Checkpoint

structure TenantMigration where
  id : ℕ
  sourceRegion : Text
  targetRegion : Text
  state : MigrationState
  dualRead : Bool
  checkpoint : Checkpoint
  detail : String
  attempts : ℕ
  version : ℕ
  startedAt : Option Int
  completedAt : Option Int

def TenantMigration.pending (id : ℕ) (source target : Text) (now : Int) : TenantMigration where
  id
  sourceRegion := source
  targetRegion := target
  state := .pending
  dualRead := true
  checkpoint := fun _ => none
  detail := ""
  attempts := 0
  version := 0
  startedAt := some now
  completedAt := none

inductive MigrationError where
  | migrationInProgress
  | noMigration
  | sourceRegionUnset
  | invalidTarget (region : Text)
  | alreadyInRegion (region : Text)
  | invalidArgument
  | notFound
  | conflict
  | concurrentUpdate
  | store (message : String)
  | cause (message : String)
  | persist (id : ℕ) (inner : MigrationError)
  | wrapped (context : String) (inner : MigrationError)

/-- `errors.Is(err, ErrConcurrentUpdate)`. -/
def MigrationError.isConcurrentUpdate : MigrationError → Bool
  | .concurrentUpdate => true
  | .persist _ inner | .wrapped _ inner => inner.isConcurrentUpdate
  | .migrationInProgress | .noMigration | .sourceRegionUnset | .invalidTarget _
  | .alreadyInRegion _ | .invalidArgument | .notFound | .conflict | .store _ | .cause _ => false

/-! ## Planes and repositories -/

structure MigrationPlanes where
  keys : Bool
  telemetry : Bool
  objects : Bool
  pop : Bool
  region : Bool

def MigrationPlanes.wires (planes : MigrationPlanes) : Step → Bool
  | .rewrapKeys => planes.keys
  | .copyTelemetry => planes.telemetry
  | .copyObjects => planes.objects
  | .reassignPop => planes.pop
  | .updateRegion => planes.region

structure RegionMigrator where
  letters : RuneCase
  planes : MigrationPlanes

/-- Where a tenant is: its region column, and for each step that copies data the regions that
hold it. A region holds what was written there by the migration that last went there, or what
was there from the beginning, until it is purged or discarded. -/
structure Placement where
  region : Text
  written : Step → Text → Bool

structure TenantWorld where
  placement : Placement
  migrations : Table TenantMigration.id

def TenantWorld.new (letters : RuneCase) (region : Text) : TenantWorld where
  placement := ⟨region, fun _ place => place = letters.normalize region⟩
  migrations := .empty

inductive Reply where
  | ok
  | failed (message : String) (applied : Bool)

def Reply.applied : Reply → Bool
  | .ok => true
  | .failed _ applied => applied

def Reply.error? : Reply → Option String
  | .ok => none
  | .failed message _ => some message

/-- What the world decides at a step: the time, a new id, the reply to the call that the step
makes, and the metadata that comes with it. -/
structure MigrationInput where
  now : Int
  newId : ℕ
  reply : Reply
  metadata : Option String

namespace Placement

variable (placement : Placement)

def mark (step : Step) (place : Text) (held : Bool) : Placement :=
  { placement with written := fun other region =>
      if other = step ∧ region = place then held else placement.written other region }

def moved (mig : TenantMigration) : Step → Placement
  | .rewrapKeys => placement.mark .rewrapKeys mig.targetRegion true
  | .copyTelemetry => placement.mark .copyTelemetry mig.targetRegion true
  | .copyObjects => placement.mark .copyObjects mig.targetRegion true
  | .reassignPop => placement
  | .updateRegion => { placement with region := mig.targetRegion }

def reverted (mig : TenantMigration) : Step → Placement
  | .rewrapKeys => placement.mark .rewrapKeys mig.targetRegion false
  | .copyTelemetry => placement.mark .copyTelemetry mig.targetRegion false
  | .copyObjects => placement.mark .copyObjects mig.targetRegion false
  | .reassignPop => placement
  | .updateRegion => { placement with region := mig.sourceRegion }

/-- What a region holds from before is not what a new migration writes there. -/
def forget (place : Text) : Placement :=
  { placement with written := fun step region => region ≠ place && placement.written step region }

end Placement

namespace TenantWorld

variable (world : TenantWorld)

def active? : Option TenantMigration := world.migrations.rows.find? fun row => !row.state.isTerminal

def save (row : TenantMigration) : TenantWorld :=
  { world with migrations := world.migrations.update row }

def create (reply : Reply) (row : TenantMigration) :
    TenantWorld × Except MigrationError TenantMigration :=
  if row.sourceRegion = [] ∨ row.targetRegion = [] ∨ row.sourceRegion = row.targetRegion then
    (world, .error .invalidArgument)
  else if world.active?.isSome then (world, .error .conflict)
  else
    match world.migrations.insert? row with
    | none => (world, .error .conflict)
    | some migrations =>
      let created : TenantWorld := ⟨world.placement.forget row.targetRegion, migrations⟩
      match reply with
      | .ok => (created, .ok row)
      | .failed message applied =>
        (if applied then created else world, .error (.store message))

def update (reply : Reply) (mig : TenantMigration) :
    TenantWorld × Except MigrationError TenantMigration :=
  match world.migrations.find? mig.id with
  | none => (world, .error .notFound)
  | some row =>
    if row.version ≠ mig.version then (world, .error .concurrentUpdate)
    else if !mig.state.isTerminal &&
        world.migrations.rows.any (fun other => other.id ≠ mig.id && !other.state.isTerminal) then
      (world, .error .conflict)
    else
      let saved : TenantMigration := { mig with
          sourceRegion := row.sourceRegion
          targetRegion := row.targetRegion
          version := row.version + 1 }
      match reply with
      | .ok => (world.save saved, .ok saved)
      | .failed message applied =>
        (if applied then world.save saved else world, .error (.store message))

end TenantWorld

/-! ## The driver -/

inductive MigrationRequest where
  | start (targetRegion : Text)
  | resume

/-- Where a call stands. `left` are the steps that it has still to go through. -/
inductive MigrationCall where
  | begin (targetRegion : Text)
  | create (source target : Text)
  | resume
  | drive (mig : TenantMigration)
  | enter (mig : TenantMigration) (cp : Checkpoint) (left : List Step)
  | forward (mig : TenantMigration) (cp : Checkpoint) (step : Step) (left : List Step)
  | commit (mig : TenantMigration) (cp : Checkpoint) (step : Step) (left : List Step)
  | beginRollback (mig : TenantMigration) (cp : Checkpoint) (cause : String)
  | undo (mig : TenantMigration) (cp : Checkpoint) (cause : String) (left : List Step)
      (rollbackErr : Option String)
  | recordUndo (mig : TenantMigration) (cp : Checkpoint) (cause : String) (left : List Step)
      (rollbackErr : Option String)
  | yield (mig : TenantMigration)
  | returned (mig : Option TenantMigration) (error : Option MigrationError)

namespace MigrationCall

def start : MigrationRequest → MigrationCall
  | .start targetRegion => .begin targetRegion
  | .resume => .resume

/-- `drive`, on an error of `driveOnce`: a driver that was overtaken yields. -/
def failedWith (mig : TenantMigration) (error : MigrationError) : MigrationCall :=
  if error.isConcurrentUpdate then .yield mig else .returned (some mig) (some error)

/-- `persist`, and what follows. -/
def persist (input : MigrationInput) (world : TenantWorld) (mig : TenantMigration)
    (cp : Checkpoint) (saved : TenantMigration → MigrationCall)
    (refused : MigrationError → MigrationCall) : TenantWorld × MigrationCall :=
  match world.update input.reply { mig with checkpoint := cp } with
  | (world, .ok row) => (world, saved row)
  | (world, .error error) => (world, refused (.persist mig.id error))

def unwound (now : Int) (mig : TenantMigration) (cause : String) : Option String → TenantMigration
  | some rollbackErr =>
    { mig with
      completedAt := some now
      dualRead := false
      state := .failed
      detail := "rollback failed: " ++ rollbackErr ++ " (original cause: " ++ cause ++ ")" }
  | none =>
    { mig with
      completedAt := some now
      dualRead := false
      state := .rolledBack
      detail := "rolled back: " ++ cause }

def advance (migrator : RegionMigrator) (input : MigrationInput) (world : TenantWorld) :
    MigrationCall → TenantWorld × MigrationCall
  | .begin targetRegion =>
    if !migrator.letters.validRegion targetRegion then
      (world, .returned none (some (.invalidTarget targetRegion)))
    else
      match input.reply with
      | .failed message _ => (world, .returned none (some (.store message)))
      | .ok =>
        let source := migrator.letters.normalize world.placement.region
        let target := migrator.letters.normalize targetRegion
        if source = [] then (world, .returned none (some .sourceRegionUnset))
        else if source = target then (world, .returned none (some (.alreadyInRegion target)))
        else (world, .create source target)
  | .create source target =>
    match world.create input.reply (.pending input.newId source target input.now) with
    | (world, .ok created) => (world, .drive created)
    | (world, .error .conflict) => (world, .returned none (some .migrationInProgress))
    | (world, .error error) => (world, .returned none (some error))
  | .resume =>
    match input.reply with
    | .failed message _ => (world, .returned none (some (.store message)))
    | .ok =>
      match world.active? with
      | none => (world, .returned none (some .noMigration))
      | some active => (world, .drive active)
  | .drive mig =>
    if mig.state.isTerminal then (world, .returned (some mig) none)
    else if mig.state = .rollingBack then
      (world, .beginRollback mig mig.checkpoint
        (if mig.detail = "" then "tenant: migration resumed while rolling back" else mig.detail))
    else (world, .enter { mig with attempts := mig.attempts + 1 } mig.checkpoint Step.all)
  | .enter mig cp (step :: left) =>
    if cp.done step then (world, .enter mig cp left)
    else
      persist input world { mig with state := step.state, detail := "" } cp
        (fun saved => .forward saved cp step left) (failedWith mig)
  | .enter mig cp [] =>
    persist input world { mig with
        state := .completed
        dualRead := false
        detail := ""
        completedAt := some input.now } cp
      (fun final => .returned (some final) none)
      (fun error => failedWith mig (.wrapped "tenant: persist completed state" error))
  | .forward mig cp step left =>
    if migrator.planes.wires step then
      let metadata := if step = .updateRegion then none else input.metadata
      (if input.reply.applied then { world with placement := world.placement.moved mig step }
        else world,
        match input.reply.error? with
        | none => .commit mig (cp.set step ⟨.done, metadata⟩) step left
        | some error => .beginRollback mig (cp.set step ⟨.attempted, metadata⟩) error)
    else (world, .commit mig (cp.set step ⟨.done, none⟩) step left)
  | .commit mig cp step left =>
    persist input world { mig with state := step.state, detail := "" } cp
      (fun saved => .enter saved cp left) (failedWith mig)
  | .beginRollback mig cp cause =>
    persist input world { mig with state := .rollingBack, detail := cause } cp
      (fun saved => .undo saved cp cause Step.all.reverse none) (failedWith mig)
  | .undo mig cp cause (step :: left) rollbackErr =>
    match cp step with
    | none => (world, .undo mig cp cause left rollbackErr)
    | some record =>
      if record.status = .rolledBack then (world, .undo mig cp cause left rollbackErr)
      else
        let undone := cp.set step ⟨.rolledBack, record.metadata⟩
        if migrator.planes.wires step then
          (if input.reply.applied then
              { world with placement := world.placement.reverted mig step }
            else world,
            match input.reply.error? with
            | none => .recordUndo mig undone cause left rollbackErr
            | some error => .undo mig cp cause left (rollbackErr.or (some error)))
        else (world, .recordUndo mig undone cause left rollbackErr)
  | .undo mig cp cause [] rollbackErr =>
    persist input world (unwound input.now mig cause rollbackErr) cp
      (fun final => .returned (some final) (some (.cause cause)))
      (fun error => failedWith mig (.wrapped "tenant: persist terminal rollback state" error))
  | .recordUndo mig cp cause left rollbackErr =>
    persist input world { mig with state := .rollingBack, detail := cause } cp
      (fun saved => .undo saved cp cause left rollbackErr) (failedWith mig)
  | .yield mig =>
    match input.reply with
    | .failed _ _ => (world, .returned (some mig) none)
    | .ok => (world, .returned (some ((world.migrations.find? mig.id).getD mig)) none)
  | .returned mig error => (world, .returned mig error)

end MigrationCall

def migrationService (migrator : RegionMigrator) :
    Service TenantWorld MigrationRequest MigrationInput MigrationCall :=
  ⟨MigrationCall.start, MigrationCall.advance migrator⟩

end ShieldNet.Tenant
