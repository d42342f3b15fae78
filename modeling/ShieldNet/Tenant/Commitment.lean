import ShieldNet.Tenant.Migration

/-!
# The region a tenant is committed to

The region column is flipped last and flipped back first, so that the region it names holds
the tenant's data throughout. This needs one thing of the undo of the flip: a rollback goes on
with the other steps when an undo has failed, and purges what the target region holds.

In every sequence of calls to `Start` and `Resume`, each of which may stop anywhere, with any
call of a plane or a repository failing, the column names a region that holds the data, as long
as the flip is undone where a rollback undoes it (`committed_region_holds_data`). A migration
whose flip is not undone ends with the column at the target and nothing there
(`failed_flip_back_loses_data`).
-/

namespace ShieldNet.Tenant

open MigrationCall Checkpoint Step Option

section Invariant

variable (migrator : RegionMigrator) (placement : Placement)

def committed : Text := migrator.letters.normalize placement.region

/-- A region holds the key envelopes, telemetry and objects, where their planes are wired. -/
def Holds (place : Text) : Prop :=
  ∀ step ∈ copying, migrator.planes.wires step = true → placement.written step place = true

/-- What a migration relies on: its source region keeps the data. -/
structure Between (placement : Placement) (source target : Text) : Prop where
  sourceNormal : migrator.letters.normalize source = source
  targetNormal : migrator.letters.normalize target = target
  apart : source ≠ target
  kept : Holds migrator placement source
  flips : committed migrator placement = target → migrator.planes.wires .updateRegion = true

/-- What the steps that are done have come to. When the column names the target region, all
steps before the flip are done. -/
structure Advancing (placement : Placement) (target : Text) (cp : Checkpoint) : Prop where
  copied : ∀ step ∈ copying, migrator.planes.wires step = true → cp.done step = true →
    placement.written step target = true
  flipped : committed migrator placement = target → ∀ step, step ≠ .updateRegion →
    cp.done step = true

/-- When the column names the target region, the flip is still to be undone. -/
def Unwinding (target : Text) (cp : Checkpoint) : Prop :=
  committed migrator placement = target → cp.undoable .updateRegion = true

def RowSound (row : TenantMigration) : Prop :=
  Between migrator placement row.sourceRegion row.targetRegion ∧
    if row.state = .rollingBack then Unwinding migrator placement row.targetRegion row.checkpoint
    else Advancing migrator placement row.targetRegion row.checkpoint

/-- The committed region holds the data, and one migration at most is under way. -/
structure Sound (world : TenantWorld) : Prop where
  holds : Holds migrator world.placement (committed migrator world.placement)
  rows : ∀ row ∈ world.migrations.rows, row.state.isTerminal = false →
    RowSound migrator world.placement row
  single : ∀ row ∈ world.migrations.rows, ∀ other ∈ world.migrations.rows,
    row.state.isTerminal = false → other.state.isTerminal = false → row = other

/-- The driver has the row of the migration under way, but for the count of its attempts. -/
def Drives (world : TenantWorld) (mig : TenantMigration) : Prop :=
  mig.state.isTerminal = false ∧ ∃ attempts, { mig with attempts } ∈ world.migrations.rows

def Passed (cp : Checkpoint) (left : List Step) : Prop :=
  ∃ before, all = before ++ left ∧ ∀ step ∈ before, cp.done step = true

def Knows (world : TenantWorld) : MigrationCall → Prop
  | .begin _ | .resume | .yield _ | .returned _ _ => Sound migrator world
  | .create source target => Sound migrator world ∧ source = committed migrator world.placement ∧
      migrator.letters.normalize target = target
  | .drive mig => Sound migrator world ∧
      (mig.state.isTerminal = false → mig ∈ world.migrations.rows)
  | .enter mig cp left => Sound migrator world ∧ Drives world mig ∧ mig.state ≠ .rollingBack ∧
      cp = mig.checkpoint ∧ Passed cp left
  | .forward mig cp step left => Sound migrator world ∧ Drives world mig ∧
      mig.state ≠ .rollingBack ∧ cp = mig.checkpoint ∧ cp.done step = false ∧
      Passed cp (step :: left)
  | .commit mig cp _ left => Sound migrator world ∧ Drives world mig ∧
      Advancing migrator world.placement mig.targetRegion cp ∧ Passed cp left
  | .beginRollback mig cp _ => Sound migrator world ∧ Drives world mig ∧
      Unwinding migrator world.placement mig.targetRegion cp
  | .undo mig cp _ left _ => Sound migrator world ∧ Drives world mig ∧ mig.state = .rollingBack ∧
      cp = mig.checkpoint ∧ (left = all.reverse ∨
        (.updateRegion ∉ left ∧ committed migrator world.placement ≠ mig.targetRegion))
  | .recordUndo mig _ _ left _ => Sound migrator world ∧ Drives world mig ∧
      .updateRegion ∉ left ∧ committed migrator world.placement ≠ mig.targetRegion

theorem Knows.sound {world : TenantWorld} {call : MigrationCall}
    (knows : Knows migrator world call) : Sound migrator world := by
  cases call with
  | begin | resume | yield | returned => exact knows
  | _ => exact knows.1

end Invariant

variable {migrator : RegionMigrator} {world changed : TenantWorld} {mig next : TenantMigration}
  {cp : Checkpoint} {step : Step} {left : List Step} {input : MigrationInput}

/-- What a step has to come to, when the call knows what it relies on. -/
def Keeps (migrator : RegionMigrator) (input : MigrationInput) (world : TenantWorld)
    (call : MigrationCall) : Prop :=
  Knows migrator world call → Knows migrator (advance migrator input world call).1
    (advance migrator input world call).2

/-! ## The row of the migration -/

theorem Sound.rowSound (sound : Sound migrator world) (drives : Drives world mig) :
    RowSound migrator world.placement mig := by
  obtain ⟨underWay, attempts, listed⟩ := drives
  have row := sound.rows _ listed underWay
  exact row

variable {placement : Placement}

theorem Sound.place (sound : Sound migrator world) (drives : Drives world mig)
    (holds : Holds migrator placement (committed migrator placement))
    (row : RowSound migrator placement mig) :
    Sound migrator { world with placement := placement } := by
  obtain ⟨underWay, attempts, listed⟩ := drives
  refine ⟨holds, ?_, sound.single⟩
  intro other member otherUnderWay
  rw [sound.single other member _ listed otherUnderWay underWay]
  exact row

theorem mem_rows_save {row other : TenantMigration} : other ∈ (world.save row).migrations.rows ↔
    ∃ before ∈ world.migrations.rows, (if before.id = row.id then row else before) = other :=
  Table.mem_update

theorem sound_of_only {row : TenantMigration}
    (holds : Holds migrator world.placement (committed migrator world.placement))
    (only : ∀ other ∈ world.migrations.rows, other.state.isTerminal = false → other = row)
    (rowSound : row.state.isTerminal = false → RowSound migrator world.placement row) :
    Sound migrator world := by
  refine ⟨holds, ?_, ?_⟩
  · intro other member underWay
    obtain rfl := only other member underWay
    exact rowSound underWay
  · intro first firstListed second secondListed firstUnderWay secondUnderWay
    rw [only first firstListed firstUnderWay, only second secondListed secondUnderWay]

theorem Sound.save (sound : Sound migrator world) (drives : Drives world mig)
    {row : TenantMigration} (same : row.id = mig.id)
    (rowSound : row.state.isTerminal = false → RowSound migrator world.placement row) :
    Sound migrator (world.save row) ∧ row ∈ (world.save row).migrations.rows := by
  obtain ⟨underWay, attempts, listed⟩ := drives
  have only : ∀ other ∈ (world.save row).migrations.rows, other.state.isTerminal = false →
      other = row := by
    intro other member otherUnderWay
    obtain ⟨before, wasThere, rfl⟩ := mem_rows_save.mp member
    split at otherUnderWay
    case isTrue own => rw [if_pos own]
    case isFalse foreign =>
      have stored := sound.single before wasThere _ listed otherUnderWay underWay
      exact absurd (by rw [stored, same]) foreign
  exact ⟨sound_of_only sound.holds only rowSound, mem_rows_save.mpr ⟨_, listed, if_pos same.symm⟩⟩

structure SameMigration (mig next : TenantMigration) : Prop where
  id : next.id = mig.id
  source : next.sourceRegion = mig.sourceRegion
  target : next.targetRegion = mig.targetRegion

section

variable {row : TenantMigration} (listed : row ∈ world.migrations.rows)
include listed

/-- `Update` leaves the row as it is, or the driver had the version stored; when it answers with
the row, it has written it. -/
theorem update_cases (same : SameMigration row next) (reply : Reply) :
    (∃ error, world.update reply next = (world, .error error)) ∨
      (next.version = row.version ∧ ∃ answer,
        world.update reply next = (world.save { next with version := next.version + 1 }, answer) ∧
        (answer = .ok { next with version := next.version + 1 } ∨
          ∃ error, answer = .error error)) := by
  rw [TenantWorld.update, same.id, Table.find?_eq_some_iff.mpr ⟨listed, rfl⟩]
  dsimp only
  split
  case isTrue => exact .inl ⟨_, rfl⟩
  case isFalse current =>
    have version : row.version = next.version := not_not.mp current
    split
    case isTrue => exact .inl ⟨_, rfl⟩
    rw [← same.source, ← same.target, version]
    cases reply with
    | ok => exact .inr ⟨rfl, _, rfl, .inl rfl⟩
    | failed message applied =>
      cases applied with
      | true => exact .inr ⟨rfl, _, rfl, .inr ⟨_, rfl⟩⟩
      | false => exact .inl ⟨_, rfl⟩

/-- **A write of the row and what follows it.** -/
theorem persist_cases (same : SameMigration row next) (input : MigrationInput) (cp : Checkpoint)
    (saved : TenantMigration → MigrationCall) (refused : MigrationError → MigrationCall) :
    (∃ error, persist input world next cp saved refused = (world, refused error)) ∨
      (next.version = row.version ∧ ∃ answer, persist input world next cp saved refused =
          (world.save { next with checkpoint := cp, version := next.version + 1 }, answer) ∧
        (answer = saved { next with checkpoint := cp, version := next.version + 1 } ∨
          ∃ error, answer = refused error)) := by
  rw [persist]
  rcases @update_cases world { next with checkpoint := cp } row listed
      ⟨same.id, same.source, same.target⟩ input.reply with
    ⟨error, updated⟩ | ⟨current, answer, updated, rfl | ⟨error, rfl⟩⟩
  · rw [updated]
    exact .inl ⟨_, rfl⟩
  · rw [updated]
    exact .inr ⟨current, _, rfl, .inl rfl⟩
  · rw [updated]
    exact .inr ⟨current, _, rfl, .inr ⟨_, rfl⟩⟩

end

variable {saved : TenantMigration → MigrationCall}

/-- **A write and what follows it.** -/
theorem persist_knows (sound : Sound migrator world) (drives : Drives world mig)
    (same : SameMigration mig next) {refused : MigrationError → MigrationCall}
    (rowSound : next.state.isTerminal = false →
      RowSound migrator world.placement { next with checkpoint := cp })
    (onSaved : ∀ row, row = { next with checkpoint := cp, version := next.version + 1 } →
      Sound migrator (world.save row) → row ∈ (world.save row).migrations.rows →
        Knows migrator (world.save row) (saved row))
    (onRefused : ∀ stored error, Sound migrator stored → Knows migrator stored (refused error)) :
    Knows migrator (persist input world next cp saved refused).1
      (persist input world next cp saved refused).2 := by
  have stores := @Sound.save migrator world mig sound drives
    { next with checkpoint := cp, version := next.version + 1 } same.id rowSound
  obtain ⟨underWay, attempts, listed⟩ := drives
  rcases persist_cases listed ⟨same.id, same.source, same.target⟩ input cp saved refused with
    ⟨error, outcome⟩ | ⟨-, answer, outcome, rfl | ⟨error, rfl⟩⟩
  · rw [outcome]
    exact onRefused _ _ sound
  · rw [outcome]
    exact onSaved _ rfl stores.1 stores.2
  · rw [outcome]
    exact onRefused _ _ stores.1

theorem failedWith_knows (sound : Sound migrator world) (error : MigrationError) :
    Knows migrator world (failedWith mig error) := by
  rw [failedWith]
  split <;> exact sound

/-! ## What the steps do to the regions -/

section Regions

variable {placement later : Placement} {source target place : Text}

/-- The column stays, and every region keeps what it holds. -/
structure Grows (placement later : Placement) : Prop where
  region : later.region = placement.region
  written : ∀ step place, placement.written step place = true → later.written step place = true

theorem Grows.committed (grows : Grows placement later) :
    committed migrator later = committed migrator placement := by
  rw [Tenant.committed, Tenant.committed, grows.region]

theorem Grows.holds (grows : Grows placement later) (holds : Holds migrator placement place) :
    Holds migrator later place := fun step copies wired =>
  grows.written step place (holds step copies wired)

theorem Grows.rowSound (grows : Grows placement later) (row : RowSound migrator placement mig) :
    RowSound migrator later mig := by
  obtain ⟨between, state⟩ := row
  refine ⟨{ between with kept := grows.holds between.kept, flips := ?_ }, ?_⟩
  · rw [grows.committed]
    exact between.flips
  · split
    case isTrue unwinds =>
      rw [if_pos unwinds] at state
      rw [Unwinding, grows.committed]
      exact state
    case isFalse advances =>
      rw [if_neg advances] at state
      refine ⟨fun step copies wired done =>
          grows.written _ _ (state.copied step copies wired done), ?_⟩
      rw [grows.committed]
      exact state.flipped

theorem grows_mark : Grows placement (placement.mark step place true) := by
  refine ⟨rfl, ?_⟩
  intro other region held
  rw [Placement.mark]
  dsimp only
  split
  case isTrue => rfl
  case isFalse => exact held

theorem grows_moved (before : step ≠ .updateRegion) :
    Grows placement (placement.moved mig step) := by
  cases step with
  | reassignPop => exact ⟨rfl, fun _ _ held => held⟩
  | updateRegion => exact absurd rfl before
  | _ => exact grows_mark

theorem region_reverted (before : step ≠ .updateRegion) :
    (placement.reverted mig step).region = placement.region := by
  cases step with
  | updateRegion => exact absurd rfl before
  | _ => rfl

theorem written_reverted {other : Step} (elsewhere : place ≠ mig.targetRegion) :
    (placement.reverted mig step).written other place = placement.written other place := by
  cases step with
  | reassignPop | updateRegion => rfl
  | _ => exact if_neg fun same => elsewhere same.2

theorem Holds.reverted (holds : Holds migrator placement place)
    (elsewhere : place ≠ mig.targetRegion) :
    Holds migrator (placement.reverted mig step) place := by
  intro other copies wired
  rw [written_reverted elsewhere]
  exact holds other copies wired

end Regions

/-! ## Forward -/

theorem Sound.advancing (sound : Sound migrator world) (drives : Drives world mig)
    (forward : mig.state ≠ .rollingBack) :
    Advancing migrator world.placement mig.targetRegion mig.checkpoint := by
  have row := (sound.rowSound drives).2
  rwa [if_neg forward] at row

theorem Sound.unwinding (sound : Sound migrator world) (drives : Drives world mig)
    (back : mig.state = .rollingBack) :
    Unwinding migrator world.placement mig.targetRegion mig.checkpoint := by
  have row := (sound.rowSound drives).2
  rwa [if_pos back] at row

theorem Passed.flip (passed : Passed cp (.updateRegion :: left)) (other : step ≠ .updateRegion) :
    cp.done step := by
  obtain ⟨before, whole, done⟩ := passed
  apply done
  rcases before with _ | ⟨_, _ | ⟨_, _ | ⟨_, _ | ⟨_, _ | ⟨_, _⟩⟩⟩⟩⟩ <;> simp [all] at whole
  obtain ⟨rfl, rfl, rfl, rfl, -⟩ := whole
  cases step <;> simp at other ⊢

theorem Passed.extend {later : Checkpoint} (passed : Passed cp (step :: left))
    (next : later.done step)
    (stays : ∀ other, cp.done other → later.done other) : Passed later left := by
  obtain ⟨before, whole, done⟩ := passed
  refine ⟨before ++ [step], by rw [whole, List.append_assoc]; rfl, List.forall_mem_append.mpr ?_⟩
  exact ⟨fun other earlier => stays other (done other earlier), List.forall_mem_singleton.mpr next⟩

theorem Checkpoint.done_set {other : Step} {record : StepRecord} : (cp.set step record).done other =
    if other = step then decide (record.status = .done) else cp.done other := by
  rw [done, set]
  split <;> rfl

variable {metadata : Option String}

theorem Passed.pass (passed : Passed cp (step :: left)) :
    Passed (cp.set step ⟨.done, metadata⟩) left := by
  refine passed.extend ?_ ?_
  · rw [done_set, if_pos rfl]
    rfl
  · intro other done
    rw [done_set, done]
    split <;> rfl

theorem advancing_moved {target : Text} (advancing : Advancing migrator placement target cp)
    (written : migrator.planes.wires step → step ∈ copying → placement.written step target) :
    Advancing migrator placement target (cp.set step ⟨.done, metadata⟩) := by
  constructor
  · intro other copies wired done
    rw [done_set] at done
    split at done
    case isTrue same =>
      subst same
      exact written wired copies
    case isFalse => exact advancing.copied other copies wired done
  · intro flipped other before
    rw [done_set]
    split
    case isTrue => rfl
    case isFalse => exact advancing.flipped flipped other before

theorem moved_sound (sound : Sound migrator world) (drives : Drives world mig)
    (forward : mig.state ≠ .rollingBack) (passed : Passed mig.checkpoint (step :: left))
    (wired : migrator.planes.wires step) :
    Sound migrator { world with placement := world.placement.moved mig step } ∧
      Advancing migrator (world.placement.moved mig step) mig.targetRegion mig.checkpoint := by
  by_cases flip : step = .updateRegion
  · subst flip
    have between := (sound.rowSound drives).1
    have advancing := sound.advancing drives forward
    have flipped : Advancing migrator (world.placement.moved mig .updateRegion) mig.targetRegion
        mig.checkpoint := ⟨advancing.copied, fun _ _ before => passed.flip before⟩
    have names : committed migrator (world.placement.moved mig .updateRegion) = mig.targetRegion :=
      between.targetNormal
    refine ⟨sound.place drives ?_ ⟨{ between with kept := between.kept, flips := fun _ => wired },
      ?_⟩, flipped⟩
    · rw [names]
      intro step copies wired
      have before : step ≠ .updateRegion := by
        rintro rfl
        simp [copying] at copies
      exact advancing.copied step copies wired (passed.flip before)
    · rw [if_neg forward]
      exact flipped
  · have grows : Grows world.placement (world.placement.moved mig step) := grows_moved flip
    have row := grows.rowSound (sound.rowSound drives)
    refine ⟨sound.place drives ?_ row, ?_⟩
    · rw [grows.committed]
      exact grows.holds sound.holds
    · have state := row.2
      rwa [if_neg forward] at state

/-- A step that has failed is undone, the flip among them. -/
theorem unwinding_attempted {target : Text}
    (advancing : Advancing migrator placement target cp) (fresh : cp.done step = false) :
    Unwinding migrator placement target (cp.set step ⟨.attempted, metadata⟩) := by
  intro flipped
  have flip : step = .updateRegion := by
    by_contra before
    rw [advancing.flipped flipped step before] at fresh
    cases fresh
  rw [undoable, Checkpoint.set, if_pos flip.symm]
  rfl

theorem forward_knows : Keeps migrator input world (.forward mig cp step left) := by
  rintro ⟨sound, drives, forward, rfl, fresh, passed⟩
  have advancing := sound.advancing drives forward
  rw [advance]
  split
  case isTrue wired =>
    obtain ⟨soundMoved, advancingMoved⟩ := moved_sound sound drives forward passed wired
    cases reply : input.reply with
    | ok =>
      refine ⟨soundMoved, drives, advancing_moved advancingMoved ?_, passed.pass⟩
      intro _ copies
      cases step with
      | reassignPop | updateRegion => simp [copying] at copies
      | _ => exact if_pos ⟨rfl, rfl⟩
    | failed message applied =>
      cases applied with
      | true => exact ⟨soundMoved, drives, unwinding_attempted advancingMoved fresh⟩
      | false => exact ⟨sound, drives, unwinding_attempted advancing fresh⟩
  case isFalse unwired =>
    exact ⟨sound, drives, advancing_moved advancing fun wired => absurd wired unwired, passed.pass⟩

/-! ## Back -/

section

variable (sound : Sound migrator world) (drives : Drives world mig)
  (back : mig.state = .rollingBack)
include sound drives back

/-- What is left where the column does not name the target region. -/
theorem left_sound (kept : Holds migrator placement mig.sourceRegion)
    (holds : Holds migrator placement (committed migrator placement))
    (leaves : committed migrator placement ≠ mig.targetRegion) :
    Sound migrator { world with placement := placement } ∧
      committed migrator placement ≠ mig.targetRegion := by
  have between := (sound.rowSound drives).1
  refine ⟨sound.place drives holds ⟨{ between with
    kept := kept
    flips := fun flipped => absurd flipped leaves }, ?_⟩, leaves⟩
  rw [if_pos back]
  exact fun flipped => absurd flipped leaves

/-- **The flip is undone**, and the column names the source region. -/
theorem flipBack_sound :
    Sound migrator { world with placement := world.placement.reverted mig .updateRegion } ∧
      committed migrator (world.placement.reverted mig .updateRegion) ≠ mig.targetRegion := by
  have between := (sound.rowSound drives).1
  have names : committed migrator (world.placement.reverted mig .updateRegion) =
      mig.sourceRegion := between.sourceNormal
  exact left_sound sound drives back between.kept (names ▸ between.kept)
    (names.trans_ne between.apart)

/-- Another step is undone where the column does not name the target region. -/
theorem reverted_sound (before : step ≠ .updateRegion)
    (left : committed migrator world.placement ≠ mig.targetRegion) :
    Sound migrator { world with placement := world.placement.reverted mig step } ∧
      committed migrator (world.placement.reverted mig step) ≠ mig.targetRegion := by
  have between := (sound.rowSound drives).1
  have names : committed migrator (world.placement.reverted mig step) =
      committed migrator world.placement := by
    rw [committed, committed, region_reverted before]
  exact left_sound sound drives back (between.kept.reverted between.apart)
    (names ▸ sound.holds.reverted left) (names.trans_ne left)

/-- An undo, by whether there is something to undo and whether it takes effect. -/
theorem undo_knows {cause : String} {rollbackErr : Option String} (rest : .updateRegion ∉ left)
    (skipped : mig.checkpoint.undoable step = false →
      committed migrator world.placement ≠ mig.targetRegion)
    (unwired : ¬ migrator.planes.wires step → committed migrator world.placement ≠ mig.targetRegion)
    (applied : Sound migrator { world with placement := world.placement.reverted mig step } ∧
      committed migrator (world.placement.reverted mig step) ≠ mig.targetRegion)
    (refused : mig.checkpoint.undoable step → input.reply.applied = false →
      committed migrator world.placement ≠ mig.targetRegion) :
    Keeps migrator input world (.undo mig mig.checkpoint cause (step :: left) rollbackErr) := by
  intro _
  dsimp only [advance]
  cases found : mig.checkpoint step with
  | none =>
    exact ⟨sound, drives, back, rfl, .inr ⟨rest, skipped (by rw [undoable, found]; rfl)⟩⟩
  | some record =>
    dsimp only
    split
    case isTrue gone =>
      have settled : mig.checkpoint.undoable step = false := by
        rw [undoable, found, any_some, gone]
        rfl
      exact ⟨sound, drives, back, rfl, .inr ⟨rest, skipped settled⟩⟩
    case isFalse live =>
      have undoable : mig.checkpoint.undoable step := by
        rw [undoable, found, any_some]
        cases status : record.status with
        | rolledBack => exact absurd status live
        | _ => rfl
      split
      case isTrue wired =>
        cases reply : input.reply with
        | ok => exact ⟨applied.1, drives, rest, applied.2⟩
        | failed message took =>
          cases took with
          | true => exact ⟨applied.1, drives, back, rfl, .inr ⟨rest, applied.2⟩⟩
          | false =>
            exact ⟨sound, drives, back, rfl, .inr ⟨rest, refused undoable (by rw [reply]; rfl)⟩⟩
      case isFalse notWired => exact ⟨sound, drives, rest, unwired notWired⟩

end

/-- The undo of the flip takes effect, where there is a flip to undo. -/
def FlipReverts (migrator : RegionMigrator) (input : MigrationInput) (world : TenantWorld) :
    MigrationCall → Prop
  | .undo mig cp _ left _ => left.head? = some .updateRegion → cp.undoable .updateRegion = true →
      committed migrator world.placement = mig.targetRegion → input.reply.applied = true
  | .begin _ | .create .. | .resume | .drive _ | .enter .. | .forward .. | .commit ..
  | .beginRollback .. | .recordUndo .. | .yield _ | .returned .. => True

instance (input : MigrationInput) (world : TenantWorld) (call : MigrationCall) :
    Decidable (FlipReverts migrator input world call) := by
  cases call <;> dsimp only [FlipReverts] <;> infer_instance

theorem rollback_knows {cause : String} {rollbackErr : Option String}
    (reverts : FlipReverts migrator input world (.undo mig cp cause (step :: left) rollbackErr)) :
    Keeps migrator input world (.undo mig cp cause (step :: left) rollbackErr) := by
  intro knows
  have known := knows
  obtain ⟨sound, drives, back, rfl, whole | ⟨behind, leaves⟩⟩ := knows
  · obtain ⟨rfl, rfl⟩ := List.cons.inj whole
    refine undo_knows sound drives back (by decide) ?_ ?_ (flipBack_sound sound drives back) ?_
      known
    · intro settled flipped
      rw [sound.unwinding drives back flipped] at settled
      cases settled
    · intro notWired flipped
      exact notWired ((sound.rowSound drives).1.flips flipped)
    · intro undoable refused flipped
      rw [reverts rfl undoable flipped] at refused
      cases refused
  · rw [List.mem_cons, not_or] at behind
    exact undo_knows sound drives back behind.2 (fun _ => leaves) (fun _ => leaves)
      (reverted_sound sound drives back (Ne.symm behind.1) leaves) (fun _ _ => leaves) known

/-! ## Opening a migration -/

section

variable {source target : Text} (sound : Sound migrator world)
  (column : source = committed migrator world.placement)
  (normal : migrator.letters.normalize target = target)
include sound column normal

theorem opened_sound {id : ℕ} {now : Int} {migrations : Table TenantMigration.id}
    (apart : source ≠ target) (idle : world.active? = none)
    (rows : migrations.rows = world.migrations.rows ++ [.pending id source target now]) :
    Sound migrator ⟨world.placement.forget target, migrations⟩ := by
  subst column
  have only : ∀ other ∈ migrations.rows, other.state.isTerminal = false →
      other = .pending id (committed migrator world.placement) target now := by
    intro other member underWay
    rw [rows, List.mem_append, List.mem_singleton] at member
    rcases member with earlier | same
    · have terminal := List.find?_eq_none.mp idle other earlier
      rw [underWay] at terminal
      exact absurd rfl terminal
    · exact same
  have kept : Holds migrator (world.placement.forget target)
      (committed migrator world.placement) := by
    intro step copies wired
    rw [Placement.forget, Bool.and_eq_true]
    exact ⟨decide_eq_true apart, sound.holds step copies wired⟩
  refine sound_of_only kept only fun _ => ⟨⟨migrator.letters.normalize_idem _, normal, apart, kept,
    fun flipped => absurd flipped apart⟩, ?_⟩
  exact ⟨fun _ _ _ done => absurd done Bool.false_ne_true, fun flipped => absurd flipped apart⟩

/-- `Create` opens a migration or does not, whatever it answers. -/
theorem create_sound {id : ℕ} {now : Int} (reply : Reply) :
    Sound migrator (world.create reply (.pending id source target now)).1 ∧
      ∀ created, (world.create reply (.pending id source target now)).2 = .ok created →
        created ∈ (world.create reply (.pending id source target now)).1.migrations.rows := by
  have refused : ∀ (stored : TenantWorld) (error : MigrationError), Sound migrator stored →
      Sound migrator stored ∧ ∀ created : TenantMigration,
        Except.error error = Except.ok created → created ∈ stored.migrations.rows := by
    intro stored error sound
    refine ⟨sound, ?_⟩
    rintro created ⟨⟩
  rw [TenantWorld.create]
  split
  case isTrue => exact refused _ _ sound
  case isFalse distinct =>
    split
    case isTrue => exact refused _ _ sound
    case isFalse idle =>
      split
      case h_1 => exact refused _ _ sound
      case h_2 migrations inserted =>
        have rows := (Table.mem_rows_insert? inserted).2
        have opened := opened_sound sound column normal
          (fun same => distinct (.inr (.inr same))) (not_isSome_iff_eq_none.mp idle) rows
        cases reply with
        | ok =>
          refine ⟨opened, ?_⟩
          rintro created ⟨⟩
          rw [rows]
          exact List.mem_append_right _ List.mem_cons_self
        | failed message applied =>
          cases applied with
          | true => exact refused _ _ opened
          | false => exact refused _ _ sound

end

/-! ## Every step -/

theorem state_ne_rollingBack (step : Step) : step.state ≠ .rollingBack := by
  cases step <;> nofun

theorem isTerminal_state (step : Step) : step.state.isTerminal = false := by
  cases step <;> rfl

theorem drives_of_mem (underWay : mig.state.isTerminal = false)
    (listed : mig ∈ world.migrations.rows) : Drives world mig :=
  ⟨underWay, mig.attempts, listed⟩

theorem begin_knows {targetRegion : Text} : Keeps migrator input world (.begin targetRegion) := by
  intro sound
  rw [advance]
  split
  case isTrue => exact sound
  split
  case h_1 => exact sound
  dsimp only
  split
  case isTrue => exact sound
  split
  case isTrue => exact sound
  case isFalse => exact ⟨sound, rfl, migrator.letters.normalize_idem _⟩

theorem create_knows {source target : Text} :
    Keeps migrator input world (.create source target) := by
  rintro ⟨sound, column, normal⟩
  have opened := @create_sound migrator world source target sound column normal input.newId
    input.now input.reply
  rw [advance]
  split
  case h_1 stored created answer =>
    rw [answer] at opened
    exact ⟨opened.1, fun _ => opened.2 created rfl⟩
  case h_2 _ answer | h_3 _ _ _ answer =>
    rw [answer] at opened
    exact opened.1

theorem resume_knows : Keeps migrator input world .resume := by
  intro sound
  rw [advance]
  split
  case h_1 => exact sound
  split
  case h_1 => exact sound
  case h_2 active found => exact ⟨sound, fun _ => List.mem_of_find?_eq_some found⟩

theorem drive_knows : Keeps migrator input world (.drive mig) := by
  rintro ⟨sound, listed⟩
  rw [advance]
  split
  case isTrue => exact sound
  case isFalse running =>
    have underWay : mig.state.isTerminal = false := Bool.not_eq_true _ ▸ running
    have drives := drives_of_mem underWay (listed underWay)
    split
    case isTrue back => exact ⟨sound, drives, sound.unwinding drives back⟩
    case isFalse forward => exact ⟨sound, drives, forward, rfl, [], rfl, nofun⟩

/-- A row of the migration under way, written in another state. -/
theorem restate_knows {state : MigrationState} {detail : String} (sound : Sound migrator world)
    (drives : Drives world mig) (underWay : state.isTerminal = false)
    (stated : if state = .rollingBack then Unwinding migrator world.placement mig.targetRegion cp
      else Advancing migrator world.placement mig.targetRegion cp)
    (onSaved : ∀ row, row.state = state → row.checkpoint = cp →
      row.targetRegion = mig.targetRegion → Sound migrator (world.save row) →
        Drives (world.save row) row → Knows migrator (world.save row) (saved row)) :
    Knows migrator (persist input world { mig with state, detail } cp saved (failedWith mig)).1
      (persist input world { mig with state, detail } cp saved (failedWith mig)).2 := by
  have between := (sound.rowSound drives).1
  refine persist_knows sound drives ?_ ?_ ?_ fun _ error sound => failedWith_knows sound error
  · exact ⟨rfl, rfl, rfl⟩
  · exact fun _ => ⟨between, stated⟩
  · rintro row rfl stored listed
    exact onSaved _ rfl rfl rfl stored (drives_of_mem underWay listed)

theorem enter_knows : Keeps migrator input world (.enter mig cp (step :: left)) := by
  rintro ⟨sound, drives, forward, rfl, passed⟩
  have advancing := sound.advancing drives forward
  rw [advance]
  split
  case isTrue done =>
    exact ⟨sound, drives, forward, rfl, passed.extend done fun _ behind => behind⟩
  case isFalse fresh =>
    refine restate_knows sound drives (isTerminal_state step) ?_ ?_
    · rwa [if_neg (state_ne_rollingBack step)]
    · intro row state same _ stored drives
      exact ⟨stored, drives, state ▸ state_ne_rollingBack step, same.symm,
        Bool.not_eq_true _ ▸ fresh, passed⟩

theorem commit_knows : Keeps migrator input world (.commit mig cp step left) := by
  rintro ⟨sound, drives, advancing, passed⟩
  refine restate_knows sound drives (isTerminal_state step) ?_ ?_
  · rwa [if_neg (state_ne_rollingBack step)]
  · intro row state same _ stored drives
    exact ⟨stored, drives, state ▸ state_ne_rollingBack step, same.symm, passed⟩

/-- **Every step keeps what a call knows**, when the flip is undone where it has to be. -/
theorem advance_knows {call : MigrationCall} (reverts : FlipReverts migrator input world call) :
    Keeps migrator input world call := by
  intro knows
  cases call with
  | begin => exact begin_knows knows
  | create => exact create_knows knows
  | resume => exact resume_knows knows
  | drive => exact drive_knows knows
  | enter mig cp left =>
    cases left with
    | nil =>
      obtain ⟨sound, drives, -⟩ := knows
      refine persist_knows sound drives ?_ ?_ (fun _ _ stored _ => stored)
        fun _ error sound => failedWith_knows sound _
      · exact ⟨rfl, rfl, rfl⟩
      · exact nofun
    | cons => exact enter_knows knows
  | forward => exact forward_knows knows
  | commit => exact commit_knows knows
  | beginRollback mig cp cause =>
    obtain ⟨sound, drives, unwinding⟩ := knows
    exact restate_knows sound drives rfl unwinding fun row back same _ stored drives =>
      ⟨stored, drives, back, same.symm, .inl rfl⟩
  | undo mig cp cause left rollbackErr =>
    cases left with
    | nil =>
      obtain ⟨sound, drives, -⟩ := knows
      refine persist_knows sound drives ?_ ?_ (fun _ _ stored _ => stored)
        fun _ error sound => failedWith_knows sound _
      · cases rollbackErr <;> exact ⟨rfl, rfl, rfl⟩
      · intro underWay
        cases rollbackErr <;> cases underWay
    | cons => exact rollback_knows reverts knows
  | recordUndo mig cp cause left rollbackErr =>
    obtain ⟨sound, drives, behind, leaves⟩ := knows
    exact restate_knows sound drives rfl (fun flipped => absurd flipped leaves)
      fun row back same target stored drives =>
        ⟨stored, drives, back, same.symm, .inr ⟨behind, target ▸ leaves⟩⟩
  | yield =>
    rw [advance]
    split <;> exact knows
  | returned => exact knows

/-! ## Every sequence of calls -/

/-- What calls to `Start` and `Resume` leave behind, one after the other, each as far as its
inputs go. -/
def driven (migrator : RegionMigrator) (region : Text)
    (turns : List (Turn MigrationRequest MigrationInput)) : TenantWorld :=
  (migrationService migrator).turns (.new migrator.letters region) turns

theorem sound_new (migrator : RegionMigrator) (region : Text) :
    Sound migrator (.new migrator.letters region) :=
  ⟨fun _ _ _ => decide_eq_true rfl, fun _ member => absurd member List.not_mem_nil,
    fun _ member => absurd member List.not_mem_nil⟩

section

variable {region : Text} {turns : List (Turn MigrationRequest MigrationInput)}
  (reverts : (migrationService migrator).InTurn (FlipReverts migrator)
    (.new migrator.letters region) turns)
include reverts

/-- The committed region holds the data, wherever the calls stop. -/
theorem driven_sound : Sound migrator (driven migrator region turns) := by
  refine Service.turns_rest (Sound migrator) (Knows migrator) ?_ ?_ ?_ (sound_new migrator region)
    reverts
  · rintro world (target | _) sound <;> exact sound
  · exact fun input world call knows reverts => advance_knows reverts knows
  · exact fun world call knows => knows.sound

/-- **The region a tenant is committed to holds its data.** Calls to `Start` and `Resume` follow
one another, each stops anywhere, and any call of a plane or a repository may fail. When the
region column names the target region of a migration, the planes that are wired have written the
key envelopes, telemetry and objects there and nothing has purged or discarded them since;
provided that where a rollback undoes the flip of the column, the undo takes effect. -/
theorem committed_region_holds_data : ∀ mig ∈ (driven migrator region turns).migrations.rows,
      committed migrator (driven migrator region turns).placement = mig.targetRegion →
        Holds migrator (driven migrator region turns).placement mig.targetRegion := by
  intro mig _ names
  rw [← names]
  exact (driven_sound reverts).holds

end

/-! ## A flip that is not undone -/

section Examples

instance (placement : Placement) (place : Text) : Decidable (Holds migrator placement place) :=
  inferInstanceAs (Decidable (∀ step ∈ copying, _ → _))

def allPlanes : RegionMigrator := ⟨.ascii, ⟨true, true, true, true, true⟩⟩

/-- A call that is answered, with the id for a new row. -/
def answered (newId : ℕ) : MigrationInput := ⟨0, newId, .ok, none⟩

def unanswered : MigrationInput := ⟨0, 0, .failed "connection refused" false, none⟩

def stoppedAfterFlip : Turn MigrationRequest MigrationInput :=
  ⟨.start ['e', 'u'], List.replicate 17 (answered 1)⟩

def goesBack (undo : MigrationInput) : Turn MigrationRequest MigrationInput :=
  ⟨.resume, List.flatten [List.replicate 7 (answered 1), [unanswered, answered 1, undo],
    List.replicate 12 (answered 1)]⟩

/-- **A flip that is not undone loses the data.** The tenant repository is down when the driver
flips the column again and when it undoes the flip. The rollback goes on, purges what the target
region holds, and ends the migration without dual reads: the column names a region that holds
nothing. -/
theorem failed_flip_back_loses_data : (¬ ∀ mig ∈ (driven allPlanes ['u', 's']
      [stoppedAfterFlip, goesBack unanswered]).migrations.rows,
    committed allPlanes (driven allPlanes ['u', 's']
        [stoppedAfterFlip, goesBack unanswered]).placement = mig.targetRegion →
      Holds allPlanes (driven allPlanes ['u', 's']
        [stoppedAfterFlip, goesBack unanswered]).placement mig.targetRegion) ∧
    (driven allPlanes ['u', 's'] [stoppedAfterFlip, goesBack unanswered]).migrations.rows.map
      (fun mig => (mig.state, mig.dualRead)) = [(.failed, false)] := by
  decide +kernel

/-- A migration goes back after its flip, and a second one gets through. -/
def secondAttempt : List (Turn MigrationRequest MigrationInput) :=
  [stoppedAfterFlip, goesBack (answered 1), ⟨.start ['e', 'u'], List.replicate 19 (answered 2)⟩]

theorem second_attempt_holds_data :
    (driven allPlanes ['u', 's'] secondAttempt).migrations.rows.map TenantMigration.state =
        [.rolledBack, .completed] ∧
      ∀ mig ∈ (driven allPlanes ['u', 's'] secondAttempt).migrations.rows,
        committed allPlanes (driven allPlanes ['u', 's'] secondAttempt).placement =
            mig.targetRegion →
          Holds allPlanes (driven allPlanes ['u', 's'] secondAttempt).placement mig.targetRegion :=
  ⟨by decide +kernel, committed_region_holds_data (by decide +kernel)⟩

end Examples
end ShieldNet.Tenant
