import ShieldNet.Tenant.Commitment

/-!
# What the row of a migration says about the planes

A migration may have several drivers. The version of its row keeps all but one of them from
writing it, but does not keep them from calling the planes. Here is what the row says about the
planes by its state (`RowAgrees`), what a driver relies on while others move (`Tracks`), what a
step leaves to the other drivers (`Leaves`), and the rule for a version-checked write
(`persist_outcome`).
-/

namespace ShieldNet.Tenant

open MigrationCall List

def MigrationState.unwinds : MigrationState → Bool
  | .rollingBack | .rolledBack | .failed => true
  | .pending | .rewrappingKeys | .copyingTelemetry | .copyingObjects | .reassigningPop
  | .updatingRegion | .completed => false

def Reached (cp : Checkpoint) (step : Step) : Prop := ∃ left, Passed cp (step :: left)

section Agreement

variable (migrator : RegionMigrator)

/-- What a step has left behind: data in the target region, or the column away from the
source region. -/
def Dirty (placement : Placement) (source target : Text) : Step → Prop
  | .rewrapKeys => placement.written .rewrapKeys target = true
  | .copyTelemetry => placement.written .copyTelemetry target = true
  | .copyObjects => placement.written .copyObjects target = true
  | .reassignPop => False
  | .updateRegion => committed migrator placement ≠ source

/-- What a row says about the planes. On the way forward a step has left something behind only
when all steps before it are done; on the way back, only when it is still to be undone. -/
structure RowAgrees (placement : Placement) (row : TenantMigration) : Prop where
  sourceNormal : migrator.letters.normalize row.sourceRegion = row.sourceRegion
  targetNormal : migrator.letters.normalize row.targetRegion = row.targetRegion
  unwired : ∀ step, Dirty migrator placement row.sourceRegion row.targetRegion step →
    migrator.planes.wires step = true
  reached : row.state.unwinds = false → ∀ step,
    Dirty migrator placement row.sourceRegion row.targetRegion step → Reached row.checkpoint step
  flipped : row.state.unwinds = false → row.checkpoint.done .updateRegion = true →
    placement.region = row.targetRegion
  completed : row.state = .completed → row.checkpoint.done .updateRegion = true
  undoable : row.state = .rollingBack → ∀ step,
    Dirty migrator placement row.sourceRegion row.targetRegion step →
      row.checkpoint.undoable step = true
  clean : row.state = .rolledBack → ∀ step,
    ¬ Dirty migrator placement row.sourceRegion row.targetRegion step

variable (earlier : List TenantMigration) (world : TenantWorld)

/-- No migration has been opened since, or one has. -/
def Recorded : Prop :=
  world.migrations.rows = earlier ∨ ∃ row, world.migrations.rows = earlier ++ [row] ∧
    RowAgrees migrator world.placement row

/-- A driver has a version of the row. When it is the version stored, the driver has its state
and its checkpoint. -/
structure Follows (world : TenantWorld) (mig row : TenantMigration) : Prop where
  listed : world.migrations.rows = earlier ++ [row]
  same : SameMigration row mig
  version : mig.version ≤ row.version
  current : mig.version = row.version → row.state = mig.state ∧ row.checkpoint = mig.checkpoint

def Clean (row : TenantMigration) (step : Step) : Prop :=
  ¬ Dirty migrator world.placement row.sourceRegion row.targetRegion step

/-- What a call relies on, whatever the other drivers do. -/
def Tracks : MigrationCall → Prop
  | .begin _ | .resume | .yield _ | .returned _ _ => True
  | .create source target => world.migrations.rows = earlier →
      source = committed migrator world.placement ∧ migrator.letters.normalize target = target
  | .drive mig => ∃ row, Follows earlier world mig row
  | .enter mig cp left => ∃ row, Follows earlier world mig row ∧ mig.state.unwinds = false ∧
      cp = mig.checkpoint ∧ Passed cp left
  | .forward mig cp step left => ∃ row, Follows earlier world mig row ∧
      mig.state.unwinds = false ∧ cp = mig.checkpoint ∧ cp.done step = false ∧
      Passed cp (step :: left) ∧ (row.state.unwinds = false → Reached row.checkpoint step)
  | .commit mig cp step left => ∃ row, Follows earlier world mig row ∧
      mig.state.unwinds = false ∧ (∃ metadata, cp = mig.checkpoint.set step ⟨.done, metadata⟩) ∧
      Passed mig.checkpoint (step :: left) ∧
      (mig.version = row.version → step = .updateRegion → world.placement.region = row.targetRegion)
  | .beginRollback mig cp _ => ∃ row, Follows earlier world mig row ∧
      ((mig.state = .rollingBack ∧ cp = mig.checkpoint) ∨
        (mig.state.unwinds = false ∧ ∃ step left metadata,
          cp = mig.checkpoint.set step ⟨.attempted, metadata⟩ ∧
            mig.checkpoint.done step = false ∧ Passed mig.checkpoint (step :: left)))
  | .undo mig cp _ left rollbackErr => ∃ row, Follows earlier world mig row ∧
      row.state.unwinds = true ∧ mig.state = .rollingBack ∧ cp = mig.checkpoint ∧
      (mig.version = row.version → rollbackErr = none → ∀ step ∉ left,
        Clean migrator world row step)
  | .recordUndo mig cp _ left rollbackErr => ∃ row, Follows earlier world mig row ∧
      row.state.unwinds = true ∧ mig.state = .rollingBack ∧
      (∃ step metadata, cp = mig.checkpoint.set step ⟨.rolledBack, metadata⟩ ∧
        (mig.version = row.version → Clean migrator world row step)) ∧
      (mig.version = row.version → rollbackErr = none → ∀ step ∉ left,
        Clean migrator world row step)

/-- What a step leaves of the row and of the planes to the other drivers. -/
structure Leaves (world later : TenantWorld) (row next : TenantMigration) : Prop where
  listed : later.migrations.rows = earlier ++ [next]
  same : SameMigration row next
  version : row.version ≤ next.version
  kept : row.version = next.version → next = row
  unwinds : row.state.unwinds = true → next.state.unwinds = true
  done : next.state.unwinds = false → ∀ step, row.checkpoint.done step = true →
    next.checkpoint.done step = true
  flipped : row.state.unwinds = false → world.placement.region = row.targetRegion →
    later.placement.region = row.targetRegion
  clean : row.state = .rollingBack → ∀ step, Clean migrator world row step →
    Clean migrator later row step

/-- What a step comes to: the row agrees with the planes, the call goes on, and the other
drivers keep what they rely on. -/
structure Outcome (world later : TenantWorld) (call : MigrationCall) : Prop where
  recorded : Recorded migrator earlier later
  tracks : Tracks migrator earlier later call
  leaves : ∀ row, world.migrations.rows = earlier ++ [row] →
    ∃ next, Leaves migrator earlier world later row next
  unopened : later.migrations.rows = earlier →
    world.migrations.rows = earlier ∧ later.placement = world.placement

end Agreement

variable {migrator : RegionMigrator} {earlier : List TenantMigration}
  {world later : TenantWorld} {mig row next : TenantMigration} {cp : Checkpoint} {step : Step}
  {left : List Step} {call : MigrationCall} {input : MigrationInput}

/-! ## The order of the steps -/

variable {other : Step}

/-- Of two steps that the driver may be at, one has been passed. -/
theorem Reached.eq_or_done (reached : Reached cp other) (here : Reached cp step)
    (fresh : cp.done step = false) : other = step ∨ cp.done other := by
  obtain ⟨rest, before, whole, done⟩ := reached
  obtain ⟨left, passed, whole', done'⟩ := here
  rcases append_eq_append_iff.mp (whole.symm.trans whole') with
    ⟨between, split, rest'⟩ | ⟨between, split, rest'⟩
  · cases between with
    | nil => exact .inl (List.cons.inj rest').1
    | cons head between =>
      obtain ⟨rfl, -⟩ := List.cons.inj rest'
      refine .inr (done' other ?_)
      rw [split]
      exact mem_append_right _ mem_cons_self
  · cases between with
    | nil => exact .inl (List.cons.inj rest').1.symm
    | cons head between =>
      obtain ⟨rfl, -⟩ := List.cons.inj rest'
      have passed : cp.done step := by
        apply done
        rw [split]
        exact mem_append_right _ mem_cons_self
      rw [passed] at fresh
      cases fresh

theorem Reached.mono {later : Checkpoint} (reached : Reached cp step)
    (stays : ∀ other, cp.done other → later.done other) : Reached later step := by
  obtain ⟨left, before, whole, done⟩ := reached
  exact ⟨left, before, whole, fun other member => stays other (done other member)⟩

theorem Checkpoint.done_set_done {metadata : Option String} (done : cp.done other)
    : (cp.set step ⟨.done, metadata⟩).done other := by
  rw [Checkpoint.done_set]
  split
  case isTrue => rfl
  case isFalse => exact done

theorem Checkpoint.undoable_of_done (done : cp.done step) : cp.undoable step := by
  rw [Checkpoint.done] at done
  rw [Checkpoint.undoable]
  cases found : cp step with
  | none =>
    rw [found] at done
    cases done
  | some record =>
    rw [found, Option.any_some] at done
    rw [Option.any_some, done]
    rfl

theorem Checkpoint.undoable_set {record : StepRecord} : (cp.set step record).undoable other =
    if other = step then decide (record.status = .done) || decide (record.status = .attempted)
    else cp.undoable other := by
  rw [undoable, set]
  split <;> rfl

/-- What the steps have left behind is still to be undone when the driver goes back. -/
theorem undoable_attempted {metadata : Option String} (reached : Reached cp other)
    (here : Reached cp step) (fresh : cp.done step = false) :
    (cp.set step ⟨.attempted, metadata⟩).undoable other := by
  rw [Checkpoint.undoable_set]
  split
  case isTrue => rfl
  case isFalse differs =>
    rcases reached.eq_or_done here fresh with same | done
    · exact absurd same differs
    · exact Checkpoint.undoable_of_done done

/-! ## What the calls of the planes leave behind -/

section Planes

variable {placement : Placement} {source target : Text} {other : Step}

theorem Dirty.of_moved (same : mig.targetRegion = target)
    (dirty : Dirty migrator (placement.moved mig step) source target other) :
    other = step ∨ Dirty migrator placement source target other := by
  subst same
  by_cases here : other = step
  · exact .inl here
  · right
    cases step <;> cases other <;> first | exact absurd rfl here | exact dirty

theorem region_moved (stays : placement.region = mig.targetRegion) :
    (placement.moved mig step).region = mig.targetRegion := by
  cases step with
  | updateRegion => rfl
  | _ => exact stays

theorem Dirty.of_reverted (sameTarget : mig.targetRegion = target)
    (sameSource : mig.sourceRegion = source) (normal : migrator.letters.normalize source = source)
    (dirty : Dirty migrator (placement.reverted mig step) source target other) :
    other ≠ step ∧ Dirty migrator placement source target other := by
  subst sameTarget sameSource
  by_cases here : other = step
  · subst here
    cases other with
    | reassignPop => exact absurd dirty id
    | updateRegion => exact absurd normal dirty
    | _ =>
      exact absurd ((if_pos ⟨rfl, rfl⟩).symm.trans dirty) Bool.false_ne_true
  · refine ⟨here, ?_⟩
    cases step <;> cases other <;> first | exact absurd rfl here | exact dirty

end Planes

/-! ## The version-checked write -/

section

variable (listed : world.migrations.rows = earlier ++ [row])
include listed

theorem rows_save (same : next.id = row.id) :
    (world.save next).migrations.rows = earlier ++ [next] := by
  have distinct := world.migrations.distinct
  rw [listed, map_append, nodup_append] at distinct
  change world.migrations.rows.map _ = _
  rw [listed, map_append, map_singleton, if_pos same.symm]
  congr 1
  refine map_congr_left (fun other member => if_neg ?_) |>.trans (map_id _)
  intro taken
  exact distinct.2.2 other.id (mem_map_of_mem member) row.id mem_cons_self (taken.trans same)

theorem mem_listed : row ∈ world.migrations.rows :=
  listed ▸ mem_append_right _ mem_cons_self

end

/-! ## What the other drivers keep -/

theorem Leaves.refl (listed : world.migrations.rows = earlier ++ [row]) :
    Leaves migrator earlier world world row row :=
  ⟨listed, ⟨rfl, rfl, rfl⟩, le_rfl, fun _ => rfl, id, fun _ _ => id, fun _ => id, fun _ _ => id⟩

theorem Follows.leaves (follows : Follows earlier world mig row)
    (leaves : Leaves migrator earlier world later row next) : Follows earlier later mig next := by
  refine ⟨leaves.listed, ⟨?_, ?_, ?_⟩, follows.version.trans leaves.version, ?_⟩
  · exact follows.same.id.trans leaves.same.id.symm
  · exact follows.same.source.trans leaves.same.source.symm
  · exact follows.same.target.trans leaves.same.target.symm
  · intro current
    have equal : row.version = next.version :=
      le_antisymm leaves.version (current ▸ follows.version)
    rw [leaves.kept equal]
    exact follows.current (current.trans equal.symm)

/-- A driver that has the version stored after a step had it before. -/
theorem Follows.before (follows : Follows earlier world mig row)
    (leaves : Leaves migrator earlier world later row next) (current : mig.version = next.version) :
    next = row ∧ mig.version = row.version := by
  have equal : row.version = next.version := le_antisymm leaves.version (current ▸ follows.version)
  exact ⟨leaves.kept equal, current.trans equal.symm⟩

/-- **What a call relies on stays** when another driver moves. -/
theorem Tracks.leaves (tracks : Tracks migrator earlier world call)
    (unopened : later.migrations.rows = earlier →
      world.migrations.rows = earlier ∧ later.placement = world.placement)
    (moves : ∀ row, world.migrations.rows = earlier ++ [row] →
      ∃ next, Leaves migrator earlier world later row next) :
    Tracks migrator earlier later call := by
  cases call with
  | create source target =>
    intro still
    obtain ⟨before, same⟩ := unopened still
    rw [same]
    exact tracks before
  | drive mig =>
    obtain ⟨row, follows⟩ := tracks
    obtain ⟨next, leaves⟩ := moves row follows.listed
    exact ⟨next, follows.leaves leaves⟩
  | enter mig cp left =>
    obtain ⟨row, follows, known⟩ := tracks
    obtain ⟨next, leaves⟩ := moves row follows.listed
    exact ⟨next, follows.leaves leaves, known⟩
  | forward mig cp step left =>
    obtain ⟨row, follows, forward, same, fresh, passed, reached⟩ := tracks
    obtain ⟨next, leaves⟩ := moves row follows.listed
    refine ⟨next, follows.leaves leaves, forward, same, fresh, passed, ?_⟩
    intro stays
    have before : row.state.unwinds = false := by
      cases unwinds : row.state.unwinds with
      | false => rfl
      | true => exact (leaves.unwinds unwinds).symm.trans stays
    exact (reached before).mono (leaves.done stays)
  | commit mig cp step left =>
    obtain ⟨row, follows, forward, same, passed, flipped⟩ := tracks
    obtain ⟨next, leaves⟩ := moves row follows.listed
    refine ⟨next, follows.leaves leaves, forward, same, passed, ?_⟩
    intro current isFlip
    obtain ⟨rfl, current⟩ := follows.before leaves current
    exact leaves.flipped ((follows.current current).1 ▸ forward) (flipped current isFlip)
  | beginRollback mig cp cause =>
    obtain ⟨row, follows, known⟩ := tracks
    obtain ⟨next, leaves⟩ := moves row follows.listed
    exact ⟨next, follows.leaves leaves, known⟩
  | undo mig cp cause left rollbackErr =>
    obtain ⟨row, follows, unwinds, back, same, clean⟩ := tracks
    obtain ⟨next, leaves⟩ := moves row follows.listed
    refine ⟨next, follows.leaves leaves, leaves.unwinds unwinds, back, same, ?_⟩
    intro current noError step behind
    obtain ⟨rfl, current⟩ := follows.before leaves current
    exact leaves.clean ((follows.current current).1.trans back) step
      (clean current noError step behind)
  | recordUndo mig cp cause left rollbackErr =>
    obtain ⟨row, follows, unwinds, back, ⟨undone, metadata, same, own⟩, clean⟩ := tracks
    obtain ⟨next, leaves⟩ := moves row follows.listed
    refine ⟨next, follows.leaves leaves, leaves.unwinds unwinds, back,
      ⟨undone, metadata, same, ?_⟩, ?_⟩
    · intro current
      obtain ⟨rfl, current⟩ := follows.before leaves current
      exact leaves.clean ((follows.current current).1.trans back) undone (own current)
    · intro current noError step behind
      obtain ⟨rfl, current⟩ := follows.before leaves current
      exact leaves.clean ((follows.current current).1.trans back) step
        (clean current noError step behind)
  | _ => trivial

/-! ## One step of one driver -/

theorem Recorded.agrees (recorded : Recorded migrator earlier world)
    (listed : world.migrations.rows = earlier ++ [row]) :
    RowAgrees migrator world.placement row := by
  rcases recorded with unopened | ⟨stored, opened, agrees⟩
  · rw [unopened] at listed
    exact absurd (congrArg List.length listed) (by simp)
  · obtain ⟨rfl⟩ := append_cancel_left (opened.symm.trans listed)
    exact agrees

theorem outcome_refl (recorded : Recorded migrator earlier world)
    (tracks : Tracks migrator earlier world call) : Outcome migrator earlier world world call :=
  ⟨recorded, tracks, fun row listed => ⟨row, Leaves.refl listed⟩, fun still => ⟨still, rfl⟩⟩

theorem outcome_of_leaves (listed : world.migrations.rows = earlier ++ [row])
    (leaves : Leaves migrator earlier world later row next)
    (agrees : RowAgrees migrator later.placement next)
    (tracks : Tracks migrator earlier later call) : Outcome migrator earlier world later call := by
  refine ⟨.inr ⟨next, leaves.listed, agrees⟩, tracks, ?_, ?_⟩
  · intro other otherListed
    obtain ⟨rfl⟩ := append_cancel_left (otherListed.symm.trans listed)
    exact ⟨next, leaves⟩
  · intro still
    rw [leaves.listed] at still
    exact absurd (congrArg List.length still) (by simp)

theorem tracks_failedWith (error : MigrationError) :
    Tracks migrator earlier world (failedWith mig error) := by
  rw [failedWith]
  split <;> trivial

theorem SameMigration.trans (one : SameMigration row mig) (two : SameMigration mig next) :
    SameMigration row next :=
  ⟨two.id.trans one.id, two.source.trans one.source, two.target.trans one.target⟩

theorem RowAgrees.advance {placement : Placement} (agrees : RowAgrees migrator placement row)
    (forward : row.state.unwinds = false) (same : SameMigration row next)
    (stays : next.state.unwinds = false)
    (done : ∀ step, row.checkpoint.done step → next.checkpoint.done step)
    (flipped : next.checkpoint.done .updateRegion → placement.region = row.targetRegion)
    (completed : next.state = .completed → next.checkpoint.done .updateRegion) :
    RowAgrees migrator placement next := by
  obtain ⟨-, source, target⟩ := same
  refine ⟨?_, ?_, ?_, ?_, ?_, completed, ?_, ?_⟩
  · rw [source]
    exact agrees.sourceNormal
  · rw [target]
    exact agrees.targetNormal
  · rw [source, target]
    exact agrees.unwired
  · rw [source, target]
    exact fun _ step dirty => (agrees.reached forward step dirty).mono done
  · rw [target]
    exact fun _ => flipped
  · intro back
    rw [back] at stays
    cases stays
  · intro gone
    rw [gone] at stays
    cases stays

/-- What the driver relies on when it goes on from the row it has written. -/
def GoesOn (migrator : RegionMigrator) (earlier : List TenantMigration) (world : TenantWorld)
    (mig row next : TenantMigration) (cp : Checkpoint)
    (saved : TenantMigration → MigrationCall) : Prop :=
  mig.version = row.version → ∀ stored,
    stored = { next with checkpoint := cp, version := next.version + 1 } →
    (∀ step, Clean migrator world row step → Clean migrator (world.save stored) stored step) →
    Follows earlier (world.save stored) stored stored →
      Tracks migrator earlier (world.save stored) (saved stored)

section Writes

variable {saved : TenantMigration → MigrationCall} {refused : MigrationError → MigrationCall}
  (recorded : Recorded migrator earlier world) (follows : Follows earlier world mig row)
  (same : SameMigration mig next) (version : next.version = mig.version)
  (onSaved : GoesOn migrator earlier world mig row next cp saved)
  (onRefused : ∀ stored error, Tracks migrator earlier stored (refused error))

include recorded follows same version onSaved onRefused

/-- **A driver writes the row.** When it has the version stored, the row it writes has to agree
with the planes, and the driver goes on from it. -/
theorem persist_outcome (agrees : mig.version = row.version → RowAgrees migrator world.placement
      { next with checkpoint := cp, version := next.version + 1 })
    (unwinds : mig.state.unwinds → next.state.unwinds)
    (done : next.state.unwinds = false → ∀ step, mig.checkpoint.done step → cp.done step) :
    Outcome migrator earlier world (persist input world next cp saved refused).1
      (persist input world next cp saved refused).2 := by
  have listed := follows.listed
  have sameRow := follows.same.trans same
  rcases persist_cases (mem_listed listed) sameRow input cp saved refused with
    ⟨error, outcome⟩ | ⟨current, answer, outcome, answered⟩
  · rw [outcome]
    exact outcome_refl recorded (onRefused _ _)
  · have now : mig.version = row.version := version.symm.trans current
    obtain ⟨state, checkpoint⟩ := follows.current now
    have leaves : Leaves migrator earlier world
        (world.save { next with checkpoint := cp, version := next.version + 1 }) row
        { next with checkpoint := cp, version := next.version + 1 } := by
      have after : row.version < next.version + 1 := current ▸ Nat.lt_succ_self _
      refine ⟨rows_save listed sameRow.id, ⟨sameRow.id, sameRow.source, sameRow.target⟩, after.le,
        fun equal => absurd equal after.ne, ?_, ?_, fun _ => id, fun _ _ => id⟩
      · rw [state]
        exact unwinds
      · rw [checkpoint]
        exact done
    rw [outcome]
    refine outcome_of_leaves listed leaves (agrees now) ?_
    rcases answered with rfl | ⟨error, rfl⟩
    · refine onSaved now _ rfl ?_ ⟨leaves.listed, ⟨rfl, rfl, rfl⟩, le_rfl, fun _ => ⟨rfl, rfl⟩⟩
      intro step clean
      rw [Clean, sameRow.source, sameRow.target]
      exact clean
    · exact onRefused _ _

theorem persist_forward (forward : mig.state.unwinds = false) (stays : next.state.unwinds = false)
    (done : ∀ step, mig.checkpoint.done step → cp.done step)
    (flipped : mig.version = row.version → cp.done .updateRegion →
      mig.checkpoint.done .updateRegion ∨ world.placement.region = row.targetRegion)
    (completed : next.state = .completed → cp.done .updateRegion) :
    Outcome migrator earlier world (persist input world next cp saved refused).1
      (persist input world next cp saved refused).2 := by
  refine persist_outcome recorded follows same version onSaved onRefused ?_ ?_ fun _ => done
  · intro current
    obtain ⟨state, checkpoint⟩ := follows.current current
    have agrees := recorded.agrees follows.listed
    have advances : row.state.unwinds = false := state ▸ forward
    refine agrees.advance advances (follows.same.trans ⟨same.id, same.source, same.target⟩)
      stays ?_ ?_ completed
    · rw [checkpoint]
      exact done
    · intro set
      rcases flipped current set with before | there
      · exact agrees.flipped advances (checkpoint ▸ before)
      · exact there
  · intro unwinds
    rw [forward] at unwinds
    cases unwinds

theorem persist_back (back : next.state.unwinds)
    (undoable : mig.version = row.version → next.state = .rollingBack → ∀ step,
      Dirty migrator world.placement row.sourceRegion row.targetRegion step → cp.undoable step)
    (clean : mig.version = row.version → next.state = .rolledBack → ∀ step,
      Clean migrator world row step) :
    Outcome migrator earlier world (persist input world next cp saved refused).1
      (persist input world next cp saved refused).2 := by
  refine persist_outcome recorded follows same version onSaved onRefused ?_ (fun _ => back) ?_
  · intro current
    have agrees := recorded.agrees follows.listed
    obtain ⟨-, source, target⟩ := follows.same.trans same
    refine ⟨source ▸ agrees.sourceNormal, target ▸ agrees.targetNormal, ?_, ?_, ?_, ?_, ?_, ?_⟩
    · rw [source, target]
      exact agrees.unwired
    · intro forward
      rw [back] at forward
      cases forward
    · intro forward
      rw [back] at forward
      cases forward
    · intro completed
      rw [completed] at back
      cases back
    · rw [source, target]
      exact undoable current
    · rw [source, target]
      exact clean current
  · intro forward
    rw [back] at forward
    cases forward

end Writes

end ShieldNet.Tenant
