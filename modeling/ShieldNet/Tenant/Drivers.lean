import ShieldNet.Tenant.Agreement

/-!
# Several drivers of one migration

A migration may have any number of drivers: the `Start` that opened it, calls to `Resume`, and
the resume loop of the leader, which goes on from a snapshot it read earlier. The version of the
row keeps all but one of them from writing it. It does not keep them from calling the planes.

The row agrees with the planes under any interleaving of the drivers, as long as the region
plane is wired and no forward call takes effect once the row is rolling back or rolled back
(`drivers_agree_with_record`). A driver that has lost the race may still be about to flip the
column; when its call arrives after the winner has undone everything, the row says rolled back
and the column names the target region (`late_flip_after_rollback`).
-/

namespace ShieldNet.Tenant

open MigrationCall Checkpoint List

/-- A forward call takes effect only while the row is neither rolling back nor rolled back. -/
def LandsBeforeRollback (migrator : RegionMigrator) (input : MigrationInput) (world : TenantWorld) :
    MigrationCall → Prop
  | .forward mig _ step _ => migrator.planes.wires step = true → input.reply.applied = true →
      ∀ row ∈ world.migrations.find? mig.id, row.state ≠ .rollingBack ∧ row.state ≠ .rolledBack
  | .begin _ | .create .. | .resume | .drive _ | .enter .. | .commit .. | .beginRollback ..
  | .undo .. | .recordUndo .. | .yield _ | .returned .. => True

variable {migrator : RegionMigrator} {earlier : List TenantMigration}
  {world later : TenantWorld} {mig row next : TenantMigration} {cp : Checkpoint} {step : Step}
  {left : List Step} {call : MigrationCall} {input : MigrationInput}

/-- What a step of a call has to come to, when the call finds what it relies on. -/
def Advances (migrator : RegionMigrator) (earlier : List TenantMigration) (input : MigrationInput)
    (world : TenantWorld) (call : MigrationCall) : Prop :=
  Tracks migrator earlier world call →
    Outcome migrator earlier world (advance migrator input world call).1
      (advance migrator input world call).2

theorem unwinds_state (step : Step) : step.state.unwinds = false := by
  cases step <;> rfl

theorem state_ne_completed (step : Step) : step.state ≠ .completed := by
  cases step <;> nofun

theorem Passed.done (passed : Passed cp []) (step : Step) : cp.done step := by
  obtain ⟨before, whole, done⟩ := passed
  rw [append_nil] at whole
  apply done
  rw [← whole]
  cases step <;> decide

variable {placement : Placement}

theorem leaves_place (listed : world.migrations.rows = earlier ++ [row])
    (flipped : row.state.unwinds = false → world.placement.region = row.targetRegion →
      placement.region = row.targetRegion)
    (clean : row.state = .rollingBack → ∀ step,
      Dirty migrator placement row.sourceRegion row.targetRegion step →
        Dirty migrator world.placement row.sourceRegion row.targetRegion step) :
    Leaves migrator earlier world { world with placement } row row :=
  ⟨listed, ⟨rfl, rfl, rfl⟩, le_rfl, fun _ => rfl, id, fun _ _ => id, flipped,
    fun back step isClean dirty => isClean (clean back step dirty)⟩

/-- **A forward call takes effect** while the row is not rolling back. -/
theorem moved_agrees (agrees : RowAgrees migrator placement row)
    (same : mig.targetRegion = row.targetRegion) (wired : migrator.planes.wires step)
    (reached : row.state.unwinds = false → Reached row.checkpoint step)
    (lands : row.state ≠ .rollingBack ∧ row.state ≠ .rolledBack) :
    RowAgrees migrator (placement.moved mig step) row := by
  refine ⟨agrees.sourceNormal, agrees.targetNormal, ?_, ?_, ?_, agrees.completed,
    fun back => absurd back lands.1, fun gone => absurd gone lands.2⟩
  · intro other dirty
    rcases dirty.of_moved same with rfl | before
    · exact wired
    · exact agrees.unwired other before
  · intro forward other dirty
    rcases dirty.of_moved same with rfl | before
    · exact reached forward
    · exact agrees.reached forward other before
  · intro forward done
    rw [← same]
    exact region_moved (same ▸ agrees.flipped forward done)

theorem pending_agrees {id : ℕ} {source target : Text} {now : Int}
    (column : source = committed migrator placement)
    (normal : migrator.letters.normalize target = target) :
    RowAgrees migrator (placement.forget target) (.pending id source target now) := by
  subst column
  have nothing : ∀ step, ¬ Dirty migrator (placement.forget target)
      (committed migrator placement) target step := by
    intro step dirty
    cases step with
    | reassignPop => exact dirty
    | updateRegion => exact dirty rfl
    | _ =>
      exact of_decide_eq_true (Bool.and_eq_true_iff.mp dirty).1 rfl
  exact ⟨migrator.letters.normalize_idem _, normal, fun step dirty => absurd dirty (nothing step),
    fun _ step dirty => absurd dirty (nothing step), fun _ done => absurd done Bool.false_ne_true,
    nofun, nofun, nofun⟩

theorem create_cases (reply : Reply) (new : TenantMigration) :
    (∃ error, world.create reply new = (world, .error error)) ∨
      ∃ migrations answer, migrations.rows = world.migrations.rows ++ [new] ∧
        world.create reply new = (⟨world.placement.forget new.targetRegion, migrations⟩, answer) ∧
        (answer = .ok new ∨ ∃ error, answer = .error error) := by
  rw [TenantWorld.create]
  split
  case isTrue => exact .inl ⟨_, rfl⟩
  split
  case isTrue => exact .inl ⟨_, rfl⟩
  split
  case h_1 => exact .inl ⟨_, rfl⟩
  case h_2 migrations inserted =>
    have rows := (Table.mem_rows_insert? inserted).2
    cases reply with
    | ok => exact .inr ⟨_, _, rows, rfl, .inl rfl⟩
    | failed message applied =>
      cases applied with
      | true => exact .inr ⟨_, _, rows, rfl, .inr ⟨_, rfl⟩⟩
      | false => exact .inl ⟨_, rfl⟩

theorem advance_create {source target : Text} :
    (advance migrator input world (.create source target)).1 =
        (world.create input.reply (.pending input.newId source target input.now)).1 ∧
      ((∃ created, (world.create input.reply
            (.pending input.newId source target input.now)).2 = .ok created ∧
          (advance migrator input world (.create source target)).2 = .drive created) ∨
        ∃ error, (advance migrator input world (.create source target)).2 =
          .returned none (some error)) := by
  rw [advance]
  rcases world.create input.reply (.pending input.newId source target input.now) with
    ⟨stored, error | created⟩
  · cases error <;> exact ⟨rfl, .inr ⟨_, rfl⟩⟩
  · exact ⟨rfl, .inl ⟨created, rfl, rfl⟩⟩

section Steps

variable (recorded : Recorded migrator earlier world)
include recorded

/-! ## Forward -/

theorem drive_outcome : Advances migrator earlier input world (.drive mig) := by
  rintro ⟨row, follows⟩
  rw [advance]
  split
  case isTrue => exact outcome_refl recorded trivial
  case isFalse running =>
    split
    case isTrue back => exact outcome_refl recorded ⟨row, follows, .inl ⟨back, rfl⟩⟩
    case isFalse forward =>
      have advances : mig.state.unwinds = false := by
        cases state : mig.state <;> rw [state] at running forward <;>
          first | rfl | exact absurd rfl running | exact absurd rfl forward
      exact outcome_refl recorded ⟨row, ⟨follows.listed,
        ⟨follows.same.id, follows.same.source, follows.same.target⟩, follows.version,
        follows.current⟩, advances, rfl, [], rfl, fun _ member => absurd member not_mem_nil⟩

theorem enter_outcome : Advances migrator earlier input world (.enter mig cp (step :: left)) := by
  rintro ⟨row, follows, forward, rfl, passed⟩
  rw [advance]
  split
  case isTrue done =>
    exact outcome_refl recorded
      ⟨row, follows, forward, rfl, passed.extend done fun _ behind => behind⟩
  case isFalse fresh =>
    refine persist_forward recorded follows ⟨rfl, rfl, rfl⟩ rfl ?_
      (fun _ error => tracks_failedWith error) forward (unwinds_state step) (fun _ => id)
      (fun _ => .inl) fun completed => absurd completed (state_ne_completed step)
    rintro - stored rfl - followsStored
    exact ⟨_, followsStored, unwinds_state step, rfl, Bool.not_eq_true _ ▸ fresh, passed,
      fun _ => ⟨left, passed⟩⟩

theorem complete_outcome : Advances migrator earlier input world (.enter mig cp []) := by
  rintro ⟨row, follows, forward, rfl, passed⟩
  exact persist_forward recorded follows ⟨rfl, rfl, rfl⟩ rfl (fun _ _ _ _ _ => trivial)
    (fun _ error => tracks_failedWith _) forward rfl (fun _ => id) (fun _ => .inl)
    fun _ => passed.done .updateRegion

theorem commit_outcome : Advances migrator earlier input world (.commit mig cp step left) := by
  rintro ⟨row, follows, forward, ⟨metadata, rfl⟩, passed, flipped⟩
  refine persist_forward recorded follows ⟨rfl, rfl, rfl⟩ rfl ?_
    (fun _ error => tracks_failedWith error) forward (unwinds_state step)
    (fun _ => done_set_done) ?_
    fun completed => absurd completed (state_ne_completed step)
  · rintro - stored rfl - followsStored
    exact ⟨_, followsStored, unwinds_state step, rfl, passed.pass⟩
  · intro current done
    rw [done_set] at done
    split at done
    case isTrue isFlip => exact .inr (flipped current isFlip.symm)
    case isFalse => exact .inl done

theorem forward_outcome (flips : migrator.planes.region)
    (lands : LandsBeforeRollback migrator input world (.forward mig cp step left)) :
    Advances migrator earlier input world (.forward mig cp step left) := by
  rintro ⟨row, follows, forward, rfl, fresh, passed, reached⟩
  have agrees := recorded.agrees follows.listed
  rw [advance]
  split
  case isTrue wired =>
    -- the world in which the call has taken effect
    have moved : input.reply.applied → ∀ call,
        Tracks migrator earlier { world with placement := world.placement.moved mig step } call →
          Outcome migrator earlier world
            { world with placement := world.placement.moved mig step } call := by
      intro applied call tracks
      have found := Table.find?_eq_some_iff.mpr ⟨mem_listed follows.listed, follows.same.id.symm⟩
      have before := lands wired applied row found
      refine outcome_of_leaves follows.listed (leaves_place follows.listed ?_ ?_)
        (moved_agrees agrees follows.same.target wired reached before) tracks
      · intro _ stays
        rw [← follows.same.target] at stays ⊢
        exact region_moved stays
      · exact fun back => absurd back before.1
    have followsMoved : ∀ placement, Follows earlier { world with placement } mig row :=
      fun _ => ⟨follows.listed, follows.same, follows.version, follows.current⟩
    cases reply : input.reply with
    | ok =>
      refine moved (by rw [reply]; rfl) _ ⟨row, followsMoved _, forward, ⟨_, rfl⟩, passed, ?_⟩
      rintro - rfl
      exact follows.same.target
    | failed message applied =>
      cases applied with
      | true =>
        exact moved (by rw [reply]; rfl) _ ⟨row, followsMoved _,
          .inr ⟨forward, step, left, _, rfl, fresh, passed⟩⟩
      | false =>
        exact outcome_refl recorded ⟨row, follows,
          .inr ⟨forward, step, left, _, rfl, fresh, passed⟩⟩
  case isFalse unwired =>
    refine outcome_refl recorded ⟨row, follows, forward, ⟨_, rfl⟩, passed, ?_⟩
    rintro - rfl
    exact absurd flips unwired

/-! ## Back -/

variable {cause : String}

theorem beginRollback_outcome :
    Advances migrator earlier input world (.beginRollback mig cp cause) := by
  rintro ⟨row, follows, origin⟩
  refine persist_back recorded follows ⟨rfl, rfl, rfl⟩ rfl ?_
    (fun _ error => tracks_failedWith error) rfl ?_ fun _ => nofun
  · rintro - stored rfl - followsStored
    refine ⟨_, followsStored, rfl, rfl, rfl, ?_⟩
    intro _ _ step behind
    exact absurd (by cases step <;> decide) behind
  · intro current _ other dirty
    obtain ⟨state, checkpoint⟩ := follows.current current
    have agrees := recorded.agrees follows.listed
    rcases origin with ⟨back, rfl⟩ | ⟨forward, step, left, metadata, rfl, fresh, passed⟩
    · rw [← checkpoint]
      exact agrees.undoable (state.trans back) other dirty
    · exact undoable_attempted (checkpoint ▸ agrees.reached (state ▸ forward) other dirty)
        ⟨left, passed⟩ fresh

variable {rollbackErr : Option String}

theorem recordUndo_outcome :
    Advances migrator earlier input world (.recordUndo mig cp cause left rollbackErr) := by
  rintro ⟨row, follows, -, back, ⟨undone, metadata, rfl, own⟩, clean⟩
  refine persist_back recorded follows ⟨rfl, rfl, rfl⟩ rfl ?_
    (fun _ error => tracks_failedWith error) rfl ?_ fun _ => nofun
  · rintro current stored rfl transfers followsStored
    exact ⟨_, followsStored, rfl, rfl, rfl, fun _ noError step behind =>
      transfers step (clean current noError step behind)⟩
  · intro current _ other dirty
    obtain ⟨state, checkpoint⟩ := follows.current current
    have agrees := recorded.agrees follows.listed
    rw [undoable_set]
    split
    case isTrue same =>
      subst same
      exact absurd dirty (own current)
    rw [← checkpoint]
    exact agrees.undoable (state.trans back) other dirty

theorem unwound_outcome :
    Advances migrator earlier input world (.undo mig cp cause [] rollbackErr) := by
  rintro ⟨row, follows, -, back, rfl, clean⟩
  have same : SameMigration mig (unwound input.now mig cause rollbackErr) := by
    cases rollbackErr <;> exact ⟨rfl, rfl, rfl⟩
  refine persist_back recorded follows same (by cases rollbackErr <;> rfl)
    (fun _ _ _ _ _ => trivial) (fun _ error => tracks_failedWith _)
    (by cases rollbackErr <;> rfl) ?_ ?_
  · cases rollbackErr <;> exact fun _ => nofun
  · intro current
    cases rollbackErr with
    | none => exact fun _ step => clean current rfl step not_mem_nil
    | some => nofun

/-- **An undo takes effect** on a row that is on its way back. -/
theorem reverted_outcome (follows : Follows earlier world mig row) (unwinds : row.state.unwinds)
    (tracks : Tracks migrator earlier
      { world with placement := world.placement.reverted mig step } call) :
    Outcome migrator earlier world
      { world with placement := world.placement.reverted mig step } call := by
  have agrees := recorded.agrees follows.listed
  have shrinks : ∀ other, Dirty migrator (world.placement.reverted mig step) row.sourceRegion
      row.targetRegion other →
        Dirty migrator world.placement row.sourceRegion row.targetRegion other :=
    fun other dirty => (dirty.of_reverted follows.same.target follows.same.source
      agrees.sourceNormal).2
  refine outcome_of_leaves follows.listed
    (leaves_place follows.listed ?_ fun _ => shrinks) ?_ tracks
  · intro forward
    rw [unwinds] at forward
    cases forward
  · refine { agrees with
      unwired := fun other dirty => agrees.unwired other (shrinks other dirty)
      reached := fun forward => ?_
      flipped := fun forward => ?_
      undoable := fun back other dirty => agrees.undoable back other (shrinks other dirty)
      clean := fun gone other dirty => agrees.clean gone other (shrinks other dirty) }
    · rw [unwinds] at forward
      cases forward
    · rw [unwinds] at forward
      cases forward

theorem undo_outcome :
    Advances migrator earlier input world (.undo mig cp cause (step :: left) rollbackErr) := by
  rintro ⟨row, follows, unwinds, back, rfl, clean⟩
  have agrees := recorded.agrees follows.listed
  -- the steps behind the driver, when this one has left nothing
  have further : (mig.version = row.version → Clean migrator world row step) →
      mig.version = row.version → rollbackErr = none → ∀ other ∉ left,
        Clean migrator world row other := by
    intro own current noError other behind
    by_cases here : other = step
    · subst here
      exact own current
    · exact clean current noError other fun member =>
        (mem_cons.mp member).elim here behind
  -- a step that is not to be undone has left nothing
  have skipped : mig.checkpoint.undoable step = false → mig.version = row.version →
      Clean migrator world row step := by
    intro settled current dirty
    obtain ⟨state, checkpoint⟩ := follows.current current
    have live := agrees.undoable (state.trans back) step dirty
    rw [checkpoint, settled] at live
    cases live
  have followsPlaced : ∀ placement, Follows earlier { world with placement } mig row :=
    fun _ => ⟨follows.listed, follows.same, follows.version, follows.current⟩
  dsimp only [advance]
  cases found : mig.checkpoint step with
  | none =>
    have settled : mig.checkpoint.undoable step = false := by
      rw [undoable, found]
      rfl
    exact outcome_refl recorded ⟨row, follows, unwinds, back, rfl, further (skipped settled)⟩
  | some record =>
    dsimp only
    split
    case isTrue gone =>
      have settled : mig.checkpoint.undoable step = false := by
        rw [undoable, found, Option.any_some, gone]
        rfl
      exact outcome_refl recorded ⟨row, follows, unwinds, back, rfl, further (skipped settled)⟩
    case isFalse live =>
      split
      case isTrue wired =>
        cases reply : input.reply with
        | ok =>
          have gone : ∀ other, ¬ (other ≠ step ∧
              Dirty migrator world.placement row.sourceRegion row.targetRegion other) →
              Clean migrator { world with placement := world.placement.reverted mig step }
                row other :=
            fun other kept dirty => kept (dirty.of_reverted follows.same.target
              follows.same.source agrees.sourceNormal)
          refine reverted_outcome recorded follows unwinds ⟨row, followsPlaced _, unwinds, back,
            ⟨step, _, rfl, fun _ => gone step fun both => both.1 rfl⟩, ?_⟩
          intro current noError other behind
          refine gone other fun both => ?_
          exact clean current noError other
            (fun member => (mem_cons.mp member).elim both.1 behind) both.2
        | failed message applied =>
          have failing : ∀ {later : TenantWorld}, mig.version = row.version →
              rollbackErr.or (some message) = none → ∀ other ∉ left,
                Clean migrator later row other := by
            intro later _ noError
            cases rollbackErr <;> cases noError
          cases applied with
          | true =>
            exact reverted_outcome recorded follows unwinds
              ⟨row, followsPlaced _, unwinds, back, rfl, failing⟩
          | false =>
            exact outcome_refl recorded ⟨row, follows, unwinds, back, rfl, failing⟩
      case isFalse unwired =>
        have never : Clean migrator world row step :=
          fun dirty => unwired (agrees.unwired step dirty)
        exact outcome_refl recorded ⟨row, follows, unwinds, back,
          ⟨step, _, rfl, fun _ => never⟩, further fun _ => never⟩

/-! ## Opening the migration -/

theorem begin_outcome {targetRegion : Text} :
    Advances migrator earlier input world (.begin targetRegion) := by
  intro _
  rw [advance]
  split
  case isTrue => exact outcome_refl recorded trivial
  split
  case h_1 => exact outcome_refl recorded trivial
  dsimp only
  split
  case isTrue => exact outcome_refl recorded trivial
  split
  case isTrue => exact outcome_refl recorded trivial
  case isFalse =>
    exact outcome_refl recorded fun _ => ⟨rfl, migrator.letters.normalize_idem _⟩

theorem resume_outcome (quiet : ∀ row ∈ earlier, row.state.isTerminal) :
    Advances migrator earlier input world .resume := by
  intro _
  rw [advance]
  split
  case h_1 => exact outcome_refl recorded trivial
  split
  case h_1 => exact outcome_refl recorded trivial
  case h_2 active found =>
    refine outcome_refl recorded ?_
    have member := mem_of_find?_eq_some found
    have underWay := find?_some found
    -- the migrations from before are over
    have later : active ∉ earlier := by
      intro old
      rw [quiet active old] at underWay
      cases underWay
    rcases recorded with unopened | ⟨row, listed, -⟩
    · exact absurd (unopened ▸ member) later
    · rw [listed, mem_append, mem_singleton] at member
      obtain rfl := member.resolve_left later
      exact ⟨active, listed, ⟨rfl, rfl, rfl⟩, le_rfl, fun _ => ⟨rfl, rfl⟩⟩

theorem create_outcome {source target : Text} (single : (advance migrator input world
      (.create source target)).1.migrations.rows.length ≤ earlier.length + 1) :
    Advances migrator earlier input world (.create source target) := by
  intro tracks
  obtain ⟨stored, goesOn⟩ := @advance_create migrator world input source target
  rw [stored] at single ⊢
  rcases @create_cases world input.reply (.pending input.newId source target input.now) with
    ⟨error, refused⟩ | ⟨migrations, answer, rows, opened, answered⟩
  · rw [refused] at goesOn ⊢
    rcases goesOn with ⟨created, isOk, -⟩ | ⟨error, returned⟩
    · cases isOk
    · rw [returned]
      exact outcome_refl recorded trivial
  · rw [opened] at single goesOn ⊢
    rcases recorded with unopened | ⟨row, listed, -⟩
    · obtain ⟨column, normal⟩ := tracks unopened
      rw [unopened] at rows
      refine ⟨.inr ⟨_, rows, pending_agrees column normal⟩, ?_, ?_, ?_⟩
      · rcases goesOn with ⟨created, isOk, drives⟩ | ⟨error, returned⟩
        · rcases answered with rfl | ⟨error, rfl⟩
          · cases isOk
            rw [drives]
            exact ⟨_, rows, ⟨rfl, rfl, rfl⟩, le_rfl, fun _ => ⟨rfl, rfl⟩⟩
          · cases isOk
        · rw [returned]
          trivial
      · intro row listed
        rw [unopened] at listed
        exact absurd (congrArg List.length listed) (by simp)
      · intro still
        rw [rows] at still
        exact absurd (congrArg List.length still) (by simp)
    · -- a second migration is not opened
      rw [rows, listed] at single
      simp at single

end Steps

/-! ## Every run -/

/-- **One step of one driver.** -/
theorem advance_outcome (flips : migrator.planes.region)
    (quiet : ∀ row ∈ earlier, row.state.isTerminal)
    (recorded : Recorded migrator earlier world)
    (lands : LandsBeforeRollback migrator input world call)
    (single : (advance migrator input world call).1.migrations.rows.length ≤
      earlier.length + 1) : Advances migrator earlier input world call := by
  cases call with
  | begin => exact begin_outcome recorded
  | create => exact create_outcome recorded single
  | resume => exact resume_outcome recorded quiet
  | drive => exact drive_outcome recorded
  | enter mig cp left =>
    cases left with
    | nil => exact complete_outcome recorded
    | cons => exact enter_outcome recorded
  | forward => exact forward_outcome recorded flips lands
  | commit => exact commit_outcome recorded
  | beginRollback => exact beginRollback_outcome recorded
  | undo mig cp cause left rollbackErr =>
    cases left with
    | nil => exact unwound_outcome recorded
    | cons => exact undo_outcome recorded
  | recordUndo => exact recordUndo_outcome recorded
  | yield =>
    intro _
    rw [advance]
    split <;> exact outcome_refl recorded trivial
  | returned => exact fun _ => outcome_refl recorded trivial

theorem length_update {reply : Reply} :
    (world.update reply mig).1.migrations.rows.length = world.migrations.rows.length := by
  have kept : ∀ row, (world.save row).migrations.rows.length = world.migrations.rows.length :=
    fun row => length_map _
  rw [TenantWorld.update]
  split
  case h_1 => rfl
  case h_2 row found =>
    split
    case isTrue => rfl
    split
    case isTrue => rfl
    cases reply with
    | ok => exact kept _
    | failed message applied =>
      cases applied with
      | true => exact kept _
      | false => rfl

theorem length_persist {saved : TenantMigration → MigrationCall}
    {refused : MigrationError → MigrationCall} :
    (persist input world next cp saved refused).1.migrations.rows.length =
      world.migrations.rows.length := by
  rw [← @length_update world { next with checkpoint := cp } input.reply, persist]
  rcases world.update input.reply { next with checkpoint := cp } with ⟨stored, error | row⟩
  · rfl
  · rfl

theorem rows_place {applied : Bool} :
    (if applied then { world with placement } else world).migrations = world.migrations := by
  cases applied <;> rfl

theorem length_advance (input : MigrationInput) (world : TenantWorld) (call : MigrationCall) :
    world.migrations.rows.length ≤
      (advance migrator input world call).1.migrations.rows.length := by
  cases call with
  | begin targetRegion =>
    simp only [advance]
    (repeat' split) <;> exact le_rfl
  | create source target =>
    rw [advance_create.1]
    rcases @create_cases world input.reply (.pending input.newId source target input.now) with
      ⟨error, refused⟩ | ⟨migrations, answer, rows, opened, -⟩
    · rw [refused]
    · rw [opened, rows]
      simp
  | resume | drive =>
    rw [advance]
    (repeat' split) <;> exact le_rfl
  | enter mig cp left =>
    cases left with
    | nil => exact length_persist.ge
    | cons =>
      rw [advance]
      split
      case isTrue => exact le_rfl
      case isFalse => exact length_persist.ge
  | forward =>
    rw [advance]
    split
    case isTrue => rw [rows_place]
    case isFalse => exact le_rfl
  | undo mig cp cause left rollbackErr =>
    cases left with
    | nil => exact length_persist.ge
    | cons step left =>
      dsimp only [advance]
      split
      case h_1 => exact le_rfl
      split
      case isTrue => exact le_rfl
      split
      case isTrue => rw [rows_place]
      case isFalse => exact le_rfl
  | yield =>
    rw [advance]
    split <;> exact le_rfl
  | returned => exact le_rfl
  | _ => exact length_persist.ge

theorem length_step (system : Shared TenantWorld MigrationCall)
    (move : Move MigrationRequest MigrationInput) :
    system.store.migrations.rows.length ≤
      ((migrationService migrator).step system move).store.migrations.rows.length := by
  rcases (migrationService migrator).step_store system move with same | ⟨input, call, -, moved⟩
  · rw [same]
  · rw [moved]
    exact length_advance input system.store call

theorem single_along {start : TenantWorld} {moves : List (Move MigrationRequest MigrationInput)}
    {bound : ℕ}
    (single : ((migrationService migrator).run start moves).store.migrations.rows.length ≤ bound) :
    AlongRun (migrationService migrator).step
      (fun system move =>
        ((migrationService migrator).step system move).store.migrations.rows.length
        ≤ bound) (Service.idle start) moves := by
  rw [alongRun_iff_forall]
  rintro before move after rfl
  refine le_trans ?_ single
  rw [Service.run_append, foldl_cons]
  let reached :=
    (migrationService migrator).step ((migrationService migrator).run start before) move
  exact foldlRecOn (motive := fun later : Shared TenantWorld MigrationCall =>
      reached.store.migrations.rows.length ≤ later.store.migrations.rows.length) after _ le_rfl
    fun later sofar event _ => sofar.trans (length_step later event)

theorem run_agrees {start : TenantWorld} {moves : List (Move MigrationRequest MigrationInput)}
    (flips : migrator.planes.region) (quiet : start.active? = none)
    (along : AlongRun (migrationService migrator).step
      (Service.AtCall (LandsBeforeRollback migrator)) (Service.idle start) moves)
    (opened : ((migrationService migrator).run start moves).store.migrations.rows =
      start.migrations.rows ++ [mig]) :
    RowAgrees migrator ((migrationService migrator).run start moves).store.placement mig := by
  have ended : ∀ row ∈ start.migrations.rows, row.state.isTerminal := by
    intro row member
    have terminal := find?_eq_none.mp quiet row member
    simpa using terminal
  have single := @single_along migrator start moves (start.migrations.rows.length + 1)
    (by simp [opened])
  have allowed : AlongRun (migrationService migrator).step (Service.AtMove fun input system call =>
      LandsBeforeRollback migrator input system.store call ∧
        (advance migrator input system.store call).1.migrations.rows.length ≤
          start.migrations.rows.length + 1) (Service.idle start) moves := by
    refine (alongRun_and.mpr ⟨along, single⟩).imp ?_
    rintro system (request | ⟨index, input⟩) ⟨lands, single⟩
    · trivial
    · intro call found
      refine ⟨lands call found, ?_⟩
      rw [Service.step, found] at single
      exact single
  have asserted := Service.run_asserts (Recorded migrator start.migrations.rows)
    (Tracks migrator start.migrations.rows) ?_ ?_ ?_ (.inl rfl) allowed
  · exact asserted.store.agrees opened
  · rintro world (target | _) - <;> trivial
  · intro input system call holds underWay condition
    have outcome := advance_outcome flips ended holds.store condition.1 condition.2
      (holds.calls call underWay)
    exact ⟨outcome.recorded, outcome.tracks⟩
  · intro input system call other holds apart condition
    have outcome := advance_outcome flips ended holds.store condition.1 condition.2
      (holds.calls call apart.mem_left)
    exact (holds.calls other apart.mem_right).leaves outcome.unopened outcome.leaves

/-- **The record of a migration agrees with the planes**, for any number of drivers in any
interleaving, with any call of a plane or a repository failing; provided that the region plane is
wired and that a forward call takes effect only while the row is neither rolling back nor rolled
back. From a tenant with no migration under way, when one migration has been opened since: a
completed row means that the column is the target region; a row that is rolled back, that the
column names the source region and that no copy is left in the target region. -/
theorem drivers_agree_with_record {migrator : RegionMigrator} {start : TenantWorld}
    {moves : List (Move MigrationRequest MigrationInput)} {mig : TenantMigration}
    (flips : migrator.planes.region = true) (quiet : start.active? = none)
    (along : AlongRun (migrationService migrator).step
      (Service.AtCall (LandsBeforeRollback migrator)) (Service.idle start) moves)
    (opened : ((migrationService migrator).run start moves).store.migrations.rows =
      start.migrations.rows ++ [mig]) :
    (mig.state = .completed →
      ((migrationService migrator).run start moves).store.placement.region = mig.targetRegion) ∧
    (mig.state = .rolledBack →
      committed migrator ((migrationService migrator).run start moves).store.placement =
          mig.sourceRegion ∧
        ∀ step ∈ Step.copying, ((migrationService migrator).run start moves).store.placement.written
          step mig.targetRegion = false) := by
  have agrees := run_agrees flips quiet along opened
  constructor
  · intro completed
    exact agrees.flipped (by rw [completed]; rfl) (agrees.completed completed)
  · intro gone
    refine ⟨not_not.mp (agrees.clean gone .updateRegion), ?_⟩
    intro step copies
    have clean := agrees.clean gone step
    cases step with
    | reassignPop | updateRegion => simp [Step.copying] at copies
    | _ => exact Bool.not_eq_true _ ▸ clean

/-! ## A driver that is late -/

section Examples

instance (input : MigrationInput) (world : TenantWorld) (call : MigrationCall) :
    Decidable (LandsBeforeRollback migrator input world call) :=
  match call with
  | .forward .. => inferInstanceAs (Decidable (_ → _ → ∀ row ∈ _, _ ∧ _))
  | .begin _ | .create .. | .resume | .drive _ | .enter .. | .commit .. | .beginRollback ..
  | .undo .. | .recordUndo .. | .yield _ | .returned .. => .isTrue trivial

def answeredSteps (driver count : ℕ) : List (Move MigrationRequest MigrationInput) :=
  replicate count (.resume driver (answered 1))

/-- `Start` comes as far as the flip; a second driver cannot flip the column and goes back. -/
def winnerGoesBack : List (Move MigrationRequest MigrationInput) :=
  flatten [[.request (.start ['e', 'u'])], answeredSteps 0 16, [.request .resume],
    answeredSteps 1 7, [.resume 1 unanswered], answeredSteps 1 12]

def lateFlip : List (Move MigrationRequest MigrationInput) :=
  flatten [winnerGoesBack, answeredSteps 0 3]

def afterDrivers (moves : List (Move MigrationRequest MigrationInput)) :
    Shared TenantWorld MigrationCall :=
  (migrationService allPlanes).run (.new .ascii ['u', 's']) moves

def MigrationCall.isReturned : MigrationCall → Bool
  | .returned .. => true
  | .begin _ | .create .. | .resume | .drive _ | .enter .. | .forward .. | .commit ..
  | .beginRollback .. | .undo .. | .recordUndo .. | .yield _ => false

/-- **A flip that comes late.** The second driver has undone every step and the row says rolled
back when the first driver flips the column. Its write of the row is refused and it yields: all
drivers have returned, the row stays rolled back, and the column is the target region. -/
theorem late_flip_after_rollback :
    (afterDrivers lateFlip).calls.map isReturned = [true, true] ∧
      (afterDrivers lateFlip).store.migrations.rows.map
        (fun mig => (mig.state, mig.sourceRegion, mig.targetRegion)) =
          [(.rolledBack, ['u', 's'], ['e', 'u'])] ∧
      (afterDrivers lateFlip).store.placement.region = ['e', 'u'] := by
  decide +kernel

/-- Two drivers, of which the second goes back before the first has flipped the column. -/
theorem drivers_agree_when_winner_goes_back :
    ∃ mig, (afterDrivers winnerGoesBack).store.migrations.rows = [] ++ [mig] ∧
      mig.state = .rolledBack ∧
      committed allPlanes (afterDrivers winnerGoesBack).store.placement = mig.sourceRegion ∧
      ∀ step ∈ Step.copying,
        (afterDrivers winnerGoesBack).store.placement.written step mig.targetRegion = false := by
  have states : (afterDrivers winnerGoesBack).store.migrations.rows.map TenantMigration.state =
      [.rolledBack] := by decide +kernel
  obtain ⟨mig, rows, state⟩ := map_eq_singleton_iff.mp states
  have agreed := drivers_agree_with_record rfl rfl (by decide +kernel) rows
  exact ⟨mig, rows, state, agreed.2 state⟩

end Examples

end ShieldNet.Tenant
