import ShieldNet.Updater.Install

/-!
# A version that was rolled back

What a slot remembers of a failed install is the mark `RolledBack` with the version. An install
of that version is refused while the mark is there: it is read under the install lock, so nobody
overwrites it before the install stages its image. But the next version that is staged in the
slot takes the mark away, and a mark that cannot be written never was there.
-/

namespace ShieldNet.Updater

open Service

namespace InstallCall

variable {config : UpdaterConfig} {input : InstallInput} {store stored : Appliance}
  {call moved other : InstallCall}

def stages : InstallCall → Option (Bank × ImageVersion)
  | .finish install _ => some (install.slot, install.manifest.version)
  | _ => none

/-- Before the image is staged, the slot does not bear the mark of its version; from then on it
bears none. -/
def Unmarked (layout : BankLayout) : InstallCall → Prop
  | .openBank install | .download install _ | .finish install _ =>
    layout.slotState install.slot ≠ .rolledBack install.manifest.version
  | .swapTo install | .probe install _ | .commit install | .markCommitted install _
  | .setActive install _ | .rollback install _ | .markRolledBack install _ =>
    ∀ version, layout.slotState install.slot ≠ .rolledBack version
  | .readFlag _ | .tryLock _ | .readLayout _ | .abandon _ | .markDiverged .. | .leaving _
  | .returned _ | .clear | .cleared => True

theorem unmarked_bookkeeping {layout : BankLayout} {install : Install}
    (unmarked : ∀ version, layout.slotState install.slot ≠ .rolledBack version) (attempt : Nat)
    (lastError : String) : Unmarked layout (bookkeeping config install attempt lastError) := by
  rcases bookkeeping_cases config install attempt lastError with going | giving
  · rw [going]
    exact unmarked
  · rw [giving]
    trivial

theorem unmarked_setSlot (layout : BankLayout) (slot : Bank) {state : BankSlotState}
    (unmarked : ∀ version, state ≠ .rolledBack version) (version : ImageVersion) :
    (layout.setSlot slot state).slotState slot ≠ .rolledBack version := by
  rw [BankLayout.setSlot_slotState_self]
  exact unmarked version

theorem Stepped.unmarked (stepped : Stepped config input store call stored moved)
    (strict : config.policy.allowReinstallOfRolledBackVersion = false)
    (unmarked : call.Unmarked store.layout) : moved.Unmarked stored.layout := by
  cases stepped with
  | admitted admitted =>
    obtain ⟨found, -, admitted⟩ := bind_eq_ok admitted
    obtain ⟨-, admitted⟩ := ite_error_eq_ok admitted
    obtain ⟨⟨⟩, allowed, admitted⟩ := bind_eq_ok admitted
    cases admitted
    rw [enforceNoReinstallOfRolledBack, strict, if_neg Bool.false_ne_true] at allowed
    exact (ite_error_eq_ok allowed).1
  | staged next =>
    rcases next with rfl | ⟨error, rfl⟩
    · exact unmarked_setSlot _ _ nofun
    · trivial
  | swapped _ next =>
    rcases next with rfl | ⟨error, rfl⟩
    · exact unmarked
    · trivial
  | probed next => rcases next with ⟨_, rfl⟩ | rfl | ⟨_, rfl⟩ <;> exact unmarked
  | committed => exact unmarked_bookkeeping unmarked ..
  | retried before => rcases before with rfl | rfl <;> exact unmarked_bookkeeping unmarked ..
  | marked => exact unmarked_setSlot _ _ nofun
  | opened | received | verified | rolledBack | idle => exact unmarked
  | _ => trivial

section

variable (stepped : Stepped config input store call stored moved)
include stepped

/-- The layout changes under the lock. -/
theorem Stepped.layout (outside : ¬ call.Holds) : stored.layout = store.layout := by
  cases stepped with
  | staged | marked | activated | recorded => exact absurd trivial outside
  | _ => rfl

theorem Stepped.unmarked_stable (unmarked : other.Unmarked store.layout)
    (exclusive : call.Holds → ¬ other.Holds) : other.Unmarked stored.layout := by
  cases other with
  | readFlag | tryLock | readLayout | abandon | markDiverged | leaving | returned | clear
  | cleared => trivial
  | _ =>
    rw [stepped.layout fun holds => exclusive holds trivial]
    exact unmarked

theorem Stepped.mark {slot : Bank} {version : ImageVersion} (unmarked : call.Unmarked store.layout)
    (marked : store.layout.slotState slot = .rolledBack version)
    (same : ∀ staged ∈ call.stages, staged.1 = slot → staged.2 = version) :
    stored.layout.slotState slot = .rolledBack version := by
  have elsewhere : ∀ {install : Install} (state : BankSlotState), install.slot ≠ slot →
      (store.layout.setSlot install.slot state).slotState slot = .rolledBack version :=
    fun state differ => (BankLayout.setSlot_slotState_of_ne _ state differ).trans marked
  cases stepped with
  | staged =>
    refine elsewhere _ fun here => unmarked ?_
    rw [here, marked]
    exact congrArg _ (same _ rfl here).symm
  | marked | recorded => exact elsewhere _ fun here => unmarked version (here ▸ marked)
  | activated => cases slot <;> exact marked
  | _ =>
    exact marked

end

/-- One install at a time, and none over the mark of its version. -/
def Orderly (system : Shared Appliance InstallCall) : Prop :=
  Exclusive Appliance.locked Holds system ∧
    Asserts (fun _ => True) (fun store call => call.Unmarked store.layout) system

theorem orderly_step (strict : config.policy.allowReinstallOfRolledBackVersion = false)
    (system : Shared Appliance InstallCall) (move : Move UpdaterRequest InstallInput)
    (orderly : Orderly system) : Orderly ((updaterService config).step system move) := by
  have allowed : AtMove
      (fun _ system _ => Exclusive Appliance.locked Holds system) system move := by
    cases move with
    | request => trivial
    | resume => exact fun _ _ => orderly.1
  refine ⟨(locking config).step move orderly.1, step_asserts ?_ ?_ ?_ orderly.2 allowed⟩
  · rintro store (envelope | _) - <;> trivial
  · intro input system call asserted underWay _
    exact ⟨trivial, (advance_stepped config input system.store call).unmarked strict
      (asserted.calls call underWay)⟩
  · intro input system call other asserted apart exclusive
    exact (advance_stepped config input system.store call).unmarked_stable
      (asserted.calls other apart.mem_right) (exclusive.apart call other apart)

end InstallCall

open InstallCall

/-- **A rolled-back image is not retried in its slot**, as long as the rollback is on record
there and no other version has come to be staged in the slot since. -/
theorem rolled_back_image_not_retried (config : UpdaterConfig)
    (strict : config.policy.allowReinstallOfRolledBackVersion = false) (store : Appliance)
    (early later : List (Move UpdaterRequest InstallInput)) (slot : Bank) (version : ImageVersion)
    (recorded : ((updaterService config).run store early).store.layout.slotState slot =
      .rolledBack version)
    (undisturbed : AlongRun (updaterService config).step (AtCall fun _ _ call =>
        ∀ staged ∈ call.stages, staged.1 = slot → staged.2 = version)
      ((updaterService config).run store early) later) :
    AlongRun (updaterService config).step
      (AtCall fun _ _ call => (slot, version) ∉ call.stages)
      ((updaterService config).run store early) later := by
  have orderly : Orderly ((updaterService config).run store early) :=
    run_invariant Orderly ⟨exclusive_idle, asserts_idle trivial⟩ (orderly_step strict) early
  refine undisturbed.of_invariant
    (fun system => Orderly system ∧ system.store.layout.slotState slot = .rolledBack version)
    ?_ ?_ ⟨orderly, recorded⟩
  · rintro system move ⟨orderly, marked⟩ allowed
    refine ⟨orderly_step strict system move orderly, ?_⟩
    cases move with
    | request => exact marked
    | resume index input =>
      rw [step]
      cases found : system.calls[index]? with
      | none => exact marked
      | some call =>
        exact (advance_stepped config input system.store call).mark
          (orderly.2.calls call (List.mem_of_getElem? found)) marked (allowed call found)
  · rintro system (request | ⟨index, input⟩) ⟨orderly, marked⟩ -
    · trivial
    · intro call found staged
      have unmarked := orderly.2.calls call (List.mem_of_getElem? found)
      cases call with
      | finish install buffer =>
        cases staged
        exact unmarked marked
      | _ => cases staged

def sick : InstallInput := ⟨none, .finished, .unhealthy "probe"⟩

def rolledBackOnce : List (Move UpdaterRequest InstallInput) :=
  .request (.install (release 2)) :: List.replicate 11 (.resume 0 sick)

theorem rolled_back_image_refused : AlongRun (updaterService smallConfig).step
    (AtCall fun _ _ call => (Bank.b, (⟨2, 0, 0⟩ : ImageVersion)) ∉ call.stages)
    ((updaterService smallConfig).run (coldAppliance none) rolledBackOnce)
    (.request (.install (release 2)) :: List.replicate 6 (.resume 1 works)) :=
  rolled_back_image_not_retried smallConfig rfl (coldAppliance none) rolledBackOnce _ .b ⟨2, 0, 0⟩
    (by decide +kernel) (by decide +kernel)

/-- **A rolled-back image is retried** when another version was rolled back in between, and when
the rollback could not be recorded: version 2 is staged in bank B again. -/
theorem rolled_back_image_retried :
    ((updaterService smallConfig).run (coldAppliance none) rolledBackOnce).store.layout.slotB =
      .rolledBack ⟨2, 0, 0⟩ ∧
    ((updaterService smallConfig).run (coldAppliance none) (rolledBackOnce ++
      .request (.install (release 3)) :: List.replicate 11 (.resume 1 sick) ++
      .request (.install (release 2)) :: List.replicate 6 (.resume 2 works))).store.layout.slotB =
      .staged ⟨2, 0, 0⟩ ∧
    ((updaterService smallConfig).run (coldAppliance none) (rolledBackOnce.take 10 ++
      [.resume 0 breaks, .resume 0 works, .request (.install (release 2))] ++
      List.replicate 5 (.resume 1 works))).calls[1]?.bind stages = some (.b, ⟨2, 0, 0⟩) := by
  decide +kernel

end ShieldNet.Updater
