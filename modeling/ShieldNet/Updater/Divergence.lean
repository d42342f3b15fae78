import ShieldNet.Updater.Install

/-!
# A layout that has diverged

When the bookkeeping after a commit fails for good, the updater sets `layout_diverged`:
the bootloader boots the new slot while the metadata still name the old one, and the
next install would write to the slot that boots. A call reads the flag before it tries
to take the install lock, and does not read it again. The call that holds the lock can
set the flag and leave in between.

In the runs where a call that takes the lock finds the flag clear, no bank is opened
for writing while the flag is set (`diverged_layout_stops_writes`): the flag is set
under the lock only.
-/

namespace ShieldNet.Updater

open Service
namespace InstallCall

variable {config : UpdaterConfig} {input : InstallInput} {store stored : Appliance}
  {call moved other : InstallCall}

def OpensUndiverged (input : InstallInput) (store : Appliance) (call : InstallCall) : Prop :=
  ∀ _slot ∈ call.opens input store, store.layoutDiverged = false

instance (input : InstallInput) (store : Appliance) (call : InstallCall) :
    Decidable (OpensUndiverged input store call) :=
  inferInstanceAs (Decidable (∀ slot ∈ _, _))

def LocksUndiverged (store : Appliance) : InstallCall → Prop
  | .tryLock _ => store.locked = false → store.layoutDiverged = false
  | .readFlag _ | .readLayout _ | .openBank _ | .download .. | .abandon _ | .finish .. | .swapTo _
  | .probe .. | .commit _ | .markCommitted .. | .setActive .. | .markDiverged .. | .rollback ..
  | .markRolledBack .. | .leaving _ | .returned _ | .clear | .cleared => True

instance (store : Appliance) (call : InstallCall) : Decidable (LocksUndiverged store call) := by
  cases call <;> dsimp only [LocksUndiverged] <;> infer_instance

/-- A call that holds the lock and has not opened its bank relies on the flag. -/
def ReliesOnFlag (store : Appliance) : InstallCall → Prop
  | .readLayout _ | .openBank _ => store.layoutDiverged = false
  | .readFlag _ | .tryLock _ | .download .. | .abandon _ | .finish .. | .swapTo _ | .probe ..
  | .commit _ | .markCommitted .. | .setActive .. | .markDiverged .. | .rollback ..
  | .markRolledBack .. | .leaving _ | .returned _ | .clear | .cleared => True

variable (stepped : Stepped config input store call stored moved)

include stepped

theorem Stepped.reliesOnFlag
    (relies : call.ReliesOnFlag store) (locks : call.LocksUndiverged store) :
    moved.ReliesOnFlag stored := by
  cases stepped with
  | locked free => exact locks free
  | admitted => exact relies
  | staged next | swapped _ next =>
    rcases next with rfl | ⟨error, rfl⟩ <;> trivial
  | probed next => rcases next with ⟨_, rfl⟩ | rfl | ⟨_, rfl⟩ <;> trivial
  | committed | retried =>
    rcases bookkeeping_cases .. with next | next <;> rw [next] <;> trivial
  | idle returned =>
    cases call with
    | readLayout | openBank => exact returned.elim
    | _ => trivial
  | _ => trivial

/-- What a call relies on stands while others move: the flag is set under the lock. -/
theorem Stepped.reliesOnFlag_stable
    (relies : other.ReliesOnFlag store) (exclusive : call.Holds → ¬ other.Holds) :
    other.ReliesOnFlag stored := by
  cases other with
  | readLayout | openBank =>
    cases stepped with
    | diverged => exact absurd trivial (exclusive trivial)
    | cleared => rfl
    | _ => exact relies
  | _ => trivial

end InstallCall

open InstallCall

/-- **A diverged layout stops all writes in the runs where the lock is taken under a clear
flag.** -/
theorem diverged_layout_stops_writes (config : UpdaterConfig) {store : Appliance}
    {moves : List (Move UpdaterRequest InstallInput)}
    (locks : AlongRun (updaterService config).step
      (AtCall fun _ store call => call.LocksUndiverged store) (idle store) moves) :
    AlongRun (updaterService config).step (AtCall OpensUndiverged) (idle store)
      moves := by
  have exclusive : AlongRun (updaterService config).step (AtMove fun _ system call =>
      Exclusive Appliance.locked Holds system ∧ call.LocksUndiverged system.store)
      (idle store) moves := by
    refine alongRun_atMove_and _ (fun _ move => (locking config).step move)
      (locks.imp fun _ _ => atMove_store_iff.mpr) exclusive_idle
  refine (along_asserts (fun _ => True) (fun store call => call.ReliesOnFlag store)
    ?_ ?_ ?_ ?_ trivial exclusive).imp fun _ _ => atMove_store_iff.mp
  · rintro store (envelope | _) - <;> trivial
  · rintro input system call asserted underWay ⟨-, locks⟩
    exact ⟨trivial, (advance_stepped config input system.store call).reliesOnFlag
      (asserted.calls call underWay) locks⟩
  · rintro input system call other asserted apart ⟨exclusive, -⟩
    exact (advance_stepped config input system.store call).reliesOnFlag_stable
      (asserted.calls other apart.mem_right) (exclusive.apart call other apart)
  · intro input system call asserted underWay _ slot opens
    obtain ⟨install, rfl, -⟩ := eq_openBank_of_opens opens
    exact asserted.calls _ underWay

/-- The first call has read the flag when the second commits and cannot record it; the
first call then takes the lock. -/
def racingInstalls : List (Move UpdaterRequest InstallInput) := List.flatten
    [[.request (.install (release 2)), .request (.install (release 3)), .resume 0 works],
      List.replicate 9 (.resume 1 works), List.replicate 3 (.resume 1 breaks),
      List.replicate 2 (.resume 1 works), List.replicate 3 (.resume 0 works)]

/-- **A diverged layout does not stop a call that has read the flag before**: it opens the
bank that the bootloader boots. -/
theorem racing_install_writes_diverged_layout :
    ¬ AlongRun (updaterService smallConfig).step (AtCall OpensUndiverged)
      (idle (coldAppliance none)) racingInstalls ∧
    ((updaterService smallConfig).run (coldAppliance none)
      racingInstalls).store.bootloader.current =
      .b ∧
    ((updaterService smallConfig).run (coldAppliance none) racingInstalls).calls[0]? =
      some (.download ⟨⟨1, .edge, ⟨2, 0, 0⟩, [], 0⟩, .b⟩ []) := by
  refine ⟨?_, by decide +kernel, rfl⟩
  decide +kernel

def orderlyInstalls : List (Move UpdaterRequest InstallInput) := List.flatten
    [[.request (.install (release 2))], List.replicate 12 (.resume 0 works),
      [.request (.install (release 3))], List.replicate 12 (.resume 1 works)]

theorem orderly_installs_undiverged :
    AlongRun (updaterService smallConfig).step (AtCall OpensUndiverged)
      (idle (coldAppliance none)) orderlyInstalls :=
  diverged_layout_stops_writes smallConfig (by decide +kernel)

end ShieldNet.Updater
