import ShieldNet.Updater.Install

/-!
# Installs one after another

A sequence of `install_from_envelope` calls in which any adapter call may fail. Between
two steps of an install the banks are in one of a few phases, and an install ends with
the banks settled or with the divergence flag set, which turns every later install away.
What the phases mean is a parameter: the lock, the flag and the retries are dealt with
once (`Phases.Kept.step`).

* What the bootloader would boot (`standby_iff_settled`): the bank that is opened is never
  the one that boots, as long as no swap is left pending by an earlier install.
* The versions that are committed (`committed_increasing`): each is newer than all before,
  as long as the cold-start override does not let an older manifest through.
-/

namespace ShieldNet.Updater

open InstallCall BankLayout

variable (config : UpdaterConfig)

def installService : Service Appliance SignedManifest InstallInput InstallCall :=
  ⟨.readFlag, advance config⟩

/-! ## Phases of an install -/

/-- What an install changes on the appliance, next to the contents of the slots. -/
structure Banks where
  layout : BankLayout
  bootloader : ActiveBankState
  committed : List ImageVersion

variable (store : Appliance)

def Appliance.banks : Banks := ⟨store.layout, store.bootloader, store.committed⟩

/-- What is known of the banks between two steps: between installs, before the swap, while
the swap is pending, after its commit, after the slot is recorded as committed, and after
the rollback. -/
structure Phases where
  settled : Banks → Prop
  installing : Install → Banks → Prop
  swapped : Install → Banks → Prop
  kept : Install → Banks → Prop
  recorded : Install → Banks → Prop
  undone : Install → Banks → Prop

/-- The adapter calls lead from phase to phase, and an install that stops before the swap
is committed leaves the banks settled. `Admits` is what is asked of the admission. -/
structure Phases.Kept (phases : Phases) (Admits : Banks → UpdateManifest → Prop) : Prop where
  admitted : ∀ banks manifest, phases.settled banks → Admits banks manifest →
    phases.installing ⟨manifest, banks.layout.inactive⟩ banks
  staged : ∀ install banks state, phases.installing install banks →
    phases.installing install { banks with layout := banks.layout.setSlot install.slot state }
  swapped : ∀ install banks bootloader, phases.installing install banks →
    banks.bootloader.swapTo install.slot = .ok bootloader →
    phases.swapped install { banks with bootloader }
  committed : ∀ install banks bootloader, phases.swapped install banks →
    banks.bootloader.commit = .ok bootloader →
    phases.kept install
      { banks with bootloader, committed := install.manifest.version :: banks.committed }
  recorded : ∀ install banks, phases.kept install banks → phases.recorded install { banks with
        layout := banks.layout.setSlot install.slot (.committed install.manifest.version) }
  retried : ∀ install banks, phases.recorded install banks → phases.kept install banks
  activated : ∀ install banks, phases.recorded install banks →
    phases.settled { banks with layout := { banks.layout with active := install.slot } }
  rolledBack : ∀ install banks bootloader, phases.swapped install banks →
    banks.bootloader.rollback = .ok bootloader → phases.undone install { banks with bootloader }
  noted : ∀ install banks state, phases.undone install banks →
    phases.settled { banks with layout := banks.layout.setSlot install.slot state }
  stopped : ∀ install banks, phases.installing install banks ∨ phases.swapped install banks ∨
    phases.undone install banks → phases.settled banks

namespace Phases

variable {phases : Phases} {Admits : Banks → UpdateManifest → Prop} {config : UpdaterConfig}
  {input : InstallInput} {store stored : Appliance} {call moved : InstallCall}

/-- Between installs: the banks are settled unless the flag says otherwise. -/
def Rest (phases : Phases) (store : Appliance) : Prop :=
  store.locked = false → store.layoutDiverged = false → phases.settled store.banks

/-- What an install knows at each place. While it holds the lock, the others are shut
out. -/
def Knows (phases : Phases) (store : Appliance) : InstallCall → Prop
  | .readFlag _ | .returned _ => phases.Rest store
  | .tryLock _ => phases.Rest store ∧ store.layoutDiverged = false
  | .readLayout _ | .abandon _ => store.locked = true ∧ phases.settled store.banks
  | .openBank install | .download install _ | .finish install _ | .swapTo install =>
    store.locked = true ∧ phases.installing install store.banks
  | .probe install _ | .commit install | .rollback install _ =>
    store.locked = true ∧ phases.swapped install store.banks
  | .markCommitted install _ | .markDiverged install _ =>
    store.locked = true ∧ phases.kept install store.banks
  | .setActive install _ => store.locked = true ∧ phases.recorded install store.banks
  | .markRolledBack install _ => store.locked = true ∧ phases.undone install store.banks
  | .leaving _ =>
    store.locked = true ∧ (store.layoutDiverged = false → phases.settled store.banks)
  | .clear | .cleared => False

theorem rest_of_locked (locked : store.locked) : phases.Rest store :=
  fun free => Bool.noConfusion (locked.symm.trans free)

theorem Knows.rest (knows : phases.Knows store call) : phases.Rest store := by
  cases call with
  | readFlag | returned => exact knows
  | tryLock => exact knows.1
  | clear | cleared => exact knows.elim
  | _ =>
    exact rest_of_locked knows.1

/-- An install that fails before the commit leaves the banks settled. -/
theorem Kept.stopping (kept : phases.Kept Admits) (knows : phases.Knows store call)
    (mayStop : call.MayStop) : store.locked ∧ phases.settled store.banks := by
  cases call with
  | readLayout | abandon => exact knows
  | openBank | download | finish | swapTo =>
    exact ⟨knows.1, kept.stopped _ _ (.inl knows.2)⟩
  | commit | rollback => exact ⟨knows.1, kept.stopped _ _ (.inr (.inl knows.2))⟩
  | markRolledBack => exact ⟨knows.1, kept.stopped _ _ (.inr (.inr knows.2))⟩
  | _ => exact mayStop.elim

theorem knows_bookkeeping {install : Install} {attempt : Nat} {lastError : String}
    (locked : store.locked) (kept : phases.kept install store.banks) :
    phases.Knows store (bookkeeping config install attempt lastError) := by
  rcases bookkeeping_cases config install attempt lastError with going | giving
  · rw [going]
    exact ⟨locked, kept⟩
  · rw [giving]
    exact ⟨locked, kept⟩

/-- **A step of an install leads to what it knows at its next place.** -/
theorem Kept.step (kept : phases.Kept Admits)
    (stepped : Stepped config input store call stored moved)
    (knows : phases.Knows store call)
    (admits : ∀ envelope manifest, call = .readLayout envelope →
      config.accept store.layout store.currentVersionOverride envelope = .ok manifest →
      Admits store.banks manifest) : phases.Knows stored moved := by
  cases stepped with
  | refused => exact knows.rest
  | undiverged clear => exact ⟨knows, clear⟩
  | locked free => exact ⟨rfl, knows.1 free knows.2⟩
  | stopped mayStop =>
    have settled := kept.stopping knows mayStop
    exact ⟨settled.1, fun _ => settled.2⟩
  | admitted admitted =>
    exact ⟨knows.1, kept.admitted _ _ knows.2 (admits _ _ rfl admitted)⟩
  | spoiled => exact ⟨knows.1, kept.stopped _ _ (.inl knows.2)⟩
  | @staged install _ _ _ next =>
    have installing := kept.staged _ _ (.staged install.manifest.version) knows.2
    rcases next with rfl | ⟨error, rfl⟩
    · exact ⟨knows.1, installing⟩
    · exact ⟨knows.1, fun _ => kept.stopped _ _ (.inl installing)⟩
  | swapped swap next =>
    have swapped := kept.swapped _ _ _ knows.2 swap
    rcases next with rfl | ⟨error, rfl⟩
    · exact ⟨knows.1, swapped⟩
    · exact ⟨knows.1, fun _ => kept.stopped _ _ (.inr (.inl swapped))⟩
  | probed next => rcases next with ⟨_, rfl⟩ | rfl | ⟨_, rfl⟩ <;> exact knows
  | committed commit => exact knows_bookkeeping knows.1 (kept.committed _ _ _ knows.2 commit)
  | marked => exact ⟨knows.1, kept.recorded _ _ knows.2⟩
  | retried earlier =>
    rcases earlier with rfl | rfl
    · exact knows_bookkeeping knows.1 knows.2
    · exact knows_bookkeeping knows.1 (kept.retried _ _ knows.2)
  | activated => exact ⟨knows.1, fun _ => kept.activated _ _ knows.2⟩
  | diverged => exact ⟨knows.1, fun clear => Bool.noConfusion clear⟩
  | rolledBack rollback => exact ⟨knows.1, kept.rolledBack _ _ _ knows.2 rollback⟩
  | recorded => exact ⟨knows.1, fun _ => kept.noted _ _ _ knows.2⟩
  | left => exact fun _ => knows.2
  | cleared => exact knows.elim
  | _ => exact knows

end Phases

/-! ## What boots is not written -/

/-- The bootloader boots the active slot, or the other one in a swap that waits. -/
def Matched (banks : Banks) : Prop := banks.bootloader = .committed banks.layout.active ∨
    banks.bootloader = .pending banks.layout.active.other banks.layout.active

def bootPhases : Phases where
  settled := Matched
  installing install banks := install.slot = banks.layout.active.other ∧ Matched banks
  swapped install banks := install.slot = banks.layout.active.other ∧
      banks.bootloader = .pending install.slot banks.layout.active
  kept install banks := banks.bootloader = .committed install.slot
  recorded install banks := banks.bootloader = .committed install.slot
  undone _ banks := banks.bootloader = .committed banks.layout.active

variable {banks : Banks}

theorem Matched.setSlot (matched : Matched banks) (slot : Bank) (state : BankSlotState)
    : Matched { banks with layout := banks.layout.setSlot slot state } := by
  rw [Matched, setSlot_active]
  exact matched

theorem bootPhases_kept : bootPhases.Kept fun _ _ => True where
  admitted _ _ matched _ := ⟨rfl, matched⟩
  staged install banks state installing :=
    ⟨installing.1.trans (congrArg Bank.other (setSlot_active ..).symm),
      installing.2.setSlot install.slot state⟩
  swapped := by
    rintro install banks bootloader ⟨inactive, matched⟩ swap
    rcases matched with committed | pending
    · rw [committed] at swap
      cases swap
      exact ⟨inactive, rfl⟩
    · rw [pending] at swap
      cases swap
  committed := by
    rintro install banks bootloader ⟨-, pending⟩ commit
    rw [pending] at commit
    cases commit
    rfl
  recorded _ _ committed := committed
  retried _ _ committed := committed
  activated _ _ committed := .inl committed
  rolledBack := by
    rintro install banks bootloader ⟨-, pending⟩ rollback
    rw [pending] at rollback
    cases rollback
    rfl
  noted _ _ state undone := Matched.setSlot (.inl undone) _ state
  stopped := by
    rintro install banks (⟨-, matched⟩ | ⟨inactive, pending⟩ | undone)
    · exact matched
    · exact .inr (inactive ▸ pending)
    · exact .inl undone

/-- The bank that is opened for writing is not the one that boots. -/
def OpensStandby (input : InstallInput) (store : Appliance) (call : InstallCall) : Prop :=
  ∀ slot ∈ call.opens input store, slot ≠ store.bootloader.current

/-- No bank is opened for writing while a swap is pending. -/
def OpensSettled (input : InstallInput) (store : Appliance) (call : InstallCall) : Prop :=
  ∀ _slot ∈ call.opens input store, ¬ store.bootloader.Pending

instance (input : InstallInput) (store : Appliance) (call : InstallCall) :
    Decidable (OpensStandby input store call) :=
  inferInstanceAs (Decidable (∀ slot ∈ _, _))

instance (input : InstallInput) (store : Appliance) (call : InstallCall) :
    Decidable (OpensSettled input store call) :=
  inferInstanceAs (Decidable (∀ slot ∈ _, _))

/-- The inactive slot boots exactly when a swap is pending. -/
theorem Matched.other_ne_current_iff (matched : Matched banks) :
    banks.layout.active.other ≠ banks.bootloader.current ↔ ¬ banks.bootloader.Pending := by
  rcases matched with committed | pending
  · rw [committed]
    exact iff_of_true (Bank.other_ne _) id
  · rw [pending]
    exact iff_of_false (fun differs => differs rfl) (fun settled => settled trivial)

/-- **The bank that boots is never opened for writing in exactly the sequences of installs
that open no bank while a swap is pending.** -/
theorem standby_iff_settled {store : Appliance}
    (inStep : store.bootloader = .committed store.layout.active)
    (turns : List (Turn SignedManifest InstallInput)) :
    (installService config).InTurn OpensStandby store turns ↔
      (installService config).InTurn OpensSettled store turns := by
  refine Service.inTurn_congr bootPhases.Rest bootPhases.Knows ?_ ?_
    (fun _ _ knows => knows.rest) ?_ (fun _ _ => .inl inStep)
  · exact fun _ _ rest => rest
  · intro input store call knows _
    exact bootPhases_kept.step (advance_stepped config input store call) knows
      fun _ _ _ _ => trivial
  · intro input store call knows
    refine forall₂_congr fun slot opens => ?_
    obtain ⟨install, rfl, rfl⟩ := eq_openBank_of_opens opens
    obtain ⟨-, inactive, matched⟩ := knows
    rw [inactive]
    exact matched.other_ne_current_iff

/-- The first install is healthy and its commit fails; the second opens its bank. -/
def failedCommit : List (Turn SignedManifest InstallInput) :=
  [⟨release 2, List.replicate 8 works ++ [breaks, works]⟩, ⟨release 3, List.replicate 4 works⟩]

/-- **After a commit that fails the next install writes to the bank that boots.** -/
theorem failed_commit_overwrites_booting_bank :
    ¬ (installService smallConfig).InTurn OpensStandby (coldAppliance none) failedCommit ∧
    ((installService smallConfig).turns (coldAppliance none) failedCommit).bootloader =
      .pending .b .a := by
  refine ⟨by decide +kernel, by decide +kernel⟩

/-- An install whose probe fails and that is rolled back, and then a good one. -/
def rolledBackInstall : List (Turn SignedManifest InstallInput) :=
  [⟨release 2, List.replicate 7 works ++ [⟨none, .finished, .timedOut⟩] ++
    List.replicate 4 works⟩, ⟨release 3, List.replicate 12 works⟩]

theorem rolled_back_install_standby :
    (installService smallConfig).InTurn OpensStandby (coldAppliance none) rolledBackInstall :=
  (standby_iff_settled smallConfig rfl rolledBackInstall).mpr (by decide +kernel)

/-! ## Versions only grow -/

/-- The recorded version of the active slot is as new as all that were committed. -/
def Anchored (banks : Banks) : Prop :=
  ∀ version ∈ banks.committed, ∃ current ∈ banks.layout.activeVersion,
    version = current ∨ version < current

variable (install : Install)

/-- The slot is the inactive one and the active one has the newest version. -/
def Replacing (banks : Banks) : Prop := install.slot = banks.layout.active.other ∧ Anchored banks

def Newer (banks : Banks) : Prop := ∀ version ∈ banks.committed, version < install.manifest.version

def Newest (banks : Banks) : Prop := ∀ version ∈ banks.committed,
    version = install.manifest.version ∨ version < install.manifest.version

def versionPhases : Phases where
  settled := Anchored
  installing install banks := Replacing install banks ∧ Newer install banks
  swapped install banks := Replacing install banks ∧ Newer install banks
  kept := Newest
  recorded install banks := Newest install banks ∧
      banks.layout.slotState install.slot = .committed install.manifest.version
  undone := Replacing

theorem Replacing.setSlot {install : Install} (replacing : Replacing install banks)
    (state : BankSlotState) :
    Replacing install { banks with layout := banks.layout.setSlot install.slot state } := by
  obtain ⟨inactive, anchored⟩ := replacing
  refine ⟨inactive.trans (congrArg Bank.other (setSlot_active ..).symm), ?_⟩
  rw [Anchored, setSlot_activeVersion _ state inactive]
  exact anchored

theorem Anchored.newer (anchored : Anchored banks) {install : Install}
    (admits : ∀ current ∈ banks.layout.activeVersion, current < install.manifest.version) :
    Newer install banks := by
  intro version committed
  obtain ⟨current, active, rfl | older⟩ := anchored version committed
  · exact admits version active
  · exact ImageVersion.lt_trans older (admits current active)

theorem versionPhases_kept : versionPhases.Kept fun banks manifest =>
    ∀ current ∈ banks.layout.activeVersion, current < manifest.version where
  admitted _ _ anchored admits := ⟨⟨rfl, anchored⟩, anchored.newer admits⟩
  staged _ _ state installing := ⟨installing.1.setSlot state, installing.2⟩
  swapped _ _ _ installing _ := installing
  committed := by
    rintro install banks bootloader ⟨-, newer⟩ - version among
    rcases List.mem_cons.mp among with rfl | before
    · exact .inl rfl
    · exact .inr (newer version before)
  recorded _ _ newest := ⟨newest, setSlot_slotState_self ..⟩
  retried _ _ recorded := recorded.1
  activated := by
    rintro install banks ⟨newest, recorded⟩ version committed
    refine ⟨install.manifest.version, ?_, newest version committed⟩
    rw [activeVersion_of_active, recorded]
    rfl
  rolledBack _ _ _ swapped _ := swapped.1
  noted _ _ state undone := (undone.setSlot state).2
  stopped := by
    rintro install banks (installing | swapped | undone)
    · exact installing.1.2
    · exact swapped.1.2
    · exact undone.2

/-- Each version is newer than all that were committed before it. -/
def Increasing : Prop :=
  store.committed.Pairwise fun later earlier => earlier < later

section

variable {config : UpdaterConfig} {input : InstallInput} {store stored : Appliance}
  {call moved : InstallCall} (stepped : Stepped config input store call stored moved)
include stepped

theorem InstallCall.Stepped.committed_eq :
    stored.committed = store.committed ∨ ∃ install, call = .commit install ∧
      stored.committed = install.manifest.version :: store.committed := by
  cases stepped with
  | committed => exact .inr ⟨_, rfl, rfl⟩
  | _ => exact .inl rfl

theorem increasing_of_knows (knows : versionPhases.Knows store call)
    (increasing : Increasing store) :
    Increasing stored := by
  rcases stepped.committed_eq with same | ⟨install, rfl, added⟩
  · rw [Increasing, same]
    exact increasing
  · rw [Increasing, added]
    exact List.pairwise_cons.mpr ⟨knows.2.2, increasing⟩

end

/-- A manifest that is newer than the override is newer than the version of the active slot,
where both are there. -/
def PinFollows (manifest : UpdateManifest) : Prop :=
  ∀ pin ∈ store.currentVersionOverride, pin < manifest.version →
    ∀ current ∈ store.layout.activeVersion, current < manifest.version

instance (store : Appliance) (manifest : UpdateManifest) : Decidable (PinFollows store manifest) :=
  inferInstanceAs (Decidable (∀ pin ∈ _, _ → ∀ current ∈ _, _))

/-- When the layout is read, the override does not let an older manifest through. -/
def AdmitsFollowing : InstallCall → Prop
  | .readLayout envelope =>
    match config.decode envelope.body with
    | .error _ => True
    | .ok manifest => PinFollows store manifest
  | .readFlag _ | .tryLock _ | .openBank _ | .download .. | .abandon _ | .finish .. | .swapTo _
  | .probe .. | .commit _ | .markCommitted .. | .setActive .. | .markDiverged .. | .rollback ..
  | .markRolledBack .. | .leaving _ | .returned _ | .clear | .cleared => True

instance (config : UpdaterConfig) (store : Appliance) :
    (call : InstallCall) → Decidable (AdmitsFollowing config store call)
  | .readLayout envelope =>
    match decoded : config.decode envelope.body with
    | .error _ => .isTrue (by rw [AdmitsFollowing, decoded]; trivial)
    | .ok manifest =>
      decidable_of_iff (PinFollows store manifest) (by rw [AdmitsFollowing, decoded])
  | .readFlag _ | .tryLock _ | .openBank _ | .download .. | .abandon _ | .finish .. | .swapTo _
  | .probe .. | .commit _ | .markCommitted .. | .setActive .. | .markDiverged .. | .rollback ..
  | .markRolledBack .. | .leaving _ | .returned _ | .clear | .cleared => .isTrue trivial

theorem AdmitsFollowing.newer {config : UpdaterConfig} {store : Appliance} {call : InstallCall}
    (follows : AdmitsFollowing config store call) {envelope : SignedManifest}
    {manifest : UpdateManifest} (reading : call = .readLayout envelope)
    (admitted : config.accept store.layout store.currentVersionOverride envelope = .ok manifest) :
    ∀ current ∈ store.layout.activeVersion, current < manifest.version := by
  obtain ⟨decoded, newer⟩ := accept_eq_ok admitted
  rw [reading, AdmitsFollowing, decoded] at follows
  cases pinned : store.currentVersionOverride with
  | none =>
    rw [pinned] at newer
    exact newer
  | some pin =>
    rw [pinned] at newer
    exact follows pin pinned (newer pin rfl)

/-- **Each version that is committed is newer than all before, in the sequences of installs
where the override lets no manifest through that the active slot's version would not.** -/
theorem committed_increasing {store : Appliance}
    (fresh : store.committed = []) {turns : List (Turn SignedManifest InstallInput)}
    (follows : (installService config).InTurn
      (fun _ store call => AdmitsFollowing config store call) store turns) :
    Increasing ((installService config).turns store turns) := by
  refine (Service.turns_rest (fun store => Increasing store ∧ versionPhases.Rest store)
    (fun store call => Increasing store ∧ versionPhases.Knows store call) ?_ ?_ ?_ ?_ follows).1
  · exact fun _ _ rest => rest
  · rintro input store call ⟨increasing, knows⟩ follows
    have stepped := advance_stepped config input store call
    exact ⟨increasing_of_knows stepped knows increasing,
      versionPhases_kept.step stepped knows fun _ _ => follows.newer⟩
  · exact fun _ _ knows => ⟨knows.1, knows.2.rest⟩
  · rw [Increasing, fresh]
    refine ⟨.nil, fun _ _ version committed => ?_⟩
    rw [Appliance.banks, fresh] at committed
    cases committed

def pinnedInstalls (first second : UInt8) : List (Turn SignedManifest InstallInput) :=
  [⟨release first, List.replicate 12 works⟩, ⟨release second, List.replicate 12 works⟩]

/-- **Under the override a later install commits an older version.** -/
theorem pinned_install_downgrades :
    ((installService smallConfig).turns (coldAppliance (some ⟨1, 0, 0⟩))
      (pinnedInstalls 3 2)).committed = [⟨2, 0, 0⟩, ⟨3, 0, 0⟩] ∧
    ¬ Increasing ((installService smallConfig).turns (coldAppliance (some ⟨1, 0, 0⟩))
      (pinnedInstalls 3 2)) := by
  have committed : ((installService smallConfig).turns (coldAppliance (some ⟨1, 0, 0⟩))
      (pinnedInstalls 3 2)).committed = [⟨2, 0, 0⟩, ⟨3, 0, 0⟩] := by decide +kernel
  rw [Increasing, committed]
  decide

theorem pinned_installs_increasing :
    Increasing ((installService smallConfig).turns (coldAppliance (some ⟨1, 0, 0⟩))
      (pinnedInstalls 2 3)) :=
  committed_increasing smallConfig rfl (by decide +kernel)

end ShieldNet.Updater
