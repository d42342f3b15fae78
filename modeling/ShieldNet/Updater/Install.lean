import ShieldNet.Lib.Fallible
import ShieldNet.Lib.Interleaving
import ShieldNet.Updater.Bank

/-!
# Installing an update

`UpdaterService::install_from_envelope` of `crates/sng-updater/src/service.rs`, with the
verifier and the state machine it drives, run by any number of callers. Each read of
the divergence flag, each attempt to take the install lock and each call of an adapter
is one step; the adapters behave as the in-memory ones of the source, and any of them
may fail without an effect. What the downloader delivers and what the health probes
answer is up to the world. The policy does not change.

Signatures, the MessagePack decoder and SHA-256 are parameters.
-/

namespace ShieldNet.Updater

/-! ## Manifests -/

inductive UpdateTarget where
  | edge
  | agent
  | cloudPop
  deriving DecidableEq

structure UpdateManifest where
  schemaVersion : UInt8
  target : UpdateTarget
  version : ImageVersion
  imageSha256 : List UInt8
  imageSizeBytes : Nat

structure SignedManifest where
  body : List UInt8
  signature : List UInt8
  signingKeyId : String

inductive UpdateState where
  | idle
  | downloading
  | verifying
  | installing
  | rebooting
  | healthChecking
  | committed
  | rolledBack
  deriving DecidableEq

def UpdateState.legalSuccessors : UpdateState → List UpdateState
  | .idle => [.downloading]
  | .downloading => [.verifying, .idle]
  | .verifying => [.installing, .idle]
  | .installing => [.rebooting, .idle]
  | .rebooting => [.healthChecking, .rolledBack]
  | .healthChecking => [.committed, .rolledBack]
  | .committed | .rolledBack => [.idle]

inductive UpdaterError where
  | layoutDiverged
  | installBusy
  | bodyDecode (message : String)
  | ephemeralSigningKey
  | unknownSigningKey (id : String)
  | signatureInvalid
  | targetMismatch (actual expected : UpdateTarget)
  | manifestStale (found current : ImageVersion)
  | manifestSizeExceedsPolicy (manifestDeclared policyMax : Nat)
  | reinstallOfRolledBackVersion (version : ImageVersion) (slot : Bank)
  | stateTransition (before after : UpdateState)
  | imageHashMismatch (expected actual : List UInt8)
  | imageSizeExceeded (claimed read : Nat)
  | imageTruncated (claimed read : Nat)
  | downloadFailure (message : String)
  | bankWrite (message : String)
  | bootloader (message : String)
  | postCommitLayoutSync (slot : Bank) (version : ImageVersion) (attempts : Nat)
      (lastError : String)

inductive RollbackReason where
  | healthCheckUnhealthy (details : String)
  | healthCheckTimeout
  | healthCheckProbeTimeout
  | healthCheckErrored (details : String)

inductive InstallOutcome where
  | committed (version : ImageVersion) (slot : Bank)
  | rolledBack (version : ImageVersion) (slot : Bank) (reason : RollbackReason)

structure UpdaterPolicy where
  maxImageBytes : Nat
  minHealthyProbes : Nat
  allowReinstallOfRolledBackVersion : Bool
  postCommitBookkeepingMaxAttempts : Nat

def UpdaterPolicy.default : UpdaterPolicy := ⟨1024 * 1024 * 1024, 1, false, 3⟩

/-- What a service is built with: the trust store, the pinned target and the policy, next
to the primitives it calls. -/
structure UpdaterConfig where
  keys : String → Option (List UInt8)
  expectedTarget : Option UpdateTarget
  policy : UpdaterPolicy
  verifySignature : List UInt8 → List UInt8 → List UInt8 → Bool
  decode : List UInt8 → Except String UpdateManifest
  sha256 : List UInt8 → List UInt8

/-! ## Admission -/

def ephemeral : String := "ephemeral"

def maxKnownManifestSchemaVersion : UInt8 := 1

/-- The last check of `verify`: strictly newer than the pin, if there is one. -/
def checkVersion (manifest : UpdateManifest) : Option ImageVersion → Except UpdaterError Unit
  | none => .ok ()
  | some current =>
    if current < manifest.version then .ok ()
    else .error (.manifestStale manifest.version current)

variable (config : UpdaterConfig)

def UpdaterConfig.verify (envelope : SignedManifest)
    (currentVersion : Option ImageVersion) : Except UpdaterError UpdateManifest :=
  if envelope.signingKeyId = ephemeral then .error .ephemeralSigningKey
  else
    match config.keys envelope.signingKeyId with
    | none => .error (.unknownSigningKey envelope.signingKeyId)
    | some key =>
      if config.verifySignature key envelope.body envelope.signature = false then
        .error .signatureInvalid
      else
        match config.decode envelope.body with
        | .error e => .error (.bodyDecode ("decode manifest: " ++ e))
        | .ok manifest =>
          if manifest.schemaVersion = 0 ∨
              maxKnownManifestSchemaVersion < manifest.schemaVersion then
            .error (.bodyDecode ("unsupported schema_version " ++
              toString manifest.schemaVersion ++ ", agent supports 1..=" ++
              toString maxKnownManifestSchemaVersion))
          else
            match config.expectedTarget.filter (manifest.target ≠ ·) with
            | some expected => .error (.targetMismatch manifest.target expected)
            | none => (checkVersion manifest currentVersion).map fun _ => manifest

variable (currentVersionOverride : Option ImageVersion) (layout : BankLayout)

/-- The override wins over the layout. -/
def deriveCurrentVersion : Option ImageVersion :=
  currentVersionOverride.or layout.activeVersion

def enforceNoReinstallOfRolledBack (slot : Bank) (manifest : UpdateManifest)
    (policy : UpdaterPolicy) : Except UpdaterError Unit :=
  if policy.allowReinstallOfRolledBackVersion then .ok ()
  else if layout.slotState slot = .rolledBack manifest.version then
    .error (.reinstallOfRolledBackVersion manifest.version slot)
  else .ok ()

/-- What `install_from_envelope` decides on the layout it has read. -/
def UpdaterConfig.accept
    (currentVersionOverride : Option ImageVersion) (envelope : SignedManifest) :
    Except UpdaterError UpdateManifest := do
  let manifest ← config.verify envelope (deriveCurrentVersion currentVersionOverride layout)
  if config.policy.maxImageBytes < manifest.imageSizeBytes then
    .error (.manifestSizeExceedsPolicy manifest.imageSizeBytes config.policy.maxImageBytes)
  else
    enforceNoReinstallOfRolledBack layout layout.inactive manifest config.policy
    .ok manifest

variable {manifest : UpdateManifest} {currentVersion : Option ImageVersion}

theorem verify_eq_ok {config : UpdaterConfig} {envelope : SignedManifest}
    (verified : config.verify envelope currentVersion = .ok manifest) :
    config.decode envelope.body = .ok manifest ∧
      ∀ current ∈ currentVersion, current < manifest.version := by
  obtain ⟨-, verified⟩ := ite_error_eq_ok verified
  split at verified
  case h_1 => cases verified
  obtain ⟨-, verified⟩ := ite_error_eq_ok verified
  split at verified
  case h_1 => cases verified
  case h_2 found decoded =>
    obtain ⟨-, verified⟩ := ite_error_eq_ok verified
    split at verified
    case h_1 => cases verified
    cases checked : checkVersion found currentVersion with
    | error => rw [checked] at verified; cases verified
    | ok =>
      rw [checked] at verified
      cases verified
      refine ⟨decoded, ?_⟩
      rintro current rfl
      rw [checkVersion] at checked
      split at checked
      case isTrue newer => exact newer
      case isFalse => cases checked

theorem accept_eq_ok {config : UpdaterConfig} {layout : BankLayout}
    {currentVersionOverride : Option ImageVersion} {envelope : SignedManifest}
    (admitted : config.accept layout currentVersionOverride envelope = .ok manifest) :
    config.decode envelope.body = .ok manifest ∧
      ∀ current ∈ deriveCurrentVersion currentVersionOverride layout,
        current < manifest.version := by
  obtain ⟨found, verified, admitted⟩ := bind_eq_ok admitted
  obtain ⟨-, admitted⟩ := ite_error_eq_ok admitted
  obtain ⟨-, -, admitted⟩ := bind_eq_ok admitted
  cases admitted
  exact verify_eq_ok verified

/-! ## Downloading -/

inductive DownloadError where
  | transport (message : String)
  | status (message : String)
  | truncated (expected read : Nat)
  | sizeExceeded (claimed attempted : Nat)
  | bankWrite (message : String)

def mapDownloadError : DownloadError → UpdaterError
  | .truncated expected read => .imageTruncated expected read
  | .sizeExceeded claimed attempted => .imageSizeExceeded claimed attempted
  | .bankWrite message => .bankWrite message
  | .transport message => .downloadFailure ("transport: " ++ message)
  | .status message => .downloadFailure ("upstream status: " ++ message)

/-- `StreamingHasher::write_chunk` on the size. -/
def hashChunk (claimed sizeRead chunk : Nat) : Except DownloadError Unit :=
  if UInt64.size ≤ sizeRead + chunk then .error (.sizeExceeded claimed (UInt64.size - 1))
  else if claimed < sizeRead + chunk then .error (.sizeExceeded claimed (sizeRead + chunk))
  else .ok ()

def bankWriteText (message : String) : String := "bank write failure: " ++ message

/-- The hasher first, then the handle. -/
def writeChunk (manifest : UpdateManifest) (buffer chunk : List UInt8) (fails : Option String) :
    Except DownloadError (List UInt8) := do
  hashChunk manifest.imageSizeBytes buffer.length chunk.length
  match fails with
  | some message => .error (.bankWrite (bankWriteText message))
  | none => .ok (buffer ++ chunk)

/-- The integrity checks on what was received. -/
def UpdaterConfig.checkImage (manifest : UpdateManifest)
    (buffer : List UInt8) : Except UpdaterError Unit :=
  if config.sha256 buffer ≠ manifest.imageSha256 then
    .error (.imageHashMismatch manifest.imageSha256 (config.sha256 buffer))
  else if buffer.length ≠ manifest.imageSizeBytes then
    .error (.imageTruncated manifest.imageSizeBytes buffer.length)
  else .ok ()

/-! ## The appliance -/

/-- What the callers share: the metadata and contents of the slots, the bootloader, and
the fields of the service. `committed` is bookkeeping of the model: the versions that the
bootloader was told to keep, the last one first. -/
structure Appliance where
  layout : BankLayout
  slotABytes : List UInt8
  slotBBytes : List UInt8
  bootloader : ActiveBankState
  state : UpdateState
  currentVersionOverride : Option ImageVersion
  locked : Bool
  layoutDiverged : Bool
  committed : List ImageVersion

namespace Appliance

variable (store : Appliance)

def transition (before after : UpdateState) : Except UpdaterError Appliance :=
  if store.state ≠ before then .error (.stateTransition store.state after)
  else if after ∈ before.legalSuccessors then .ok { store with state := after }
  else .error (.stateTransition before after)

/-- `WriteHandle::finish`: the bytes reach the slot, and its record says so. -/
def stage (slot : Bank) (version : ImageVersion) (buffer : List UInt8) : Appliance := { store with
    slotABytes := if slot = .a then buffer else store.slotABytes
    slotBBytes := if slot = .b then buffer else store.slotBBytes
    layout := store.layout.setSlot slot (.staged version) }

def slotBytes : Bank → List UInt8
  | .a => store.slotABytes
  | .b => store.slotBBytes

def mark (slot : Bank) (state : BankSlotState) : Appliance :=
  { store with layout := store.layout.setSlot slot state }

def setActive (slot : Bank) : Appliance :=
  { store with layout := { store.layout with active := slot } }

end Appliance

/-! ## Calls -/

structure Install where
  manifest : UpdateManifest
  slot : Bank

inductive UpdaterRequest where
  | install (envelope : SignedManifest)
  | clear

/-- Where a call stands: the next thing it does. From `readLayout` to `leaving` it holds the
install lock. -/
inductive InstallCall where
  | readFlag (envelope : SignedManifest)
  | tryLock (envelope : SignedManifest)
  | readLayout (envelope : SignedManifest)
  | openBank (install : Install)
  | download (install : Install) (buffer : List UInt8)
  | abandon (error : UpdaterError)
  | finish (install : Install) (buffer : List UInt8)
  | swapTo (install : Install)
  | probe (install : Install) (consecutiveHealthy : Nat)
  | commit (install : Install)
  | markCommitted (install : Install) (attempt : Nat)
  | setActive (install : Install) (attempt : Nat)
  | markDiverged (install : Install) (lastError : String)
  | rollback (install : Install) (reason : RollbackReason)
  | markRolledBack (install : Install) (reason : RollbackReason)
  | leaving (result : Except UpdaterError InstallOutcome)
  | returned (result : Except UpdaterError InstallOutcome)
  | clear
  | cleared

inductive DownloadEvent where
  | chunk (bytes : List UInt8)
  | failed (error : DownloadError)
  | finished

inductive ProbeEvent where
  | deadline
  | healthy
  | unhealthy (details : String)
  | errored (details : String)
  | timedOut

/-- What the world decides at a step: the message with which the adapter fails, and what
the downloader and the probe do. -/
structure InstallInput where
  fails : Option String
  download : DownloadEvent
  probe : ProbeEvent

namespace InstallCall

def start : UpdaterRequest → InstallCall
  | .install envelope => .readFlag envelope
  | .clear => .clear

/-- `force_reset_to_idle` on the way out. -/
def failed (store : Appliance) (error : UpdaterError) : Appliance × InstallCall :=
  ({ store with state := .idle }, .leaving (.error error))

def transitioning (store : Appliance) (result : Except UpdaterError Appliance)
    (next : InstallCall) : Appliance × InstallCall :=
  match result with
  | .error error => failed store error
  | .ok moved => (moved, next)

variable (config : UpdaterConfig)

/-- The loop of `run_post_commit_bookkeeping`: an attempt while there are any left. -/
def bookkeeping (install : Install) (attempt : Nat) (lastError : String) : InstallCall :=
  if attempt ≤ config.policy.postCommitBookkeepingMaxAttempts then .markCommitted install attempt
  else .markDiverged install lastError

variable (input : InstallInput)

/-- `download` and what follows until the next adapter call. -/
def receive (store : Appliance) (install : Install) (buffer : List UInt8)
    : Appliance × InstallCall :=
  match input.download with
  | .chunk bytes =>
    match writeChunk install.manifest buffer bytes input.fails with
    | .error error => (store, .abandon (mapDownloadError error))
    | .ok received => (store, .download install received)
  | .failed error => (store, .abandon (mapDownloadError error))
  | .finished =>
    match store.transition .downloading .verifying with
    | .error error => failed store error
    | .ok verifying =>
      match config.checkImage install.manifest buffer with
      | .error error => (verifying, .abandon error)
      | .ok () =>
        transitioning verifying (verifying.transition .verifying .installing)
          (.finish install buffer)

def probed (install : Install) (consecutiveHealthy : Nat) : ProbeEvent → InstallCall
  | .deadline => .rollback install .healthCheckTimeout
  | .healthy =>
    if config.policy.minHealthyProbes ≤ consecutiveHealthy + 1 then .commit install
    else .probe install (consecutiveHealthy + 1)
  | .unhealthy details => .rollback install (.healthCheckUnhealthy details)
  | .errored details => .rollback install (.healthCheckErrored details)
  | .timedOut => .rollback install .healthCheckProbeTimeout

def advance (store : Appliance) : InstallCall → Appliance × InstallCall
  | .readFlag envelope =>
    if store.layoutDiverged then (store, .returned (.error .layoutDiverged))
    else (store, .tryLock envelope)
  | .tryLock envelope =>
    if store.locked then (store, .returned (.error .installBusy))
    else ({ store with locked := true }, .readLayout envelope)
  | .readLayout envelope =>
    match input.fails with
    | some message => (store, .leaving (.error (.bankWrite message)))
    | none =>
      match config.accept store.layout store.currentVersionOverride envelope with
      | .error error => (store, .leaving (.error error))
      | .ok manifest =>
        match store.transition .idle .downloading with
        | .error error => (store, .leaving (.error error))
        | .ok moved => (moved, .openBank ⟨manifest, store.layout.inactive⟩)
  | .openBank install =>
    match input.fails with
    | some message => failed store (.bankWrite message)
    | none =>
      if store.layout.active = install.slot then
        failed store (.bankWrite ("cannot open active slot " ++ install.slot.text ++ " for write"))
      else (store, .download install [])
  | .download install buffer => receive config input store install buffer
  | .abandon error => failed store error
  | .finish install buffer =>
    match input.fails with
    | some message => failed store (.bankWrite message)
    | none =>
      transitioning (store.stage install.slot install.manifest.version buffer)
        ((store.stage install.slot install.manifest.version buffer).transition .installing
          .rebooting)
        (.swapTo install)
  | .swapTo install =>
    match input.fails with
    | some message => failed store (.bootloader message)
    | none =>
      match store.bootloader.swapTo install.slot with
      | .error message => failed store (.bootloader message)
      | .ok bootloader =>
        transitioning { store with bootloader }
          (Appliance.transition { store with bootloader } .rebooting .healthChecking)
          (.probe install 0)
  | .probe install consecutiveHealthy =>
    (store, probed config install consecutiveHealthy input.probe)
  | .commit install =>
    match input.fails with
    | some message => failed store (.bootloader message)
    | none =>
      match store.bootloader.commit with
      | .error message => failed store (.bootloader message)
      | .ok bootloader =>
        ({ store with bootloader, committed := install.manifest.version :: store.committed },
          bookkeeping config install 1 "no error recorded")
  | .markCommitted install attempt =>
    match input.fails with
    | some message => (store, bookkeeping config install (attempt + 1) (bankWriteText message))
    | none =>
      (store.mark install.slot (.committed install.manifest.version), .setActive install attempt)
  | .setActive install attempt =>
    match input.fails with
    | some message => (store, bookkeeping config install (attempt + 1) (bankWriteText message))
    | none =>
      transitioning (store.setActive install.slot)
        (((store.setActive install.slot).transition .healthChecking .committed).bind
          (·.transition .committed .idle))
        (.leaving (.ok (.committed install.manifest.version install.slot)))
  | .markDiverged install lastError =>
    failed { store with layoutDiverged := true }
      (.postCommitLayoutSync install.slot install.manifest.version
        config.policy.postCommitBookkeepingMaxAttempts lastError)
  | .rollback install reason =>
    match input.fails with
    | some message => failed store (.bootloader message)
    | none =>
      match store.bootloader.rollback with
      | .error message => failed store (.bootloader message)
      | .ok bootloader => ({ store with bootloader }, .markRolledBack install reason)
  | .markRolledBack install reason =>
    match input.fails with
    | some message => failed store (.bankWrite message)
    | none =>
      transitioning (store.mark install.slot (.rolledBack install.manifest.version))
        (((store.mark install.slot (.rolledBack install.manifest.version)).transition
          .healthChecking .rolledBack).bind (·.transition .rolledBack .idle))
        (.leaving (.ok (.rolledBack install.manifest.version install.slot reason)))
  | .leaving result => ({ store with locked := false }, .returned result)
  | .returned result => (store, .returned result)
  | .clear => ({ store with layoutDiverged := false }, .cleared)
  | .cleared => (store, .cleared)

def Returned : InstallCall → Prop
  | .returned _ | .cleared => True
  | .readFlag _ | .tryLock _ | .readLayout _ | .openBank _ | .download .. | .abandon _ | .finish ..
  | .swapTo _ | .probe .. | .commit _ | .markCommitted .. | .setActive .. | .markDiverged ..
  | .rollback .. | .markRolledBack .. | .leaving _ | .clear => False

def Holds : InstallCall → Prop
  | .readLayout _ | .openBank _ | .download .. | .abandon _ | .finish .. | .swapTo _ | .probe ..
  | .commit _ | .markCommitted .. | .setActive .. | .markDiverged .. | .rollback ..
  | .markRolledBack .. | .leaving _ => True
  | .readFlag _ | .tryLock _ | .returned _ | .clear | .cleared => False

/-- The call can fail at its next step and leave the banks and the bootloader alone. -/
def MayStop : InstallCall → Prop
  | .readLayout _ | .openBank _ | .download .. | .abandon _ | .finish .. | .swapTo _ | .commit _
  | .rollback .. | .markRolledBack .. => True
  | .readFlag _ | .tryLock _ | .probe .. | .markCommitted .. | .setActive .. | .markDiverged ..
  | .leaving _ | .returned _ | .clear | .cleared => False

theorem MayStop.holds {call : InstallCall} (mayStop : call.MayStop) : call.Holds := by
  cases call <;> trivial

def opens (store : Appliance) : InstallCall → Option Bank
  | .openBank install =>
    if input.fails = none ∧ store.layout.active ≠ install.slot then some install.slot else none
  | .readFlag _ | .tryLock _ | .readLayout _ | .download .. | .abandon _ | .finish .. | .swapTo _
  | .probe .. | .commit _ | .markCommitted .. | .setActive .. | .markDiverged .. | .rollback ..
  | .markRolledBack .. | .leaving _ | .returned _ | .clear | .cleared => none

theorem eq_openBank_of_opens {input : InstallInput} {store : Appliance} {call : InstallCall}
    {slot : Bank} (opens : slot ∈ call.opens input store) :
    ∃ install, call = .openBank install ∧ install.slot = slot := by
  cases call with
  | openBank install =>
    rw [InstallCall.opens] at opens
    split at opens
    case isTrue => exact ⟨install, rfl, Option.some.inj opens⟩
    case isFalse => cases opens
  | _ => cases opens

end InstallCall

def updaterService : Service Appliance UpdaterRequest InstallInput InstallCall :=
  ⟨InstallCall.start, InstallCall.advance config⟩

/-! ## What a step does -/

namespace InstallCall

variable {config : UpdaterConfig} {input : InstallInput} {store stored : Appliance}
  {call moved : InstallCall}

def Stopping (call : InstallCall) : Prop := ∃ error, call = .leaving (.error error)

variable (config input store) in
/-- The steps of a call, with what they do to the banks, the bootloader, the lock and the
flag. The state machine of the service goes its own way. -/
inductive Stepped : InstallCall → Appliance → InstallCall → Prop where
  | refused {call error} : ¬ call.Holds → Stepped call store (.returned (.error error))
  | undiverged {envelope} : store.layoutDiverged = false →
      Stepped (.readFlag envelope) store (.tryLock envelope)
  | locked {envelope} : store.locked = false →
      Stepped (.tryLock envelope) { store with locked := true } (.readLayout envelope)
  | stopped {call error state} : call.MayStop →
      Stepped call { store with state } (.leaving (.error error))
  | admitted {envelope manifest state} :
      config.accept store.layout store.currentVersionOverride envelope = .ok manifest →
      Stepped (.readLayout envelope) { store with state }
        (.openBank ⟨manifest, store.layout.inactive⟩)
  | opened {install} : input.fails = none → store.layout.active ≠ install.slot →
      Stepped (.openBank install) store (.download install [])
  | received {install buffer received} :
      Stepped (.download install buffer) store (.download install received)
  | spoiled {install buffer error state} :
      Stepped (.download install buffer) { store with state } (.abandon error)
  | verified {install buffer state} : Stepped (.download install buffer) { store with state }
        (.finish install buffer)
  | staged {install buffer state moved} : moved = .swapTo install ∨ moved.Stopping →
      Stepped (.finish install buffer)
        { store.stage install.slot install.manifest.version buffer with state } moved
  | swapped {install bootloader state moved} :
      store.bootloader.swapTo install.slot = .ok bootloader →
      moved = .probe install 0 ∨ moved.Stopping →
      Stepped (.swapTo install) { store with bootloader, state } moved
  | probed {install consecutiveHealthy moved} :
      (∃ count, moved = .probe install count) ∨ moved = .commit install ∨
        (∃ reason, moved = .rollback install reason) →
      Stepped (.probe install consecutiveHealthy) store moved
  | committed {install bootloader lastError} : store.bootloader.commit = .ok bootloader →
      Stepped (.commit install)
        { store with bootloader, committed := install.manifest.version :: store.committed }
        (bookkeeping config install 1 lastError)
  | marked {install attempt} : Stepped (.markCommitted install attempt)
        (store.mark install.slot (.committed install.manifest.version))
        (.setActive install attempt)
  | retried {call install attempt lastError} :
      call = .markCommitted install attempt ∨ call = .setActive install attempt →
      Stepped call store (bookkeeping config install (attempt + 1) lastError)
  | activated {install attempt state result} : Stepped (.setActive install attempt)
        { store.setActive install.slot with state } (.leaving result)
  | diverged {install lastError error state} : Stepped (.markDiverged install lastError)
        { store with layoutDiverged := true, state } (.leaving (.error error))
  | rolledBack {install reason bootloader} : store.bootloader.rollback = .ok bootloader →
      Stepped (.rollback install reason) { store with bootloader } (.markRolledBack install reason)
  | recorded {install reason state result} : Stepped (.markRolledBack install reason)
        { store.mark install.slot (.rolledBack install.manifest.version) with state }
        (.leaving result)
  | left {result} : Stepped (.leaving result) { store with locked := false }
        (.returned result)
  | cleared : Stepped .clear { store with layoutDiverged := false } .cleared
  | idle {call : InstallCall} : call.Returned → Stepped call store call

/-- The state machine moves or the install stops; the rest of the appliance is as it was. -/
theorem transitioning_stepped {before : Appliance} {result : Except UpdaterError Appliance}
    {next : InstallCall}
    (only : ∀ moved, result = .ok moved → ∃ state, moved = { store with state })
    (moves : ∀ state, Stepped config input before call { store with state } next)
    (stops : ∀ state error, Stepped config input before call { store with state }
      (.leaving (.error error))) :
    Stepped config input before call (transitioning store result next).1
      (transitioning store result next).2 := by
  cases result with
  | error error => exact stops .idle error
  | ok moved =>
    obtain ⟨state, rfl⟩ := only moved rfl
    exact moves state

theorem transition_only {before after : UpdateState} {moved : Appliance}
    (result : store.transition before after = .ok moved) :
    ∃ state, moved = { store with state } := by
  rw [Appliance.transition] at result
  split at result
  case isTrue => cases result
  split at result
  case isTrue =>
    cases result
    exact ⟨after, rfl⟩
  case isFalse => cases result

theorem transitions_only {first second third : UpdateState} {moved : Appliance}
    (result : ((store.transition first second).bind (·.transition second third)) = .ok moved) :
    ∃ state, moved = { store with state } := by
  cases early : store.transition first second with
  | error => rw [early] at result; cases result
  | ok between =>
    rw [early] at result
    obtain ⟨state, rfl⟩ := transition_only early
    obtain ⟨later, rfl⟩ := transition_only result
    exact ⟨later, rfl⟩

theorem receive_stepped (config : UpdaterConfig) (input : InstallInput) (store : Appliance)
    (install : Install) (buffer : List UInt8) :
    Stepped config input store (.download install buffer)
      (receive config input store install buffer).1
      (receive config input store install buffer).2 := by
  rw [receive]
  split
  case h_1 =>
    split
    case h_1 => exact .spoiled
    case h_2 => exact .received
  case h_2 => exact .spoiled
  split
  case h_1 => exact .stopped trivial
  case h_2 verifying moved =>
    obtain ⟨state, rfl⟩ := transition_only moved
    split
    case h_1 => exact .spoiled
    exact transitioning_stepped (fun _ => transition_only) (fun _ => .verified)
      (fun _ _ => .stopped trivial)

theorem advance_stepped (config : UpdaterConfig) (input : InstallInput) (store : Appliance)
    (call : InstallCall) :
    Stepped config input store call (advance config input store call).1
      (advance config input store call).2 := by
  cases call with
  | readFlag envelope =>
    rw [advance]
    split
    case isTrue => exact .refused id
    case isFalse clear => exact .undiverged (Bool.eq_false_iff.mpr clear)
  | tryLock envelope =>
    rw [advance]
    split
    case isTrue => exact .refused id
    case isFalse free => exact .locked (Bool.eq_false_iff.mpr free)
  | readLayout envelope =>
    rw [advance]
    split
    case h_1 => exact .stopped trivial
    split
    case h_1 => exact .stopped trivial
    case h_2 manifest admitted =>
      split
      case h_1 => exact .stopped trivial
      case h_2 moved =>
        obtain ⟨state, rfl⟩ := transition_only moved
        exact .admitted admitted
  | openBank install =>
    rw [advance]
    split
    case h_1 => exact .stopped trivial
    case h_2 works =>
      split
      case isTrue => exact .stopped trivial
      case isFalse inactive => exact .opened works inactive
  | download install buffer => exact receive_stepped config input store install buffer
  | abandon error => exact .stopped trivial
  | finish install buffer =>
    rw [advance]
    split
    case h_1 => exact .stopped trivial
    exact transitioning_stepped (fun _ => transition_only) (fun _ => .staged (.inl rfl))
      (fun _ error => .staged (.inr ⟨error, rfl⟩))
  | swapTo install =>
    rw [advance]
    split
    case h_1 => exact .stopped trivial
    split
    case h_1 => exact .stopped trivial
    case h_2 bootloader swapped =>
      exact transitioning_stepped (fun _ => transition_only) (fun _ => .swapped swapped (.inl rfl))
        (fun _ error => .swapped swapped (.inr ⟨error, rfl⟩))
  | probe install consecutiveHealthy =>
    rw [advance]
    apply Stepped.probed
    cases input.probe with
    | healthy =>
      rw [probed]
      split
      case isTrue => exact .inr (.inl rfl)
      case isFalse => exact .inl ⟨_, rfl⟩
    | _ => exact .inr (.inr ⟨_, rfl⟩)
  | commit install =>
    rw [advance]
    split
    case h_1 => exact .stopped trivial
    split
    case h_1 => exact .stopped trivial
    case h_2 committed => exact .committed committed
  | markCommitted install attempt =>
    rw [advance]
    split
    case h_1 => exact .retried (.inl rfl)
    case h_2 => exact .marked
  | setActive install attempt =>
    rw [advance]
    split
    case h_1 => exact .retried (.inr rfl)
    exact transitioning_stepped (fun _ => transitions_only) (fun _ => .activated)
      (fun _ _ => .activated)
  | markDiverged install lastError => exact .diverged
  | rollback install reason =>
    rw [advance]
    split
    case h_1 => exact .stopped trivial
    split
    case h_1 => exact .stopped trivial
    case h_2 rolledBack => exact .rolledBack rolledBack
  | markRolledBack install reason =>
    rw [advance]
    split
    case h_1 => exact .stopped trivial
    exact transitioning_stepped (fun _ => transitions_only) (fun _ => .recorded)
      (fun _ _ => .recorded)
  | leaving result => exact .left
  | clear => exact .cleared
  | _ => exact .idle trivial

/-- The calls that the bookkeeping loop goes on with hold the lock. -/
theorem bookkeeping_cases (config : UpdaterConfig) (install : Install) (attempt : Nat)
    (lastError : String) : bookkeeping config install attempt lastError =
        .markCommitted install attempt ∨
      bookkeeping config install attempt lastError = .markDiverged install lastError := by
  rw [bookkeeping]
  split
  case isTrue => exact .inl rfl
  case isFalse => exact .inr rfl

/-! ## The lock -/

theorem Stopping.holds (stopping : moved.Stopping) : moved.Holds := by
  obtain ⟨error, rfl⟩ := stopping
  trivial

theorem bookkeeping_holds (config : UpdaterConfig) (install : Install) (attempt : Nat)
    (lastError : String) : (bookkeeping config install attempt lastError).Holds := by
  rcases bookkeeping_cases config install attempt lastError with going | giving
  · rw [going]
    trivial
  · rw [giving]
    trivial

/-- What a step does to the lock: it takes it when it is free, it gives it back, or it leaves
it as it is. -/
theorem Stepped.lock (stepped : Stepped config input store call stored moved) :
    (¬ call.Holds ∧ moved.Holds ∧ store.locked = false ∧ stored.locked) ∨
      (call.Holds ∧ ¬ moved.Holds) ∨
      ((call.Holds ↔ moved.Holds) ∧ stored.locked = store.locked) := by
  cases stepped with
  | locked free => exact .inl ⟨id, trivial, free, rfl⟩
  | left => exact .inr (.inl ⟨trivial, id⟩)
  | refused outside => exact .inr (.inr ⟨iff_of_false outside id, rfl⟩)
  | undiverged => exact .inr (.inr ⟨Iff.rfl, rfl⟩)
  | stopped mayStop => exact .inr (.inr ⟨iff_of_true mayStop.holds trivial, rfl⟩)
  | staged next | swapped _ next =>
    refine .inr (.inr ⟨iff_of_true trivial ?_, rfl⟩)
    rcases next with rfl | stopping
    · trivial
    · exact stopping.holds
  | probed next =>
    refine .inr (.inr ⟨iff_of_true trivial ?_, rfl⟩)
    rcases next with ⟨_, rfl⟩ | rfl | ⟨_, rfl⟩ <;> trivial
  | committed =>
    exact .inr (.inr ⟨iff_of_true trivial (bookkeeping_holds ..), rfl⟩)
  | retried before =>
    refine .inr (.inr ⟨iff_of_true ?_ (bookkeeping_holds ..), rfl⟩)
    rcases before with rfl | rfl <;> trivial
  | idle | cleared => exact .inr (.inr ⟨Iff.rfl, rfl⟩)
  | _ => exact .inr (.inr ⟨iff_of_true trivial trivial, rfl⟩)

/-- **The install lock is a lock.** -/
theorem locking (config : UpdaterConfig) :
    Service.Locking (updaterService config) Appliance.locked InstallCall.Holds :=
  .of_cases (by rintro (envelope | _) <;> exact id)
    fun input store call => (advance_stepped config input store call).lock

/-! ## What the banks hold -/

def Admitted (config : UpdaterConfig) (manifest : UpdateManifest) : Prop :=
  ∃ layout pin envelope, config.accept layout pin envelope = .ok manifest

/-- The bytes have the size and the hash of an admitted manifest. -/
def Genuine (config : UpdaterConfig) (image : List UInt8) : Prop :=
  ∃ manifest, Admitted config manifest ∧ config.checkImage manifest image = .ok ()

/-- What a call knows of its image. -/
def Carries (config : UpdaterConfig) : InstallCall → Prop
  | .openBank install | .download install _ => Admitted config install.manifest
  | .finish _ buffer => Genuine config buffer
  | _ => True

theorem checkImage_of_finish {install : Install} {buffer : List UInt8}
    (finishes : (receive config input store install buffer).2 = .finish install buffer) :
    config.checkImage install.manifest buffer = .ok () := by
  grind [receive, failed]

section

variable (stepped : Stepped config input store call stored moved) (carries : call.Carries config)
include stepped carries

theorem Stepped.carried (checked : ∀ install buffer, call = .download install buffer →
      moved = .finish install buffer → config.checkImage install.manifest buffer = .ok ()) :
    moved.Carries config := by
  cases stepped with
  | admitted admitted => exact ⟨_, _, _, admitted⟩
  | opened | received | idle => exact carries
  | verified => exact ⟨_, carries, checked _ _ rfl rfl⟩
  | staged next | swapped _ next => rcases next with rfl | ⟨_, rfl⟩ <;> trivial
  | probed next => rcases next with ⟨_, rfl⟩ | rfl | ⟨_, rfl⟩ <;> trivial
  | committed | retried =>
    rcases bookkeeping_cases .. with next | next <;> rw [next] <;> trivial
  | _ => trivial

theorem Stepped.slotBytes (slot : Bank) :
    stored.slotBytes slot = store.slotBytes slot ∨ Genuine config (stored.slotBytes slot) := by
  cases stepped with
  | @staged install =>
    obtain ⟨manifest, target⟩ := install
    cases target <;> cases slot <;> first | exact .inl rfl | exact .inr carries
  | _ => exact .inl (by cases slot <;> rfl)

end

open Service in
/-- **A bank holds what it held at first or an image that was signed, admitted and checked**,
whatever installs run next to each other and whichever adapters fail. -/
theorem banks_hold_genuine_images (config : UpdaterConfig) (store : Appliance)
    (moves : List (Move UpdaterRequest InstallInput)) (slot : Bank) :
    let held := ((updaterService config).run store moves).store.slotBytes slot
    held = store.slotBytes slot ∨ Genuine config held := by
  refine (every_run_asserts
    (fun stored : Appliance => stored.slotBytes slot = store.slotBytes slot ∨
      Genuine config (stored.slotBytes slot))
    (fun _ => Carries config) ?_ ?_ ?_ (.inl rfl) moves).store
  · rintro _ (envelope | _) - <;> trivial
  · intro input system call asserted underWay
    have stepped := advance_stepped config input system.store call
    have carries := asserted.calls call underWay
    refine ⟨?_, stepped.carried carries ?_⟩
    · rcases stepped.slotBytes carries slot with same | genuine
      · exact same ▸ asserted.store
      · exact .inr genuine
    · rintro install buffer rfl
      exact checkImage_of_finish
  · exact fun _ _ _ other asserted apart => asserted.calls other apart.mem_right

end InstallCall

/-! ## A small appliance -/

/-- A service that trusts one key, whose manifests are one byte: the major version of an
empty image. -/
def smallConfig : UpdaterConfig where
  keys id := if id = "release" then some [] else none
  expectedTarget := some .edge
  policy := .default
  verifySignature _ _ _ := true
  decode body :=
    match body with
    | [major] => .ok ⟨1, .edge, ⟨major.toUInt32, 0, 0⟩, [], 0⟩
    | _ => .error "one byte expected"
  sha256 _ := []

def release (major : UInt8) : SignedManifest := ⟨[major], [], "release"⟩

def coldAppliance : Appliance where
  layout := ⟨.a, .empty, .empty⟩
  slotABytes := []
  slotBBytes := []
  bootloader := .committed .a
  state := .idle
  currentVersionOverride
  locked := false
  layoutDiverged := false
  committed := []

/-- The adapters work, the image is complete and the probe is healthy. -/
def works : InstallInput := ⟨none, .finished, .healthy⟩

def breaks : InstallInput := ⟨some "io", .finished, .healthy⟩

end ShieldNet.Updater
