import ShieldNet.Identity.Store
import ShieldNet.Lib.Assoc
import ShieldNet.Lib.Interleaving

/-!
# Device enrollment

`EnrollmentService` of `internal/service/identity/enrollment.go` over the two
repositories, `internal/repository/{memory,postgres}/device_enrollment.go`.
`RefreshCertificate` and `RevokeDevice` are calls that make one repository call
a step, so other calls run between any two of them.

The two repositories differ where a row is updated: Postgres leaves a revoked
enrollment alone, the memory store overwrites it.

A revocation that returns is final in every run in which no refresh writes after
the revocation took effect (`revoked_device_holds_no_certificate`). A refresh
that read the enrollment before leaves a live certificate on both repositories,
and on the memory store an active enrollment (`late_refresh_outlives_revocation`).
A revocation that failed at the certificates cannot be completed on Postgres
(`half_revocation_stays`).
-/

namespace ShieldNet.Identity

open List Option

/-! ## Rows -/

inductive EnrollmentStatus where
  | enrolled
  | active
  | revoked
  deriving DecidableEq

structure DeviceKey where
  tenantId : Uuid
  deviceId : Uuid
  deriving DecidableEq

/-- `DeviceEnrollment`, kept under its `DeviceKey`. -/
structure DeviceEnrollment where
  publicKey : List UInt8
  status : EnrollmentStatus
  enrolledAt : Nat
  lastCertIssuedAt : Option Nat
  revokedAt : Option Nat
  deriving DecidableEq

structure DeviceCertificate where
  id : Uuid
  device : DeviceKey
  serial : String
  certPem : String
  issuedAt : Nat
  expiresAt : Nat
  revokedAt : Option Nat
  deriving DecidableEq

structure EnrollmentTables where
  enrollments : Assoc DeviceKey DeviceEnrollment
  certificates : Assoc Uuid DeviceCertificate

open EnrollmentTables

inductive Backend where
  | memory
  | postgres
  deriving DecidableEq

/-! ## Repository calls -/

namespace EnrollmentTables

variable (tables : EnrollmentTables) (device : DeviceKey)

def getEnrollment : Except RepositoryError DeviceEnrollment :=
  match tables.enrollments.get? device with
  | none => .error .notFound
  | some enrollment => if enrollment.status = .revoked then .error .notFound else .ok enrollment

variable (backend : Backend)

/-- An update of the row of a device. The Postgres statements say
`WHERE … AND status != 'revoked'`. -/
def updateRow (tables : EnrollmentTables) (device : DeviceKey)
    (update : DeviceEnrollment → DeviceEnrollment) : Except RepositoryError EnrollmentTables :=
  match tables.enrollments.get? device with
  | none => .error .notFound
  | some enrollment =>
    if backend = .postgres ∧ enrollment.status = .revoked then .error .notFound
    else .ok { tables with enrollments := tables.enrollments.set device (update enrollment) }

def updateEnrollmentStatus (tables : EnrollmentTables) (device : DeviceKey)
    (status : EnrollmentStatus) (now : Nat) : Except RepositoryError EnrollmentTables :=
  tables.updateRow backend device fun enrollment =>
    { enrollment with
      status
      revokedAt := if status = .revoked then some now else enrollment.revokedAt }

def updateLastCertIssuedAt (tables : EnrollmentTables) (device : DeviceKey) (at_ : Nat)
    : Except RepositoryError EnrollmentTables :=
  tables.updateRow backend device fun enrollment =>
    { enrollment with lastCertIssuedAt := some at_ }

/-- `CreateCertificate`. The table's primary key refuses an id that is taken, the
memory store's map replaces its entry. -/
def createCertificate (tables : EnrollmentTables) (certificate : DeviceCertificate) (fresh : Uuid) :
    Option (EnrollmentTables × DeviceCertificate) :=
  let saved := { certificate with
    id := if certificate.id = nilUuid then fresh else certificate.id }
  if backend = .postgres ∧ (tables.certificates.get? saved.id).isSome then none
  else some ({ tables with certificates := tables.certificates.set saved.id saved }, saved)

def revokeAllCertificates (at_ : Nat) : EnrollmentTables := { tables with
    certificates := tables.certificates.mapValues fun certificate =>
      if certificate.device = device ∧ certificate.revokedAt = none then
        { certificate with revokedAt := some at_ }
      else certificate }

def status : Option EnrollmentStatus := (tables.enrollments.get? device).map DeviceEnrollment.status

def Revoked : Prop := tables.status device = some .revoked

instance (tables : EnrollmentTables) (device : DeviceKey) : Decidable (tables.Revoked device) :=
  inferInstanceAs (Decidable (_ = _))

def NoLiveCertificate : Prop :=
  ∀ entry ∈ tables.certificates.entries, entry.2.device = device → entry.2.revokedAt.isSome

instance (tables : EnrollmentTables) (device : DeviceKey) :
    Decidable (tables.NoLiveCertificate device) :=
  inferInstanceAs (Decidable (∀ entry ∈ _, _))

end EnrollmentTables

/-! ## Calls of the service -/

structure IssuedCertificate where
  serial : String
  chainPem : String
  notAfter : Nat
  deriving DecidableEq

structure EnrollmentInput where
  /-- The repository call fails: its context has ended or the connection is lost. -/
  fails : Bool
  now : Nat
  newUuid : Uuid
  /-- `ca.Issue`, on the device, its public key and the time. -/
  issue : DeviceKey → List UInt8 → Nat → Option IssuedCertificate

inductive EnrollmentError where
  | repository (error : RepositoryError)
  | forbidden
  | unavailable
  | wrapped (context : String) (cause : EnrollmentError)
  deriving DecidableEq

/-- Where a call is: the step it makes next, with what it has read. -/
inductive EnrollmentCall where
  /-- `RefreshCertificate`. -/
  | getEnrollment (device : DeviceKey)
  | issue (device : DeviceKey) (enrollment : DeviceEnrollment)
  | createCertificate (device : DeviceKey) (read : EnrollmentStatus) (issued : IssuedCertificate)
      (now : Nat)
  | updateLastCertIssuedAt (device : DeviceKey) (read : EnrollmentStatus)
      (saved : DeviceCertificate) (now : Nat)
  | activate (device : DeviceKey) (saved : DeviceCertificate)
  | refreshed (device : DeviceKey) (result : Except EnrollmentError DeviceCertificate)
  /-- `RevokeDevice`. -/
  | revokeEnrollment (device : DeviceKey)
  | revokeCertificates (device : DeviceKey)
  | revoked (device : DeviceKey) (result : Except EnrollmentError Unit)
  deriving DecidableEq

open EnrollmentCall

def EnrollmentCall.finished : EnrollmentCall → Bool
  | .refreshed .. | .revoked .. => true
  | _ => false

def EnrollmentCall.revokedOk (device : DeviceKey) : EnrollmentCall → Bool
  | .revoked target (.ok ()) => target = device
  | _ => false

inductive EnrollmentRequest where
  | refreshCertificate (device : DeviceKey)
  | revokeDevice (device : DeviceKey)

namespace EnrollmentCall

/-- A write whose result the source ignores. -/
def written (tables : EnrollmentTables) (fails : Bool)
    (result : Except RepositoryError EnrollmentTables) : EnrollmentTables :=
  if fails then tables else result.toOption.getD tables

def advance (backend : Backend) (input : EnrollmentInput) (tables : EnrollmentTables) :
    EnrollmentCall → EnrollmentTables × EnrollmentCall
  | .getEnrollment device =>
    if input.fails then (tables, .refreshed device (.error .unavailable))
    else
      match tables.getEnrollment device with
      | .error error => (tables, .refreshed device (.error (.repository error)))
      | .ok enrollment =>
        if enrollment.status = .revoked then
          (tables, .refreshed device (.error (.wrapped "device is revoked" .forbidden)))
        else (tables, .issue device enrollment)
  | .issue device enrollment =>
    match input.issue device enrollment.publicKey input.now with
    | none => (tables, .refreshed device (.error (.wrapped "issue certificate" .unavailable)))
    | some issued => (tables, .createCertificate device enrollment.status issued input.now)
  | .createCertificate device read issued now =>
    if input.fails then
      (tables, .refreshed device (.error (.wrapped "issue certificate" .unavailable)))
    else
      match tables.createCertificate backend
          { id := input.newUuid, device, serial := issued.serial, certPem := issued.chainPem,
            issuedAt := now, expiresAt := issued.notAfter, revokedAt := none } input.newUuid with
      | none => (tables, .refreshed device (.error (.wrapped "issue certificate" .unavailable)))
      | some (stored, saved) => (stored, .updateLastCertIssuedAt device read saved now)
  | .updateLastCertIssuedAt device read saved now =>
    (written tables input.fails (tables.updateLastCertIssuedAt backend device now),
      if read = .enrolled then .activate device saved else .refreshed device (.ok saved))
  | .activate device saved =>
    (written tables input.fails (tables.updateEnrollmentStatus backend device .active input.now),
      .refreshed device (.ok saved))
  | .revokeEnrollment device =>
    if input.fails then
      (tables, .revoked device (.error (.wrapped "revoke enrollment" .unavailable)))
    else
      match tables.updateEnrollmentStatus backend device .revoked input.now with
      | .error error =>
        (tables, .revoked device (.error (.wrapped "revoke enrollment" (.repository error))))
      | .ok stored => (stored, .revokeCertificates device)
  | .revokeCertificates device =>
    if input.fails then
      (tables, .revoked device (.error (.wrapped "revoke certificates" .unavailable)))
    else (tables.revokeAllCertificates device input.now, .revoked device (.ok ()))
  | .refreshed device result => (tables, .refreshed device result)
  | .revoked device result => (tables, .revoked device result)

end EnrollmentCall

variable (backend : Backend)

def enrollmentService :
    Service EnrollmentTables EnrollmentRequest EnrollmentInput EnrollmentCall where
  start
    | .refreshCertificate device => .getEnrollment device
    | .revokeDevice device => .revokeEnrollment device
  advance := advance backend

/-! ## What the repository calls do -/

namespace EnrollmentTables

variable {backend : Backend} {tables stored : EnrollmentTables} {device other : DeviceKey}

variable {update : DeviceEnrollment → DeviceEnrollment}

theorem updateRow_ok (updated : tables.updateRow backend device update = .ok stored) :
    ∃ enrollment, tables.enrollments.get? device = some enrollment ∧
      ¬ (backend = .postgres ∧ enrollment.status = .revoked) ∧
      stored = { tables with
        enrollments := tables.enrollments.set device (update enrollment) } := by
  unfold updateRow at updated
  split at updated
  case h_1 => cases updated
  case h_2 enrollment found =>
    split at updated
    case isTrue => cases updated
    case isFalse changeable =>
      cases updated
      exact ⟨enrollment, found, changeable, rfl⟩

theorem status_set {enrollment : DeviceEnrollment} :
    ({ tables with enrollments := tables.enrollments.set device enrollment }).status other =
      if other = device then some enrollment.status else tables.status other := by
  unfold status
  rw [Assoc.get?_set]
  split <;> rfl

/-- A revoked enrollment stays revoked under an update that keeps the status, or
that sets it where the repository guards the row. -/
theorem revoked_of_updateRow (updated : tables.updateRow backend device update = .ok stored)
    (revoked : tables.Revoked other)
    (keeps : device = other → backend = .memory → ∀ enrollment, enrollment.status = .revoked →
      (update enrollment).status = .revoked)
    : stored.Revoked other := by
  obtain ⟨enrollment, found, changeable, rfl⟩ := updateRow_ok updated
  rw [Revoked, status_set]
  split
  case isTrue same =>
    subst same
    have isRevoked : enrollment.status = .revoked := by
      rw [Revoked, status, found] at revoked
      exact Option.some.inj revoked
    have memory : backend = .memory := by
      cases backend with
      | memory => rfl
      | postgres => exact absurd ⟨rfl, isRevoked⟩ changeable
    rw [keeps rfl memory enrollment isRevoked]
  case isFalse => exact revoked

theorem createCertificate_stored {certificate saved : DeviceCertificate} {fresh : Uuid}
    (created : tables.createCertificate backend certificate fresh = some (stored, saved)) :
    stored.enrollments = tables.enrollments ∧
      ∀ entry ∈ stored.certificates.entries, entry ∈ tables.certificates.entries ∨
        entry.2.device = certificate.device := by
  rw [createCertificate, ite_none_left_eq_some] at created
  obtain ⟨rfl, -⟩ := Prod.mk.inj (Option.some.inj created.2)
  refine ⟨rfl, ?_⟩
  intro entry member
  rcases mem_cons.mp member with rfl | kept
  · exact .inr rfl
  · exact .inl (mem_filter.mp kept).1

theorem noLiveCertificate_revokeAllCertificates {at_ : Nat}
    (before : other = device ∨ tables.NoLiveCertificate other) :
    (tables.revokeAllCertificates device at_).NoLiveCertificate other := by
  intro entry member owned
  obtain ⟨original, listed, rfl⟩ := mem_map.mp member
  dsimp only at owned ⊢
  split
  case isTrue => rfl
  case isFalse untouched =>
    rw [if_neg untouched] at owned
    rcases before with rfl | none
    · exact isSome_iff_ne_none.mpr fun live => untouched ⟨owned, live⟩
    · exact none original listed owned

end EnrollmentTables

/-! ## Revocation is final when no refresh writes after it -/

/-- When a refresh of the device stores its certificate, and on the memory store
when it activates the enrollment, the enrollment has not been revoked since. -/
def WritesBeforeRevocation (device : DeviceKey) (_ : EnrollmentInput)
    (tables : EnrollmentTables) : EnrollmentCall → Prop
  | .createCertificate target _ _ _ => target = device → ¬ tables.Revoked device
  | .activate target _ => target = device → backend = .memory → ¬ tables.Revoked device
  | _ => True

instance (backend : Backend) (device : DeviceKey) (input : EnrollmentInput)
    (tables : EnrollmentTables) (call : EnrollmentCall) :
    Decidable (WritesBeforeRevocation backend device input tables call) := by
  cases call <;> dsimp only [WritesBeforeRevocation] <;> infer_instance

namespace EnrollmentCall

open EnrollmentTables

variable {backend : Backend} {device : DeviceKey} {input : EnrollmentInput}
  {tables : EnrollmentTables} {call : EnrollmentCall}

/-- What a revocation of the device has achieved where it is. -/
def Achieved (device : DeviceKey) (tables : EnrollmentTables) : EnrollmentCall → Prop
  | .revokeCertificates target => target = device → tables.Revoked device
  | .revoked target (.ok ()) => target = device →
      tables.Revoked device ∧ tables.NoLiveCertificate device
  | _ => True

inductive Effect (backend : Backend) (tables : EnrollmentTables) :
    EnrollmentCall → EnrollmentTables → Prop where
  | none (call : EnrollmentCall) : Effect backend tables call tables
  | stored {device read issued now certificate saved fresh stored}
      (owner : certificate.device = device)
      (created : tables.createCertificate backend certificate fresh = some (stored, saved)) :
      Effect backend tables (.createCertificate device read issued now) stored
  | stamped {device read saved now stored}
      (updated : tables.updateLastCertIssuedAt backend device now = .ok stored) :
      Effect backend tables (.updateLastCertIssuedAt device read saved now) stored
  | activated {device saved now stored}
      (updated : tables.updateEnrollmentStatus backend device .active now = .ok stored) :
      Effect backend tables (.activate device saved) stored
  | revokedEnrollment {device now stored}
      (updated : tables.updateEnrollmentStatus backend device .revoked now = .ok stored) :
      Effect backend tables (.revokeEnrollment device) stored
  | revokedCertificates {device now} :
      Effect backend tables (.revokeCertificates device) (tables.revokeAllCertificates device now)

/-- A write whose result is ignored either took effect or left the tables. -/
theorem written_cases (tables : EnrollmentTables) (fails : Bool)
    (result : Except RepositoryError EnrollmentTables) :
    written tables fails result = tables ∨ result = .ok (written tables fails result) := by
  cases fails with
  | true => exact .inl rfl
  | false =>
    cases result with
    | error => exact .inl rfl
    | ok => exact .inr rfl

theorem advance_effect (backend : Backend) (input : EnrollmentInput) (tables : EnrollmentTables)
    (call : EnrollmentCall) : Effect backend tables call (advance backend input tables call).1 := by
  cases call with
  | createCertificate device read issued now =>
    rw [advance]
    split
    case isTrue => exact .none _
    split
    case h_1 => exact .none _
    case h_2 created => exact .stored rfl created
  | updateLastCertIssuedAt device read saved now =>
    rcases written_cases tables input.fails (tables.updateLastCertIssuedAt backend device now)
      with same | updated
    · rw [advance, same]
      exact .none _
    · exact .stamped updated
  | activate device saved =>
    rcases written_cases tables input.fails
        (tables.updateEnrollmentStatus backend device .active input.now) with same | updated
    · rw [advance, same]
      exact .none _
    · exact .activated updated
  | revokeEnrollment device =>
    rw [advance]
    split
    case isTrue => exact .none _
    split
    case h_1 => exact .none _
    case h_2 updated => exact .revokedEnrollment updated
  | revokeCertificates device =>
    rw [advance]
    split
    case isTrue => exact .none _
    case isFalse => exact .revokedCertificates
  | getEnrollment device =>
    rw [advance]
    repeat' split
    all_goals exact .none _
  | issue device enrollment =>
    rw [advance]
    split <;> exact .none _
  | _ => exact .none _

section

variable {stored : EnrollmentTables} (effect : Effect backend tables call stored)
  (timely : WritesBeforeRevocation backend device input tables call)
  (gone : tables.Revoked device)
include effect timely gone

theorem Effect.revoked : stored.Revoked device := by
  cases effect with
  | stored owner created =>
    rw [Revoked, status, (createCertificate_stored created).1]
    exact gone
  | stamped updated =>
    exact revoked_of_updateRow updated gone fun _ _ _ isRevoked => isRevoked
  | activated updated =>
    apply revoked_of_updateRow updated gone
    intro same memory
    exact absurd gone (timely same memory)
  | revokedEnrollment updated =>
    exact revoked_of_updateRow updated gone fun _ _ _ _ => rfl
  | _ => exact gone

theorem Effect.noLiveCertificate (none : tables.NoLiveCertificate device) :
    stored.NoLiveCertificate device := by
  cases effect with
  | none => exact none
  | stored owner created =>
    intro entry member owned
    rcases (createCertificate_stored created).2 entry member with kept | new
    · exact none entry kept owned
    · exact absurd gone (timely (by rw [← owner, ← new, owned]))
  | stamped updated | activated updated | revokedEnrollment updated =>
    obtain ⟨_, -, -, same⟩ := updateRow_ok updated
    rw [same]
    exact none
  | revokedCertificates => exact noLiveCertificate_revokeAllCertificates (.inr none)

end

theorem achieved_stable {other : EnrollmentCall}
    (timely : WritesBeforeRevocation backend device input tables call)
    (achieved : other.Achieved device tables) :
    other.Achieved device (advance backend input tables call).1 := by
  have effect := advance_effect backend input tables call
  unfold Achieved at achieved ⊢
  split
  case h_1 =>
    intro same
    exact effect.revoked timely (achieved same)
  case h_2 =>
    intro same
    have before := achieved same
    exact ⟨effect.revoked timely before.1, effect.noLiveCertificate timely before.1 before.2⟩
  case h_3 => trivial

/-- A call that moves achieves what its next place promises. -/
theorem achieved_own (achieved : call.Achieved device tables) :
    (advance backend input tables call).2.Achieved device
      (advance backend input tables call).1 := by
  cases call with
  | revokeEnrollment target =>
    rw [advance]
    split
    case isTrue => trivial
    split
    case h_1 => trivial
    case h_2 updated =>
      rintro rfl
      obtain ⟨_, -, -, rfl⟩ := updateRow_ok updated
      rw [Revoked, status_set, if_pos rfl]
  | revokeCertificates target =>
    rw [advance]
    split
    case isTrue => trivial
    intro same
    exact ⟨achieved same, noLiveCertificate_revokeAllCertificates (.inl same.symm)⟩
  | revoked target result => exact achieved
  | updateLastCertIssuedAt =>
    rw [advance]
    split <;> trivial
  | activate | refreshed => trivial
  | _ =>
    rw [advance]
    repeat' split
    all_goals trivial

end EnrollmentCall

/-- The device holds nothing it could use: its enrollment and all its
certificates are revoked. -/
def EnrollmentTables.DeviceRevoked (tables : EnrollmentTables) (device : DeviceKey) : Prop :=
  tables.Revoked device ∧ tables.NoLiveCertificate device

instance (tables : EnrollmentTables) (device : DeviceKey) :
    Decidable (tables.DeviceRevoked device) :=
  inferInstanceAs (Decidable (_ ∧ _))

/-- **A revoked device holds no usable certificate**, on either repository and in
every run in which no refresh of the device writes after its enrollment was
revoked: from the return of a `RevokeDevice` call on, whatever other calls are
under way. -/
theorem revoked_device_holds_no_certificate (device : DeviceKey)
    (tables : EnrollmentTables) (moves : List (Move EnrollmentRequest EnrollmentInput))
    (timely : AlongRun (enrollmentService backend).step
      (Service.AtCall (WritesBeforeRevocation backend device)) (Service.idle tables) moves)
    (call : EnrollmentCall) (listed : call ∈ ((enrollmentService backend).run tables moves).calls)
    (returned : call.revokedOk device) :
    ((enrollmentService backend).run tables moves).store.DeviceRevoked device := by
  have asserted : Service.Asserts (fun _ => True) (fun tables call => call.Achieved device tables)
      ((enrollmentService backend).run tables moves) := by
    apply Service.run_asserts _ _ _ _ _ trivial (timely.imp fun _ _ => Service.atMove_store_iff.mpr)
    · intro _ request _
      cases request <;> trivial
    · intro _ _ call asserted underWay _
      exact ⟨trivial, achieved_own (asserted.calls call underWay)⟩
    · intro _ _ _ other asserted apart timely
      exact achieved_stable timely (asserted.calls other apart.mem_right)
  have achieved := asserted.calls call listed
  unfold revokedOk at returned
  split at returned
  case h_1 target => exact achieved (of_decide_eq_true returned)
  case h_2 => cases returned

def sampleDevice : DeviceKey := ⟨1, 2⟩

def sampleEnrollment : EnrollmentTables where
  enrollments := Assoc.empty.set sampleDevice
    { publicKey := replicate 32 7, status := .enrolled, enrolledAt := 100,
      lastCertIssuedAt := none, revokedAt := none }
  certificates := .empty

def sampleInput (now : Nat) : EnrollmentInput where
  fails := false
  now
  newUuid := now
  issue _ _ now := some ⟨"01", "chain", now + 86400⟩

def refreshThenRevoke : List (Move EnrollmentRequest EnrollmentInput) :=
  [.request (.refreshCertificate sampleDevice), .resume 0 (sampleInput 200),
    .resume 0 (sampleInput 201), .resume 0 (sampleInput 202), .resume 0 (sampleInput 203),
    .resume 0 (sampleInput 204), .request (.revokeDevice sampleDevice),
    .resume 1 (sampleInput 205), .resume 1 (sampleInput 206)]

theorem refreshThenRevoke_leaves_no_certificate :
    ((enrollmentService .postgres).run sampleEnrollment refreshThenRevoke).store.DeviceRevoked
      sampleDevice :=
  revoked_device_holds_no_certificate .postgres sampleDevice sampleEnrollment refreshThenRevoke
    (by decide) (.revoked sampleDevice (.ok ())) (by decide) (by decide)

/-- A refresh that reads the enrollment, and goes on when the revocation has
returned. -/
def refreshAcrossRevocation : List (Move EnrollmentRequest EnrollmentInput) :=
  [.request (.refreshCertificate sampleDevice), .resume 0 (sampleInput 200),
    .request (.revokeDevice sampleDevice), .resume 1 (sampleInput 201),
    .resume 1 (sampleInput 202), .resume 0 (sampleInput 203), .resume 0 (sampleInput 204),
    .resume 0 (sampleInput 205), .resume 0 (sampleInput 206)]

def afterLateRefresh : Shared EnrollmentTables EnrollmentCall :=
  (enrollmentService backend).run sampleEnrollment refreshAcrossRevocation

def revocationReturned (device : DeviceKey) (system : Shared EnrollmentTables EnrollmentCall) :
    Bool :=
  system.calls.all finished && system.calls.any (revokedOk device)

/-- **A late refresh outlives the revocation.** All calls have returned, the
revocation Ok, and the device holds a live certificate on both repositories; on the
memory store its enrollment is active again. -/
theorem late_refresh_outlives_revocation :
    (revocationReturned sampleDevice (afterLateRefresh .postgres) ∧
      ¬ (afterLateRefresh .postgres).store.NoLiveCertificate sampleDevice) ∧
    (revocationReturned sampleDevice (afterLateRefresh .memory) ∧
      ¬ (afterLateRefresh .memory).store.NoLiveCertificate sampleDevice ∧
      (afterLateRefresh .memory).store.status sampleDevice = some .active) := by
  decide

/-! ## Revocations that are tried again -/

open EnrollmentTables

/-- A `RevokeDevice` call on Postgres that runs alone, with what its two repository calls meet. -/
def retryRevocation (device : DeviceKey) (tables : EnrollmentTables)
    (attempt : EnrollmentInput × EnrollmentInput) : EnrollmentTables :=
  ((enrollmentService .postgres).alone [attempt.1, attempt.2] tables (.revokeDevice device)).1

def EnrollmentTables.Enrolled (tables : EnrollmentTables) (device : DeviceKey) : Prop :=
  ∃ enrollment, tables.enrollments.get? device = some enrollment ∧ enrollment.status ≠ .revoked

/-- From an enrolled or a wholly revoked device, a call that does not fail between its two
steps leaves one of the two again, and an enrolled device only if its first step failed. -/
theorem retryRevocation_cases {device : DeviceKey} {tables : EnrollmentTables}
    (attempt : EnrollmentInput × EnrollmentInput)
    (whole : tables.Enrolled device ∨ tables.DeviceRevoked device)
    (both : attempt.2.fails → attempt.1.fails) :
    (attempt.1.fails ∧ (retryRevocation device tables attempt).Enrolled device) ∨
      (retryRevocation device tables attempt).DeviceRevoked device := by
  have steps : retryRevocation device tables attempt = (advance .postgres attempt.2
      (advance .postgres attempt.1 tables (.revokeEnrollment device)).1
      (advance .postgres attempt.1 tables (.revokeEnrollment device)).2).1 := rfl
  rw [steps]
  cases first : attempt.1.fails with
  | true =>
    simp only [advance, first, if_true]
    exact whole.imp_left (And.intro trivial)
  | false =>
    have second : attempt.2.fails = false := by simpa [first] using both
    right
    rcases whole with ⟨enrollment, found, live⟩ | done
    · simp only [advance, first, second, updateEnrollmentStatus, updateRow, found, live, and_false,
        Bool.false_eq_true, if_false]
      refine ⟨?_, noLiveCertificate_revokeAllCertificates (.inl rfl)⟩
      simp [Revoked, status, revokeAllCertificates, Assoc.get?_set]
    · obtain ⟨enrollment, found, gone⟩ := map_eq_some_iff.mp done.1
      simp only [advance, first, updateEnrollmentStatus, updateRow, found, gone, and_self,
        Bool.false_eq_true, if_false, if_true]
      exact done

/-- **A revocation can be completed** after any failed calls none of which failed at its
certificates with the enrollment already revoked. -/
theorem revocation_completes (device : DeviceKey) (tables : EnrollmentTables)
    (attempts : List (EnrollmentInput × EnrollmentInput)) (last : EnrollmentInput × EnrollmentInput)
    (enrolled : tables.Enrolled device)
    (both : ∀ attempt ∈ attempts, attempt.2.fails → attempt.1.fails)
    (answered : last.1.fails = false ∧ last.2.fails = false) :
    (retryRevocation device (attempts.foldl (retryRevocation device) tables) last).DeviceRevoked
      device := by
  have whole := Or.inl (b := tables.DeviceRevoked device) enrolled
  clear enrolled
  induction attempts generalizing tables with
  | nil =>
    rcases retryRevocation_cases last whole (by simp [answered]) with ⟨failed, -⟩ | done
    · simp [answered] at failed
    · exact done
  | cons attempt rest ih =>
    have next := retryRevocation_cases attempt whole (both attempt mem_cons_self)
    exact ih _ (fun later member => both later (mem_cons_of_mem _ member)) (next.imp_left And.right)

def refusedInput : EnrollmentInput := { sampleInput 300 with fails := true }

theorem refused_revocation_completes :
    (retryRevocation sampleDevice
      (retryRevocation sampleDevice sampleEnrollment (refusedInput, refusedInput))
      (sampleInput 301, sampleInput 302)).DeviceRevoked sampleDevice :=
  revocation_completes sampleDevice sampleEnrollment [(refusedInput, refusedInput)]
    (sampleInput 301, sampleInput 302) ⟨_, rfl, by decide⟩ (by decide) (by decide)

def sampleCertified : EnrollmentTables :=
  { sampleEnrollment with
    certificates := Assoc.empty.set 5
      { id := 5, device := sampleDevice, serial := "01", certPem := "chain", issuedAt := 150,
        expiresAt := 86550, revokedAt := none } }

/-- A call that fails at the certificates leaves one that no later call revokes. -/
theorem half_revocation_stays :
    ¬ (retryRevocation sampleDevice
      (retryRevocation sampleDevice sampleCertified (sampleInput 300, refusedInput))
      (sampleInput 301, sampleInput 302)).NoLiveCertificate sampleDevice := by
  decide

end ShieldNet.Identity
