import ShieldNet.Identity.Store
import ShieldNet.Lib.Fallible

/-!
# Signing keys

`policy_signing_keys` with the operations of
`internal/repository/memory/policy_signing_key.go`, each as one step. A tenant has
a key id once. A key that is revoked stays revoked under every operation, no
operation but `revoke` revokes one, and an active key is not revoked.
-/

namespace ShieldNet.Policy

open List

open Identity (Uuid nilUuid RepositoryError)

inductive PolicySigningKeyStatus where
  | active
  | rotated
  | revoked
  deriving DecidableEq

/-- `PolicySigningKey`; the algorithm is always `ed25519`. -/
structure PolicySigningKey where
  id : Uuid
  tenantId : Uuid
  keyId : String
  publicKey : List UInt8
  privateKey : List UInt8
  status : PolicySigningKeyStatus
  activatedAt : Nat
  rotatedAt : Option Nat
  revokedAt : Option Nat

structure KeyMaterial where
  id : Uuid
  keyId : String
  publicKey : List UInt8
  privateKey : List UInt8

def KeyMaterial.complete (material : KeyMaterial) : Bool :=
  material.keyId ≠ "" && material.publicKey ≠ [] && material.privateKey ≠ []

def KeyMaterial.activeKey (material : KeyMaterial) (tenant : Uuid) (now : Nat) :
    PolicySigningKey where
  id := material.id
  tenantId := tenant
  keyId := material.keyId
  publicKey := material.publicKey
  privateKey := material.privateKey
  status := .active
  activatedAt := now
  rotatedAt := none
  revokedAt := none

def PolicySigningKey.keyIndex (key : PolicySigningKey) : Uuid × String := (key.tenantId, key.keyId)

structure SigningKeys where
  keys : Table PolicySigningKey.id
  keyIds_distinct : Table.UniqueOn PolicySigningKey.keyIndex keys.rows

namespace SigningKeys

def empty : SigningKeys where
  keys := .empty
  keyIds_distinct _ member := absurd member not_mem_nil

variable (keys : SigningKeys)

def getActive (tenant : Uuid) : Option PolicySigningKey :=
  keys.keys.rows.find? fun key => key.tenantId = tenant && key.status = .active

def insertKey (key : PolicySigningKey) : Option SigningKeys :=
  match inserted : keys.keys.insertUnique? PolicySigningKey.keyIndex key with
  | none => none
  | some stored => some ⟨stored, keys.keyIds_distinct.insertUnique? inserted⟩

def setStatus (id : Uuid) (status : PolicySigningKeyStatus)
    (rotatedAt revokedAt : Option Nat) : SigningKeys where
  keys := keys.keys.modify id (fun key => { key with status, rotatedAt, revokedAt })
    fun _ same => same
  keyIds_distinct := keys.keyIds_distinct.modify fun _ => rfl

variable (tenants : List Uuid)

def insertActive (tenant : Uuid) (material : KeyMaterial)
    (refused : Bool) (now : Nat) : Except RepositoryError (SigningKeys × PolicySigningKey) :=
  if tenant = nilUuid ∨ material.complete = false then .error .invalidArgument
  else if tenant ∉ tenants then .error .notFound
  else if refused then .error .conflict
  else
    match keys.insertKey (material.activeKey tenant now) with
    | none => .error .conflict
    | some stored => .ok (stored, material.activeKey tenant now)

/-- `Create`, of an active key: refused while the tenant has one. -/
def create (tenant : Uuid) (material : KeyMaterial)
    (now : Nat) : Except RepositoryError (SigningKeys × PolicySigningKey) :=
  keys.insertActive tenants tenant material (keys.getActive tenant).isSome now

/-- Refused when the tenant ever had a key. -/
def createIfNoHistory (tenant : Uuid) (material : KeyMaterial) (now : Nat) :
    Except RepositoryError (SigningKeys × PolicySigningKey) :=
  keys.insertActive tenants tenant material
    (keys.keys.rows.any fun key => key.tenantId = tenant) now

def rotate (tenant : Uuid) (material : KeyMaterial) (now : Nat) :
    Except RepositoryError (SigningKeys × PolicySigningKey) :=
  if tenant = nilUuid ∨ material.complete = false then .error .invalidArgument
  else
    match keys.getActive tenant with
    | none => .error .notFound
    | some previous =>
      match (keys.setStatus previous.id .rotated (some now) previous.revokedAt).insertKey
          (material.activeKey tenant now) with
      | none => .error .conflict
      | some stored => .ok (stored, material.activeKey tenant now)

def revoke (tenant : Uuid) (keyId : String) (now : Nat) :
    Except RepositoryError (SigningKeys × PolicySigningKey) :=
  if keyId = "" then .error .invalidArgument
  else
    match keys.keys.rows.find? fun key => key.tenantId = tenant && key.keyId = keyId with
    | none => .error .notFound
    | some key =>
      if key.status = .revoked then .error .notFound
      else .ok (keys.setStatus key.id .revoked key.rotatedAt (some now),
        { key with status := .revoked, revokedAt := some now })

/-! ## What the operations do -/

variable {keys stored : SigningKeys} {tenants : List Uuid} {tenant : Uuid} {material : KeyMaterial}
  {saved : PolicySigningKey} {now : Nat}

variable {key : PolicySigningKey}

theorem insertKey_eq_some (inserted : keys.insertKey key = some stored) :
    key.keyIndex ∉ keys.keys.rows.map PolicySigningKey.keyIndex ∧
      stored.keys.rows = keys.keys.rows ++ [key] := by
  unfold insertKey at inserted
  split at inserted
  case h_1 => cases inserted
  case h_2 table result =>
    cases inserted
    obtain ⟨free, result⟩ := Table.insertUnique?_eq_some_iff.mp result
    exact ⟨free, (Table.mem_rows_insert? result).2⟩

theorem insertActive_ok {refused : Bool}
    (inserted : keys.insertActive tenants tenant material refused now = .ok (stored, saved)) :
    refused = false ∧ saved = material.activeKey tenant now ∧
      saved.keyIndex ∉ keys.keys.rows.map PolicySigningKey.keyIndex ∧
      stored.keys.rows = keys.keys.rows ++ [saved] := by
  obtain ⟨-, inserted⟩ := ite_error_eq_ok inserted
  obtain ⟨-, inserted⟩ := ite_error_eq_ok inserted
  obtain ⟨allowed, inserted⟩ := ite_error_eq_ok inserted
  split at inserted
  case h_1 => cases inserted
  case h_2 inserted' =>
    cases inserted
    exact ⟨eq_false_of_ne_true allowed, rfl, insertKey_eq_some inserted'⟩

/-- `CreateIfNoHistory` makes a tenant's first key. -/
theorem createIfNoHistory_ok
    (created : keys.createIfNoHistory tenants tenant material now = .ok (stored, saved)) :
    (∀ key ∈ keys.keys.rows, key.tenantId ≠ tenant) ∧ saved = material.activeKey tenant now ∧
      stored.keys.rows = keys.keys.rows ++ [saved] := by
  obtain ⟨unheard, isSaved, -, rows⟩ := insertActive_ok created
  refine ⟨?_, isSaved, rows⟩
  simpa using unheard

/-! ## Revoked keys -/

def Revoked (keys : SigningKeys) (tenant : Uuid) (keyId : String) : Prop :=
  ∃ key ∈ keys.keys.rows, key.tenantId = tenant ∧ key.keyId = keyId ∧ key.status = .revoked

instance (keys : SigningKeys) (tenant : Uuid) (keyId : String) :
    Decidable (keys.Revoked tenant keyId) :=
  inferInstanceAs (Decidable (∃ key ∈ _, _))

variable {keyId : String} {owner : Uuid}

theorem revoked_insertKey_iff (active : key.status = .active)
    (inserted : keys.insertKey key = some stored) :
    stored.Revoked tenant keyId ↔ keys.Revoked tenant keyId := by
  rw [Revoked, (insertKey_eq_some inserted).2]
  simp [Revoked, or_and_right, exists_or, active]

theorem revoked_createIfNoHistory_iff
    (created : keys.createIfNoHistory tenants owner material now = .ok (stored, saved)) :
    stored.Revoked tenant keyId ↔ keys.Revoked tenant keyId := by
  obtain ⟨-, rfl, rows⟩ := createIfNoHistory_ok created
  rw [Revoked, rows]
  simp [Revoked, or_and_right, exists_or, KeyMaterial.activeKey]

theorem revoked_setStatus_iff (listed : key ∈ keys.keys.rows) {status : PolicySigningKeyStatus}
    {rotatedAt revokedAt : Option Nat} :
    (keys.setStatus key.id status rotatedAt revokedAt).Revoked tenant keyId ↔
      (keys.Revoked tenant keyId ∧ key.keyIndex ≠ (tenant, keyId)) ∨
        (status = .revoked ∧ key.keyIndex = (tenant, keyId)) := by
  have sameKey : ∀ row ∈ keys.keys.rows, row.id = key.id → row = key := fun row rowListed same =>
    inj_on_of_nodup_map keys.keys.distinct rowListed listed same
  constructor
  · rintro ⟨changed, member, owned, named, revoked⟩
    obtain ⟨row, rowListed, rfl⟩ := mem_map.mp member
    by_cases same : row.id = key.id
    · rw [if_pos same] at owned named revoked
      rw [sameKey row rowListed same] at owned named
      exact .inr ⟨revoked, Prod.ext owned named⟩
    · rw [if_neg same] at owned named revoked
      refine .inl ⟨⟨row, rowListed, owned, named, revoked⟩, ?_⟩
      intro index
      apply same
      rw [keys.keyIds_distinct row rowListed key listed (index ▸ Prod.ext owned named)]
  · rintro (⟨⟨row, rowListed, owned, named, revoked⟩, other⟩ | ⟨revoked, index⟩)
    · refine ⟨row, mem_map.mpr ⟨row, rowListed, if_neg ?_⟩, owned, named, revoked⟩
      intro same
      rw [← sameKey row rowListed same] at other
      exact other (Prod.ext owned named)
    · exact ⟨_, mem_map.mpr ⟨key, listed, if_pos rfl⟩, congrArg Prod.fst index,
        congrArg Prod.snd index, revoked⟩

theorem not_revoked_of_getActive (active : keys.getActive tenant = some key)
    : ¬ keys.Revoked tenant key.keyId := by
  rintro ⟨other, listed, owned, named, revoked⟩
  have found := find?_some active
  rw [Bool.and_eq_true, decide_eq_true_eq, decide_eq_true_eq] at found
  have same := keys.keyIds_distinct other listed key (mem_of_find?_eq_some active) (by
    rw [PolicySigningKey.keyIndex, PolicySigningKey.keyIndex, owned, named, found.1])
  rw [same, found.2] at revoked
  cases revoked

theorem revoked_rotate_iff (rotated : keys.rotate owner material now = .ok (stored, saved)) :
    stored.Revoked tenant keyId ↔ keys.Revoked tenant keyId := by
  obtain ⟨-, rotated⟩ := ite_error_eq_ok rotated
  split at rotated
  case h_1 => cases rotated
  case h_2 previous active =>
    split at rotated
    case h_1 => cases rotated
    case h_2 inserted =>
      cases rotated
      rw [revoked_insertKey_iff rfl inserted, revoked_setStatus_iff (mem_of_find?_eq_some active)]
      have unrevoked : keys.Revoked tenant keyId → previous.keyIndex ≠ (tenant, keyId) := by
        rintro revoked index
        have found := find?_some active
        rw [Bool.and_eq_true, decide_eq_true_eq] at found
        cases index
        rw [found.1] at revoked
        exact not_revoked_of_getActive active revoked
      simpa using unrevoked

theorem revoked_revoke_iff {revokedId : String}
    (revoked : keys.revoke owner revokedId now = .ok (stored, saved)) :
    stored.Revoked tenant keyId ↔
      keys.Revoked tenant keyId ∨ (owner = tenant ∧ revokedId = keyId) := by
  obtain ⟨-, revoked⟩ := ite_error_eq_ok revoked
  split at revoked
  case h_1 => cases revoked
  case h_2 key found =>
    obtain ⟨-, revoked⟩ := ite_error_eq_ok revoked
    cases revoked
    have named := find?_some found
    rw [Bool.and_eq_true, decide_eq_true_eq, decide_eq_true_eq] at named
    rw [revoked_setStatus_iff (mem_of_find?_eq_some found), PolicySigningKey.keyIndex,
      named.1, named.2, ne_eq, Prod.mk.injEq]
    tauto

end SigningKeys
end ShieldNet.Policy
