import ShieldNet.Policy.Served

/-!
# Bundles under a revoked key

Compiles, rotations and revocations of all tenants run at once, each repository
call one step. A compile resolves the active key once and signs four bundles with
it in later steps, so a revocation that falls between leaves it signing with the
revoked key.

In every run in which no compile that has resolved the key is under way when a
`Revoke` of it takes effect, no bundle with the key is stored once a `Revoke` has
returned (`revoked_key_signs_nothing_new`). A compile that starts later cannot
resolve the key: a tenant has a key id once, and a revoked key stays revoked.
-/

namespace ShieldNet.Policy

open Service List

open Identity (Uuid nilUuid RepositoryError)

/-- When a `Revoke` of the key is about to take effect, no call under way has
resolved the key to sign with it. -/
def RevokesUnused (tenant : Uuid) (keyId : String) (input : CompileInput)
    (system : Shared PolicyStore PolicyCall) : PolicyCall → Prop
  | .revoke owner revokedId => owner = tenant → revokedId = keyId → input.fails = false →
      ∀ other ∈ system.calls, other.tenant = tenant →
        ∀ prepared ∈ other.prepared?, prepared.keyId ≠ keyId
  | _ => True

instance (tenant : Uuid) (keyId : String) (input : CompileInput)
    (system : Shared PolicyStore PolicyCall) (call : PolicyCall) :
    Decidable (RevokesUnused tenant keyId input system call) := by
  cases call <;> dsimp only [RevokesUnused] <;> infer_instance

/-- Every bundle of the tenant with the key was there earlier. -/
def PolicyTables.NothingNew (earlier : PolicyTables) (tenant : Uuid) (keyId : String)
    (later : PolicyTables) : Prop :=
  ∀ bundle ∈ later.bundles.rows, later.ownsGraph tenant bundle.policyGraphId = true →
    bundle.keyId = keyId → bundle ∈ earlier.bundles.rows

namespace PolicyCall

open SigningKeys

variable {config : CompileConfig} {input : CompileInput} {store stored : PolicyStore}
  {call other : PolicyCall} {tenant : Uuid} {keyId : String}

/-! ## What a step does to revoked keys -/

theorem Effect.revoked_kept (effect : Effect config input store call stored)
    (revoked : store.keys.Revoked tenant keyId) : stored.keys.Revoked tenant keyId := by
  cases effect with
  | keyCreated created => exact (revoked_createIfNoHistory_iff created).mpr revoked
  | rotated rotated => exact (revoked_rotate_iff rotated).mpr revoked
  | revoked _ result => exact (revoked_revoke_iff result).mpr (.inl revoked)
  | _ => exact revoked

theorem Effect.revoked_cases (effect : Effect config input store call stored)
    (revoked : stored.keys.Revoked tenant keyId) :
    store.keys.Revoked tenant keyId ∨ (call = .revoke tenant keyId ∧ input.fails = false) := by
  cases effect with
  | keyCreated created =>
    exact .inl ((revoked_createIfNoHistory_iff created).mp revoked)
  | rotated rotated => exact .inl ((revoked_rotate_iff rotated).mp revoked)
  | revoked connected result =>
    rcases (revoked_revoke_iff result).mp revoked with before | ⟨rfl, rfl⟩
    · exact .inl before
    · exact .inr ⟨rfl, connected⟩
  | _ => exact .inl revoked

/-! ## What a call knows of the key -/

/-- A call that has resolved the key finds it unrevoked, and a `Revoke` of it that
has returned finds it revoked. -/
structure KnowsKey (tenant : Uuid) (keyId : String) (store : PolicyStore) (call : PolicyCall) :
    Prop where
  prepared : call.tenant = tenant → ∀ prepared ∈ call.prepared?, prepared.keyId = keyId →
    ¬ store.keys.Revoked tenant keyId
  returned : ∀ key, call = .revoked tenant keyId (.ok key) → store.keys.Revoked tenant keyId

theorem knowsKey_start (request : PolicyRequest) : KnowsKey tenant keyId store (start request) := by
  constructor
  · cases request <;> exact fun _ _ => nofun
  · cases request <;> exact fun _ => nofun

theorem compiles_of_prepared {prepared : PreparedSigning} (has : prepared ∈ call.prepared?) :
    call.compiles := by
  cases call <;> first | rfl | cases has

theorem revoked_of_returned {key : PolicySigningKey} (knows : KnowsKey tenant keyId store call)
    (returned : (advance config input store call).2 = .revoked tenant keyId (.ok key)) :
    (advance config input store call).1.keys.Revoked tenant keyId := by
  have compiles := (advance_stepped config input store call).compiles
  rw [returned] at compiles
  cases call with
  | revoke owner revokedId =>
    rw [advance] at returned ⊢
    split at returned
    case isTrue => cases returned
    case isFalse connected =>
      rw [if_neg connected]
      split at returned
      case h_1 => cases returned
      case h_2 keys saved result =>
        cases returned
        exact (revoked_revoke_iff result).mpr (.inr ⟨rfl, rfl⟩)
  | revoked owner revokedId result => exact knows.returned key returned
  | rotate =>
    rw [advance] at returned
    repeat' split at returned
    all_goals cases returned
  | rotated => cases returned
  | _ => cases compiles

theorem knowsKey_own (knows : KnowsKey tenant keyId store call) :
    KnowsKey tenant keyId (advance config input store call).1
      (advance config input store call).2 := by
  have stepped := advance_stepped config input store call
  refine ⟨?_, fun key returned => revoked_of_returned knows returned⟩
  intro owner prepared has named revoked
  rw [stepped.tenant] at owner
  rcases stepped.effect.revoked_cases revoked with before | ⟨rfl, -⟩
  · rcases stepped.prepared prepared has with known | ⟨active, isActive, same⟩
    · exact knows.prepared owner prepared known named before
    · rw [owner] at isActive
      rw [← named, same] at before
      exact not_revoked_of_getActive isActive before
  · have compiles := stepped.compiles
    rw [compiles_of_prepared has] at compiles
    cases compiles

/-- What a call knows of the key stands while other calls move, unless they revoke
the key under it. -/
theorem knowsKey_stable (effect : Effect config input store call stored)
    (knows : KnowsKey tenant keyId store other)
    (unused : call = .revoke tenant keyId → input.fails = false → other.tenant = tenant →
      ∀ prepared ∈ other.prepared?, prepared.keyId ≠ keyId) :
    KnowsKey tenant keyId stored other := by
  refine ⟨?_, fun key returned => effect.revoked_kept (knows.returned key returned)⟩
  intro owner prepared has named revoked
  rcases effect.revoked_cases revoked with before | ⟨revokes, connected⟩
  · exact knows.prepared owner prepared has named before
  · exact unused revokes connected owner prepared has named

/-! ## What a step stores -/

theorem Effect.nothingNew {earlier : PolicyTables} (effect : Effect config input store call stored)
    (knows : KnowsKey tenant keyId store call) (revoked : store.keys.Revoked tenant keyId)
    (nothing : earlier.NothingNew tenant keyId store.tables) :
    earlier.NothingNew tenant keyId stored.tables := by
  cases effect with
  | saved _ created =>
    obtain ⟨ownsOwn, rfl, inserted, -, graphs, -⟩ := PolicyTables.createBundle_ok created
    intro bundle listed owns named
    rw [PolicyTables.ownsGraph, graphs] at owns
    rw [(Table.mem_rows_insert? inserted).2, mem_append, mem_singleton] at listed
    rcases listed with old | rfl
    · exact nothing bundle old owns named
    · have owner := PolicyTables.ownsGraph_unique owns ownsOwn
      exact absurd revoked (knows.prepared owner _ rfl named)
  | _ => exact nothing

end PolicyCall

theorem step_knowsKey (config : CompileConfig) {tenant : Uuid} {keyId : String}
    {system : Shared PolicyStore PolicyCall} {move : Move PolicyRequest CompileInput}
    (asserted : Asserts (fun _ => True) (PolicyCall.KnowsKey tenant keyId) system)
    (unused : AtMove (RevokesUnused tenant keyId) system move) :
    Asserts (fun _ => True) (PolicyCall.KnowsKey tenant keyId)
      ((policyService config).step system move) := by
  apply step_asserts _ _ _ asserted unused
  · intro store request _
    exact PolicyCall.knowsKey_start request
  · intro input system call asserted underWay _
    exact ⟨trivial, PolicyCall.knowsKey_own (asserted.calls call underWay)⟩
  · intro input system call other asserted apart unused
    apply PolicyCall.knowsKey_stable
      (PolicyCall.advance_stepped config input system.store call).effect
      (asserted.calls other apart.mem_right)
    rintro rfl connected
    exact unused rfl rfl connected other apart.mem_right

/-- **A revoked key signs nothing new**, in every run in which no call that has
resolved the key is under way when a `Revoke` of it takes effect: from the return of
a `Revoke` of the key on, no bundle of the tenant with the key is stored, whatever
calls are under way. -/
theorem revoked_key_signs_nothing_new (config : CompileConfig) (store : PolicyStore) (tenant : Uuid)
    (keyId : String) (before after : List (Move PolicyRequest CompileInput))
    (unused : AlongRun (policyService config).step (AtMove (RevokesUnused tenant keyId))
      (idle store) (before ++ after)) (key : PolicySigningKey)
    (returned : .revoked tenant keyId (.ok key) ∈ ((policyService config).run store before).calls) :
    ((policyService config).run store before).store.tables.NothingNew tenant keyId
      ((policyService config).run store (before ++ after)).store.tables := by
  obtain ⟨early, late⟩ := alongRun_append.mp unused
  have asserted : Asserts (fun _ => True) (PolicyCall.KnowsKey tenant keyId)
      ((policyService config).run store before) :=
    early.invariant _ (fun _ _ asserted unused => step_knowsKey config asserted unused)
      (asserts_idle trivial)
  have revoked := (asserted.calls _ returned).returned key rfl
  have final := late.invariant (fun system =>
      Asserts (fun _ => True) (PolicyCall.KnowsKey tenant keyId) system ∧
        system.store.keys.Revoked tenant keyId ∧
        ((policyService config).run store before).store.tables.NothingNew tenant keyId
          system.store.tables) ?_ ⟨asserted, revoked, fun _ listed _ _ => listed⟩
  · rw [run_append]
    exact final.2.2
  · rintro system move ⟨asserted, revoked, nothing⟩ unused
    refine ⟨step_knowsKey config asserted unused, ?_⟩
    rcases step_store (policyService config) system move with
      same | ⟨input, call, underWay, moved⟩
    · rw [same]
      exact ⟨revoked, nothing⟩
    · have effect := (PolicyCall.advance_stepped config input system.store call).effect
      rw [moved]
      exact ⟨effect.revoked_kept revoked,
        effect.nothingNew (asserted.calls call underWay) revoked nothing⟩

def compileThenRevoke : List (Move PolicyRequest CompileInput) :=
  .request (.compile 1) :: replicate 9 (.resume 0 (sampleCompileInput "k1" 10)) ++
    [.request (.revoke 1 "k1"), .resume 1 (sampleCompileInput "" 20)]

def compileAfterwards : List (Move PolicyRequest CompileInput) :=
  .request (.compile 1) :: replicate 9 (.resume 2 (sampleCompileInput "k2" 30))

theorem compileThenRevoke_signs_nothing_new :
    ((policyService sampleConfig).run sampleUncompiledStore
      compileThenRevoke).store.tables.NothingNew 1 "k1"
        ((policyService sampleConfig).run sampleUncompiledStore
          (compileThenRevoke ++ compileAfterwards)).store.tables :=
  revoked_key_signs_nothing_new sampleConfig sampleUncompiledStore 1 "k1" compileThenRevoke
    compileAfterwards (by decide) _ (mem_of_getElem? (i := 1) rfl)

/-- A compile that has resolved its key, and then a revocation of the key. -/
def revokeWhileSigning : List (Move PolicyRequest CompileInput) :=
  .request (.compile 1) :: replicate 5 (.resume 0 (sampleCompileInput "k1" 10)) ++
    [.request (.revoke 1 "k1"), .resume 1 (sampleCompileInput "" 20)]

/-- **A compile goes on signing with a key that has been revoked.** The `Revoke` has
returned and nothing is stored; the next step of the compile stores an edge bundle
with the revoked key, and it is the one served. -/
theorem compile_signs_with_revoked_key :
    let revoked := (policyService sampleConfig).run sampleUncompiledStore revokeWhileSigning
    let final := (policyService sampleConfig).run sampleUncompiledStore
      (revokeWhileSigning ++ [.resume 0 (sampleCompileInput "k1" 30)])
    (∃ key, .revoked 1 "k1" (.ok key) ∈ revoked.calls) ∧ revoked.store.tables.bundles.rows = [] ∧
      final.store.keys.Revoked 1 "k1" ∧
      (final.store.tables.getLatestBundle 1 .edge).map PolicyBundle.keyId = some "k1" :=
  ⟨⟨_, mem_of_getElem? (i := 1) rfl⟩, rfl, by decide, rfl⟩

end ShieldNet.Policy
