import ShieldNet.Policy.Compiler
import ShieldNet.Policy.Rollout

/-!
# What devices are served

A tenant creates graphs, compiles, and rolls proposals out and back, one operation
after another. `GetCurrentGraph` skips drafts; `GetLatestBundle` takes the bundle
of the newest graph whether it is a draft or not. A rollback turns its graph into
a draft and leaves the bundles, so devices go on being served the graph that was
rolled back if it was compiled while it was live.

Devices are served live policy throughout, and after each rollback of a live
rollout the policy that is current then, exactly when at each such rollback the
newest other live graph is the newest one compiled (`served_live_iff`).
-/

namespace ShieldNet.Policy

open CanaryCall Option List

open Identity (Uuid nilUuid RepositoryError)

/-! ## Operations -/

/-- An operation of a tenant, with the inputs of its steps: it may end early, when
the world has no more of them. -/
inductive PolicyOperation where
  | createGraph (version : Nat) (document : Json) (isDraft : Bool) (newId now : Nat)
  | compile (inputs : List CompileInput)
  | startDryRun (request : StartDryRunInput) (inputs : List CanaryInput)
  | advance (rollout : Uuid) (request : AdvanceInput) (inputs : List CanaryInput)

open PolicyOperation

def PolicyOperation.rollback (rollout : Uuid) (actorId : Option Uuid) (notes : String)
    (inputs : List CanaryInput) : PolicyOperation :=
  .advance rollout { nextStage := .rolledBack, canaryPercent := 0, actorId, notes } inputs

def PolicyOperation.apply (config : CompileConfig) (tenant : Uuid) (store : PolicyStore) :
    PolicyOperation → PolicyStore
  | .createGraph version document isDraft newId now =>
    match store.tables.createGraph tenant version document isDraft newId now with
    | .ok (tables, _) => { store with tables }
    | .error _ => store
  | .compile inputs => ((policyService config).alone inputs store (.compile tenant)).1
  | .startDryRun request inputs =>
    { store with tables :=
        ((canaryService config.texts).alone inputs store.tables (.startDryRun tenant request)).1 }
  | .advance rollout request inputs =>
    { store with tables := ((canaryService config.texts).alone inputs store.tables
          (.advance tenant rollout request)).1 }

/-! ## What is served -/

variable (tables : PolicyTables) (tenant : Uuid)

/-- Every bundle served to the tenant is of a graph that is no draft. -/
def PolicyTables.ServedLive : Prop := ∀ target, ∀ bundle ∈ tables.getLatestBundle tenant target,
    tables.draftMark bundle.policyGraphId = some false

instance (tables : PolicyTables) (tenant : Uuid) : Decidable (tables.ServedLive tenant) :=
  inferInstanceAs (Decidable (∀ _ : BundleTarget, _))

def PolicyTables.ServedIsCurrent : Prop :=
  ∀ target, ∀ bundle ∈ tables.getLatestBundle tenant target,
    (tables.getCurrentGraph tenant).map PolicyGraph.id = some bundle.policyGraphId

def PolicyTables.newestLiveExcept (tenant graph : Uuid) : Option PolicyGraph :=
  firstMax PolicyGraph.version
    ((tables.graphsOf tenant).filter fun row => !row.isDraft && row.id ≠ graph)

/-- The rollout in `canary` or `full` that the operation rolls back. -/
def PolicyOperation.rolledBack (store : PolicyStore) : PolicyOperation → Option PolicyRollout
  | .advance rollout request (first :: second :: _) =>
    if tenant ≠ nilUuid ∧ rollout ≠ nilUuid ∧ request.nextStage = .rolledBack ∧
        first.fails = false ∧ second.fails = false then
      (store.tables.getRollout tenant rollout).filter fun current =>
        (current.stage = .canary || current.stage = .full) &&
          store.tables.ownsGraph tenant current.graphId
    else none
  | _ => none

def PolicyTables.NewestCompiled (target : BundleTarget) (graph : PolicyGraph) : Prop :=
  (∃ candidate ∈ tables.bundlesFor tenant target, candidate.1.policyGraphId = graph.id) ∧
    ∀ candidate ∈ tables.bundlesFor tenant target, candidate.2 ≤ graph.version

instance (tables : PolicyTables) (tenant : Uuid) (target : BundleTarget) (graph : PolicyGraph) :
    Decidable (tables.NewestCompiled tenant target graph) :=
  inferInstanceAs (Decidable (_ ∧ _))

/-- When the operation rolls a live rollout back, the newest other live graph is,
for each target that has bundles, the newest one compiled. -/
def RollbackRestores (store : PolicyStore) (operation : PolicyOperation) : Prop :=
  ∀ rollout ∈ operation.rolledBack tenant store, ∀ target,
    store.tables.bundlesFor tenant target ≠ [] →
      ∃ graph ∈ store.tables.newestLiveExcept tenant rollout.graphId,
        store.tables.NewestCompiled tenant target graph

instance (tenant : Uuid) (store : PolicyStore) (operation : PolicyOperation) :
    Decidable (RollbackRestores tenant store operation) :=
  inferInstanceAs (Decidable (∀ rollout ∈ _, _))

/-! ## Steps that keep live graphs live -/

/-- The same bundles are served, and live graphs stay live. -/
structure PolicyTables.KeepsLive (tables stored : PolicyTables) : Prop where
  bundles : ∀ tenant target, stored.bundlesFor tenant target = tables.bundlesFor tenant target
  live : ∀ graph, tables.draftMark graph = some false → stored.draftMark graph = some false

namespace PolicyTables.KeepsLive

variable {tables middle stored : PolicyTables} {tenant : Uuid}

theorem refl (tables : PolicyTables) : tables.KeepsLive tables :=
  ⟨fun _ _ => rfl, fun _ live => live⟩

theorem trans (first : tables.KeepsLive middle) (second : middle.KeepsLive stored) :
    tables.KeepsLive stored :=
  ⟨fun tenant target => (second.bundles tenant target).trans (first.bundles tenant target),
    fun graph live => second.live graph (first.live graph live)⟩

theorem servedLive (keeps : tables.KeepsLive stored) (served : tables.ServedLive tenant) :
    stored.ServedLive tenant := by
  intro target bundle latest
  rw [getLatestBundle, keeps.bundles] at latest
  exact keeps.live _ (served target bundle latest)

theorem of_createGraph {version newId now : Nat} {document : Json} {isDraft : Bool}
    {graph : PolicyGraph}
    (created : tables.createGraph tenant version document isDraft newId now = .ok (stored, graph)) :
    tables.KeepsLive stored := by
  obtain ⟨-, -, inserted, -, bundles⟩ := createGraph_ok created
  refine ⟨fun _ _ => bundlesFor_insertGraph inserted bundles, ?_⟩
  intro other live
  obtain ⟨row, found, isDraft⟩ := map_eq_some_iff.mp live
  rw [draftMark, Table.find?_of_insert? inserted found, map_some, isDraft]

theorem of_createRollout {rollout saved : PolicyRollout} {now : Nat}
    (created : tables.createRollout tenant rollout now = .ok (stored, saved)) :
    tables.KeepsLive stored := by
  obtain ⟨-, -, -, -, -, graphs, bundles⟩ := createRollout_ok created
  refine ⟨?_, ?_⟩
  · intro tenant target
    apply bundlesFor_congr bundles
    intro bundle _
    rw [versionOf, versionOf, graphs]
  · intro graph live
    rw [draftMark, graphs]
    exact live

theorem of_staged {id : Uuid} {next : PolicyRolloutStage} {promoteGraphId : Option Uuid}
    {old updated : PolicyRollout}
    (staged : StageUpdated tables tenant id next promoteGraphId none stored old updated) :
    tables.KeepsLive stored := by
  refine ⟨?_, ?_⟩
  · intro tenant target
    rw [staged.tables_eq, bundlesFor_flip, bundlesFor_flip]
    rfl
  · intro graph live
    rw [staged.draftMark, live]
    simp

end PolicyTables.KeepsLive

/-! ## The canary service alone -/

namespace CanaryCall

variable {texts : GoText} {tables stored : PolicyTables}

def starts : CanaryCall → Bool
  | .getActive .. | .putDraftGraph .. | .compileDryRun .. | .create .. | .started _ => true
  | .get .. | .updateStage .. | .advanced _ => false

theorem Effect.keepsLive {input : CanaryInput} {call : CanaryCall}
    (effect : Effect input tables call stored) (starting : call.starts) :
    tables.KeepsLive stored := by
  cases effect with
  | none => exact .refl tables
  | drafted created => exact .of_createGraph created
  | created _ created => exact .of_createRollout created
  | staged => cases starting

theorem starts_advance {input : CanaryInput} {call : CanaryCall} (starting : call.starts) :
    (advance texts input tables call).2.starts := by
  cases call with
  | compileDryRun =>
    rw [advance]
    split <;> rfl
  | started => rfl
  | get | updateStage | advanced => cases starting
  | _ =>
    rw [advance]
    repeat' split
    all_goals rfl

/-- `StartDryRun` keeps live graphs live, wherever it stops. -/
theorem startDryRun_keepsLive (inputs : List CanaryInput) (tenant : Uuid)
    (request : StartDryRunInput) :
    tables.KeepsLive
      ((canaryService texts).alone inputs tables (.startDryRun tenant request)).1 := by
  have starting : (start (.startDryRun tenant request)).starts := by
    rw [start]
    repeat' split
    all_goals rfl
  refine (Service.alone_invariant
    (fun reached (call : CanaryCall) => tables.KeepsLive reached ∧ call.starts) ?_
    ⟨.refl tables, starting⟩).1
  rintro input reached call ⟨keeps, starting⟩
  exact ⟨keeps.trans ((advance_effect texts input reached call).keepsLive starting),
    starts_advance starting⟩

def advancedTables (tables : PolicyTables) (tenant rollout : Uuid) (request : AdvanceInput)
    (first second : CanaryInput) : PolicyTables :=
  if tenant = nilUuid ∨ rollout = nilUuid ∨ (request.nextStage = .canary ∧
      (request.canaryPercent ≤ 0 ∨ request.canaryPercent > 100)) ∨
      first.fails = true ∨ second.fails = true then
    tables
  else
    match tables.getRollout tenant rollout with
    | none => tables
    | some current =>
      match stageUpdate tables tenant rollout request current second.now with
      | .error _ => tables
      | .ok (stored, _) => stored

theorem advance_two_steps (tenant rollout : Uuid) (request : AdvanceInput)
    (first second : CanaryInput) :
    ∃ result, (canaryService texts).alone [first, second] tables (.advance tenant rollout request) =
      (advancedTables tables tenant rollout request first second, .advanced result) := by
  change ∃ result, advance texts second
      (advance texts first tables (start (.advance tenant rollout request))).1
      (advance texts first tables (start (.advance tenant rollout request))).2 = _
  rw [start]
  by_cases ids : tenant = nilUuid ∨ rollout = nilUuid
  · rw [if_pos ids, advancedTables, if_pos (by tauto)]
    exact ⟨_, rfl⟩
  rw [if_neg ids]
  by_cases percent : request.nextStage = .canary ∧
      (request.canaryPercent ≤ 0 ∨ request.canaryPercent > 100)
  · rw [if_pos percent, advancedTables, if_pos (by tauto)]
    exact ⟨_, rfl⟩
  rw [if_neg percent, advance, advancedTables]
  cases lost : first.fails with
  | true => exact ⟨_, by simp; rfl⟩
  | false =>
    rw [if_neg Bool.false_ne_true]
    cases found : tables.getRollout tenant rollout with
    | none => exact ⟨_, by simp; rfl⟩
    | some current =>
      dsimp only
      rw [advance]
      cases lostLater : second.fails with
      | true => exact ⟨_, by simp; rfl⟩
      | false =>
        cases updated : stageUpdate tables tenant rollout request current second.now with
        | _ => exact ⟨_, by simp [ids, percent]; rfl⟩

/-- `Advance`, alone: nothing, or what its two steps do. -/
theorem alone_advance (inputs : List CanaryInput) (tenant rollout : Uuid) (request : AdvanceInput) :
    ((canaryService texts).alone inputs tables (.advance tenant rollout request)).1 =
      match inputs with
      | first :: second :: _ => advancedTables tables tenant rollout request first second
      | _ => tables := by
  match inputs with
  | [] => rfl
  | [first] =>
    change (advance texts first tables (start (.advance tenant rollout request))).1 = tables
    rw [start]
    repeat' split
    case isFalse.isFalse =>
      rw [advance]
      repeat' split
      all_goals rfl
    all_goals rfl
  | first :: second :: rest =>
    obtain ⟨result, stepped⟩ := advance_two_steps tenant rollout request first second
    change ((canaryService texts).alone ([first, second] ++ rest) _ _).1 = _
    rw [Service.alone_append, stepped, Service.proceed_of_returned fun _ => rfl]

/-- A rollback of a live rollout goes through, and turns its graph into a draft. -/
theorem stageUpdate_rollback {tenant rollout : Uuid} {request : AdvanceInput}
    {current : PolicyRollout} (now : Nat) (rollsBack : request.nextStage = .rolledBack)
    (found : tables.getRollout tenant rollout = some current)
    (live : current.stage = .canary ∨ current.stage = .full)
    (owns : tables.ownsGraph tenant current.graphId) :
    ∃ updated, stageUpdate tables tenant rollout request current now =
      .ok (({ tables with rollouts := tables.rollouts.update updated } : PolicyTables).setDraft
        current.graphId true, updated) := by
  have valid : validRolloutTransition current.stage .rolledBack := by
    rcases live with live | live <;> rw [live] <;> rfl
  have promotes : shouldPromote current.stage .rolledBack = false := by
    rcases live with live | live <;> rw [live] <;> rfl
  have demotes : shouldDemote current.stage .rolledBack := by
    rcases live with live | live <;> rw [live] <;> rfl
  simp only [stageUpdate, rollsBack, promotes, demotes, PolicyTables.updateStage, found, valid,
    Bool.not_false, Bool.and_self, if_true, Bool.false_eq_true, if_false, any_some, owns,
    Bool.not_true]
  exact ⟨_, rfl⟩

/-- `shouldDemote` holds of the rollbacks of live rollouts. -/
theorem shouldDemote_iff {previous next : PolicyRolloutStage} : shouldDemote previous next ↔
    next = .rolledBack ∧ (previous = .canary ∨ previous = .full) := by
  cases previous <;> cases next <;> decide

end CanaryCall

/-! ## Rollbacks -/

section Rollbacks

variable {store : PolicyStore} {tenant : Uuid} {current : PolicyRollout} {request : AdvanceInput}

theorem rolledBack_advance_eq_some_iff {rollout : Uuid}
    {first second : CanaryInput} {rest : List CanaryInput} :
    (advance rollout request (first :: second :: rest)).rolledBack tenant store = some current ↔
    (tenant ≠ nilUuid ∧ rollout ≠ nilUuid ∧ request.nextStage = .rolledBack ∧
      first.fails = false ∧ second.fails = false) ∧
    store.tables.getRollout tenant rollout = some current ∧
      (current.stage = .canary ∨ current.stage = .full) ∧
      store.tables.ownsGraph tenant current.graphId := by
  rw [rolledBack]
  split
  case isTrue holds => simp [holds, filter_eq_some_iff]
  case isFalse fails => simp [fails]

/-- A rollback of a live rollout turns its graph into a draft, and leaves every
bundle. -/
theorem apply_of_rolledBack (config : CompileConfig) {operation : PolicyOperation}
    (rolledBack : operation.rolledBack tenant store = some current) :
    ∃ updated, (operation.apply config tenant store).tables =
      ({ store.tables with rollouts := store.tables.rollouts.update updated } :
        PolicyTables).setDraft current.graphId true := by
  match operation with
  | .advance rollout request (first :: second :: rest) =>
    obtain ⟨⟨tenantSet, rolloutSet, rollsBack, connected, connectedLater⟩, found, live, owns⟩ :=
      rolledBack_advance_eq_some_iff.mp rolledBack
    obtain ⟨updated, update⟩ := stageUpdate_rollback second.now rollsBack found live owns
    refine ⟨updated, ?_⟩
    have proceeds : ¬ (tenant = nilUuid ∨ rollout = nilUuid ∨ (request.nextStage = .canary ∧
        (request.canaryPercent ≤ 0 ∨ request.canaryPercent > 100)) ∨
        first.fails ∨ second.fails) := by
      simp [tenantSet, rolloutSet, rollsBack, connected, connectedLater]
    rw [apply, alone_advance]
    simp only [advancedTables, if_neg proceeds, found, update]

theorem advance_keepsLive {config : CompileConfig} {rollout : Uuid} {inputs : List CanaryInput}
    (unlike : (advance rollout request inputs).rolledBack tenant store = none) :
    store.tables.KeepsLive ((advance rollout request inputs).apply config tenant store).tables := by
  rw [apply, alone_advance]
  match inputs with
  | [] | [_] => exact .refl _
  | first :: second :: rest =>
    dsimp only
    rw [advancedTables]
    split
    case isTrue => exact .refl _
    case isFalse proceeds =>
      simp only [not_or, Bool.not_eq_true] at proceeds
      obtain ⟨tenantSet, rolloutSet, -, connected, connectedLater⟩ := proceeds
      split
      case h_1 => exact .refl _
      case h_2 current found =>
        split
        case h_1 => exact .refl _
        case h_2 stored updated update =>
          obtain ⟨old, staged⟩ := PolicyTables.updateStage_ok update
          by_cases demotes : (!shouldPromote current.stage request.nextStage &&
              shouldDemote current.stage request.nextStage)
          · -- this would be the rollback of a live rollout
            rw [if_pos demotes] at staged
            rw [Bool.and_eq_true, shouldDemote_iff] at demotes
            have notRollback := eq_none_iff_forall_ne_some.mp unlike current
            exact absurd (rolledBack_advance_eq_some_iff.mpr
              ⟨⟨tenantSet, rolloutSet, demotes.2.1, connected, connectedLater⟩, found,
                demotes.2.2, staged.owned current.graphId rfl⟩) notRollback
          · rw [if_neg demotes] at staged
            exact .of_staged staged

end Rollbacks

/-! ## The graph that a rollback makes current -/

namespace PolicyTables

variable {tables : PolicyTables} {tenant : Uuid} {target : BundleTarget} {graph : Uuid}

theorem getCurrentGraph_setDraft :
    (tables.setDraft graph true).getCurrentGraph tenant = tables.newestLiveExcept tenant graph := by
  have live : ((tables.setDraft graph true).graphsOf tenant).filter (fun row => !row.isDraft) =
      (tables.graphsOf tenant).filter fun row => !row.isDraft && row.id ≠ graph := by
    change List.filter _ (List.filter _ (tables.graphs.rows.map fun row =>
      if row.id = graph then { row with isDraft := true } else row)) = _
    rw [graphsOf, List.filter_filter, List.filter_filter, List.filter_map]
    have kept : ∀ row ∈ tables.graphs.rows,
        ((fun row : PolicyGraph => !row.isDraft && decide (row.tenantId = tenant)) ∘ fun row =>
          if row.id = graph then { row with isDraft := true } else row) row =
        ((!row.isDraft && decide (row.id ≠ graph)) && decide (row.tenantId = tenant)) := by
      intro row _
      by_cases here : row.id = graph <;> simp [here]
    rw [filter_congr kept]
    refine (map_congr_left ?_).trans (map_id _)
    intro row listed
    have other : row.id ≠ graph := by simp_all
    exact if_neg other
  rw [getCurrentGraph, newestLiveExcept, live]

theorem draftMark_of_getCurrentGraph {graph : PolicyGraph}
    (current : tables.getCurrentGraph tenant = some graph) :
    tables.draftMark graph.id = some false := by
  have listed := mem_filter.mp (firstMax_isFirstMax current).mem
  have found := Table.find?_eq_some_iff.mpr ⟨(mem_filter.mp listed.1).1, rfl⟩
  rw [draftMark, found, map_some]
  simpa using listed.2

theorem ServedIsCurrent.servedLive (served : tables.ServedIsCurrent tenant) :
    tables.ServedLive tenant := by
  intro target bundle latest
  obtain ⟨graph, current, same⟩ := map_eq_some_iff.mp (served target bundle latest)
  rw [← same]
  exact draftMark_of_getCurrentGraph current

theorem candidate_eq_some {bundle : PolicyBundle} {new : PolicyBundle × Nat}
    (isCandidate : tables.candidate tenant target bundle = some new) :
    new.1 = bundle ∧ tables.versionOf tenant bundle.policyGraphId = some new.2 := by
  unfold candidate at isCandidate
  split at isCandidate
  case isTrue =>
    obtain ⟨version, isVersion, rfl⟩ := map_eq_some_iff.mp isCandidate
    exact ⟨rfl, isVersion⟩
  case isFalse => cases isCandidate

theorem versionOf_of_mem_bundlesFor {candidate : PolicyBundle × Nat}
    (listed : candidate ∈ tables.bundlesFor tenant target) :
    tables.versionOf tenant candidate.1.policyGraphId = some candidate.2 := by
  obtain ⟨bundle, -, selected⟩ := mem_filterMap.mp listed
  obtain ⟨rfl, isVersion⟩ := candidate_eq_some selected
  exact isVersion

theorem versionOf_eq_some_iff {version : Nat} : tables.versionOf tenant graph = some version ↔
    ∃ row ∈ tables.graphs.rows, row.id = graph ∧ row.tenantId = tenant ∧ row.version = version := by
  rw [versionOf, bind_eq_some_iff]
  constructor
  · rintro ⟨row, found, isVersion⟩
    obtain ⟨listed, keyed⟩ := Table.find?_eq_some_iff.mp found
    rw [ite_none_right_eq_some, Option.some.injEq] at isVersion
    exact ⟨row, listed, keyed, isVersion.1, isVersion.2⟩
  · rintro ⟨row, listed, keyed, owned, rfl⟩
    exact ⟨row, Table.find?_eq_some_iff.mpr ⟨listed, keyed⟩, if_pos owned⟩

/-- **What is served is of a graph exactly when it is the newest one compiled.** -/
theorem latest_of_graph_iff {graph : PolicyGraph} (listed : graph ∈ tables.graphsOf tenant)
    (compiled : tables.bundlesFor tenant target ≠ []) :
    (∀ bundle ∈ tables.getLatestBundle tenant target, bundle.policyGraphId = graph.id) ↔
      tables.NewestCompiled tenant target graph := by
  obtain ⟨stored, owned⟩ := mem_filter.mp listed
  have owned : graph.tenantId = tenant := by simpa using owned
  have version : tables.versionOf tenant graph.id = some graph.version :=
    versionOf_eq_some_iff.mpr ⟨graph, stored, rfl, owned, rfl⟩
  cases latest : firstMax (fun candidate => toLex (candidate.2, candidate.1.createdAt))
      (tables.bundlesFor tenant target) with
  | none => exact absurd (firstMax_eq_none_iff.mp latest) compiled
  | some winner =>
    have best := firstMax_isFirstMax latest
    have winnerVersion := versionOf_of_mem_bundlesFor best.mem
    rw [getLatestBundle, latest]
    simp only [map_some, mem_some_iff, forall_eq']
    constructor
    · intro same
      rw [same, version, Option.some.injEq] at winnerVersion
      refine ⟨⟨winner, best.mem, same⟩, ?_⟩
      intro candidate listed
      rw [winnerVersion]
      exact Prod.Lex.monotone_fst _ _ (best.le listed)
    · rintro ⟨⟨candidate, listed, same⟩, newest⟩
      have candidateVersion := versionOf_of_mem_bundlesFor listed
      rw [same, version, Option.some.injEq] at candidateVersion
      have atLeast : candidate.2 ≤ winner.2 := Prod.Lex.monotone_fst _ _ (best.le listed)
      have tie : winner.2 = graph.version := by
        have atMost := newest winner best.mem
        omega
      -- a tenant has a version once, so a tie of versions is one graph
      obtain ⟨row, rowStored, keyed, rowOwned, rowVersion⟩ := versionOf_eq_some_iff.mp winnerVersion
      have sameRow := tables.versions_distinct row rowStored graph stored (by
        rw [PolicyGraph.versionIndex, PolicyGraph.versionIndex, rowOwned, owned, rowVersion, tie])
      rw [← keyed, sameRow]

theorem servedIsCurrent_setDraft_iff : (tables.setDraft graph true).ServedIsCurrent tenant ↔
    ∀ target, tables.bundlesFor tenant target ≠ [] →
      ∃ newest ∈ tables.newestLiveExcept tenant graph,
        tables.NewestCompiled tenant target newest := by
  apply forall_congr'
  intro target
  rw [getCurrentGraph_setDraft, getLatestBundle, bundlesFor_setDraft, ← getLatestBundle]
  cases newest : tables.newestLiveExcept tenant graph with
  | none =>
    cases latest : tables.getLatestBundle tenant target with
    | none => simpa using firstMax_eq_none_iff.mp (map_eq_none_iff.mp latest)
    | some bundle =>
      have compiled : tables.bundlesFor tenant target ≠ [] := by
        intro empty
        rw [getLatestBundle, empty] at latest
        cases latest
      simpa using compiled
  | some current =>
    have listed := (mem_filter.mp (firstMax_isFirstMax newest).mem).1
    by_cases compiled : tables.bundlesFor tenant target = []
    · simp [getLatestBundle, compiled]
    · simp only [← latest_of_graph_iff listed compiled, map_some, Option.some.injEq,
        mem_some_iff, exists_eq_left', ne_eq, compiled, not_false_eq_true, forall_const,
        eq_comm]

theorem ServedLive.createBundle {stored : PolicyTables} {bundle row : PolicyBundle} {now : Nat}
    (served : tables.ServedLive tenant) (live : tables.draftMark bundle.policyGraphId = some false)
    (created : tables.createBundle tenant bundle now = .ok (stored, row)) :
    stored.ServedLive tenant := by
  obtain ⟨-, rfl, inserted, -, graphs, -⟩ := createBundle_ok created
  intro target latest isLatest
  have marks : stored.draftMark = tables.draftMark := by
    funext graph
    rw [draftMark, draftMark, graphs]
  rw [marks]
  rw [getLatestBundle, bundlesFor_append graphs (Table.mem_rows_insert? inserted).2] at isLatest
  cases added : tables.candidate tenant target { bundle with createdAt := now } with
  | none =>
    rw [filterMap_cons_none added, filterMap_nil, append_nil] at isLatest
    exact served target latest isLatest
  | some new =>
    rw [filterMap_cons_some added, filterMap_nil, firstMax_concat] at isLatest
    obtain ⟨winner, kept, rfl⟩ := map_eq_some_iff.mp isLatest
    rcases keepBetter_eq_some kept with rfl | before
    · rw [(candidate_eq_some added).1]
      exact live
    · exact served target winner.1 (map_eq_some_iff.mpr ⟨winner, before, rfl⟩)

end PolicyTables

/-! ## Compiling -/

variable {config : CompileConfig} {store stored : PolicyStore} {input : CompileInput}

theorem PolicyCall.Effect.graphs {call : PolicyCall}
    (effect : Effect config input store call stored) :
    stored.tables.graphs = store.tables.graphs := by
  cases effect with
  | saved _ created => exact (PolicyTables.createBundle_ok created).2.2.2.2.1
  | _ => rfl

theorem PolicyCall.Effect.servedLive {call : PolicyCall}
    (effect : Effect config input store call stored) (served : store.tables.ServedLive call.tenant)
    (live : ∀ graph ∈ call.graph?, store.tables.draftMark graph.id = some false) :
    stored.tables.ServedLive call.tenant := by
  cases effect with
  | saved _ created => exact served.createBundle (live _ rfl) created
  | _ => exact served

/-- A compile keeps what is served live: it saves bundles of a graph that it read
as current. -/
theorem compile_servedLive {store : PolicyStore} {tenant : Uuid} (inputs : List CompileInput)
    (served : store.tables.ServedLive tenant) :
    ((policyService config).alone inputs store (.compile tenant)).1.tables.ServedLive tenant := by
  refine (Service.alone_invariant
    (fun (reached : PolicyStore) (call : PolicyCall) => reached.tables.ServedLive tenant ∧
      call.tenant = tenant ∧ ∀ graph ∈ call.graph?, reached.tables.draftMark graph.id = some false)
    ?_ ⟨served, rfl, by simp [policyService, PolicyCall.start, PolicyCall.graph?]⟩).1
  rintro input reached call ⟨served, rfl, live⟩
  have stepped := PolicyCall.advance_stepped config input reached call
  refine ⟨stepped.effect.servedLive served live, stepped.tenant, ?_⟩
  intro graph has
  have unmarked : reached.tables.draftMark graph.id = some false := by
    rcases stepped.graph graph has with known | current
    · exact live graph known
    · exact PolicyTables.draftMark_of_getCurrentGraph current
  change ((PolicyCall.advance config input reached call).1.tables.graphs.find? graph.id).map _ = _
  rw [stepped.effect.graphs]
  exact unmarked

/-! ## Whole runs -/

section Runs

variable {config : CompileConfig} {store : PolicyStore} {tenant : Uuid}

/-- What is served is live after the operation, and current if it rolled a live
rollout back. -/
def ServedRight (config : CompileConfig) (tenant : Uuid) (store : PolicyStore)
    (operation : PolicyOperation) : Prop :=
  (operation.apply config tenant store).tables.ServedLive tenant ∧
    ((operation.rolledBack tenant store).isSome →
      (operation.apply config tenant store).tables.ServedIsCurrent tenant)

variable {operation : PolicyOperation}

theorem apply_servedLive
    (unlike : operation.rolledBack tenant store = none) (served : store.tables.ServedLive tenant) :
    (operation.apply config tenant store).tables.ServedLive tenant := by
  cases operation with
  | createGraph version document isDraft newId now =>
    rw [apply]
    split
    case h_1 created => exact (PolicyTables.KeepsLive.of_createGraph created).servedLive served
    case h_2 => exact served
  | compile inputs => exact compile_servedLive inputs served
  | startDryRun request inputs =>
    exact (startDryRun_keepsLive inputs tenant request).servedLive served
  | advance rollout request inputs => exact (advance_keepsLive unlike).servedLive served

/-- **An operation leaves what is served right exactly when, if it rolls a live
rollout back, the newest other live graph is the newest one compiled.** -/
theorem servedRight_iff (served : store.tables.ServedLive tenant) :
    ServedRight config tenant store operation ↔ RollbackRestores tenant store operation := by
  rw [ServedRight, RollbackRestores]
  cases rolledBack : operation.rolledBack tenant store with
  | none => simpa using apply_servedLive rolledBack served
  | some current =>
    obtain ⟨updated, tables⟩ := apply_of_rolledBack config rolledBack
    simp only [tables, isSome_some, forall_const, mem_some_iff, forall_eq']
    rw [and_iff_right_of_imp PolicyTables.ServedIsCurrent.servedLive]
    exact PolicyTables.servedIsCurrent_setDraft_iff

end Runs

/-- **Devices are served live policy, exactly when every rollback finds the graph
it restores compiled and nothing newer compiled.** The tenant creates graphs,
compiles, starts, advances and rolls back in any order, from any store in which
what it is served is live. After each operation every bundle it is served is of a
graph that is no draft, and after the rollback of a live rollout of the current
graph, if and only if at each such rollback the newest other live graph is, for
each target that has bundles, the newest graph compiled. -/
theorem served_live_iff (config : CompileConfig) (store : PolicyStore) (tenant : Uuid)
    (served : store.tables.ServedLive tenant) (operations : List PolicyOperation) :
    (∀ before operation after, operations = before ++ operation :: after →
      ServedRight config tenant (before.foldl (apply config tenant) store) operation) ↔
    AlongRun (apply config tenant) (RollbackRestores tenant) store operations := by
  rw [← alongRun_iff_forall]
  apply AlongRun.congr fun reached => reached.tables.ServedLive tenant
  · intro reached operation served
    exact servedRight_iff served
  · intro reached operation _ right
    exact right.1
  · exact served

def sampleStore : PolicyStore where
  tables := .empty [1]
  keys := .empty

def sampleUncompiledStore : PolicyStore :=
  (createGraph 0 (.obj []) false 5 5).apply sampleConfig 1 sampleStore

/-- The first graph goes live and is compiled, and a proposal goes to canary as
rollout `24` of graph `22`. -/
def firstPolicyThenCanary : List PolicyOperation := [.createGraph 0 (.obj []) false 5 5,
    .compile (replicate 9 (sampleCompileInput "k1" 10)),
    .startDryRun sampleProposal [sampleCanaryInput 21, sampleCanaryInput 22, sampleCanaryInput 23,
      sampleCanaryInput 24],
    .advance 24 ⟨.canary, 10, none, ""⟩ [sampleCanaryInput 30, sampleCanaryInput 31]]

def canaryRollback : PolicyOperation :=
  .rollback 24 none "errors" [sampleCanaryInput 40, sampleCanaryInput 41]

/-- A proposal rolled back before it is compiled: the first graph is served again. -/
theorem uncompiled_rollback_serves_current : ServedRight sampleConfig 1
    (firstPolicyThenCanary.foldl (apply sampleConfig 1) sampleStore)
    canaryRollback :=
  (served_live_iff sampleConfig sampleStore 1 (by decide)
    (firstPolicyThenCanary ++ [canaryRollback])).mpr (by decide)
    firstPolicyThenCanary canaryRollback [] rfl

/-- **A graph rolled back after it was compiled goes on being served.** It is a
draft, the first graph is current, and the bundle served for the edge is of the
graph that was rolled back. -/
theorem compiled_rollback_serves_draft : sampleStore.tables.ServedLive 1 ∧
    let final := ((firstPolicyThenCanary ++
        [.compile (replicate 8 (sampleCompileInput "k2" 35)), canaryRollback]).foldl
          (apply sampleConfig 1) sampleStore).tables
    (final.getLatestBundle 1 .edge).map PolicyBundle.policyGraphId = some 22 ∧
      final.draftMark 22 = some true ∧
      (final.getCurrentGraph 1).map PolicyGraph.id = some 5 ∧ ¬ final.ServedLive 1 := by
  decide

end ShieldNet.Policy
