import ShieldNet.Lib.Interleaving
import ShieldNet.Policy.Compile
import ShieldNet.Policy.Repository

/-!
# Progressive rollout

`CanaryService` of `internal/service/policy/canary.go`. `StartDryRun`, `Advance`
and `Rollback` are calls that make one repository call a step.

`Advance` reads the rollout, decides from the stage it read whether the proposed
graph goes live or back to draft, and updates the stage. The update checks the
transition from the stage it finds. So a rollback that read `dry_run` does not
demote a graph that another call has promoted in between, and this is the only
way in which stage and draft mark come apart (`live_matches_stage_iff`).

`StartDryRun` checks that the tenant has no rollout under way, and inserts its
own three steps later. Two rollouts are under way exactly when an insert finds
one (`single_active_rollout_iff`).
-/

namespace ShieldNet.Policy

open PolicyTables Table List

open Identity (Uuid nilUuid RepositoryError)

/-! ## Requests and errors -/

/-- A `json.RawMessage`: no bytes, bytes that are no JSON, or a document. -/
inductive RawMessage where
  | empty
  | invalid
  | document (json : Json)

structure StartDryRunInput where
  proposedGraph : RawMessage
  previousGraphId : Uuid
  simulationId : Uuid
  actorId : Option Uuid
  notes : String

structure AdvanceInput where
  nextStage : PolicyRolloutStage
  canaryPercent : Int
  actorId : Option Uuid
  notes : String

inductive CanaryRequest where
  | startDryRun (tenant : Uuid) (input : StartDryRunInput)
  | advance (tenant rollout : Uuid) (input : AdvanceInput)

def CanaryRequest.rollback (tenant rollout : Uuid) (actorId : Option Uuid) (notes : String) :
    CanaryRequest :=
  .advance tenant rollout { nextStage := .rolledBack, canaryPercent := 0, actorId, notes }

def errCanaryRolloutActive : ServiceError :=
  .message "policy: active rollout already exists for tenant"

def errCanaryPercent : ServiceError := .message "policy: canary percent must be in [1, 100]"

/-! ## Calls -/

structure CanaryInput where
  /-- The repository call fails: its context has ended or the connection is lost. -/
  fails : Bool
  now : Nat
  newId : Uuid
  /-- `CompileDryRun`: the simulation id it stamps, if the graph compiles and is signed. -/
  compileDryRun : PolicyGraph → Uuid → Option Uuid

inductive CanaryCall where
  /-- `StartDryRun`. -/
  | getActive (tenant : Uuid) (request : StartDryRunInput)
  | putDraftGraph (tenant : Uuid) (request : StartDryRunInput)
  | compileDryRun (tenant : Uuid) (request : StartDryRunInput) (proposed : PolicyGraph)
  | create (tenant : Uuid) (request : StartDryRunInput) (proposed : PolicyGraph)
      (simulationId : Uuid)
  | started (result : Except ServiceError PolicyRollout)
  /-- `Advance` and `Rollback`. -/
  | get (tenant rollout : Uuid) (request : AdvanceInput)
  | updateStage (tenant rollout : Uuid) (request : AdvanceInput) (current : PolicyRollout)
  | advanced (result : Except ServiceError PolicyRollout)

open CanaryCall

variable (previous next : PolicyRolloutStage)

def shouldPromote : Bool := if previous ≠ .dryRun then false else next = .canary || next = .full

def shouldDemote : Bool :=
  if next ≠ .rolledBack then false else previous = .canary || previous = .full

def newRollout (request : StartDryRunInput) (tenant : Uuid) (proposed : PolicyGraph)
    (simulationId : Uuid) (input : CanaryInput) : PolicyRollout where
  id := input.newId
  tenantId := tenant
  graphId := proposed.id
  previousGraphId := request.previousGraphId
  stage := .dryRun
  canaryPercent := 0
  simulationId
  createdBy := request.actorId
  createdAt := input.now
  updatedAt := input.now
  notes := request.notes

/-- The document of a message; no bytes stand for the empty object. -/
def RawMessage.read : RawMessage → Except ServiceError Json
  | .empty => .ok (.obj [])
  | .invalid => .error (.wrapped "invalid graph json" (.repository .invalidArgument))
  | .document json => .ok json

variable (texts : GoText) (tables : PolicyTables)

/-- The checks on the document, and `CreateGraph`. -/
def putGraph (tenant : Uuid) (raw : RawMessage)
    (isDraft : Bool) (newId now : Nat) : Except ServiceError (PolicyTables × PolicyGraph) := do
  let document ← raw.read
  let _ ← (parseGraph texts (some document)).mapError ServiceError.graph
  (tables.createGraph tenant 0 document isDraft newId now).mapError ServiceError.repository

namespace CanaryCall

def start : CanaryRequest → CanaryCall
  | .startDryRun tenant request =>
    if tenant = nilUuid then .started (.error (.message "policy: tenant id required"))
    else
      match request.proposedGraph with
      | .empty => .started (.error (.message "policy: proposed graph required"))
      | .invalid | .document _ => .getActive tenant request
  | .advance tenant rollout request =>
    if tenant = nilUuid ∨ rollout = nilUuid then
      .advanced (.error (.message "policy: tenant_id and rollout_id required"))
    else if request.nextStage = .canary ∧
        (request.canaryPercent ≤ 0 ∨ request.canaryPercent > 100) then
      .advanced (.error errCanaryPercent)
    else .get tenant rollout request

/-- `UpdateStage` with the promotion or demotion that the stage read calls for. -/
def stageUpdate (tables : PolicyTables) (tenant rollout : Uuid) (request : AdvanceInput)
    (current : PolicyRollout) (now : Nat) :
    Except RepositoryError (PolicyTables × PolicyRollout) :=
  let promotes := shouldPromote current.stage request.nextStage
  tables.updateStage tenant rollout request.nextStage request.canaryPercent request.notes now
    (if promotes then some current.graphId else none)
    (if !promotes && shouldDemote current.stage request.nextStage then some current.graphId
      else none)

def advance (texts : GoText) (input : CanaryInput) (tables : PolicyTables) :
    CanaryCall → PolicyTables × CanaryCall
  | .getActive tenant request =>
    if input.fails then
      (tables, .started (.error (.wrapped "policy: check active rollout" .unavailable)))
    else
      match tables.getActive tenant with
      | some _ => (tables, .started (.error errCanaryRolloutActive))
      | none => (tables, .putDraftGraph tenant request)
  | .putDraftGraph tenant request =>
    if input.fails then
      (tables, .started (.error (.wrapped "policy: persist draft graph" .unavailable)))
    else
      match putGraph texts tables tenant request.proposedGraph true input.newId input.now with
      | .error error =>
        (tables, .started (.error (.wrapped "policy: persist draft graph" error)))
      | .ok (stored, proposed) => (stored, .compileDryRun tenant request proposed)
  | .compileDryRun tenant request proposed =>
    match input.compileDryRun proposed request.simulationId with
    | none => (tables, .started (.error (.wrapped "policy: compile dryrun" .unavailable)))
    | some simulationId => (tables, .create tenant request proposed simulationId)
  | .create tenant request proposed simulationId =>
    if input.fails then
      (tables, .started (.error (.wrapped "policy: persist rollout" .unavailable)))
    else
      match tables.createRollout tenant (newRollout request tenant proposed simulationId input)
          input.now with
      | .error error =>
        (tables, .started (.error (.wrapped "policy: persist rollout" (.repository error))))
      | .ok (stored, saved) => (stored, .started (.ok saved))
  | .get tenant rollout request =>
    if input.fails then (tables, .advanced (.error .unavailable))
    else
      match tables.getRollout tenant rollout with
      | none => (tables, .advanced (.error (.repository .notFound)))
      | some current => (tables, .updateStage tenant rollout request current)
  | .updateStage tenant rollout request current =>
    if input.fails then (tables, .advanced (.error .unavailable))
    else
      match stageUpdate tables tenant rollout request current input.now with
      | .error error => (tables, .advanced (.error (.repository error)))
      | .ok (stored, updated) => (stored, .advanced (.ok updated))
  | .started result => (tables, .started result)
  | .advanced result => (tables, .advanced result)

end CanaryCall

def canaryService : Service PolicyTables CanaryRequest CanaryInput CanaryCall where
  start := start
  advance := advance texts

/-! ## What a step does -/

def PolicyRolloutStage.rank : PolicyRolloutStage → Nat
  | .dryRun => 0
  | .canary => 1
  | .full => 2
  | .completed | .rolledBack => 3

theorem rank_le_of_validRolloutTransition : ∀ {old next : PolicyRolloutStage},
    validRolloutTransition old next → old.rank ≤ next.rank := by
  intro old next
  cases old <;> cases next <;> decide

namespace CanaryCall

variable {texts : GoText} {input : CanaryInput} {tables stored : PolicyTables} {call : CanaryCall}

variable (input tables) in
inductive Effect : CanaryCall → PolicyTables → Prop where
  | none (call : CanaryCall) : Effect call tables
  | drafted {tenant request document graph stored}
      (created : tables.createGraph tenant 0 document true input.newId input.now =
        .ok (stored, graph)) :
      Effect (.putDraftGraph tenant request) stored
  | created {tenant request proposed simulationId saved stored}
      (connected : input.fails = false)
      (created : tables.createRollout tenant (newRollout request tenant proposed simulationId input)
        input.now = .ok (stored, saved)) :
      Effect (.create tenant request proposed simulationId) stored
  | staged {tenant rollout request current updated stored}
      (connected : input.fails = false)
      (update : stageUpdate tables tenant rollout request current input.now =
        .ok (stored, updated)) :
      Effect (.updateStage tenant rollout request current) stored

theorem createGraph_of_putGraph {tenant : Uuid} {raw : RawMessage} {isDraft : Bool}
    {newId now : Nat} {graph : PolicyGraph}
    (put : putGraph texts tables tenant raw isDraft newId now = .ok (stored, graph)) :
    ∃ document, tables.createGraph tenant 0 document isDraft newId now = .ok (stored, graph) := by
  obtain ⟨document, -, put⟩ := bind_eq_ok put
  obtain ⟨-, -, put⟩ := bind_eq_ok put
  refine ⟨document, ?_⟩
  cases created : tables.createGraph tenant 0 document isDraft newId now with
  | error error =>
    rw [created] at put
    cases put
  | ok result =>
    rw [created] at put
    exact congrArg Except.ok (Except.ok.inj put)

theorem advance_effect (texts : GoText) (input : CanaryInput) (tables : PolicyTables)
    (call : CanaryCall) : Effect input tables call (advance texts input tables call).1 := by
  cases call with
  | putDraftGraph tenant request =>
    rw [advance]
    split
    case isTrue => exact .none _
    split
    case h_1 => exact .none _
    case h_2 put =>
      obtain ⟨document, created⟩ := createGraph_of_putGraph put
      exact .drafted created
  | create tenant request proposed simulationId =>
    rw [advance]
    split
    case isTrue => exact .none _
    case isFalse connected =>
      split
      case h_1 => exact .none _
      case h_2 created => exact .created (eq_false_of_ne_true connected) created
  | updateStage tenant rollout request current =>
    rw [advance]
    split
    case isTrue => exact .none _
    case isFalse connected =>
      split
      case h_1 => exact .none _
      case h_2 updated => exact .staged (eq_false_of_ne_true connected) updated
  | getActive | get =>
    rw [advance]
    repeat' split
    all_goals exact .none _
  | compileDryRun =>
    rw [advance]
    split <;> exact .none _
  | _ => exact .none _

theorem Effect.rollout_kept (effect : Effect input tables call stored) {id : Uuid}
    {rollout : PolicyRollout} (found : tables.rollouts.find? id = some rollout) :
    ∃ next, stored.rollouts.find? id = some next ∧ next.graphId = rollout.graphId ∧
      rollout.stage.rank ≤ next.stage.rank := by
  cases effect with
  | none => exact ⟨rollout, found, rfl, le_rfl⟩
  | drafted created =>
    rw [(createGraph_ok created).2.2.2.1]
    exact ⟨rollout, found, rfl, le_rfl⟩
  | created _ created =>
    have inserted := (createRollout_ok created).2.2.2.2.1
    exact ⟨rollout, find?_of_insert? inserted found, rfl, le_rfl⟩
  | staged _ update =>
    obtain ⟨old, staged⟩ := updateStage_ok update
    rw [staged.find?_rollouts]
    split
    case isTrue same =>
      rw [same, (getRollout_eq_some_iff.mp staged.found).1] at found
      cases found
      refine ⟨_, rfl, staged.sameGraph, ?_⟩
      rw [staged.stage]
      exact rank_le_of_validRolloutTransition staged.valid
    case isFalse => exact ⟨rollout, found, rfl, le_rfl⟩

end CanaryCall

/-! ## Stage and draft mark -/

def PolicyRolloutStage.graphIsDraft : PolicyRolloutStage → Bool
  | .dryRun | .rolledBack => true
  | .canary | .full | .completed => false

/-- The proposed graph of the rollout is a draft exactly when the stage is
`dry_run` or `rolled_back`. -/
def PolicyTables.LiveMatchesStage (id : Uuid) : Prop :=
  ∀ rollout ∈ tables.rollouts.find? id,
    tables.draftMark rollout.graphId = some rollout.stage.graphIsDraft

instance (tables : PolicyTables) (id : Uuid) : Decidable (tables.LiveMatchesStage id) :=
  inferInstanceAs (Decidable (∀ rollout ∈ _, _))

/-- A rollback that read `dry_run` finds the rollout neither in `canary` nor in
`full` when it updates the stage. -/
def RollbackReadsStage (id : Uuid) (input : CanaryInput) (tables : PolicyTables) : CanaryCall → Prop
  | .updateStage tenant rollout request current =>
    rollout = id → input.fails = false → request.nextStage = .rolledBack →
      current.stage = .dryRun → ∀ found ∈ tables.getRollout tenant rollout,
        found.stage ≠ .canary ∧ found.stage ≠ .full
  | _ => True

instance (id : Uuid) (input : CanaryInput) (tables : PolicyTables) (call : CanaryCall) :
    Decidable (RollbackReadsStage id input tables call) := by
  cases call <;> dsimp only [RollbackReadsStage] <;> infer_instance

/-- The graph is stored, and the rollout proposes it and no other does. -/
structure PolicyTables.Proposes (id graph : Uuid) (tables : PolicyTables) : Prop where
  rollout : ∃ rollout, tables.rollouts.find? id = some rollout ∧ rollout.graphId = graph
  only : ∀ rollout ∈ tables.rollouts.rows, rollout.graphId = graph → rollout.id = id
  stored : (tables.draftMark graph).isSome

namespace CanaryCall

def Knows (id graph : Uuid) (tables : PolicyTables) : CanaryCall → Prop
  | .compileDryRun _ _ proposed | .create _ _ proposed _ => proposed.id ≠ graph
  | .updateStage _ rollout _ current =>
    (rollout = id → current.graphId = graph ∧
      ∀ found ∈ tables.rollouts.find? id, current.stage.rank ≤ found.stage.rank) ∧
    (rollout ≠ id → current.graphId ≠ graph)
  | _ => True

variable {texts : GoText} {input : CanaryInput} {tables stored : PolicyTables}
  {call other : CanaryCall} {id graph : Uuid}

theorem ne_of_createGraph {tenant : Uuid} {document : Json} {isDraft : Bool} {newId now : Nat}
    {created : PolicyGraph} (known : (tables.draftMark graph).isSome)
    (result : tables.createGraph tenant 0 document isDraft newId now = .ok (stored, created)) :
    created.id ≠ graph := by
  obtain ⟨same, absent, -⟩ := createGraph_ok result
  rintro rfl
  rw [draftMark, same, absent] at known
  cases known

section

variable (effect : Effect input tables call stored)

include effect

theorem Effect.draftMark_eq (known : (tables.draftMark graph).isSome)
    (unstaged : ∀ tenant rollout request current,
      call ≠ .updateStage tenant rollout request current) :
    stored.draftMark graph = tables.draftMark graph := by
  cases effect with
  | none => rfl
  | drafted result =>
    have differs := ne_of_createGraph known result
    have inserted := (createGraph_ok result).2.2.1
    rw [draftMark, find?_insert? inserted, if_neg (Ne.symm differs)]
    rfl
  | created _ result =>
    rw [draftMark, (createRollout_ok result).2.2.2.2.2.1]
    rfl
  | staged => exact absurd rfl (unstaged _ _ _ _)

theorem Effect.draftMark_isSome
    (known : (tables.draftMark graph).isSome) : (stored.draftMark graph).isSome := by
  have same := effect.draftMark_eq known
  cases effect with
  | none => exact known
  | staged _ update =>
    obtain ⟨old, staged⟩ := updateStage_ok update
    rw [staged.draftMark]
    repeat' split
    all_goals simpa using known
  | _ => rwa [same nofun]

theorem Effect.mem_rollouts {rollout : PolicyRollout} (listed : rollout ∈ stored.rollouts.rows) :
    (∃ old ∈ tables.rollouts.rows, old.id = rollout.id ∧ old.graphId = rollout.graphId ∧
      old.tenantId = rollout.tenantId ∧ old.stage.rank ≤ rollout.stage.rank) ∨
    ∃ tenant request proposed simulationId, call = .create tenant request proposed simulationId ∧
      rollout.graphId = proposed.id := by
  cases effect with
  | none => exact .inl ⟨rollout, listed, rfl, rfl, rfl, le_rfl⟩
  | drafted result =>
    rw [(createGraph_ok result).2.2.2.1] at listed
    exact .inl ⟨rollout, listed, rfl, rfl, rfl, le_rfl⟩
  | created _ result =>
    obtain ⟨-, -, sameGraph, -, inserted, -⟩ := createRollout_ok result
    rw [(mem_rows_insert? inserted).2, mem_append, mem_singleton] at listed
    rcases listed with old | rfl
    · exact .inl ⟨rollout, old, rfl, rfl, rfl, le_rfl⟩
    · exact .inr ⟨_, _, _, _, rfl, sameGraph⟩
  | staged _ update =>
    obtain ⟨old, staged⟩ := updateStage_ok update
    have found := (getRollout_eq_some_iff.mp staged.found).1
    rw [staged.tables_eq, rollouts_flip, rollouts_flip] at listed
    obtain ⟨before, listedBefore, rfl⟩ := mem_update.mp listed
    split
    case isTrue same =>
      refine .inl ⟨old, (find?_eq_some_iff.mp found).1, staged.sameId.symm,
        staged.sameGraph.symm, staged.sameTenant.symm, ?_⟩
      rw [staged.stage]
      exact rank_le_of_validRolloutTransition staged.valid
    case isFalse => exact .inl ⟨before, listedBefore, rfl, rfl, rfl, le_rfl⟩

/-- The rollout goes on proposing its graph, and no other rollout does. -/
theorem Effect.proposes (proposes : tables.Proposes id graph) (knows : call.Knows id graph tables) :
    stored.Proposes id graph := by
  obtain ⟨rollout, found, proposed⟩ := proposes.rollout
  obtain ⟨next, foundNext, sameGraph, -⟩ := effect.rollout_kept found
  refine ⟨⟨next, foundNext, sameGraph.trans proposed⟩, ?_, effect.draftMark_isSome proposes.stored⟩
  intro rollout listed same
  rcases effect.mem_rollouts listed with
    ⟨old, oldListed, oldId, oldGraph, -⟩ | ⟨_, _, created, _, rfl, graphId⟩
  · rw [← oldId]
    exact proposes.only old oldListed (oldGraph.trans same)
  · exact absurd (graphId.symm.trans same) knows

theorem Effect.knows_stable
    (proposes : tables.Proposes id graph) (knows : other.Knows id graph tables) :
    other.Knows id graph stored := by
  cases other with
  | updateStage tenant rollout request current =>
    refine ⟨?_, knows.2⟩
    intro same
    obtain ⟨sameGraph, earlier⟩ := knows.1 same
    refine ⟨sameGraph, ?_⟩
    intro now foundNow
    obtain ⟨before, found, -⟩ := proposes.rollout
    obtain ⟨next, foundNext, -, later⟩ := effect.rollout_kept found
    cases Option.some.inj (foundNext.symm.trans foundNow)
    exact (earlier before found).trans later
  | _ => exact knows

end

theorem knows_start (request : CanaryRequest) : (start request).Knows id graph tables := by
  cases request with
  | _ =>
    rw [start]
    repeat' split
    all_goals trivial

theorem knows_own (proposes : tables.Proposes id graph) (knows : call.Knows id graph tables) :
    (advance texts input tables call).2.Knows id graph (advance texts input tables call).1 := by
  cases call with
  | putDraftGraph tenant request =>
    rw [advance]
    split
    case isTrue => trivial
    split
    case h_1 => trivial
    case h_2 put =>
      obtain ⟨document, created⟩ := createGraph_of_putGraph put
      exact ne_of_createGraph proposes.stored created
  | compileDryRun tenant request proposed =>
    rw [advance]
    split
    case h_1 => trivial
    case h_2 => exact knows
  | get tenant rollout request =>
    rw [advance]
    split
    case isTrue => trivial
    split
    case h_1 => trivial
    case h_2 current found =>
      obtain ⟨found, -⟩ := getRollout_eq_some_iff.mp found
      constructor
      · rintro rfl
        obtain ⟨proposing, foundProposing, proposed⟩ := proposes.rollout
        cases Option.some.inj (foundProposing.symm.trans found)
        refine ⟨proposed, ?_⟩
        intro now foundNow
        cases Option.some.inj (found.symm.trans foundNow)
        exact le_rfl
      · intro differs same
        obtain ⟨listed, keyed⟩ := find?_eq_some_iff.mp found
        exact differs (keyed.symm.trans (proposes.only current listed same))
  | started | advanced => trivial
  | _ =>
    rw [advance]
    repeat' split
    all_goals trivial

/-- How stage and draft mark move together: the marks that `Advance` decides from
the stage it read fit the stage it sets, unless a rollback read `dry_run` of a
rollout that has gone live. -/
theorem marks_fit : ∀ {read old next : PolicyRolloutStage},
    validRolloutTransition old next → read.rank ≤ old.rank →
    ((if !shouldPromote read next && shouldDemote read next then true
      else if shouldPromote read next then false else old.graphIsDraft) = next.graphIsDraft ↔
      (next = .rolledBack → read = .dryRun → old ≠ .canary ∧ old ≠ .full)) := by
  intro read old next
  cases read <;> cases old <;> cases next <;> decide

/-- A rollback that read `dry_run` names no graph, and goes through on a rollout
that has gone live. -/
theorem stageUpdate_of_live {tenant rollout : Uuid} {request : AdvanceInput}
    {current found : PolicyRollout} {now : Nat} (rollsBack : request.nextStage = .rolledBack)
    (readDryRun : current.stage = .dryRun) (isThere : tables.getRollout tenant rollout = some found)
    (live : found.stage = .canary ∨ found.stage = .full) :
    ∃ result, stageUpdate tables tenant rollout request current now = .ok result := by
  have valid : validRolloutTransition found.stage .rolledBack := by
    rcases live with live | live <;> rw [live] <;> rfl
  simp only [stageUpdate, rollsBack, readDryRun, shouldPromote, shouldDemote,
    PolicyTables.updateStage, isThere, valid]
  exact ⟨_, rfl⟩

/-- The stage update of the rollout keeps stage and mark together exactly when it
is not a rollback that read `dry_run` of a rollout gone live. -/
theorem matches_of_staged {tenant : Uuid} {request : AdvanceInput} {current updated : PolicyRollout}
    {now : Nat} (matching : tables.LiveMatchesStage id) (sameGraph : current.graphId = graph)
    (earlier : ∀ found ∈ tables.rollouts.find? id, current.stage.rank ≤ found.stage.rank)
    (proposes : tables.Proposes id graph)
    (update : stageUpdate tables tenant id request current now = .ok (stored, updated)) :
    stored.LiveMatchesStage id ↔ (request.nextStage = .rolledBack → current.stage = .dryRun →
        ∀ found ∈ tables.getRollout tenant id, found.stage ≠ .canary ∧ found.stage ≠ .full) := by
  obtain ⟨old, staged⟩ := updateStage_ok update
  have found := (getRollout_eq_some_iff.mp staged.found).1
  obtain ⟨proposing, foundProposing, proposed⟩ := proposes.rollout
  cases Option.some.inj (foundProposing.symm.trans found)
  have before : tables.draftMark graph = some old.stage.graphIsDraft := by
    rw [← proposed]
    exact matching old found
  have after : stored.draftMark graph = some (if !shouldPromote current.stage request.nextStage &&
          shouldDemote current.stage request.nextStage then true
        else if shouldPromote current.stage request.nextStage then false
        else old.stage.graphIsDraft) := by
    rw [staged.draftMark, before, sameGraph]
    cases shouldPromote current.stage request.nextStage <;>
      cases shouldDemote current.stage request.nextStage <;> simp
  have fit := marks_fit staged.valid (earlier old found)
  rw [← staged.stage] at fit ⊢
  rw [LiveMatchesStage, staged.find?_rollouts, if_pos rfl, staged.found]
  simp only [Option.mem_some_iff, forall_eq', staged.sameGraph, proposed, after, Option.some.injEq]
  rw [← staged.stage, fit]

theorem Effect.find?_rollouts (effect : Effect input tables call stored) {rollout : PolicyRollout}
    (found : tables.rollouts.find? id = some rollout)
    (unstaged : ∀ tenant rollout request current,
      call ≠ .updateStage tenant rollout request current) :
    stored.rollouts.find? id = some rollout := by
  cases effect with
  | none => exact found
  | drafted result =>
    rw [(createGraph_ok result).2.2.2.1]
    exact found
  | created _ result =>
    have inserted := (createRollout_ok result).2.2.2.2.1
    exact find?_of_insert? inserted found
  | staged => exact absurd rfl (unstaged _ _ _ _)

/-- **A step keeps stage and draft mark together exactly when it is not a rollback
that read `dry_run` of a rollout gone live.** -/
theorem advance_matches_iff (proposes : tables.Proposes id graph)
    (knows : call.Knows id graph tables) (matching : tables.LiveMatchesStage id) :
    (advance texts input tables call).1.LiveMatchesStage id ↔
      RollbackReadsStage id input tables call := by
  obtain ⟨proposing, found, proposed⟩ := proposes.rollout
  by_cases unstaged : ∀ tenant rollout request current,
      call ≠ .updateStage tenant rollout request current
  · have effect := advance_effect texts input tables call
    have condition : RollbackReadsStage id input tables call := by
      cases call with
      | updateStage => exact absurd rfl (unstaged _ _ _ _)
      | _ => trivial
    refine ⟨fun _ => condition, fun _ => ?_⟩
    intro rollout foundAfter
    cases Option.some.inj ((effect.find?_rollouts found unstaged).symm.trans foundAfter)
    have known : (tables.draftMark proposing.graphId).isSome := proposed ▸ proposes.stored
    rw [effect.draftMark_eq known unstaged]
    exact matching proposing found
  · push Not at unstaged
    obtain ⟨tenant, rollout, request, current, rfl⟩ := unstaged
    rw [advance, RollbackReadsStage]
    split
    case isTrue fails => simp [fails, matching]
    case isFalse connected =>
      split
      case h_1 error refused =>
        refine ⟨?_, fun _ => matching⟩
        intro _ _ _ rollsBack readDryRun now isThere
        by_contra live
        rw [not_and_or, not_not, not_not] at live
        obtain ⟨result, accepted⟩ := stageUpdate_of_live rollsBack readDryRun isThere live
        rw [refused] at accepted
        cases accepted
      case h_2 stored updated update =>
        by_cases same : rollout = id
        · subst same
          obtain ⟨sameGraph, earlier⟩ := knows.1 rfl
          rw [matches_of_staged matching sameGraph earlier proposes update]
          simp [connected]
        · refine ⟨fun _ here => absurd here same, fun _ => ?_⟩
          obtain ⟨old, staged⟩ := updateStage_ok update
          intro now foundAfter
          rw [staged.find?_rollouts, if_neg (Ne.symm same), found] at foundAfter
          cases foundAfter
          have untouched : current.graphId ≠ proposing.graphId := proposed ▸ knows.2 same
          rw [staged.draftMark, if_neg, if_neg]
          · exact matching proposing found
          · split <;> simp [untouched]
          · split <;> simp [untouched]

end CanaryCall

/-- **A rolled-back or unstarted policy is never live, exactly when no rollback
works from a stale stage.** The rollout starts with its own graph and a draft mark
that fits its stage; any calls run, on it and on others. Its graph is a draft
exactly in the stages `dry_run` and `rolled_back` in every state of the run if and
only if no rollback that read `dry_run` updates the rollout after another call has
taken it to `canary` or `full`. -/
theorem live_matches_stage_iff (id graph : Uuid)
    (proposes : tables.Proposes id graph) (matching : tables.LiveMatchesStage id)
    (moves : List (Move CanaryRequest CanaryInput)) :
    (∀ before after, moves = before ++ after →
      ((canaryService texts).run tables before).store.LiveMatchesStage id) ↔
    AlongRun (canaryService texts).step (Service.AtCall (RollbackReadsStage id))
      (Service.idle tables) moves := by
  apply Service.throughout_run_iff (Proposes id graph)
    (fun tables call => call.Knows id graph tables) (fun tables => tables.LiveMatchesStage id)
    _ _ _ _ proposes matching
  · intro tables request _
    exact knows_start request
  · intro input tables call proposes knows _
    exact ⟨(advance_effect texts input tables call).proposes proposes knows,
      knows_own proposes knows⟩
  · intro input tables call other proposes _ knows _
    exact (advance_effect texts input tables call).knows_stable proposes knows
  · intro input tables call proposes knows matching
    exact advance_matches_iff proposes knows matching

def sampleCanaryInput (now : Nat) : CanaryInput where
  fails := false
  now
  newId := now
  compileDryRun _ simulationId := some simulationId

def sampleProposal : StartDryRunInput where
  proposedGraph := .document (.obj [])
  previousGraphId := nilUuid
  simulationId := 9
  actorId := none
  notes := ""

/-- The tables once tenant `1` has a rollout `13` of the graph `11` in `dry_run`. -/
def sampleRolloutTables : PolicyTables := ((canaryService plainGoText).alone
    [sampleCanaryInput 10, sampleCanaryInput 11, sampleCanaryInput 12, sampleCanaryInput 13]
    (.empty [1]) (.startDryRun 1 sampleProposal)).1

theorem sampleRolloutTables_proposes : sampleRolloutTables.Proposes 13 11 where
  rollout := ⟨_, rfl, rfl⟩
  only := by decide
  stored := rfl

def canaryThenRollback : List (Move CanaryRequest CanaryInput) :=
  [.request (.advance 1 13 ⟨.canary, 10, none, ""⟩), .resume 0 (sampleCanaryInput 20),
    .resume 0 (sampleCanaryInput 21), .request (.rollback 1 13 none "errors"),
    .resume 1 (sampleCanaryInput 22), .resume 1 (sampleCanaryInput 23)]

theorem canaryThenRollback_matches_stage :
    ((canaryService plainGoText).run sampleRolloutTables canaryThenRollback).store.LiveMatchesStage
      13 :=
  (live_matches_stage_iff plainGoText sampleRolloutTables 13 11 sampleRolloutTables_proposes
    (by decide) canaryThenRollback).mpr (by decide) canaryThenRollback [] rfl

/-- A rollback that reads `dry_run`, and updates after the rollout went to canary. -/
def rollbackAcrossCanary : List (Move CanaryRequest CanaryInput) :=
  [.request (.rollback 1 13 none "errors"), .resume 0 (sampleCanaryInput 20),
    .request (.advance 1 13 ⟨.canary, 10, none, ""⟩), .resume 1 (sampleCanaryInput 21),
    .resume 1 (sampleCanaryInput 22), .resume 0 (sampleCanaryInput 23)]

/-- **A stale rollback leaves the graph live.** The rollout has been rolled back,
and its graph is no draft. -/
theorem stale_rollback_leaves_graph_live : sampleRolloutTables.LiveMatchesStage 13 ∧
    let final := ((canaryService plainGoText).run sampleRolloutTables rollbackAcrossCanary).store
    (final.rollouts.find? 13).map PolicyRollout.stage = some .rolledBack ∧
      final.draftMark 11 = some false ∧ ¬ final.LiveMatchesStage 13 := by
  decide

/-! ## Rollouts under way -/

/-- When a `StartDryRun` of the tenant inserts its rollout, `GetActive` still finds
none. -/
def InsertFindsNone (tenant : Uuid) (input : CanaryInput) (tables : PolicyTables) :
    CanaryCall → Prop
  | .create owner request proposed simulationId =>
    owner = tenant → input.fails = false →
      (tables.createRollout owner (newRollout request owner proposed simulationId input)
        input.now).isOk → tables.getActive tenant = none
  | _ => True

instance (tenant : Uuid) (input : CanaryInput) (tables : PolicyTables) (call : CanaryCall) :
    Decidable (InsertFindsNone tenant input tables call) := by
  cases call <;> dsimp only [InsertFindsNone] <;> infer_instance

theorem isTerminal_of_validRolloutTransition : ∀ {old next : PolicyRolloutStage},
    validRolloutTransition old next → old.isTerminal → next.isTerminal := by
  intro old next
  cases old <;> cases next <;> decide

variable {tables stored : PolicyTables}

theorem PolicyTables.StageUpdated.length_activeRollouts_le {owner id : Uuid}
    {next : PolicyRolloutStage} {promoteGraphId demoteGraphId : Option Uuid}
    {old updated : PolicyRollout}
    (staged : StageUpdated tables owner id next promoteGraphId demoteGraphId stored old updated)
    (tenant : Uuid) :
    (stored.activeRollouts tenant).length ≤ (tables.activeRollouts tenant).length := by
  have found := (getRollout_eq_some_iff.mp staged.found).1
  rw [activeRollouts, activeRollouts, staged.tables_eq, rollouts_flip, rollouts_flip,
    ← countP_eq_length_filter, ← countP_eq_length_filter]
  refine (countP_map ..).trans_le (countP_mono_left ?_)
  intro row listed active
  dsimp only [Function.comp_apply] at active
  split at active
  case isTrue same =>
    have isOld : row = old := by
      have here := find?_eq_some_iff.mpr ⟨listed, same.trans staged.id_eq⟩
      exact Option.some.inj (here.symm.trans found)
    rw [Bool.and_eq_true, Bool.not_eq_true'] at active ⊢
    rw [isOld]
    refine ⟨staged.sameTenant ▸ active.1, ?_⟩
    cases ended : old.stage.isTerminal with
    | false => rfl
    | true =>
      have stillEnded := isTerminal_of_validRolloutTransition staged.valid ended
      rw [← staged.stage, active.2] at stillEnded
      cases stillEnded
  case isFalse => exact active

theorem activeRollouts_of_createRollout {owner : Uuid} {rollout saved : PolicyRollout} {now : Nat}
    (dryRun : rollout.stage = .dryRun)
    (created : tables.createRollout owner rollout now = .ok (stored, saved)) (tenant : Uuid) :
    stored.activeRollouts tenant =
      tables.activeRollouts tenant ++ if owner = tenant then [saved] else [] := by
  obtain ⟨-, ofOwner, -, stage, inserted, -⟩ := createRollout_ok created
  rw [activeRollouts, (mem_rows_insert? inserted).2, filter_append,
    filter_singleton, ofOwner, stage, dryRun]
  congr 1
  by_cases same : owner = tenant <;> simp [same, PolicyRolloutStage.isTerminal]

theorem CanaryCall.Effect.length_activeRollouts_le {input : CanaryInput} {call : CanaryCall}
    (effect : Effect input tables call stored)
    (noInsert : ∀ tenant request proposed simulationId,
      call ≠ .create tenant request proposed simulationId)
    (tenant : Uuid) :
    (stored.activeRollouts tenant).length ≤ (tables.activeRollouts tenant).length := by
  cases effect with
  | none => exact le_rfl
  | drafted result =>
    rw [activeRollouts, (createGraph_ok result).2.2.2.1]
    exact le_rfl
  | created => exact absurd rfl (noInsert _ _ _ _)
  | staged _ update =>
    obtain ⟨old, staged⟩ := updateStage_ok update
    exact staged.length_activeRollouts_le tenant

/-- **A step leaves at most one rollout under way exactly when an insert finds
none.** -/
theorem CanaryCall.advance_single_iff {texts : GoText} {input : CanaryInput} {tables : PolicyTables}
    {call : CanaryCall} {tenant : Uuid} (single : (tables.activeRollouts tenant).length ≤ 1) :
    ((advance texts input tables call).1.activeRollouts tenant).length ≤ 1 ↔
      InsertFindsNone tenant input tables call := by
  by_cases noInsert : ∀ tenant request proposed simulationId,
      call ≠ .create tenant request proposed simulationId
  · have condition : InsertFindsNone tenant input tables call := by
      cases call with
      | create => exact absurd rfl (noInsert _ _ _ _)
      | _ => trivial
    have kept := (advance_effect texts input tables call).length_activeRollouts_le noInsert tenant
    exact ⟨fun _ => condition, fun _ => kept.trans single⟩
  · push Not at noInsert
    obtain ⟨owner, request, proposed, simulationId, rfl⟩ := noInsert
    rw [advance, InsertFindsNone]
    split
    case isTrue fails => simp [fails, single]
    case isFalse connected =>
      split
      case h_1 error refused => simp [refused, Except.isOk, Except.toBool, single]
      case h_2 stored saved created =>
        rw [activeRollouts_of_createRollout rfl created, PolicyTables.getActive,
          firstMax_eq_none_iff, created]
        by_cases same : owner = tenant
        · simp [same, connected, Except.isOk, Except.toBool]
        · simp [same, single]

/-- **At most one rollout is under way per tenant, exactly when no insert runs into
another rollout.** The tenant starts with at most one; any calls run, of it and of
other tenants. No state of the run has two rollouts of the tenant under way if and
only if, whenever a `StartDryRun` inserts its rollout, `GetActive` would still find
none. -/
theorem single_active_rollout_iff (tables : PolicyTables) (tenant : Uuid)
    (single : (tables.activeRollouts tenant).length ≤ 1)
    (moves : List (Move CanaryRequest CanaryInput)) :
    (∀ before after, moves = before ++ after →
      (((canaryService texts).run tables before).store.activeRollouts tenant).length ≤ 1) ↔
    AlongRun (canaryService texts).step (Service.AtCall (InsertFindsNone tenant))
      (Service.idle tables) moves := by
  apply Service.throughout_run_iff (fun _ => True) (fun _ _ => True)
    (fun tables : PolicyTables => (tables.activeRollouts tenant).length ≤ 1) _ _ _ _ trivial single
  · intro _ _ _
    trivial
  · intro _ _ _ _ _ _
    exact ⟨trivial, trivial⟩
  · intro _ _ _ _ _ _ _ _
    trivial
  · intro input tables call _ _ single
    exact advance_single_iff single

def startAfterRollback : List (Move CanaryRequest CanaryInput) :=
  [.request (.rollback 1 13 none ""), .resume 0 (sampleCanaryInput 20),
    .resume 0 (sampleCanaryInput 21), .request (.startDryRun 1 sampleProposal),
    .resume 1 (sampleCanaryInput 22), .resume 1 (sampleCanaryInput 23),
    .resume 1 (sampleCanaryInput 24), .resume 1 (sampleCanaryInput 25)]

theorem startAfterRollback_single :
    (((canaryService plainGoText).run sampleRolloutTables startAfterRollback).store.activeRollouts
      1).length ≤ 1 :=
  (single_active_rollout_iff plainGoText sampleRolloutTables 1 (by decide)
    startAfterRollback).mpr (by decide) startAfterRollback [] rfl

def overlappingStarts : List (Move CanaryRequest CanaryInput) :=
  [.request (.startDryRun 1 sampleProposal), .request (.startDryRun 1 sampleProposal),
    .resume 0 (sampleCanaryInput 10), .resume 1 (sampleCanaryInput 11),
    .resume 0 (sampleCanaryInput 12), .resume 0 (sampleCanaryInput 13),
    .resume 0 (sampleCanaryInput 14), .resume 1 (sampleCanaryInput 15),
    .resume 1 (sampleCanaryInput 16), .resume 1 (sampleCanaryInput 17)]

/-- **Overlapping starts put two rollouts under way**, in a tenant that had none. -/
theorem overlapping_starts_both_active : ((empty [1]).activeRollouts 1).length = 0 ∧
    (((canaryService plainGoText).run (.empty [1]) overlappingStarts).store.activeRollouts 1).map
      PolicyRollout.stage = [.dryRun, .dryRun] := by
  decide

end ShieldNet.Policy
