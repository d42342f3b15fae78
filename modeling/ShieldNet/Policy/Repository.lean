import ShieldNet.Identity.Store
import ShieldNet.Policy.Bundle
import Mathlib.Data.Prod.Lex

/-!
# Policy tables

`policy_graphs`, `policy_bundles` and `policy_rollouts`, with the operations of
`internal/repository/memory/{policy,policy_rollout}.go` on them. The Postgres
repository runs each operation in one transaction and keeps the same rules by
its constraints: a tenant has a version once, a graph has a bundle once per
target. The tables carry both.

A graph is current when it is the newest that is no draft
(`getCurrentGraph`). The bundle served for a target is the one of the newest
graph that has any, draft or not (`getLatestBundle`).
-/

namespace ShieldNet.Policy

open Table List Option

open Identity (Uuid nilUuid RepositoryError)

/-! ## Rows -/

structure PolicyGraph where
  id : Uuid
  tenantId : Uuid
  version : Nat
  graph : Json
  isDraft : Bool
  createdAt : Nat

structure PolicyBundle where
  id : Uuid
  policyGraphId : Uuid
  targetType : BundleTarget
  bundle : RawBundle
  signature : List UInt8
  keyId : String
  createdAt : Nat

inductive PolicyRolloutStage where
  | dryRun
  | canary
  | full
  | completed
  | rolledBack
  deriving DecidableEq

def PolicyRolloutStage.isTerminal : PolicyRolloutStage → Bool
  | .completed | .rolledBack => true
  | .dryRun | .canary | .full => false

def validRolloutTransition (old next : PolicyRolloutStage) : Bool :=
  if old = next then true
  else if old.isTerminal then false
  else if next = .rolledBack then true
  else
    match old with
    | .dryRun => next = .canary || next = .full
    | .canary => next = .full
    | .full => next = .completed
    | .completed | .rolledBack => false

structure PolicyRollout where
  id : Uuid
  tenantId : Uuid
  graphId : Uuid
  previousGraphId : Uuid
  stage : PolicyRolloutStage
  canaryPercent : Int
  simulationId : Uuid
  createdBy : Option Uuid
  createdAt : Nat
  updatedAt : Nat
  notes : String

inductive ServiceError where
  | message (text : String)
  | repository (error : RepositoryError)
  | graph (error : GraphError)
  | unavailable
  | wrapped (context : String) (cause : ServiceError)

def PolicyGraph.versionIndex (graph : PolicyGraph) : Uuid × Nat := (graph.tenantId, graph.version)

/-- `UNIQUE (policy_graph_id, target_type)`. -/
def PolicyBundle.targetIndex (bundle : PolicyBundle) : Uuid × BundleTarget :=
  (bundle.policyGraphId, bundle.targetType)

structure PolicyTables where
  tenants : List Uuid
  graphs : Table PolicyGraph.id
  bundles : Table PolicyBundle.id
  rollouts : Table PolicyRollout.id
  versions_distinct : UniqueOn PolicyGraph.versionIndex graphs.rows
  targets_distinct : UniqueOn PolicyBundle.targetIndex bundles.rows
  /-- `policy_graph_id … REFERENCES policy_graphs(id)`. -/
  bundles_graph : ∀ bundle ∈ bundles.rows, (graphs.find? bundle.policyGraphId).isSome

namespace PolicyTables

open Table

def empty (tenants : List Uuid) : PolicyTables where
  tenants
  graphs := .empty
  bundles := .empty
  rollouts := .empty
  versions_distinct _ member := absurd member not_mem_nil
  targets_distinct _ member := absurd member not_mem_nil
  bundles_graph _ member := absurd member not_mem_nil

/-! ## Graphs -/

variable (tables : PolicyTables) (tenant : Uuid)

def graphsOf : List PolicyGraph :=
  tables.graphs.rows.filter fun graph => graph.tenantId = tenant

def nextVersion : Nat :=
  ((tables.graphsOf tenant).map PolicyGraph.version).foldl max 0 + 1

/-- `CreateGraph`. A version of `0` is unset; `newId` is what `uuid.New` gives. -/
def createGraph (version : Nat) (graph : Json)
    (isDraft : Bool) (newId now : Nat) : Except RepositoryError (PolicyTables × PolicyGraph) :=
  if tenant = nilUuid then .error .invalidArgument
  else if tenant ∉ tables.tenants then .error .notFound
  else
    let row : PolicyGraph :=
      { id := newId, tenantId := tenant, graph, isDraft, createdAt := now
        version := if version = 0 then tables.nextVersion tenant else version }
    match inserted : tables.graphs.insertUnique? PolicyGraph.versionIndex row with
    | none => .error .conflict
    | some graphs => .ok ({ tables with
        graphs
        versions_distinct := tables.versions_distinct.insertUnique? inserted
        bundles_graph bundle listed :=
          isSome_find?_of_insert? (insertUnique?_eq_some_iff.mp inserted).2
            (tables.bundles_graph bundle listed) }, row)

def getCurrentGraph : Option PolicyGraph :=
  firstMax PolicyGraph.version ((tables.graphsOf tenant).filter fun graph => !graph.isDraft)

def ownsGraph (tenant graph : Uuid) : Bool :=
  (tables.graphs.find? graph).any fun row => row.tenantId = tenant

variable {graph : Uuid}

theorem isSome_of_ownsGraph {tables : PolicyTables} {tenant : Uuid}
    (owns : ¬ tables.ownsGraph tenant graph = false) : (tables.graphs.find? graph).isSome := by
  unfold ownsGraph at owns
  cases found : tables.graphs.find? graph with
  | none => simp [found] at owns
  | some row => rfl

def setDraft (graph : Uuid) (isDraft : Bool) : PolicyTables :=
  { tables with
    graphs := tables.graphs.modify graph (fun row => { row with isDraft }) fun _ same => same
    versions_distinct := tables.versions_distinct.modify fun _ => rfl
    bundles_graph bundle listed :=
      isSome_find?_modify.trans (tables.bundles_graph bundle listed) }

/-- The tables with the draft mark of a graph set, if one is named. -/
def flip (graph : Option Uuid) (isDraft : Bool) : PolicyTables :=
  graph.elim tables fun graph => tables.setDraft graph isDraft

/-! ## Bundles -/

def createBundle (bundle : PolicyBundle) (now : Nat) :
    Except RepositoryError (PolicyTables × PolicyBundle) :=
  if owns : tables.ownsGraph tenant bundle.policyGraphId = false then .error .notFound
  else
    let row := { bundle with createdAt := now }
    match inserted : tables.bundles.insertUnique? PolicyBundle.targetIndex row with
    | none => .error .conflict
    | some bundles => .ok ({ tables with
        bundles
        targets_distinct := tables.targets_distinct.insertUnique? inserted
        bundles_graph := by
          rw [(mem_rows_insert? (insertUnique?_eq_some_iff.mp inserted).2).2]
          intro stored listed
          rcases mem_append.mp listed with old | new
          · exact tables.bundles_graph stored old
          · rw [mem_singleton.mp new]
            exact isSome_of_ownsGraph owns }, row)

def versionOf (tenant graph : Uuid) : Option Nat :=
  (tables.graphs.find? graph).bind fun row =>
    if row.tenantId = tenant then some row.version else none

/-- The bundles of a tenant for a target, each with the version of its graph. -/
def bundlesFor (target : BundleTarget) : List (PolicyBundle × Nat) :=
  tables.bundles.rows.filterMap fun bundle =>
    if bundle.targetType = target then
      (tables.versionOf tenant bundle.policyGraphId).map fun version => (bundle, version)
    else none

def getLatestBundle (target : BundleTarget) : Option PolicyBundle :=
  (firstMax (fun candidate => toLex (candidate.2, candidate.1.createdAt))
    (tables.bundlesFor tenant target)).map Prod.fst

/-! ## Rollouts -/

def createRollout (rollout : PolicyRollout) (now : Nat) :
    Except RepositoryError (PolicyTables × PolicyRollout) :=
  if tenant = nilUuid ∨ rollout.graphId = nilUuid then .error .invalidArgument
  else if tenant ∉ tables.tenants then .error .notFound
  else if tables.ownsGraph tenant rollout.graphId = false then .error .notFound
  else if rollout.previousGraphId ≠ nilUuid ∧
      tables.ownsGraph tenant rollout.previousGraphId = false then .error .notFound
  else if rollout.stage.isTerminal then .error .invalidArgument
  else if rollout.stage = .canary ∧ (rollout.canaryPercent < 0 ∨ rollout.canaryPercent > 100) then
    .error .invalidArgument
  else
    let row := { rollout with
      tenantId := tenant, createdAt := now, updatedAt := now
      canaryPercent := if rollout.stage = .canary then rollout.canaryPercent else 0 }
    match tables.rollouts.insert? row with
    | none => .error .conflict
    | some rollouts => .ok ({ tables with rollouts }, row)

def getRollout (tenant id : Uuid) : Option PolicyRollout :=
  (tables.rollouts.find? id).filter fun rollout => rollout.tenantId = tenant

def activeRollouts : List PolicyRollout :=
  tables.rollouts.rows.filter fun rollout => rollout.tenantId = tenant && !rollout.stage.isTerminal

def getActive : Option PolicyRollout :=
  firstMax (fun rollout => toLex (rollout.createdAt, rollout.id)) (tables.activeRollouts tenant)

/-- The notes of a rollout with the notes of one more transition. -/
def appendNotes (old new : String) : String :=
  if new = "" then old else if old = "" then new else old ++ "\n" ++ new

/-- `UpdateStage`. The stage and the draft marks change in one step. -/
def updateStage (tenant id : Uuid) (next : PolicyRolloutStage)
    (canaryPercent : Int) (notes : String) (now : Nat)
    (promoteGraphId demoteGraphId : Option Uuid) :
    Except RepositoryError (PolicyTables × PolicyRollout) :=
  if promoteGraphId.isSome ∧ demoteGraphId.isSome then .error .invalidArgument
  else
    match tables.getRollout tenant id with
    | none => .error .notFound
    | some rollout =>
      if validRolloutTransition rollout.stage next = false then .error .invalidArgument
      else if next = .canary ∧ (canaryPercent < 0 ∨ canaryPercent > 100) then
        .error .invalidArgument
      else if promoteGraphId.any (fun graph => !tables.ownsGraph tenant graph) then
        .error .notFound
      else if demoteGraphId.any (fun graph => !tables.ownsGraph tenant graph) then
        .error .notFound
      else
        let updated := { rollout with
          stage := next, updatedAt := now, notes := appendNotes rollout.notes notes
          canaryPercent := if next = .canary then canaryPercent else rollout.canaryPercent }
        let staged := { tables with rollouts := tables.rollouts.update updated }
        .ok ((staged.flip promoteGraphId false).flip demoteGraphId true, updated)

/-! ## What the operations do -/

variable {tables stored : PolicyTables} {tenant : Uuid}

def draftMark (tables : PolicyTables) (graph : Uuid) : Option Bool :=
  (tables.graphs.find? graph).map PolicyGraph.isDraft

variable {isDraft : Bool} {other : Uuid}

theorem draftMark_setDraft : (tables.setDraft graph isDraft).draftMark other =
    if other = graph then (tables.draftMark graph).map (fun _ => isDraft)
    else tables.draftMark other := by
  unfold draftMark setDraft
  rw [find?_modify]
  split
  case isTrue => simp [Function.comp_def]
  case isFalse => rfl

variable {flipped : Option Uuid}

theorem draftMark_flip : (tables.flip flipped isDraft).draftMark other =
    if flipped = some other then (tables.draftMark other).map (fun _ => isDraft)
    else tables.draftMark other := by
  cases flipped with
  | none => rfl
  | some graph =>
    rw [flip, elim_some, draftMark_setDraft]
    by_cases same : other = graph
    · simp [same]
    · simp [same, Ne.symm same]

@[simp] theorem rollouts_flip : (tables.flip flipped isDraft).rollouts = tables.rollouts := by
  cases flipped <;> rfl

variable {now : Nat}

theorem createGraph_ok {version newId : Nat} {document : Json} {graph : PolicyGraph}
    (created : tables.createGraph tenant version document isDraft newId now = .ok (stored, graph)) :
    graph.id = newId ∧ tables.graphs.find? newId = none ∧
      tables.graphs.insert? graph = some stored.graphs ∧
      stored.rollouts = tables.rollouts ∧ stored.bundles = tables.bundles := by
  obtain ⟨-, created⟩ := ite_error_eq_ok created
  obtain ⟨-, created⟩ := ite_error_eq_ok created
  dsimp only at created
  split at created
  case h_1 => cases created
  case h_2 graphs inserted =>
    cases created
    obtain ⟨-, inserted⟩ := insertUnique?_eq_some_iff.mp inserted
    refine ⟨rfl, ?_, inserted, rfl, rfl⟩
    exact find?_eq_none_iff.mpr (mem_rows_insert? inserted).1

theorem createRollout_ok {rollout saved : PolicyRollout}
    (created : tables.createRollout tenant rollout now = .ok (stored, saved)) :
    saved.id = rollout.id ∧ saved.tenantId = tenant ∧ saved.graphId = rollout.graphId ∧
      saved.stage = rollout.stage ∧ tables.rollouts.insert? saved = some stored.rollouts ∧
      stored.graphs = tables.graphs ∧ stored.bundles = tables.bundles := by
  obtain ⟨-, created⟩ := ite_error_eq_ok created
  obtain ⟨-, created⟩ := ite_error_eq_ok created
  obtain ⟨-, created⟩ := ite_error_eq_ok created
  obtain ⟨-, created⟩ := ite_error_eq_ok created
  obtain ⟨-, created⟩ := ite_error_eq_ok created
  obtain ⟨-, created⟩ := ite_error_eq_ok created
  dsimp only at created
  split at created
  case h_1 => cases created
  case h_2 rollouts inserted =>
    cases created
    exact ⟨rfl, rfl, rfl, rfl, inserted, rfl, rfl⟩

structure StageUpdated (tables : PolicyTables) (tenant id : Uuid) (next : PolicyRolloutStage)
    (promoteGraphId demoteGraphId : Option Uuid) (stored : PolicyTables)
    (old updated : PolicyRollout) : Prop where
  found : tables.getRollout tenant id = some old
  valid : validRolloutTransition old.stage next = true
  stage : updated.stage = next
  sameId : updated.id = old.id
  sameTenant : updated.tenantId = old.tenantId
  sameGraph : updated.graphId = old.graphId
  owned : ∀ graph ∈ demoteGraphId, tables.ownsGraph tenant graph = true
  tables_eq : stored = (({ tables with rollouts := tables.rollouts.update updated }).flip
    promoteGraphId false).flip demoteGraphId true

theorem updateStage_ok {id : Uuid} {next : PolicyRolloutStage} {canaryPercent : Int}
    {notes : String} {promoteGraphId demoteGraphId : Option Uuid} {updated : PolicyRollout}
    (result : tables.updateStage tenant id next canaryPercent notes now promoteGraphId
      demoteGraphId = .ok (stored, updated)) :
    ∃ old, StageUpdated tables tenant id next promoteGraphId demoteGraphId stored old updated := by
  obtain ⟨-, result⟩ := ite_error_eq_ok result
  split at result
  case h_1 => cases result
  case h_2 old found =>
    obtain ⟨valid, result⟩ := ite_error_eq_ok result
    obtain ⟨-, result⟩ := ite_error_eq_ok result
    obtain ⟨-, result⟩ := ite_error_eq_ok result
    obtain ⟨owned, result⟩ := ite_error_eq_ok result
    cases result
    refine ⟨old,
      { found, valid := eq_true_of_ne_false valid
        stage := rfl, sameId := rfl, sameTenant := rfl, sameGraph := rfl, owned := ?_
        tables_eq := rfl }⟩
    rintro graph rfl
    simpa using owned

theorem getRollout_eq_some_iff {id : Uuid} {rollout : PolicyRollout} :
    tables.getRollout tenant id = some rollout ↔
      tables.rollouts.find? id = some rollout ∧ rollout.tenantId = tenant := by
  simp [getRollout, filter_eq_some_iff]

section StageUpdated

variable {id : Uuid} {next : PolicyRolloutStage} {promoteGraphId demoteGraphId : Option Uuid}
  {old updated : PolicyRollout}

section

variable (staged :
  StageUpdated tables tenant id next promoteGraphId demoteGraphId stored old updated)
include staged

theorem StageUpdated.id_eq : updated.id = id := by
  rw [staged.sameId]
  exact (find?_eq_some_iff.mp (getRollout_eq_some_iff.mp staged.found).1).2

theorem StageUpdated.find?_rollouts (other : Uuid) : stored.rollouts.find? other =
    if other = id then some updated else tables.rollouts.find? other := by
  have found := (getRollout_eq_some_iff.mp staged.found).1
  rw [staged.tables_eq, rollouts_flip, rollouts_flip, update, find?_modify, staged.id_eq, found]
  rfl

theorem StageUpdated.draftMark (graph : Uuid) : stored.draftMark graph =
    if demoteGraphId = some graph then (tables.draftMark graph).map (fun _ => true)
    else if promoteGraphId = some graph then (tables.draftMark graph).map (fun _ => false)
    else tables.draftMark graph := by
  have unstaged : ({ tables with rollouts := tables.rollouts.update updated }).draftMark graph =
      tables.draftMark graph := rfl
  rw [staged.tables_eq, draftMark_flip, draftMark_flip, unstaged]
  split
  case isTrue => split <;> simp [Function.comp_def]
  case isFalse => rfl

end

end StageUpdated

/-! ## What is served -/

theorem getCurrentGraph_congr (graphs : stored.graphs = tables.graphs) :
    stored.getCurrentGraph tenant = tables.getCurrentGraph tenant := by
  rw [getCurrentGraph, graphsOf, graphs]
  rfl

theorem ownsGraph_unique {owner : Uuid} (owns : tables.ownsGraph tenant graph)
    (other : tables.ownsGraph owner graph) : owner = tenant := by
  unfold ownsGraph at owns other
  cases found : tables.graphs.find? graph with
  | none => simp [found] at owns
  | some row =>
    rw [found, any_some, decide_eq_true_eq] at owns other
    exact other.symm.trans owns

theorem ownsGraph_of_getCurrentGraph {graph : PolicyGraph}
    (current : tables.getCurrentGraph tenant = some graph) :
    tables.ownsGraph tenant graph.id := by
  have listed := mem_filter.mp (firstMax_isFirstMax current).mem
  have owned := mem_filter.mp listed.1
  rw [ownsGraph, find?_eq_some_iff.mpr ⟨owned.1, rfl⟩]
  exact owned.2

variable {bundle row : PolicyBundle}

theorem createBundle_ok (created : tables.createBundle tenant bundle now = .ok (stored, row)) :
    tables.ownsGraph tenant bundle.policyGraphId ∧
      row = { bundle with createdAt := now } ∧
      tables.bundles.insert? row = some stored.bundles ∧
      bundle.targetIndex ∉ tables.bundles.rows.map PolicyBundle.targetIndex ∧
      stored.graphs = tables.graphs ∧ stored.rollouts = tables.rollouts ∧
      stored.tenants = tables.tenants := by
  unfold createBundle at created
  split at created
  case isTrue => cases created
  case isFalse owns =>
    dsimp only at created
    split at created
    case h_1 => cases created
    case h_2 bundles inserted =>
      cases created
      obtain ⟨free, inserted⟩ := insertUnique?_eq_some_iff.mp inserted
      exact ⟨eq_true_of_ne_false owns, rfl, inserted, free, rfl, rfl, rfl⟩

def HasBundle (tables : PolicyTables) (graph : Uuid) (target : BundleTarget) : Prop :=
  (graph, target) ∈ tables.bundles.rows.map PolicyBundle.targetIndex

instance (tables : PolicyTables) (graph : Uuid) (target : BundleTarget) :
    Decidable (tables.HasBundle graph target) :=
  inferInstanceAs (Decidable (_ ∈ _))

theorem createBundle_of_free (owns : tables.ownsGraph tenant bundle.policyGraphId)
    (free : ¬ tables.HasBundle bundle.policyGraphId bundle.targetType)
    (freshId : bundle.id ∉ tables.bundles.rows.map PolicyBundle.id) :
    ∃ stored, tables.createBundle tenant bundle now =
        .ok (stored, { bundle with createdAt := now }) := by
  unfold createBundle
  rw [dif_neg (by simp [owns])]
  dsimp only
  split
  case h_1 refused =>
    have inserted : tables.bundles.insertUnique? PolicyBundle.targetIndex
        { bundle with createdAt := now } = some
          ⟨tables.bundles.rows ++ [{ bundle with createdAt := now }], _⟩ :=
      insertUnique?_eq_some_iff.mpr ⟨free, dif_neg freshId⟩
    rw [refused] at inserted
    cases inserted
  case h_2 => exact ⟨_, rfl⟩

theorem createBundle_of_hasBundle (owns : tables.ownsGraph tenant bundle.policyGraphId)
    (taken : tables.HasBundle bundle.policyGraphId bundle.targetType) :
    tables.createBundle tenant bundle now = .error .conflict := by
  unfold createBundle
  rw [dif_neg (by simp [owns])]
  dsimp only
  split
  case h_1 => rfl
  case h_2 bundles inserted =>
    exact absurd taken (insertUnique?_eq_some_iff.mp inserted).1

variable {target : BundleTarget}

theorem hasBundle_createBundle
    (created : tables.createBundle tenant bundle now = .ok (stored, row)) :
    stored.HasBundle graph target ↔
      tables.HasBundle graph target ∨ (graph, target) = bundle.targetIndex := by
  obtain ⟨-, rfl, inserted, -⟩ := createBundle_ok created
  rw [HasBundle, (mem_rows_insert? inserted).2, map_append, mem_append,
    map_singleton, mem_singleton]
  rfl

theorem bundlesFor_congr (bundles : stored.bundles = tables.bundles)
    (versions : ∀ bundle ∈ tables.bundles.rows,
      stored.versionOf tenant bundle.policyGraphId = tables.versionOf tenant bundle.policyGraphId) :
    stored.bundlesFor tenant target = tables.bundlesFor tenant target := by
  rw [bundlesFor, bundlesFor, bundles]
  apply filterMap_congr
  intro bundle listed
  rw [versions bundle listed]

theorem versionOf_setDraft {isDraft : Bool} :
    (tables.setDraft graph isDraft).versionOf tenant other = tables.versionOf tenant other := by
  unfold versionOf setDraft
  rw [find?_modify]
  split
  case isTrue same =>
    rw [same]
    cases tables.graphs.find? graph <;> rfl
  case isFalse => rfl

theorem bundlesFor_setDraft {isDraft : Bool} :
    (tables.setDraft graph isDraft).bundlesFor tenant target = tables.bundlesFor tenant target :=
  bundlesFor_congr rfl fun _ _ => versionOf_setDraft

theorem bundlesFor_flip {isDraft : Bool} :
    (tables.flip flipped isDraft).bundlesFor tenant target = tables.bundlesFor tenant target := by
  cases flipped with
  | none => rfl
  | some graph => exact bundlesFor_setDraft

/-- A new graph changes nothing that is served: every bundle has its graph. -/
theorem bundlesFor_insertGraph {graph : PolicyGraph}
    (inserted : tables.graphs.insert? graph = some stored.graphs)
    (bundles : stored.bundles = tables.bundles) :
    stored.bundlesFor tenant target = tables.bundlesFor tenant target := by
  apply bundlesFor_congr bundles
  intro bundle listed
  obtain ⟨row, found⟩ := isSome_iff_exists.mp (tables.bundles_graph bundle listed)
  rw [versionOf, versionOf, find?_of_insert? inserted found, found]

def candidate (tables : PolicyTables) (tenant : Uuid) (target : BundleTarget)
    (bundle : PolicyBundle) : Option (PolicyBundle × Nat) :=
  if bundle.targetType = target then
    (tables.versionOf tenant bundle.policyGraphId).map fun version => (bundle, version)
  else none

theorem bundlesFor_append {new : List PolicyBundle} (graphs : stored.graphs = tables.graphs)
    (rows : stored.bundles.rows = tables.bundles.rows ++ new) :
    stored.bundlesFor tenant target =
      tables.bundlesFor tenant target ++ new.filterMap (tables.candidate tenant target) := by
  have versions : stored.versionOf tenant = tables.versionOf tenant := by
    funext graph
    rw [versionOf, versionOf, graphs]
  rw [bundlesFor, bundlesFor, rows, filterMap_append, versions]
  rfl

end PolicyTables
end ShieldNet.Policy
