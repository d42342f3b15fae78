import ShieldNet.Policy.Served

/-!
# Compiling a graph again

`CreateBundle` takes one bundle of a graph for a target, and `Compile` stores one
for each target. A compile of a graph that has been compiled is therefore refused
at the first target, whatever has changed in the threat-intelligence store or the
app catalog since (`recompile_refused`).

For the same reason a compile that fails on the way cannot be repeated. The
bundles it saved stay, are served, and stand in the way of the next compile. Only
a compile that fails at the first target leaves nothing behind
(`failed_compile_retryable_iff`).
-/

namespace ShieldNet.Policy

open PolicyTables Service PolicyCall List

open Identity (Uuid nilUuid RepositoryError)

/-! ## A compile under way -/

namespace PolicyCall

variable {config : CompileConfig} {input : CompileInput} {store reached stored : PolicyStore}
  {call : PolicyCall} {tenant : Uuid}

/-- What holds of a compile that runs alone: it works on the current graph, no
graph changes, bundles stay, and a key it has resolved is active. -/
structure Working (store : PolicyStore) (tenant : Uuid) (reached : PolicyStore)
    (call : PolicyCall) : Prop where
  compiles : call.compiles = true
  owner : call.tenant = tenant
  graphs : reached.tables.graphs = store.tables.graphs
  graph : ∀ graph ∈ call.graph?, store.tables.getCurrentGraph tenant = some graph
  bundles : ∀ graph target, store.tables.HasBundle graph target →
    reached.tables.HasBundle graph target
  active : ∀ prepared ∈ call.prepared?, (reached.keys.getActive tenant).isSome

variable {target : BundleTarget}

theorem Effect.hasBundle (effect : Effect config input store call stored) {graph : Uuid}
    (has : store.tables.HasBundle graph target) :
    stored.tables.HasBundle graph target := by
  cases effect with
  | saved _ created => exact (hasBundle_createBundle created).mpr (.inl has)
  | _ => exact has

theorem Effect.active (effect : Effect config input store call stored)
    (compiles : call.compiles) (active : (store.keys.getActive call.tenant).isSome) :
    (stored.keys.getActive call.tenant).isSome := by
  cases effect with
  | keyCreated created =>
    -- a tenant with an active key has a history
    obtain ⟨key, found⟩ := Option.isSome_iff_exists.mp active
    have owner := find?_some found
    rw [Bool.and_eq_true, decide_eq_true_eq] at owner
    exact absurd owner.1 ((SigningKeys.createIfNoHistory_ok created).1 key
      (mem_of_find?_eq_some found))
  | none | saved => exact active
  | _ => cases compiles

theorem working_advance (working : Working store tenant reached call) :
    Working store tenant (advance config input reached call).1
      (advance config input reached call).2 := by
  have stepped := advance_stepped config input reached call
  refine ⟨stepped.compiles.trans working.compiles, stepped.tenant.trans working.owner,
    stepped.effect.graphs.trans working.graphs, ?_, ?_, ?_⟩
  · intro graph has
    rcases stepped.graph graph has with known | current
    · exact working.graph graph known
    · rw [working.owner, getCurrentGraph_congr working.graphs] at current
      exact current
  · intro graph target has
    exact stepped.effect.hasBundle (working.bundles graph target has)
  · intro prepared has
    have active : (reached.keys.getActive call.tenant).isSome := by
      rcases stepped.prepared prepared has with known | ⟨active, found, -⟩
      · rw [working.owner]
        exact working.active prepared known
      · rw [found]
        rfl
    have kept := stepped.effect.active working.compiles active
    rw [working.owner] at kept
    exact kept

/-- Every place that a compile comes to alone. -/
theorem working_alone (config : CompileConfig) (inputs : List CompileInput) (store : PolicyStore)
    (tenant : Uuid) :
    Working store tenant ((policyService config).alone inputs store (.compile tenant)).1
      ((policyService config).alone inputs store (.compile tenant)).2 := by
  apply alone_invariant (Working store tenant)
  · intro input reached call working
    exact working_advance working
  · exact ⟨rfl, rfl, rfl, nofun, fun _ _ has => has, nofun⟩

/-! ## Targets that are taken -/

/-- The target is still to be saved, in a compile that has not succeeded. -/
def Pending (target : BundleTarget) : PolicyCall → Prop
  | .save _ _ next rest => target ∈ next :: rest
  | .compiled _ result => result.isOk = false
  | _ => True

variable {graph : PolicyGraph}

/-- A target that is taken stays pending: no step gets past it. -/
theorem pending_advance (current : store.tables.getCurrentGraph tenant = some graph)
    (has : store.tables.HasBundle graph.id target) (working : Working store tenant reached call)
    (pending : call.Pending target) : (advance config input reached call).2.Pending target := by
  cases call with
  | gather =>
    rw [advance]
    split
    case h_1 => rfl
    case h_2 => cases target <;> simp [Pending]
  | save job saved next rest =>
    rw [advance]
    split
    case h_1 => rfl
    split
    case h_1 => rfl
    case h_2 tables bundle created =>
      have same : job.graph = graph :=
        Option.some.inj ((working.graph job.graph rfl).symm.trans current)
      have taken := working.bundles graph.id target has
      have free := (createBundle_ok created).2.2.2.1
      have passed : target ≠ next := by
        rintro rfl
        rw [← same] at taken
        exact free taken
      have later := (mem_cons.mp pending).resolve_left passed
      split
      case h_1 => cases later
      case h_2 => exact later
  | compiled => exact pending
  | rotated | revoked => trivial
  | _ =>
    rw [advance]
    repeat' split
    all_goals first | rfl | trivial

/-- **A compile of a graph that has a bundle for some target does not succeed.** -/
theorem pending_alone (config : CompileConfig) (inputs : List CompileInput)
    (current : store.tables.getCurrentGraph tenant = some graph)
    (has : store.tables.HasBundle graph.id target) :
    ((policyService config).alone inputs store (.compile tenant)).2.Pending target := by
  refine (alone_invariant
    (fun reached call => Working store tenant reached call ∧ call.Pending target) ?_ ?_).2
  · rintro input reached call ⟨working, pending⟩
    exact ⟨working_advance working, pending_advance current has working pending⟩
  · exact ⟨working_alone config [] store tenant, trivial⟩

theorem Effect.tables_eq (effect : Effect config input store call stored)
    (taken : ∀ graph ∈ call.graph?, ∀ target, store.tables.HasBundle graph.id target) :
    stored.tables = store.tables := by
  cases effect with
  | saved _ created =>
    exact absurd (taken _ rfl _) (createBundle_ok created).2.2.2.1
  | _ => rfl

/-- A compile saves nothing when every target is taken. -/
theorem tables_alone_of_hasBundle (config : CompileConfig) (inputs : List CompileInput)
    (current : store.tables.getCurrentGraph tenant = some graph)
    (has : ∀ target, store.tables.HasBundle graph.id target) :
    ((policyService config).alone inputs store (.compile tenant)).1.tables = store.tables := by
  refine (alone_invariant
    (fun reached call => Working store tenant reached call ∧ reached.tables = store.tables) ?_ ?_).2
  · rintro input reached call ⟨working, same⟩
    refine ⟨working_advance working, ?_⟩
    refine ((advance_stepped config input reached call).effect.tables_eq ?_).trans same
    intro graph' has' target
    rw [Option.some.inj ((working.graph graph' has').symm.trans current)]
    exact working.bundles graph.id target (has target)
  · exact ⟨working_alone config [] store tenant, rfl⟩

/-! ## Compiles that nothing disturbs -/

end PolicyCall

structure CompileInput.Undisturbed (input : CompileInput) : Prop where
  connected : input.fails = false
  unwraps : ∀ wrapped, ∃ seed, input.unwrap wrapped = some seed ∧ seed.length = 32
  gathers : ∃ sources, input.sources = .ok sources
  unfaulted : input.fault = none

namespace PolicyCall

variable {config : CompileConfig} {input : CompileInput} {store : PolicyStore} {tenant : Uuid}

theorem alone_prepared (config : CompileConfig) {graph : PolicyGraph} {inputs : List CompileInput}
    (current : store.tables.getCurrentGraph tenant = some graph)
    (active : (store.keys.getActive tenant).isSome)
    (undisturbed : ∀ input ∈ inputs, input.Undisturbed) (four : inputs.length = 4) :
    ∃ job : CompileJob, job.tenant = tenant ∧ job.graph = graph ∧
      (policyService config).alone inputs store (.compile tenant) =
        (store, .save job [] .edge [.endpoint, .cloud, .mobile]) := by
  match inputs, four with
  | [first, second, third, fourth], _ =>
    simp only [forall_mem_cons] at undisturbed
    obtain ⟨reads, ensures, prepares, gathers, -⟩ := undisturbed
    obtain ⟨key, found⟩ := Option.isSome_iff_exists.mp active
    obtain ⟨seed, unwrapped, sized⟩ := prepares.unwraps key.privateKey
    obtain ⟨sources, gathered⟩ := gathers.gathers
    simp [alone, proceed, policyService, start, advance, current, found,
      unwrapped, sized, gathered, reads.connected, ensures.connected, prepares.connected]

theorem advance_save_taken (config : CompileConfig) (job : CompileJob) (saved : List PolicyBundle)
    {target : BundleTarget} (rest : List BundleTarget) (undisturbed : input.Undisturbed)
    (owns : store.tables.ownsGraph job.tenant job.graph.id)
    (taken : store.tables.HasBundle job.graph.id target) :
    (policyService config).advance input store (.save job saved target rest) =
      (store, .compiled job.tenant
        (.error (.wrapped (TargetFault.save.context target) (.repository .conflict)))) := by
  change advance config input store (.save job saved target rest) = _
  rw [advance, undisturbed.unfaulted]
  rw [createBundle_of_hasBundle owns taken]

end PolicyCall

/-- **A compile of a graph that has been compiled is refused.** Whatever the
sources contribute this time, the compile does not succeed and every target goes on
being served the bundle it was served before; and when nothing fails on the way, it
returns the conflict on the first target. -/
theorem recompile_refused (config : CompileConfig) (store : PolicyStore) (tenant : Uuid)
    (graph : PolicyGraph) (current : store.tables.getCurrentGraph tenant = some graph)
    (compiled : ∀ target, store.tables.HasBundle graph.id target) (inputs : List CompileInput) :
    let again := (policyService config).alone inputs store (.compile tenant)
    (∀ bundles, again.2 ≠ .compiled tenant (.ok bundles)) ∧
      (∀ target, again.1.tables.getLatestBundle tenant target =
        store.tables.getLatestBundle tenant target) ∧
      ((∀ input ∈ inputs, input.Undisturbed) → (store.keys.getActive tenant).isSome →
        5 ≤ inputs.length → again.2 = .compiled tenant
          (.error (.wrapped "save edge bundle" (.repository .conflict)))) := by
  refine ⟨?_, ?_, ?_⟩
  · intro bundles succeeded
    have pending := pending_alone config inputs current (compiled .edge)
    rw [succeeded] at pending
    cases pending
  · intro target
    rw [tables_alone_of_hasBundle config inputs current compiled]
  · intro undisturbed active enough
    obtain ⟨early, fifth, rest, rfl, four⟩ : ∃ early fifth rest,
        inputs = early ++ fifth :: rest ∧ early.length = 4 := by
      refine ⟨inputs.take 4, inputs[4], inputs.drop 5, ?_, by rw [length_take]; omega⟩
      rw [← drop_eq_getElem_cons, take_append_drop]
    obtain ⟨job, rfl, rfl, prepared⟩ := alone_prepared config current active
      (fun input listed => undisturbed input (mem_append_left _ listed)) four
    have refused := advance_save_taken config job [] [.endpoint, .cloud, .mobile]
      (undisturbed fifth (by simp)) (ownsGraph_of_getCurrentGraph current)
      (compiled .edge)
    rw [alone_append, prepared, proceed_cons, refused, proceed_of_returned fun _ => rfl]
    rfl

def sampleIocInput : CompileInput := { sampleCompileInput "k2" 20 with
    sources := .ok { casbRules := [], iocRules := [dnsRule], steering := none } }

def sampleCompiledStore : PolicyStore :=
  (PolicyOperation.compile (replicate 9 (sampleCompileInput "k1" 10))).apply sampleConfig 1
    sampleUncompiledStore

theorem ioc_recompile_conflicts :
    ((policyService sampleConfig).alone (replicate 5 sampleIocInput) sampleCompiledStore
      (.compile 1)).2 =
        .compiled 1 (.error (.wrapped "save edge bundle" (.repository .conflict))) := by
  refine (recompile_refused sampleConfig sampleCompiledStore 1 _ rfl (by decide)
    (replicate 5 sampleIocInput)).2.2 ?_ rfl (by decide)
  intro input listed
  rw [eq_of_mem_replicate listed]
  exact ⟨rfl, fun _ => ⟨_, rfl, rfl⟩, ⟨_, rfl⟩, rfl⟩

/-- **A rule that the threat-intelligence store has come to contribute does not
reach the edge.** The graph is typed and was compiled without the rule. The next
compile, at which nothing fails, returns a conflict, and the edge is served a bundle
without rules, though the rule is one for the edge. -/
theorem fresh_ioc_rule_is_not_served :
    let again := (policyService sampleConfig).alone (replicate 8 sampleIocInput)
      sampleCompiledStore (.compile 1)
    (sampleCompiledStore.tables.getCurrentGraph 1).map
        (fun graph => (parseGraph plainGoText (some graph.graph)).isOk) = some true ∧
      again.2 = .compiled 1 (.error (.wrapped "save edge bundle" (.repository .conflict))) ∧
      (again.1.tables.getLatestBundle 1 .edge).map (fun bundle => bundle.bundle.rulesJson) =
        some (some (encodeRules [])) ∧
      compileTarget .edge [dnsRule] = [dnsRule] :=
  ⟨rfl, rfl, rfl, rfl⟩

/-! ## Saving every target -/

namespace PolicyCall

variable {config : CompileConfig} {input : CompileInput} {store reached : PolicyStore}
  {tenant : Uuid} {job : CompileJob} {saved : List PolicyBundle} {target : BundleTarget}
  {rest : List BundleTarget}

theorem advance_save_free (config : CompileConfig) (saved : List PolicyBundle)
    (rest : List BundleTarget) (undisturbed : input.Undisturbed)
    (owns : store.tables.ownsGraph job.tenant job.graph.id)
    (free : ¬ store.tables.HasBundle job.graph.id target) :
    ∃ tables bundle, bundle.targetIndex = (job.graph.id, target) ∧
      tables.graphs = store.tables.graphs ∧
      tables.bundles.rows = store.tables.bundles.rows ++ [bundle] ∧
      (policyService config).advance input store (.save job saved target rest) =
        ({ store with tables }, match rest with
          | [] => .compiled job.tenant (.ok (saved ++ [bundle]))
          | next :: rest => .save job (saved ++ [bundle]) next rest) := by
  obtain ⟨tables, created⟩ : ∃ tables, store.tables.createBundle job.tenant
      (job.bundle config target (config.newUuid (store.tables.bundles.rows.map PolicyBundle.id)))
      input.now = .ok (tables, _) :=
    createBundle_of_free owns free (config.newUuid_fresh _)
  obtain ⟨-, -, inserted, -, graphs, -⟩ := createBundle_ok created
  refine ⟨tables, _, rfl, graphs, (Table.mem_rows_insert? inserted).2, ?_⟩
  change advance config input store (.save job saved target rest) = _
  rw [advance, undisturbed.unfaulted]
  rw [created]
  cases rest <;> rfl

/-- **A compile that finds every target free saves all of them.** -/
theorem proceed_saves (config : CompileConfig) {inputs : List CompileInput}
    (undisturbed : ∀ input ∈ inputs, input.Undisturbed) (enough : inputs.length = rest.length + 1)
    (owns : store.tables.ownsGraph job.tenant job.graph.id)
    (distinct : (target :: rest).Nodup)
    (free : ∀ other ∈ target :: rest, ¬ store.tables.HasBundle job.graph.id other) :
    ∃ stored bundles new, (policyService config).proceed inputs
        (store, .save job saved target rest) = (stored, .compiled job.tenant (.ok bundles)) ∧
      stored.tables.graphs = store.tables.graphs ∧
      stored.tables.bundles.rows = store.tables.bundles.rows ++ new ∧
      new.map PolicyBundle.targetIndex = (target :: rest).map fun other =>
        (job.graph.id, other) := by
  induction rest generalizing target saved store inputs with
  | nil =>
    obtain ⟨input, rfl⟩ := length_eq_one_iff.mp enough
    obtain ⟨tables, bundle, index, graphs, rows, step⟩ :=
      advance_save_free config saved [] (undisturbed input (by simp)) owns (free target (by simp))
    refine ⟨_, _, [bundle], step, graphs, rows, ?_⟩
    rw [map_singleton, map_singleton, index]
  | cons next rest ih =>
    obtain ⟨input, inputs, rfl⟩ := exists_cons_of_length_eq_add_one enough
    obtain ⟨tables, bundle, index, graphs, rows, step⟩ := advance_save_free config saved
      (next :: rest) (undisturbed input (by simp)) owns (free target (by simp))
    have ownsAfter : tables.ownsGraph job.tenant job.graph.id := by
      rw [ownsGraph, graphs]
      exact owns
    have freeAfter : ∀ other ∈ next :: rest, ¬ tables.HasBundle job.graph.id other := by
      intro other listed has
      rw [HasBundle, rows, map_append, mem_append] at has
      rcases has with old | new
      · exact free other (mem_cons_of_mem _ listed) old
      · rw [map_singleton, mem_singleton, index, Prod.mk.injEq] at new
        rw [new.2] at listed
        exact (nodup_cons.mp distinct).1 listed
    obtain ⟨stored, bundles, new, reached, sameGraphs, newRows, newIndex⟩ :=
      @ih { store with tables } (saved ++ [bundle]) next inputs
        (fun input listed => undisturbed input (mem_cons_of_mem _ listed))
        (by simpa using enough) ownsAfter (nodup_cons.mp distinct).2 freeAfter
    refine ⟨stored, bundles, bundle :: new, ?_, sameGraphs.trans graphs, ?_, ?_⟩
    · rw [proceed_cons, step]
      exact reached
    · rw [newRows, rows, append_assoc, singleton_append]
    · rw [map_cons, newIndex, index]
      rfl

/-! ## Where a compile can fail -/

/-- A compile has changed no table when it comes to its first target, and has saved
the first target when it comes to a later one. -/
def FirstOrPast (store reached : PolicyStore) : PolicyCall → Prop
  | .save job _ target rest => .edge ∉ rest ∧ ((target = .edge ∧ reached.tables = store.tables) ∨
        (target ≠ .edge ∧ reached.tables.HasBundle job.graph.id .edge))
  | .compiled .. => True
  | _ => reached.tables = store.tables

theorem firstOrPast_advance {call : PolicyCall} (here : FirstOrPast store reached call) :
    FirstOrPast store (advance config input reached call).1
      (advance config input reached call).2 := by
  cases call with
  | gather =>
    rw [advance]
    split
    case h_1 => trivial
    case h_2 => exact ⟨by decide, .inl ⟨rfl, here⟩⟩
  | save job saved target rest =>
    rw [advance]
    split
    case h_1 => trivial
    split
    case h_1 => trivial
    case h_2 tables bundle created =>
      split
      case h_1 => trivial
      case h_2 next rest =>
        obtain ⟨notLater, here⟩ := here
        rw [mem_cons, not_or] at notLater
        refine ⟨notLater.2, .inr ⟨Ne.symm notLater.1, ?_⟩⟩
        apply (hasBundle_createBundle created).mpr
        rcases here with ⟨rfl, -⟩ | ⟨-, has⟩
        · exact .inr rfl
        · exact .inl has
  | compiled | rotated | revoked => exact here
  | _ =>
    rw [advance]
    repeat' split
    all_goals first | exact here | trivial

theorem firstOrPast_alone (config : CompileConfig) (inputs : List CompileInput)
    (store : PolicyStore) (tenant : Uuid) :
    FirstOrPast store ((policyService config).alone inputs store (.compile tenant)).1
      ((policyService config).alone inputs store (.compile tenant)).2 := by
  apply alone_invariant (FirstOrPast store)
  · intro input reached call here
    exact firstOrPast_advance here
  · rfl

end PolicyCall

/-- A compile that failed left nothing new that is served, and can be repeated: with
nothing failing the next one succeeds, and every target is served a bundle of the
graph. -/
def LeavesNothing (config : CompileConfig) (store failed : PolicyStore) (tenant : Uuid)
    (graph : PolicyGraph) : Prop :=
  (∀ target, failed.tables.getLatestBundle tenant target =
    store.tables.getLatestBundle tenant target) ∧
  ∀ later : List CompileInput, 8 ≤ later.length → (∀ input ∈ later, input.Undisturbed) →
    ∃ stored bundles, (policyService config).alone later failed (.compile tenant) =
        (stored, .compiled tenant (.ok bundles)) ∧
      ∀ target, ∃ bundle ∈ stored.tables.getLatestBundle tenant target,
        bundle.policyGraphId = graph.id

section Retry

variable {config : CompileConfig} {store : PolicyStore} {tenant : Uuid} {graph : PolicyGraph}

/-- **A compile that nothing disturbs and that finds the targets free succeeds**,
and adds one bundle of the graph for each target. -/
theorem alone_compiles (config : CompileConfig) {inputs : List CompileInput}
    (current : store.tables.getCurrentGraph tenant = some graph)
    (active : (store.keys.getActive tenant).isSome)
    (free : ∀ target, ¬ store.tables.HasBundle graph.id target)
    (enough : 8 ≤ inputs.length) (undisturbed : ∀ input ∈ inputs, input.Undisturbed) :
    ∃ stored bundles new, (policyService config).alone inputs store (.compile tenant) =
        (stored, .compiled tenant (.ok bundles)) ∧
      stored.tables.graphs = store.tables.graphs ∧
      stored.tables.bundles.rows = store.tables.bundles.rows ++ new ∧
      new.map PolicyBundle.targetIndex =
        [.edge, .endpoint, .cloud, .mobile].map fun target => (graph.id, target) := by
  obtain ⟨early, saving, rest, rfl, four, fourMore⟩ : ∃ early saving rest,
      inputs = early ++ (saving ++ rest) ∧ early.length = 4 ∧ saving.length = 4 := by
    refine ⟨inputs.take 4, (inputs.drop 4).take 4, (inputs.drop 4).drop 4, ?_, ?_, ?_⟩
    · rw [take_append_drop, take_append_drop]
    · rw [length_take]
      omega
    · rw [length_take, length_drop]
      omega
  simp only [forall_mem_append] at undisturbed
  obtain ⟨job, rfl, rfl, prepared⟩ := alone_prepared config current active undisturbed.1 four
  obtain ⟨stored, bundles, new, saved, graphs, rows, index⟩ :=
    @PolicyCall.proceed_saves store job [] .edge [.endpoint, .cloud, .mobile] config saving
      undisturbed.2.1 fourMore (ownsGraph_of_getCurrentGraph current) (by decide)
      fun other _ => free other
  refine ⟨stored, bundles, new, ?_, graphs, rows, index⟩
  rw [alone_append, prepared, proceed_append, saved, proceed_of_returned fun _ => rfl]

/-- With a new bundle of the graph for each target, every target is served the graph
exactly when no newer graph had been compiled. -/
theorem served_graph_iff {tables stored : PolicyTables} {new : List PolicyBundle}
    (current : tables.getCurrentGraph tenant = some graph) (graphs : stored.graphs = tables.graphs)
    (rows : stored.bundles.rows = tables.bundles.rows ++ new)
    (index : new.map PolicyBundle.targetIndex =
      [.edge, .endpoint, .cloud, .mobile].map fun target => (graph.id, target))
    (target : BundleTarget) :
    (∃ bundle ∈ stored.getLatestBundle tenant target, bundle.policyGraphId = graph.id) ↔
      ∀ candidate ∈ tables.bundlesFor tenant target, candidate.2 ≤ graph.version := by
  have listed : graph ∈ tables.graphsOf tenant :=
    (mem_filter.mp (firstMax_isFirstMax current).mem).1
  have version : tables.versionOf tenant graph.id = some graph.version := by
    obtain ⟨isStored, owned⟩ := mem_filter.mp listed
    exact versionOf_eq_some_iff.mpr ⟨graph, isStored, rfl, by simpa using owned, rfl⟩
  have candidates : stored.bundlesFor tenant target = _ := bundlesFor_append graphs rows
  have newGraph : ∀ bundle ∈ new, bundle.policyGraphId = graph.id := by
    intro bundle isNew
    have isIndex := mem_map_of_mem (f := PolicyBundle.targetIndex) isNew
    rw [index, mem_map] at isIndex
    obtain ⟨other, -, same⟩ := isIndex
    exact (congrArg Prod.fst same).symm
  obtain ⟨own, isNew, ownIndex⟩ : ∃ own ∈ new, own.targetIndex = (graph.id, target) := by
    rw [← mem_map, index]
    cases target <;> simp
  have ownTarget : own.targetType = target := congrArg Prod.snd ownIndex
  have ownCandidate : tables.candidate tenant target own = some (own, graph.version) := by
    rw [candidate, if_pos ownTarget, newGraph own isNew, version, Option.map_some]
  have ownListed : (own, graph.version) ∈ stored.bundlesFor tenant target := by
    rw [candidates]
    exact mem_append_right _ (mem_filterMap.mpr ⟨own, isNew, ownCandidate⟩)
  have newestIff : stored.NewestCompiled tenant target graph ↔
      ∀ candidate ∈ tables.bundlesFor tenant target, candidate.2 ≤ graph.version := by
    rw [NewestCompiled,
      and_iff_right ⟨(own, graph.version), ownListed, newGraph own isNew⟩, candidates,
      forall_mem_append, and_iff_left]
    intro added member
    obtain ⟨bundle, bundleNew, isCandidate⟩ := mem_filterMap.mp member
    obtain ⟨-, isVersion⟩ := candidate_eq_some isCandidate
    rw [newGraph bundle bundleNew, version, Option.some.injEq] at isVersion
    exact isVersion.ge
  have listedAfter : graph ∈ stored.graphsOf tenant := by
    rw [graphsOf, graphs]
    exact listed
  rw [← newestIff, ← latest_of_graph_iff listedAfter (ne_nil_of_mem ownListed)]
  obtain ⟨latest, isLatest⟩ : ∃ latest, stored.getLatestBundle tenant target = some latest := by
    rw [← Option.isSome_iff_exists, ← Option.ne_none_iff_isSome, getLatestBundle,
      ne_eq, Option.map_eq_none_iff, firstMax_eq_none_iff]
    exact ne_nil_of_mem ownListed
  simp [isLatest]

end Retry

/-- **A failed compile is all or nothing and can be repeated, exactly when it
failed at the first target of a graph that nothing blocks.** The compile came to a
target and failed there, by whatever fault. It left nothing new that is served, and
a compile with nothing failing succeeds and puts every target on the graph, if and
only if the target was the first one, no target had a bundle of the graph before,
and none had one of a newer graph. -/
theorem failed_compile_retryable_iff (config : CompileConfig) (store : PolicyStore)
    (tenant : Uuid) (early : List CompileInput) (faulty : CompileInput) (middle : PolicyStore)
    (job : CompileJob) (saved : List PolicyBundle) (target : BundleTarget)
    (rest : List BundleTarget) (error : ServiceError)
    (reached : (policyService config).alone early store (.compile tenant) =
      (middle, .save job saved target rest))
    (failed : ((policyService config).alone (early ++ [faulty]) store (.compile tenant)).2 =
      .compiled tenant (.error error)) :
    LeavesNothing config store
        ((policyService config).alone (early ++ [faulty]) store (.compile tenant)).1 tenant
        job.graph ↔
      target = .edge ∧ ∀ other, ¬ store.tables.HasBundle job.graph.id other ∧
        ∀ candidate ∈ store.tables.bundlesFor tenant other, candidate.2 ≤ job.graph.version := by
  have working := working_alone config early store tenant
  have place := firstOrPast_alone config early store tenant
  rw [reached] at working place
  have active := working.active job.prepared rfl
  have current : middle.tables.getCurrentGraph tenant = some job.graph :=
    (getCurrentGraph_congr working.graphs).trans (working.graph job.graph rfl)
  rw [alone_append, reached] at failed ⊢
  have unchanged :
      ((policyService config).proceed [faulty] (middle, .save job saved target rest)).1 =
      middle := by
    change (advance config faulty middle (.save job saved target rest)).2 = _ at failed
    change (PolicyCall.advance config faulty middle (.save job saved target rest)).1 = _
    rw [PolicyCall.advance] at failed ⊢
    split
    case h_1 => rfl
    case h_2 unfaulted =>
      rw [unfaulted] at failed
      split
      case h_1 => rfl
      case h_2 created =>
        rw [created] at failed
        cases rest <;> cases failed
  rw [unchanged]
  constructor
  · rintro ⟨-, retry⟩
    have undisturbed : ∀ input ∈ replicate 8 (sampleCompileInput "" 0), input.Undisturbed := by
      intro input listed
      rw [eq_of_mem_replicate listed]
      exact ⟨rfl, fun _ => ⟨_, rfl, rfl⟩, ⟨_, rfl⟩, rfl⟩
    obtain ⟨stored, bundles, again, served⟩ := retry _ (by simp) undisturbed
    have free : ∀ other, ¬ middle.tables.HasBundle job.graph.id other := by
      intro other has
      have pending := pending_alone config (replicate 8 (sampleCompileInput "" 0)) current has
      rw [again] at pending
      cases pending
    have first : target = .edge ∧ middle.tables = store.tables := by
      rcases place.2 with first | ⟨-, has⟩
      · exact first
      · exact absurd has (free .edge)
    obtain ⟨stored', bundles', new, done, graphs, rows, index⟩ :=
      alone_compiles config current active free (by simp) undisturbed
    rw [again] at done
    cases done
    rw [first.2] at free current graphs rows
    exact ⟨first.1, fun other =>
      ⟨free other, (served_graph_iff current graphs rows index other).mp (served other)⟩⟩
  · rintro ⟨first, unblocked⟩
    have same : middle.tables = store.tables := by
      rcases place.2 with ⟨-, same⟩ | ⟨past, -⟩
      · exact same
      · exact absurd first past
    rw [LeavesNothing, same]
    refine ⟨fun _ => rfl, ?_⟩
    intro later enough undisturbed
    obtain ⟨stored, bundles, new, done, graphs, rows, index⟩ :=
      alone_compiles config current active (same ▸ fun other => (unblocked other).1) enough
        undisturbed
    rw [same] at current graphs rows
    refine ⟨stored, bundles, done, ?_⟩
    intro other
    exact (served_graph_iff current graphs rows index other).mpr (unblocked other).2

def sampleFirstGraph : PolicyGraph where
  id := 5
  tenantId := 1
  version := 1
  graph := .obj []
  isDraft := false
  createdAt := 5

def sampleSaveFault : CompileInput := { sampleCompileInput "k1" 10 with fault := some .save }

theorem edge_fault_retryable : LeavesNothing sampleConfig sampleUncompiledStore
    ((policyService sampleConfig).alone
      (replicate 5 (sampleCompileInput "k1" 10) ++ [sampleSaveFault]) sampleUncompiledStore
      (.compile 1)).1 1 sampleFirstGraph :=
  (failed_compile_retryable_iff sampleConfig sampleUncompiledStore 1
    (replicate 5 (sampleCompileInput "k1" 10)) sampleSaveFault _ ⟨1, sampleFirstGraph, _, _⟩
    _ _ _ _ rfl rfl).mpr ⟨rfl, by decide⟩

/-- **A compile that fails at the second target is served in part, and cannot be
repeated.** The endpoint bundle cannot be saved. The edge is served the new bundle, and
the next compile, at which nothing fails, returns a conflict. -/
theorem endpoint_fault_blocks_retry :
    let failed := (policyService sampleConfig).alone
      (replicate 6 (sampleCompileInput "k1" 10) ++ [sampleSaveFault]) sampleUncompiledStore
      (.compile 1)
    failed.2 = .compiled 1 (.error (.wrapped "save endpoint bundle" .unavailable)) ∧
      (sampleUncompiledStore.tables.getLatestBundle 1 .edge).isNone = true ∧
      (failed.1.tables.getLatestBundle 1 .edge).map PolicyBundle.policyGraphId = some 5 ∧
      ((policyService sampleConfig).alone (replicate 8 (sampleCompileInput "k1" 20)) failed.1
        (.compile 1)).2 =
          .compiled 1 (.error (.wrapped "save edge bundle" (.repository .conflict))) :=
  ⟨rfl, rfl, rfl, rfl⟩

end ShieldNet.Policy
