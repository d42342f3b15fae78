import ShieldNet.Policy.Compile

/-!
# References to graph-level vertices

A rule may name subjects and predicates declared at graph level. The validator
resolves the names against the graph; a bundle ships only the selected rules,
and the loader rebuilds its name tables from the inline vertices those rules
happen to carry. So a shipped reference means the first inline vertex of that
name among the selected rules, and no vertex at all when there is none
(`ruleMatches_shipped`).

`shipped_match_eq_resolved_iff` compares that with the rule whose references
are replaced by the declared vertices. They agree on a flow exactly when an
inline vertex of the rule rejects it, or the declared and the carried vertices
of all its references accept it, or both refuse it.
-/

namespace ShieldNet.Policy

open Serde FirstWins List

/-! ## Lists read element by element -/

theorem find?_of_mapM {α β : Type} {ship : α → Option β} {sources : List α} {shipped : List β}
    {p : α → Bool} {q : β → Bool} (reads : sources.mapM ship = some shipped)
    (same : ∀ source result, ship source = some result → p source = q result) :
    shipped.find? q = (sources.find? p).bind ship := by
  induction mapM_eq_some_iff.mp reads with
  | nil => rfl
  | @cons source result _ _ first rest ih =>
    rw [find?_cons, find?_cons, same source result first]
    cases q result with
    | true => exact first.symm
    | false => exact ih (mapM_eq_some_iff.mpr rest)

theorem all_of_mapM {α β : Type} {ship : α → Option β} {sources : List α} {shipped : List β}
    (q : β → Bool) (reads : sources.mapM ship = some shipped) :
    shipped.all q = sources.all fun source => (ship source).any q := by
  induction mapM_eq_some_iff.mp reads with
  | nil => rfl
  | cons first rest ih =>
    rw [all_cons, all_cons, first, Option.any_some, ih (mapM_eq_some_iff.mpr rest)]

theorem flatMap_of_mapM {α β γ δ : Type} {ship : α → Option β} (part : α → List γ)
    (shippedPart : β → List δ) (shipPart : γ → Option δ) {sources : List α} {shipped : List β}
    (reads : sources.mapM ship = some shipped)
    (parts : ∀ source result, ship source = some result →
      (part source).mapM shipPart = some (shippedPart result)) :
    (sources.flatMap part).mapM shipPart = some (shipped.flatMap shippedPart) := by
  induction mapM_eq_some_iff.mp reads with
  | nil => rfl
  | @cons source result _ _ first rest ih =>
    have rest := ih (mapM_eq_some_iff.mpr rest)
    rw [mapM_eq_some_iff] at rest ⊢
    exact rel_append (mapM_eq_some_iff.mp (parts source result first)) rest

/-! ## The vertex index -/

/-- **A lookup in the vertex index finds the first inline vertex of the name.** -/
theorem get?_buildVertexIndex {α : Type} (vertices : Rule → List α) (name : α → String)
    (rules : List Rule) {key : String} (named : key ≠ "") :
    get? (buildVertexIndex vertices name rules) key =
      (rules.flatMap vertices).find? fun vertex => name vertex == key := by
  have flat : buildVertexIndex vertices name rules =
      (((rules.flatMap vertices).filter fun vertex => name vertex ≠ "").map
        fun vertex => (name vertex, vertex)).foldl orInsert [] := by
    rw [buildVertexIndex, foldl_map, foldl_filter, foldl_flatMap]
    simp
  rw [flat, get?_foldl_orInsert]
  simp only [get?, find?_nil, Option.map_none, Option.none_or, find?_map,
    Option.map_map, find?_filter, Function.comp_def]
  have same : ∀ vertex : α, decide (decide (name vertex ≠ "") ∧
      decide (name vertex = key)) = (name vertex == key) := by
    intro vertex
    by_cases matched : name vertex = key
    · simp [matched, named]
    · simp [matched]
  simp only [same, Option.map_id']

/-! ## Acceptance on the control plane's data -/

section Acceptance

variable (text : RustText) (flow : Flow)

def GoSubject.accepts (s : GoSubject) : Bool :=
  s.matchDoc.all (Json.fits text.numberInRange vertexNesting) &&
    (shipSubject text s).any (subjectMatchesFlow · flow)

def GoPredicate.accepts (p : GoPredicate) : Bool :=
  p.matchDoc.all (Json.fits text.numberInRange vertexNesting) &&
    (shipPredicate text p).any (predicateMatchesFlow text · flow)

def InlineAccept (r : GoRule) : Prop := (∀ s ∈ r.subjects, s.accepts text flow = true) ∧
  (∀ p ∈ r.predicates, p.accepts text flow = true)

/-- Every vertex the graph declares under a reference of the rule accepts the
flow. -/
def DeclaredAccept (g : Graph) (r : GoRule) : Prop :=
  (∀ s ∈ g.subjects, s.name ∈ r.subjectRefs → s.accepts text flow = true) ∧
  (∀ p ∈ g.predicates, p.name ∈ r.predicateRefs → p.accepts text flow = true)

variable (rules : List GoRule)

def carriedSubject (name : String) : Option GoSubject :=
  (rules.flatMap fun r => r.subjects).find? fun s => s.name == name

def carriedPredicate (name : String) : Option GoPredicate :=
  (rules.flatMap fun r => r.predicates).find? fun p => p.name == name

/-- Every reference of the rule is the name of an inline vertex carried by one
of the rules, and the first such vertex accepts the flow. -/
def CarriedAccept (r : GoRule) : Prop :=
  (∀ ref ∈ r.subjectRefs, ∃ s, carriedSubject rules ref = some s ∧ s.accepts text flow = true) ∧
  (∀ ref ∈ r.predicateRefs, ∃ p, carriedPredicate rules ref = some p ∧ p.accepts text flow = true)

variable {text flow} {r : GoRule}

/-- In a rule that arrives, acceptance is the match of the shipped subject. -/
theorem GoSubject.accepts_of_docsFit (fit : r.docsFit text) {s : GoSubject}
    (listed : s ∈ r.subjects) :
    s.accepts text flow = (shipSubject text s).any (subjectMatchesFlow · flow) := by
  have all : s.matchDoc.all (Json.fits text.numberInRange vertexNesting) := by
    simpa [Option.all_eq_true] using ((docsFit_iff text r).mp fit).1 s listed
  rw [GoSubject.accepts, all, Bool.true_and]

@[inherit_doc GoSubject.accepts_of_docsFit]
theorem GoPredicate.accepts_of_docsFit (fit : r.docsFit text) {p : GoPredicate}
    (listed : p ∈ r.predicates) :
    p.accepts text flow = (shipPredicate text p).any (predicateMatchesFlow text · flow) := by
  have all : p.matchDoc.all (Json.fits text.numberInRange vertexNesting) := by
    simpa [Option.all_eq_true] using ((docsFit_iff text r).mp fit).2.1 p listed
  rw [GoPredicate.accepts, all, Bool.true_and]

variable {rule : Rule}

theorem arrives_eq_some (arrived : r.arrives text = some rule) :
    r.docsFit text ∧ shipRule text r = some rule := by
  unfold GoRule.arrives at arrived
  split at arrived
  · exact ⟨‹_›, arrived⟩
  · cases arrived

theorem inline_match_iff (arrived : r.arrives text = some rule) :
    (rule.subjects.all (subjectMatchesFlow · flow) &&
      rule.predicates.all (predicateMatchesFlow text · flow)) ↔
      InlineAccept text flow r := by
  obtain ⟨fit, shipped⟩ := arrives_eq_some arrived
  obtain ⟨-, -, -, subjects, predicates, -, -⟩ := shipRule_eq_some shipped
  rw [Bool.and_eq_true, all_of_mapM _ subjects, all_of_mapM _ predicates, all_eq_true, all_eq_true]
  refine and_congr (forall₂_congr fun s listed => ?_) (forall₂_congr fun p listed => ?_)
  · rw [GoSubject.accepts_of_docsFit fit listed]
  · rw [GoPredicate.accepts_of_docsFit fit listed]

/-! ## A shipped rule -/

/-- A reference of a shipped rule matches when the first carried vertex of its
name accepts. The vertices of either kind are given by how they ship. -/
theorem ref_match_iff {α β : Type} {ship : α → Option β} {goVertices : GoRule → List α}
    {vertices : Rule → List β} {goName : α → String} {name : β → String} {holds : β → Bool}
    {accepts : α → Bool} {rules : List GoRule} {shipped : List Rule}
    (arrived : rules.mapM (GoRule.arrives text) = some shipped)
    (parts : ∀ r rule, r.arrives text = some rule → (goVertices r).mapM ship = some (vertices rule))
    (sameName : ∀ source vertex, ship source = some vertex → name vertex = goName source)
    (accepted : ∀ r rule, r.arrives text = some rule → ∀ source ∈ goVertices r,
      accepts source = (ship source).any holds) {key : String} (named : key ≠ "") :
    (get? (buildVertexIndex vertices name shipped) key).any holds ↔
      ∃ source, (rules.flatMap goVertices).find? (fun source => goName source == key) =
        some source ∧ accepts source := by
  have flat := flatMap_of_mapM goVertices vertices ship arrived parts
  have found := find?_of_mapM (p := fun source => goName source == key)
    (q := fun vertex => name vertex == key) flat
    (fun source vertex one => by rw [sameName source vertex one])
  rw [get?_buildVertexIndex _ _ _ named, found]
  cases carried : (rules.flatMap goVertices).find? fun source => goName source == key with
  | none => simp
  | some source =>
    obtain ⟨r, listed, inside⟩ := mem_flatMap.mp (mem_of_find?_eq_some carried)
    obtain ⟨rule, -, one⟩ := exists_output_of_mapM arrived listed
    simp [accepted r rule one source inside]

theorem shipSubject_name {s : GoSubject} {subject : Subject}
    (shipped : shipSubject text s = some subject) : subject.name = s.name := by
  simp only [shipSubject, Option.bind_eq_bind, Option.bind_eq_some_iff, Option.some.injEq]
    at shipped
  obtain ⟨_, _, _, _, rfl⟩ := shipped
  rfl

theorem shipPredicate_name {p : GoPredicate} {predicate : Predicate}
    (shipped : shipPredicate text p = some predicate) : predicate.name = p.name := by
  obtain ⟨_, _, rfl⟩ := Option.map_eq_some_iff.mp shipped
  rfl

/-- **What a shipped rule matches.** Its references mean the first inline
vertices of their names among the shipped rules. -/
theorem ruleMatches_shipped {rules : List GoRule} {bundle : LoadedBundle}
    (arrived : rules.mapM (GoRule.arrives text) = some bundle.rules)
    (subjectIndex : bundle.namedSubjects = buildVertexIndex Rule.subjects Subject.name bundle.rules)
    (predicateIndex : bundle.namedPredicates =
      buildVertexIndex Rule.predicates Predicate.name bundle.rules) {r : GoRule}
    (one : r.arrives text = some rule) (subjectRefs : "" ∉ r.subjectRefs)
    (predicateRefs : "" ∉ r.predicateRefs) :
    ruleMatches text rule flow bundle ↔
      CarriedAccept text flow rules r ∧ InlineAccept text flow r := by
  obtain ⟨-, -, -, -, -, sameSubjectRefs, samePredicateRefs⟩ :=
    shipRule_eq_some (arrives_eq_some one).2
  rw [← inline_match_iff one]
  simp only [ruleMatches, subjectsMatch, predicatesMatch, sameSubjectRefs, samePredicateRefs,
    subjectIndex, predicateIndex, Bool.and_eq_true, all_eq_true, CarriedAccept]
  have subjects : ∀ ref ∈ r.subjectRefs,
      ((get? (buildVertexIndex Rule.subjects Subject.name bundle.rules) ref).any
        (subjectMatchesFlow · flow) ↔
      ∃ s, carriedSubject rules ref = some s ∧ s.accepts text flow) := by
    intro ref listed
    refine ref_match_iff arrived
      (fun r rule one => (shipRule_eq_some (arrives_eq_some one).2).2.2.2.1)
      (fun s subject => shipSubject_name)
      (fun r rule one s => GoSubject.accepts_of_docsFit (arrives_eq_some one).1) ?_
    rintro rfl
    exact subjectRefs listed
  have predicates : ∀ ref ∈ r.predicateRefs,
      ((get? (buildVertexIndex Rule.predicates Predicate.name bundle.rules) ref).any
        (predicateMatchesFlow text · flow) ↔
      ∃ p, carriedPredicate rules ref = some p ∧ p.accepts text flow) := by
    intro ref listed
    refine ref_match_iff arrived
      (fun r rule one => (shipRule_eq_some (arrives_eq_some one).2).2.2.2.2.1)
      (fun p predicate => shipPredicate_name)
      (fun r rule one p => GoPredicate.accepts_of_docsFit (arrives_eq_some one).1) ?_
    rintro rfl
    exact predicateRefs listed
  rw [forall₂_congr subjects, forall₂_congr predicates]
  tauto

end Acceptance

/-! ## The rule with its references replaced -/

def Graph.declaredSubject (g : Graph) (name : String) : Option GoSubject :=
  g.subjects.find? fun s => s.name == name

def Graph.declaredPredicate (g : Graph) (name : String) : Option GoPredicate :=
  g.predicates.find? fun p => p.name == name

/-- The same rule with every reference replaced by the declared vertex. -/
def GoRule.resolveRefs (g : Graph) (r : GoRule) : GoRule := { r with
    subjectRefs := []
    predicateRefs := []
    subjects := r.subjectRefs.filterMap g.declaredSubject ++ r.subjects
    predicates := r.predicateRefs.filterMap g.declaredPredicate ++ r.predicates }

/-- The match result of the resolved rule, shipped the same way; a rule the
enforcement plane cannot read matches nothing. -/
def resolvedMatch (text : RustText) (g : Graph) (r : GoRule) (flow : Flow)
    (bundle : LoadedBundle) : Bool :=
  match readRules text (encodeRules [r.resolveRefs g]) with
  | some [rule] => ruleMatches text rule flow bundle
  | _ => false

section Resolved

variable {text : RustText} {flow : Flow}

theorem mem_filterMap_find?_iff {α : Type} {name : α → String} {vertices : List α}
    (distinct : (vertices.map name).Nodup) (refs : List String) (vertex : α) :
    vertex ∈ refs.filterMap (fun ref => vertices.find? fun v => name v == ref) ↔
      vertex ∈ vertices ∧ name vertex ∈ refs := by
  rw [mem_filterMap]
  constructor
  · rintro ⟨ref, listed, found⟩
    have same : name vertex = ref := by simpa using find?_some found
    exact ⟨mem_of_find?_eq_some found, same ▸ listed⟩
  · rintro ⟨declared, listed⟩
    refine ⟨name vertex, listed, ?_⟩
    obtain ⟨found, foundAt⟩ : ∃ found, vertices.find? (fun v => name v == name vertex) =
        some found := by
      refine Option.isSome_iff_exists.mp (find?_isSome.mpr ⟨vertex, declared, ?_⟩)
      simp
    have same : name found = name vertex := by simpa using find?_some foundAt
    rw [foundAt, inj_on_of_nodup_map distinct (mem_of_find?_eq_some foundAt) declared same]

theorem inlineAccept_resolveRefs {g : Graph} (accepted : g.Accepted) (r : GoRule) :
    InlineAccept text flow (r.resolveRefs g) ↔
      DeclaredAccept text flow g r ∧ InlineAccept text flow r := by
  have subjects : ∀ s, s ∈ r.subjectRefs.filterMap g.declaredSubject ↔
      s ∈ g.subjects ∧ s.name ∈ r.subjectRefs :=
    mem_filterMap_find?_iff accepted.subjectNames r.subjectRefs
  have predicates : ∀ p, p ∈ r.predicateRefs.filterMap g.declaredPredicate ↔
      p ∈ g.predicates ∧ p.name ∈ r.predicateRefs :=
    mem_filterMap_find?_iff accepted.predicateNames r.predicateRefs
  simp only [InlineAccept, DeclaredAccept, GoRule.resolveRefs, forall_mem_append, subjects,
    predicates, and_imp]
  tauto

/-- When a rule arrives, so does its resolved form, provided all the vertices
of that form accept some flow. -/
theorem resolveRefs_arrives {g : Graph} {r : GoRule} {rule : Rule}
    (arrived : r.arrives text = some rule) (accept : InlineAccept text flow (r.resolveRefs g)) :
    ∃ resolved, (r.resolveRefs g).arrives text = some resolved := by
  obtain ⟨fit, shipped⟩ := arrives_eq_some arrived
  obtain ⟨domain, verb, suggested, -, -, -, -⟩ := shipRule_eq_some shipped
  have subjectDocs : ∀ s ∈ (r.resolveRefs g).subjects,
      s.matchDoc.all (Json.fits text.numberInRange vertexNesting) ∧
        (shipSubject text s).isSome := by
    intro s listed
    have both := accept.1 s listed
    rw [GoSubject.accepts, Bool.and_eq_true] at both
    exact ⟨both.1, Option.isSome_of_any both.2⟩
  have predicateDocs : ∀ p ∈ (r.resolveRefs g).predicates,
      p.matchDoc.all (Json.fits text.numberInRange vertexNesting) ∧
        (shipPredicate text p).isSome := by
    intro p listed
    have both := accept.2 p listed
    rw [GoPredicate.accepts, Bool.and_eq_true] at both
    exact ⟨both.1, Option.isSome_of_any both.2⟩
  obtain ⟨subjects, subjectsRead⟩ := Option.isSome_iff_exists.mp <|
    isSome_mapM_iff.mpr fun s listed => (subjectDocs s listed).2
  obtain ⟨predicates, predicatesRead⟩ := Option.isSome_iff_exists.mp <|
    isSome_mapM_iff.mpr fun p listed => (predicateDocs p listed).2
  have resolvedFit : (r.resolveRefs g).docsFit text := by
    simp only [GoRule.docsFit, Bool.and_eq_true, all_eq_true] at fit ⊢
    exact ⟨⟨fun s listed => (subjectDocs s listed).1, fun p listed => (predicateDocs p listed).1⟩,
      fit.2⟩
  have sameDomain : EnforcementDomain.ofName (r.resolveRefs g).domain = some rule.domain := domain
  have sameVerb : Verb.ofName (r.resolveRefs g).verb = some rule.verb := verb
  have sameSuggested : suggestedVerbOf (r.resolveRefs g) = some rule.suggestedVerb := suggested
  simp [GoRule.arrives, resolvedFit, shipRule, sameDomain, sameVerb, sameSuggested, subjectsRead,
    predicatesRead]

/-- **What the resolved rule matches.** -/
theorem resolvedMatch_iff {g : Graph} (accepted : g.Accepted) {r : GoRule} {rule : Rule}
    (arrived : r.arrives text = some rule) (bundle : LoadedBundle) :
    resolvedMatch text g r flow bundle ↔
      DeclaredAccept text flow g r ∧ InlineAccept text flow r := by
  rw [← inlineAccept_resolveRefs accepted, resolvedMatch, readRules_encodeRules]
  cases resolved : (r.resolveRefs g).arrives text with
  | none =>
    simp only [mapM_cons, resolved, Option.bind_eq_bind, Option.bind_none,
      Bool.false_eq_true, false_iff]
    intro accept
    obtain ⟨other, found⟩ := resolveRefs_arrives arrived accept
    simp [resolved] at found
  | some other =>
    obtain ⟨-, -, -, -, -, noSubjectRefs, noPredicateRefs⟩ :=
      shipRule_eq_some (arrives_eq_some resolved).2
    have noSubjectRefs : other.subjectRefs = [] := noSubjectRefs
    have noPredicateRefs : other.predicateRefs = [] := noPredicateRefs
    rw [← inline_match_iff resolved]
    simp [resolved, ruleMatches, subjectsMatch, predicatesMatch, noSubjectRefs, noPredicateRefs]

end Resolved

/-- **When references survive compilation.** For an accepted graph, a rule
selected for a target and a flow, the loaded rule and the rule with its
references replaced by the declared vertices give one match result exactly when
an inline vertex of the rule rejects the flow, or the declared and the carried
vertices of its references all accept it, or each side has one that does not. -/
theorem shipped_match_eq_resolved_iff (text : RustText) (goText : GoText) (raw : Option Json)
    (g : Graph) (parsed : parseGraph goText raw = .ok g) (target : BundleTarget) (graphId : String)
    (graphVersion : Int) (steering : Option Steering.SteeringRuleSet) (bundle : LoadedBundle)
    (loaded : LoadedBundle.fromBody text
      (encodeBundlePayloadFor target graphId graphVersion g steering) target = .ok bundle) (i : Nat)
    (r : GoRule) (selected : (compileTarget target g.rules)[i]? = some r) (rule : Rule)
    (shipped : bundle.rules[i]? = some rule) (flow : Flow) :
    ruleMatches text rule flow bundle = resolvedMatch text g r flow bundle ↔
      ¬InlineAccept text flow r ∨
      (DeclaredAccept text flow g r ∧ CarriedAccept text flow (compileTarget target g.rules) r) ∨
      (¬DeclaredAccept text flow g r ∧
        ¬CarriedAccept text flow (compileTarget target g.rules) r) := by
  have accepted := parseGraph_accepted parsed
  obtain ⟨-, rules, arrived, -, rfl⟩ := fromBody_payload_eq_ok_iff.mp loaded
  have one : r.arrives text = some rule := by
    have pairs := forall₂_iff_get.mp (mapM_eq_some_iff.mp arrived)
    obtain ⟨inSources, rfl⟩ := List.getElem?_eq_some_iff.mp selected
    obtain ⟨inResults, rfl⟩ := List.getElem?_eq_some_iff.mp shipped
    exact pairs.2 i inSources inResults
  have member : r ∈ g.rules := mem_of_mem_filter (mem_of_getElem? selected)
  have ruleAccepted := accepted.rules r member
  have subjectRefs : "" ∉ r.subjectRefs := by
    intro listed
    obtain ⟨s, declared, blank⟩ := mem_map.mp (ruleAccepted.subjectRefs "" listed)
    exact accepted.subjectNamed s declared blank
  have predicateRefs : "" ∉ r.predicateRefs := by
    intro listed
    obtain ⟨p, declared, blank⟩ := mem_map.mp (ruleAccepted.predicateRefs "" listed)
    exact accepted.predicateNamed p declared blank
  rw [Bool.eq_iff_iff, resolvedMatch_iff accepted one,
    ruleMatches_shipped arrived rfl rfl one subjectRefs predicateRefs]
  tauto

/-! ## A deny rule that is lost -/

def guestGraphDoc : Json :=
  .obj [("subjects", .arr [.obj [("name", .str "guest-net"), ("kind", .str "network")]]),
    ("rules", .arr [ruleDoc "ngfw-deny-guest" "ngfw" "deny"
      [("subject_refs", .arr [.str "guest-net"])]])]

def guestRule : GoRule := { GoRule.zero with
    id := "ngfw-deny-guest", domain := "ngfw", verb := "deny", subjectRefs := ["guest-net"] }

def guestGraph : Graph := { Graph.zero with
    defaultAction := "deny", subjects := [⟨"guest-net", "network", none⟩], rules := [guestRule] }

def guestFlow : Flow where
  enforcementDomain := .ngfw
  user := none
  device := none
  app := none
  site := none
  sourceIp := some (.ofOctets 192 168 7 9)
  destinationHost := none
  destinationIp := none
  context := []

/-- A rule that carries the declared subject inline. -/
def carryingRule : GoRule := { GoRule.zero with
    id := "ngfw-allow-lan", domain := "ngfw", verb := "allow"
    subjects := [⟨"guest-net", "network", none⟩] }

def carryingGraphDoc : Json :=
  .obj [("subjects", .arr [.obj [("name", .str "guest-net"), ("kind", .str "network")]]),
    ("rules", .arr [ruleDoc "ngfw-allow-lan" "ngfw" "allow"
        [("subjects", .arr [.obj [("name", .str "guest-net"), ("kind", .str "network")]])],
      ruleDoc "ngfw-deny-guest" "ngfw" "deny" [("subject_refs", .arr [.str "guest-net"])]])]

def carryingGraph : Graph := { Graph.zero with
    defaultAction := "deny", subjects := [⟨"guest-net", "network", none⟩]
    rules := [carryingRule, guestRule] }

/-- A reference to a subject that another rule carries keeps its meaning. -/
theorem carried_reference_survives : ∃ bundle rule, LoadedBundle.fromBody plainRustText
      (encodeBundlePayloadFor .edge "graph" 1 carryingGraph none) .edge = .ok bundle ∧
    bundle.rules[1]? = some rule ∧
    ruleMatches plainRustText rule guestFlow bundle =
      resolvedMatch plainRustText carryingGraph guestRule guestFlow bundle := by
  refine ⟨_, _, rfl, rfl, (shipped_match_eq_resolved_iff plainRustText plainGoText
    (some carryingGraphDoc) carryingGraph rfl .edge "graph" 1 none _ rfl 1 guestRule rfl _ rfl
    guestFlow).mpr (.inr (.inl ⟨⟨by decide, nofun⟩, ?_, nofun⟩))⟩
  intro ref listed
  rw [List.mem_singleton.mp listed]
  exact ⟨⟨"guest-net", "network", none⟩, rfl, by decide⟩

def guestBundle : LoadedBundle :=
  .assemble plainRustText (encodeBundlePayloadFor .edge "graph" 1 guestGraph none)
    ((guestRule.arrives plainRustText).toList)

/-- The graph is accepted and its edge bundle loads; the rule matches the flow
when its reference is replaced by the declared subject, and the loaded rule
does not match it. -/
theorem graph_level_subject_is_lost : parseGraph plainGoText (some guestGraphDoc) = .ok guestGraph ∧
    LoadedBundle.fromBody plainRustText
      (encodeBundlePayloadFor .edge "graph" 1 guestGraph none) .edge = .ok guestBundle ∧
    (compileTarget .edge guestGraph.rules)[0]? = some guestRule ∧
    resolvedMatch plainRustText guestGraph guestRule guestFlow guestBundle = true ∧
    ∃ rule, guestBundle.rules[0]? = some rule ∧
      ruleMatches plainRustText rule guestFlow guestBundle = false :=
  ⟨rfl, rfl, rfl, rfl, _, rfl, rfl⟩

end ShieldNet.Policy
