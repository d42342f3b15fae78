import ShieldNet.Steering.Resolve

/-!
# Resolver and edge table

The control plane resolves a domain by precedence: the first live override that
matches, else the catalog pattern of highest score, else `inspect_full`
(`ControlChooses`). The edge has one flat table, where overrides are entries
like any other: a literal beats a wildcard, a longer suffix a shorter one, and
on a tie the class that comes first in the canonical order stays
(`EdgeChooses`).

`edge_class_eq_resolved_iff` says that the two answers are equal exactly when
some class is chosen by both. `custom_override_is_shadowed` is an override to
`block` that the edge does not honour, because the catalog ships the same
literal in an earlier class.
-/

namespace ShieldNet.Steering

open TrafficClass SteeringTable

namespace Inputs

variable (inputs : Inputs)

/-! ## The control plane's choice -/

/-- The class the resolver's precedence gives to a normalised domain. -/
def ControlChooses (domain : Text) (trafficClass : TrafficClass) : Prop :=
  (∃ before ov after, inputs.overrides = before ++ ov :: after ∧
    inputs.overrideHits domain ov = true ∧
    (∀ earlier ∈ before, inputs.overrideHits domain earlier = false) ∧
    ov.trafficClassOverride = trafficClass) ∨
  ((∀ ov ∈ inputs.overrides, inputs.overrideHits domain ov = false) ∧
    ((∃ pattern, IsFirstMax (fun hit => score hit.1) (inputs.catalogHits domain)
      (pattern, trafficClass)) ∨
    (inputs.catalogHits domain = [] ∧ trafficClass = .inspectFull)))

/-- **The resolver answers with the class its precedence chooses.** -/
theorem resolveTrafficClass_eq_some_iff {domain : Text}
    (named : inputs.normaliseDomain domain ≠ []) (trafficClass : TrafficClass) :
    inputs.resolveTrafficClass domain = some trafficClass ↔
      inputs.ControlChooses (inputs.normaliseDomain domain) trafficClass := by
  simp only [resolveTrafficClass, if_neg named, ControlChooses]
  cases override : inputs.overrides.find? (inputs.overrideHits (inputs.normaliseDomain domain)) with
  | some ov =>
    obtain ⟨hits, before, after, split, earlier⟩ := List.find?_eq_some_iff_append.mp override
    have listed : ov ∈ inputs.overrides := List.mem_of_find?_eq_some override
    constructor
    · intro same
      refine .inl ⟨before, ov, after, split, hits, fun other member => ?_, Option.some.inj same⟩
      simpa using earlier other member
    · rintro (⟨before', ov', after', split', hits', earlier', rfl⟩ | ⟨noneHits, -⟩)
      · have found : inputs.overrides.find?
            (inputs.overrideHits (inputs.normaliseDomain domain)) = some ov' :=
          List.find?_eq_some_iff_append.mpr
            ⟨hits', before', after', split', fun other member => by simp [earlier' other member]⟩
        rw [override, Option.some.injEq] at found
        rw [found]
      · simp [noneHits ov listed] at hits
  | none =>
    have noneHits : ∀ ov ∈ inputs.overrides,
        inputs.overrideHits (inputs.normaliseDomain domain) ov = false := by
      simpa using List.find?_eq_none.mp override
    have noOverride : ¬∃ before ov after, inputs.overrides = before ++ ov :: after ∧
        inputs.overrideHits (inputs.normaliseDomain domain) ov ∧
        (∀ earlier ∈ before, inputs.overrideHits (inputs.normaliseDomain domain) earlier = false) ∧
        ov.trafficClassOverride = trafficClass := by
      rintro ⟨before, ov, after, split, hits, -, -⟩
      simp [noneHits ov (by simp [split])] at hits
    rw [or_iff_right noOverride, and_iff_right noneHits]
    simp only [← firstMax_eq_some_iff]
    cases best : firstMax (fun hit : Text × TrafficClass => score hit.1)
        (inputs.catalogHits (inputs.normaliseDomain domain)) with
    | some hit =>
      have nonempty : inputs.catalogHits (inputs.normaliseDomain domain) ≠ [] := by
        intro blank
        rw [firstMax_eq_none_iff.mpr blank] at best
        cases best
      simp [nonempty, Prod.ext_iff, eq_comm]
    | none => simp [firstMax_eq_none_iff.mp best, eq_comm]

/-! ## The edge's choice -/

/-- The edge bundle carries the domain in the class: an app of the region or
with a live override, in its effective class, or a live custom override. -/
def Ships (domain : Text) (trafficClass : TrafficClass) : Prop := (∃ app ∈ inputs.apps,
    (inputs.appliesToRegion app = true ∨ (inputs.overrideByApp app.id).isSome) ∧
    inputs.effectiveClass app = trafficClass ∧
    ∃ pattern ∈ app.domains, domain = inputs.toLower pattern) ∨
  (∃ ov ∈ inputs.overrides, inputs.live ov = true ∧ ov.appId = none ∧
    ov.trafficClassOverride = trafficClass ∧
    ∃ pattern ∈ ov.customDomains, domain = inputs.toLower pattern)

/-- The class of the shipped domain that covers the host best: by strength,
then by the canonical order of classes; `inspect_full` when none covers it. -/
def EdgeChooses (host : Text) (trafficClass : TrafficClass) : Prop :=
  (∃ domain strength, inputs.Ships domain trafficClass ∧ cover host domain = some strength ∧
    ∀ otherDomain otherClass otherStrength, inputs.Ships otherDomain otherClass →
      cover host otherDomain = some otherStrength →
      otherStrength ≤ strength ∧ (otherStrength = strength → trafficClass.rank ≤ otherClass.rank)) ∨
  ((∀ domain otherClass, inputs.Ships domain otherClass → cover host domain = none) ∧
    trafficClass = .inspectFull)

theorem mem_overriddenApps_iff {seen : List Nat} {apps : List AppRegistry}
    (distinct : (apps.map AppRegistry.id).Nodup) (app : AppRegistry) :
    app ∈ inputs.overriddenApps seen apps ↔
      app ∈ apps ∧ (inputs.overrideByApp app.id).isSome ∧ app.id ∉ seen := by
  induction apps generalizing seen with
  | nil => simp [overriddenApps]
  | cons first rest ih =>
    obtain ⟨fresh, restDistinct⟩ := List.nodup_cons.mp distinct
    have laterId : app ∈ rest → app.id ≠ first.id := by
      intro member same
      exact fresh (same ▸ List.mem_map_of_mem member)
    simp only [overriddenApps]
    split
    case isTrue missing =>
      rw [ih restDistinct, List.mem_cons]
      constructor
      · rintro ⟨member, rest⟩
        exact ⟨.inr member, rest⟩
      · rintro ⟨rfl | member, overridden, notSeen⟩
        · simp_all
        · exact ⟨member, overridden, notSeen⟩
    case isFalse present =>
      have overriddenFirst : (inputs.overrideByApp first.id).isSome := by
        simpa [Option.isNone_iff_eq_none, Option.isSome_iff_ne_none] using present
      split
      case isTrue already =>
        rw [ih restDistinct, List.mem_cons]
        constructor
        · rintro ⟨member, rest⟩
          exact ⟨.inr member, rest⟩
        · rintro ⟨rfl | member, overridden, notSeen⟩
          · exact absurd already notSeen
          · exact ⟨member, overridden, notSeen⟩
      case isFalse new =>
        rw [List.mem_cons, ih restDistinct, List.mem_cons, List.mem_cons]
        constructor
        · rintro (rfl | ⟨member, overridden, notSeen⟩)
          · exact ⟨.inl rfl, overriddenFirst, new⟩
          · exact ⟨.inr member, overridden, fun old => notSeen (.inr old)⟩
        · rintro ⟨rfl | member, overridden, notSeen⟩
          · exact .inl rfl
          · refine .inr ⟨member, overridden, ?_⟩
            rintro (same | old)
            · exact laterId member same
            · exact notSeen old

theorem mem_compileApps_iff (app : AppRegistry) : app ∈ inputs.compileApps ↔ app ∈ inputs.apps ∧
    (inputs.appliesToRegion app ∨ (inputs.overrideByApp app.id).isSome) := by
  rw [compileApps, List.mem_append, inputs.mem_overriddenApps_iff inputs.ids, regionalApps,
    List.mem_filter]
  constructor
  · rintro (⟨member, regional⟩ | ⟨member, overridden, -⟩)
    · exact ⟨member, .inl regional⟩
    · exact ⟨member, .inr overridden⟩
  · rintro ⟨member, regional | overridden⟩
    · exact .inl ⟨member, regional⟩
    · by_cases regional : inputs.appliesToRegion app
      · exact .inl ⟨member, regional⟩
      · refine .inr ⟨member, overridden, fun seen => ?_⟩
        obtain ⟨other, listed, same⟩ := List.mem_map.mp seen
        obtain ⟨otherMember, otherRegional⟩ := List.mem_filter.mp listed
        rw [List.inj_on_of_nodup_map inputs.ids otherMember member same] at otherRegional
        exact regional otherRegional

/-- **The pairs of the edge's rule set are the shipped domains.** -/
theorem mem_pairs_iff (domain : Text) (trafficClass : TrafficClass) :
    (domain, trafficClass) ∈ pairs (inputs.compileForTarget .edge) ↔
      inputs.Ships domain trafficClass := by
  have edge : all.filter (targetWantsClass .edge) = all := rfl
  simp only [pairs, compileForTarget, edge, List.flatMap_map, List.mem_flatMap,
    List.mem_map, Prod.mk.injEq, sortedKeys, List.mem_insertionSort, List.mem_dedup,
    bucketDomains, List.mem_append, List.mem_filter, beq_iff_eq, mem_compileApps_iff]
  constructor
  · rintro ⟨c, -, _, ⟨pattern, source, rfl⟩, rfl, rfl⟩
    rcases source with ⟨app, ⟨⟨member, carried⟩, same⟩, listed⟩ | ⟨ov, ⟨custom, same⟩, listed⟩
    · exact .inl ⟨app, member, carried, same, pattern, listed, rfl⟩
    · obtain ⟨member, both⟩ := List.mem_filter.mp custom
      rw [Bool.and_eq_true, beq_iff_eq] at both
      exact .inr ⟨ov, member, both.1, both.2, same, pattern, listed, rfl⟩
  · rintro (⟨app, member, carried, same, pattern, listed, rfl⟩ |
      ⟨ov, member, alive, own, same, pattern, listed, rfl⟩)
    · exact ⟨trafficClass, mem_all _, _,
        ⟨pattern, .inl ⟨app, ⟨⟨member, carried⟩, same⟩, listed⟩, rfl⟩, rfl, rfl⟩
    · refine ⟨trafficClass, mem_all _, _,
        ⟨pattern, .inr ⟨ov, ⟨List.mem_filter.mpr ⟨member, ?_⟩, same⟩, listed⟩, rfl⟩, rfl, rfl⟩
      simp [alive, own]

/-- The rule set lists the classes in canonical order. -/
theorem pairs_sorted (target : Policy.BundleTarget) :
    (pairs (inputs.compileForTarget target)).Pairwise
      fun first second => first.2.rank ≤ second.2.rank := by
  have canonical : (all.filter (targetWantsClass target)).Pairwise
      fun first second => first.rank ≤ second.rank :=
    List.Pairwise.filter _ (by decide)
  simp only [pairs, compileForTarget, List.flatMap_map]
  rw [List.pairwise_flatMap]
  constructor
  · intro trafficClass _
    exact List.pairwise_map.mpr (List.pairwise_of_forall fun _ _ => le_rfl)
  · refine canonical.imp fun below first member second member' => ?_
    obtain ⟨_, _, rfl⟩ := List.mem_map.mp member
    obtain ⟨_, _, rfl⟩ := List.mem_map.mp member'
    exact below

theorem EdgeChooses.unique {inputs : Inputs} {host : Text} {first second : TrafficClass}
    (chosen : inputs.EdgeChooses host first) (chosen' : inputs.EdgeChooses host second) :
    first = second := by
  rcases chosen with ⟨domain, strength, ships, covers, best⟩ | ⟨uncovered, rfl⟩
  · rcases chosen' with ⟨domain', strength', ships', covers', best'⟩ | ⟨uncovered', -⟩
    · obtain ⟨below, tie⟩ := best _ _ _ ships' covers'
      obtain ⟨below', tie'⟩ := best' _ _ _ ships covers
      have same : strength' = strength := le_antisymm below below'
      exact rank_injective (le_antisymm (tie same) (tie' same.symm))
    · rw [uncovered' _ _ ships] at covers
      cases covers
  · rcases chosen' with ⟨domain', strength', ships', covers', -⟩ | ⟨-, rfl⟩
    · rw [uncovered _ _ ships'] at covers'
      cases covers'
    · rfl

/-- **The edge table answers with the class its entries choose.** -/
theorem edgeClass_eq_iff (parseNet : String → Option IpNet) (host : Text)
    (trafficClass : TrafficClass) :
    ((fromRuleSet parseNet (inputs.compileForTarget .edge)).classForHost
      host).getD .inspectFull = trafficClass ↔ inputs.EdgeChooses host trafficClass := by
  have chosen : inputs.EdgeChooses host
      (((fromRuleSet parseNet (inputs.compileForTarget .edge)).classForHost
        host).getD .inspectFull) := by
    have answer := classForHost_dominates parseNet _ (inputs.pairs_sorted .edge) host
    cases result : (fromRuleSet parseNet (inputs.compileForTarget .edge)).classForHost host with
    | some best =>
      rw [result] at answer
      obtain ⟨domain, strength, listed, covers, dominates⟩ := answer
      refine .inl ⟨domain, strength, (inputs.mem_pairs_iff _ _).mp listed, covers, ?_⟩
      intro otherDomain otherClass otherStrength ships otherCovers
      exact dominates (otherDomain, otherClass) ((inputs.mem_pairs_iff _ _).mpr ships)
        otherStrength otherCovers
    | none =>
      rw [result] at answer
      refine .inr ⟨fun domain otherClass ships => ?_, rfl⟩
      exact answer (domain, otherClass) ((inputs.mem_pairs_iff _ _).mpr ships)
  constructor
  · rintro rfl
    exact chosen
  · intro chosen'
    exact chosen.unique chosen'

/-! ## Agreement -/

/-- **The edge gives the resolver's class exactly when the domain is not empty
and one class is both first by the resolver's precedence and carried by the
shipped domain that covers the host best.** -/
theorem edge_class_eq_resolved_iff (parseNet : String → Option IpNet) (domain : Text) :
    inputs.resolveTrafficClass domain = some (((fromRuleSet parseNet
          (inputs.compileForTarget .edge)).classForHost domain).getD .inspectFull) ↔
      inputs.normaliseDomain domain ≠ [] ∧
      ∃ trafficClass, inputs.ControlChooses (inputs.normaliseDomain domain) trafficClass ∧
        inputs.EdgeChooses domain trafficClass := by
  by_cases named : inputs.normaliseDomain domain = []
  · simp [resolveTrafficClass, named]
  · rw [inputs.resolveTrafficClass_eq_some_iff named, and_iff_right named]
    constructor
    · intro chosen
      exact ⟨_, chosen, (inputs.edgeClass_eq_iff parseNet domain _).mp rfl⟩
    · rintro ⟨trafficClass, chosen, edge⟩
      rw [(inputs.edgeClass_eq_iff parseNet domain trafficClass).mpr edge]
      exact chosen

/-- A catalog with one trusted app, and a tenant that blocks the app's domain by
an override of its own. -/
def shadowedInputs : Inputs where
  apps := [⟨1, .trustedDirect, none, ["example.com".toList], []⟩]
  ids := by decide
  overrides := [⟨none, ["example.com".toList], .block, none⟩]
  group := none
  groupFor := fun _ => none
  runeLower := fun c => c.toLower
  now := 0

/-- **The resolver blocks the domain and the edge sends it direct.** -/
theorem custom_override_is_shadowed :
    shadowedInputs.resolveTrafficClass "example.com".toList = some .block ∧
    ((fromRuleSet IpNet.parseV4
      (shadowedInputs.compileForTarget .edge)).classForHost "example.com".toList).getD
        .inspectFull = .trustedDirect := by
  decide

end Inputs
end ShieldNet.Steering
