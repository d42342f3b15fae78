import ShieldNet.Firewall.Nftables

/-!
# Zones under keys

`ZoneTable` of `crates/sng-fw/src/zone.rs` as its type has it: zones under keys
that need not be their names. `validate` compares the keys, while `classify` and
the rendered sets go by the names of the zones. Where every zone is stored under
its own name, as `add_zone` stores it, a set holds the addresses classified into
its zone (`sets_agree_with_classify`).
-/

namespace ShieldNet.Firewall

open ZoneTable

/-- `ZoneTable`, in the order of its keys. -/
structure ZoneMap where
  entries : List (String × Zone)
  policy : List (String × List (String × ZonePolicy))
  defaultIntra : ZonePolicy
  defaultInter : ZonePolicy
  keyed : entries.Pairwise fun first second => first.1 < second.1

namespace ZoneMap

variable (map : ZoneMap)

def zones : List Zone := map.entries.map Prod.snd

/-- The table as the checks of the keys see it. -/
def byKey : ZoneTable where
  zones := map.entries.map fun entry => { entry.2 with name := entry.1 }
  policy := map.policy
  defaultIntra := map.defaultIntra
  defaultInter := map.defaultInter
  keyed := List.pairwise_map.mpr map.keyed

def violation : Option FirewallError :=
  (map.zones.findSome? zoneViolation).or <| map.byKey.policyViolation.or <|
    (overlapViolation map.byKey.zones).or (collisionViolation [] map.byKey.zones)

def classify (addr : IpAddr) : Option String := (firstMax Prod.fst (map.zones.flatMap fun zone =>
    (zone.networks.filter (·.contains addr)).map fun net => (net.prefixLen, zone.name))).map
      Prod.snd

def sets : List NftSet := map.zones.flatMap fun zone =>
    ([IpFamily.v4, .v6].filter zone.hasFamily).map fun family =>
      { family, name := zoneSetName family zone.name
        elements := zone.networks.filter fun net => net.family == family }

def Named : Prop := ∀ entry ∈ map.entries, entry.1 = entry.2.name

theorem Named.zones_byKey {map : ZoneMap} (named : map.Named) : map.byKey.zones = map.zones := by
  refine List.map_congr_left fun entry listed => ?_
  rw [named entry listed]

section Named

variable {map : ZoneMap} (named : map.Named)

include named

theorem Named.violation_byKey : map.byKey.violation = map.violation := by
  rw [ZoneTable.violation, violation, named.zones_byKey]

theorem Named.classify_byKey (addr : IpAddr) : map.byKey.classify addr = map.classify addr := by
  rw [ZoneTable.classify, ZoneTable.hits, classify, named.zones_byKey]

theorem Named.sets_byKey : zoneSets map.byKey = map.sets := by
  rw [zoneSets, sets, named.zones_byKey]

end Named

/-- **The sets of a valid table agree with its classification** where zones are
stored under their names: an address is classified into a zone exactly when that
is the one zone that contains it, zones have set names of their own, and a clause
on a zone's set accepts the packets whose address is of the family and classified
into the zone. -/
theorem sets_agree_with_classify (map : ZoneMap) (valid : map.violation = none)
    (named : map.Named) :
    (∀ addr name, map.classify addr = some name ↔ ∃ zone ∈ map.zones, zone.name = name ∧
      zone.contains addr = true ∧ ∀ other ∈ map.zones, other.contains addr = true → other = zone) ∧
    (∀ first ∈ map.zones, ∀ second ∈ map.zones, first ≠ second → ∀ family family',
      zoneSetName family first.name ≠ zoneSetName family' second.name) ∧
    ∀ zone ∈ map.zones, ∀ flow side family,
      (NftClause.addrSet side family (zoneSetName family zone.name)).accepts map.sets flow = true ↔
        (flow.addr side).family = family ∧ map.classify (flow.addr side) = some zone.name := by
  have validTable : map.byKey.Valid := named.violation_byKey.trans valid
  have classified : ∀ addr name, map.classify addr = some name ↔
      ∃ zone ∈ map.zones, zone.name = name ∧ zone.contains addr = true := by
    intro addr name
    rw [← named.classify_byKey, classify_eq_some_iff validTable, named.zones_byKey]
  have single : ∀ first ∈ map.zones, ∀ second ∈ map.zones, ∀ addr,
      first.contains addr = true → second.contains addr = true → second = first := by
    intro first listed second listed' addr inside inside'
    rw [← named.zones_byKey] at listed listed'
    exact validTable.zone_unique listed' listed inside' inside
  have apart : ∀ first ∈ map.zones, ∀ second ∈ map.zones,
      sanitizeSetName first.name = sanitizeSetName second.name → first = second := by
    intro first listed second listed' same
    rw [← named.zones_byKey] at listed listed'
    exact validTable.setName_unique listed listed' same
  refine ⟨?_, ?_, ?_⟩
  · intro addr name
    rw [classified]
    constructor
    · rintro ⟨zone, listed, same, inside⟩
      exact ⟨zone, listed, same, inside, fun other listed' =>
        single zone listed other listed' addr inside⟩
    · rintro ⟨zone, listed, same, inside, -⟩
      exact ⟨zone, listed, same, inside⟩
  · intro first listed second listed' different family family' same
    exact different (apart first listed second listed' (zoneSetName_eq_iff.mp same).2)
  · intro zone listed flow side family
    have stored : map.byKey.get? zone.name = some zone :=
      get?_eq_some_iff.mpr ⟨named.zones_byKey ▸ listed, rfl⟩
    rw [← named.sets_byKey, addrSet_accepts_iff validTable stored, classified]
    refine and_congr_right fun _ => ⟨fun inside => ⟨zone, listed, rfl, inside⟩, ?_⟩
    rintro ⟨other, listed', same, inside⟩
    exact apart other listed' zone listed (congrArg _ same) ▸ inside

def pair (firstKey secondKey first second : String) (ordered : firstKey < secondKey) : ZoneMap where
  entries := [(firstKey, ⟨first, [.v4 0x0A000000#32 8], ""⟩),
    (secondKey, ⟨second, [.v4 0x0B000000#32 8], ""⟩)]
  policy := []
  defaultIntra := .allow
  defaultInter := .deny
  keyed := List.pairwise_pair.mpr ordered

def packetOf (src : BitVec 32) : FlowKey := ⟨.v4 src, .v4 0x08080808#32, 40000, 443, .tcp⟩

theorem dmz_set_agrees : (NftClause.addrSet .source .v4 (zoneSetName .v4 "dmz")).accepts
      (pair "dmz" "lan" "dmz" "lan" (by decide)).sets (packetOf 0x0A000001#32) = true ↔
    ((packetOf 0x0A000001#32).addr .source).family = .v4 ∧
      (pair "dmz" "lan" "dmz" "lan" (by decide)).classify
        ((packetOf 0x0A000001#32).addr .source) = some "dmz" :=
  (sets_agree_with_classify (pair "dmz" "lan" "dmz" "lan" (by decide)) (by decide)
    (by simp [Named, pair])).2.2 ⟨"dmz", [.v4 0x0A000000#32 8], ""⟩ (by simp [zones, pair]) _ _ _

/-- **The keys are compared and the names are used**: under the keys `a` and `b`
two zones whose names have one set name validate, and the set of the one holds an
address that is classified into the other. -/
theorem keys_hide_colliding_names : (pair "a" "b" "br.lan" "br_lan" (by decide)).violation = none ∧
    zoneSetName .v4 "br.lan" = zoneSetName .v4 "br_lan" ∧
    (pair "a" "b" "br.lan" "br_lan" (by decide)).classify (.v4 0x0B000001#32) = some "br_lan" ∧
    (NftClause.addrSet .source .v4 (zoneSetName .v4 "br.lan")).accepts
      (pair "a" "b" "br.lan" "br_lan" (by decide)).sets (packetOf 0x0B000001#32) = true := by
  decide +kernel

end ZoneMap
end ShieldNet.Firewall
