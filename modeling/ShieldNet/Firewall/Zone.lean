import ShieldNet.Firewall.Rule
import Mathlib.Data.List.Pairwise

/-!
# Zones

`crates/sng-fw/src/zone.rs`: zones, the policy matrix between them, the
classification of an address by longest prefix, and the validation that makes a
table safe to render: zones have networks, policy entries name zones, no two
zones share an address, and no two names collapse to one set name.

A table holds its zones in the order of their names, which are its keys, as
`add_zone` builds it.
-/

namespace ShieldNet.Firewall

open List

structure Zone where
  name : String
  networks : List IpNet
  description : String
  deriving DecidableEq

def Zone.contains (zone : Zone) (addr : IpAddr) : Bool := zone.networks.any (·.contains addr)

def Zone.hasFamily (zone : Zone) (family : IpFamily) : Bool :=
  zone.networks.any fun net => net.family == family

inductive ZonePolicy where
  | allow
  | deny
  deriving DecidableEq

/-- `ZoneTable`. The zones are in the order of their names, each name once; the
policy matrix is `policy[from][to]`. -/
structure ZoneTable where
  zones : List Zone
  policy : List (String × List (String × ZonePolicy))
  defaultIntra : ZonePolicy
  defaultInter : ZonePolicy
  keyed : zones.Pairwise fun first second => first.name < second.name

namespace ZoneTable

def default : ZoneTable := ⟨[], [], .allow, .deny, .nil⟩

variable (table : ZoneTable) (name : String)

def get? : Option Zone := table.zones.find? fun zone => zone.name == name

def containsKey : Bool := (table.get? name).isSome

def lookup (fromZone toZone : String) : ZonePolicy :=
  match (FirstWins.get? table.policy fromZone).bind (FirstWins.get? · toZone) with
  | some policy => policy
  | none => if fromZone = toZone then table.defaultIntra else table.defaultInter

/-- The networks of the table that contain the address, with their zones. -/
def hits (addr : IpAddr) : List (Nat × String) := table.zones.flatMap fun zone =>
    (zone.networks.filter (·.contains addr)).map fun net => (net.prefixLen, zone.name)

/-- The longest prefix, the first of equally long ones. -/
def classify (addr : IpAddr) : Option String := (firstMax Prod.fst (table.hits addr)).map Prod.snd

/-! ## Validation -/

def networksOverlap (first second : IpNet) : Bool := first.family == second.family &&
    (first.contains second.network || second.contains first.network)

def sanitizeSetName : Text := name.toList.map fun c => if c.isAlphanum || c == '_' then c else '_'

/-- `Zone::validate`, as the violation it finds. -/
def zoneViolation (zone : Zone) : Option FirewallError :=
  if zone.name = "" then some .zoneNameEmpty
  else if zone.networks = [] then some (.zoneWithoutNetworks zone.name)
  else none

/-- The first policy entry that names no zone. -/
def policyViolation : Option FirewallError := table.policy.findSome? fun row =>
    if table.containsKey row.1 then
      row.2.findSome? fun cell =>
        if table.containsKey cell.1 then none else some (.unknownToZone cell.1)
    else some (.unknownFromZone row.1)

def overlapViolation : List Zone → Option FirewallError
  | [] => none
  | zone :: rest =>
    (rest.findSome? fun other => zone.networks.findSome? fun net =>
      other.networks.findSome? fun otherNet =>
        if networksOverlap net otherNet then
          some (.zonesOverlap zone.name other.name net otherNet)
        else none).or (overlapViolation rest)

def collisionViolation (seen : List (Text × String)) : List Zone → Option FirewallError
  | [] => none
  | zone :: rest =>
    match FirstWins.get? seen (sanitizeSetName zone.name) with
    | some previous =>
      some (.setNameCollision previous zone.name (String.ofList (sanitizeSetName zone.name)))
    | none => collisionViolation ((sanitizeSetName zone.name, zone.name) :: seen) rest

def violation : Option FirewallError :=
  (table.zones.findSome? zoneViolation).or <| table.policyViolation.or <|
    (overlapViolation table.zones).or (collisionViolation [] table.zones)

def Valid : Prop := table.violation = none

instance (table : ZoneTable) : Decidable table.Valid := inferInstanceAs (Decidable (_ = none))

/-! ## What validation gives -/

def DisjointZones (first second : Zone) : Prop :=
  ∀ addr, ¬(first.contains addr = true ∧ second.contains addr = true)

instance : Std.Symm DisjointZones where
  symm _ _ apart addr both := apart addr both.symm

variable {addr : IpAddr}

theorem networksOverlap_of_common {first second : IpNet}
    (inside : first.contains addr) (inside' : second.contains addr) :
    networksOverlap first second := by
  have families : first.family = second.family :=
    (IpNet.family_eq_of_contains inside).trans (IpNet.family_eq_of_contains inside').symm
  rw [networksOverlap, families, beq_self_eq_true, Bool.true_and, Bool.or_eq_true]
  exact IpNet.contains_network_of_common inside inside'

theorem disjoint_of_overlapViolation {zones : List Zone} (clean : overlapViolation zones = none) :
    zones.Pairwise DisjointZones := by
  induction zones with
  | nil => exact .nil
  | cons zone rest ih =>
    rw [overlapViolation, Option.or_eq_none_iff] at clean
    refine .cons (fun other listed addr => ?_) (ih clean.2)
    rintro ⟨inside, inside'⟩
    obtain ⟨net, member, contains⟩ := any_eq_true.mp inside
    obtain ⟨otherNet, otherMember, otherContains⟩ := any_eq_true.mp inside'
    have none := findSome?_eq_none_iff.mp clean.1 other listed
    have none' := findSome?_eq_none_iff.mp none net member
    have none'' := findSome?_eq_none_iff.mp none' otherNet otherMember
    rw [networksOverlap_of_common contains otherContains, if_pos rfl] at none''
    cases none''

theorem setNames_of_collisionViolation {zones : List Zone} {seen : List (Text × String)}
    (clean : collisionViolation seen zones = none) :
    (∀ zone ∈ zones, ∀ entry ∈ seen, entry.1 ≠ sanitizeSetName zone.name) ∧
    zones.Pairwise fun first second =>
      sanitizeSetName first.name ≠ sanitizeSetName second.name := by
  induction zones generalizing seen with
  | nil => exact ⟨fun _ listed => absurd listed not_mem_nil, .nil⟩
  | cons zone rest ih =>
    rw [collisionViolation] at clean
    cases found : FirstWins.get? seen (sanitizeSetName zone.name) with
    | some previous => simp [found] at clean
    | none =>
      rw [found] at clean
      obtain ⟨fresh, distinct⟩ := ih clean
      refine ⟨?_, .cons (fun other listed same => ?_) distinct⟩
      · intro other listed entry stored same
        rcases mem_cons.mp listed with rfl | later
        · exact FirstWins.not_mem_of_get?_eq_none found entry.2 (same ▸ stored)
        · exact fresh other later entry (mem_cons_of_mem _ stored) same
      · exact fresh other listed _ mem_cons_self same

section Valid

variable {table : ZoneTable} (valid : table.Valid)

include valid

theorem Valid.disjoint : table.zones.Pairwise DisjointZones := by
  simp only [Valid, violation, Option.or_eq_none_iff] at valid
  exact disjoint_of_overlapViolation valid.2.2.1

theorem Valid.zone_unique {first second : Zone} (listed : first ∈ table.zones)
    (listed' : second ∈ table.zones) {addr : IpAddr} (inside : first.contains addr)
    (inside' : second.contains addr) : first = second := by
  by_contra different
  exact valid.disjoint.forall listed listed' different addr ⟨inside, inside'⟩

theorem Valid.setName_unique {first second : Zone} (listed : first ∈ table.zones)
    (listed' : second ∈ table.zones)
    (same : sanitizeSetName first.name = sanitizeSetName second.name) : first = second := by
  simp only [Valid, violation, Option.or_eq_none_iff] at valid
  have distinct := (setNames_of_collisionViolation valid.2.2.2).2
  exact inj_on_of_nodup_map (pairwise_map.mpr distinct) listed listed' same

end Valid

variable {table : ZoneTable}

theorem mem_hits_iff {hit : Nat × String} :
    hit ∈ table.hits addr ↔ ∃ zone ∈ table.zones, zone.name = hit.2 ∧
      ∃ net ∈ zone.networks, net.contains addr ∧ net.prefixLen = hit.1 := by
  simp only [hits, mem_flatMap, mem_map, mem_filter]
  constructor
  · rintro ⟨zone, listed, net, ⟨member, inside⟩, rfl⟩
    exact ⟨zone, listed, rfl, net, member, inside, rfl⟩
  · rintro ⟨zone, listed, named, net, member, inside, long⟩
    exact ⟨zone, listed, net, ⟨member, inside⟩, Prod.ext long named⟩

/-- **In a valid table an address is classified into the zone that contains
it.** -/
theorem classify_eq_some_iff (valid : table.Valid) {name : String} :
    table.classify addr = some name ↔
      ∃ zone ∈ table.zones, zone.name = name ∧ zone.contains addr := by
  constructor
  · intro found
    obtain ⟨hit, best, rfl⟩ := Option.map_eq_some_iff.mp found
    obtain ⟨zone, listed, named, net, member, inside, -⟩ :=
      mem_hits_iff.mp (firstMax_isFirstMax best).mem
    exact ⟨zone, listed, named, any_eq_true.mpr ⟨net, member, inside⟩⟩
  · rintro ⟨zone, listed, rfl, inside⟩
    cases best : firstMax Prod.fst (table.hits addr) with
    | none =>
      obtain ⟨net, member, contains⟩ := any_eq_true.mp inside
      have hit : (net.prefixLen, zone.name) ∈ table.hits addr :=
        mem_hits_iff.mpr ⟨zone, listed, rfl, net, member, contains, rfl⟩
      rw [firstMax_eq_none_iff.mp best] at hit
      cases hit
    | some hit =>
      obtain ⟨other, otherListed, named, net, member, contains, -⟩ :=
        mem_hits_iff.mp (firstMax_isFirstMax best).mem
      have same : other = zone := valid.zone_unique otherListed listed
        (any_eq_true.mpr ⟨net, member, contains⟩) inside
      rw [classify, best, Option.map_some, ← named, same]

theorem get?_eq_some_iff {name : String} {zone : Zone} :
    table.get? name = some zone ↔ zone ∈ table.zones ∧ zone.name = name := by
  have named : ∀ {found : Zone}, table.get? name = some found → found.name = name := by
    intro found stored
    simpa using find?_some stored
  constructor
  · intro stored
    exact ⟨mem_of_find?_eq_some stored, named stored⟩
  · rintro ⟨listed, same⟩
    obtain ⟨found, stored⟩ : ∃ found, table.get? name = some found :=
      Option.isSome_iff_exists.mp (find?_isSome.mpr ⟨zone, listed, beq_iff_eq.mpr same⟩)
    have distinct : (table.zones.map Zone.name).Nodup := by
      refine pairwise_map.mpr (table.keyed.imp ?_)
      intro first second below equal
      exact String.lt_irrefl _ (equal ▸ below)
    rw [stored, inj_on_of_nodup_map distinct (mem_of_find?_eq_some stored) listed
      ((named stored).trans same.symm)]

end ZoneTable
end ShieldNet.Firewall
