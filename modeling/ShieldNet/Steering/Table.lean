import ShieldNet.Lib.FirstWins
import ShieldNet.Lib.Ip
import ShieldNet.Lib.Ranking
import Mathlib.Order.WithBot

/-!
# The steering table of the enforcement plane

The per-class rule set a bundle carries and the lookup table
`crates/sng-policy-eval/src/steering.rs` builds from it. A host takes the class
of its literal entry, else of the longest wildcard suffix that covers it; on a
tie the entry that came first in the rule set stays.
-/

namespace ShieldNet

open Text List Option

/-- `TrafficClass`, in its canonical order. -/
inductive TrafficClass where
  | trustedDirect
  | trustedMediaBypass
  | inspectLite
  | inspectFull
  | tunnelPrivate
  | block
  deriving DecidableEq

namespace TrafficClass

def all : List TrafficClass :=
  [.trustedDirect, .trustedMediaBypass, .inspectLite, .inspectFull, .tunnelPrivate, .block]

def defaultConservative : TrafficClass := .inspectFull

def rank : TrafficClass → Nat
  | .trustedDirect => 0
  | .trustedMediaBypass => 1
  | .inspectLite => 2
  | .inspectFull => 3
  | .tunnelPrivate => 4
  | .block => 5

theorem rank_injective : Function.Injective rank := by
  intro first second same
  cases first <;> cases second <;> first | rfl | cases same

theorem mem_all (c : TrafficClass) : c ∈ all := by
  cases c <;> decide

end TrafficClass

namespace Steering

structure SteeringClassRules where
  trafficClass : TrafficClass
  domains : List Text
  ipRanges : List String

structure SteeringRuleSet where
  classes : List SteeringClassRules

structure SteeringTable where
  literalDomains : List (Text × TrafficClass)
  wildcardSuffixes : List (Text × TrafficClass)
  ipRanges : List (IpNet × TrafficClass)

namespace SteeringTable

open FirstWins

def empty : SteeringTable := ⟨[], [], []⟩

/-- One domain of a class: `*.suffix` goes to the wildcards, anything else to
the literals, where the first class stays. -/
def addDomain (trafficClass : TrafficClass) (table : SteeringTable) (domain : Text) :
    SteeringTable :=
  match stripPrefix ['*', '.'] (asciiLower domain) with
  | some [] => table
  | some suffix =>
    { table with wildcardSuffixes := table.wildcardSuffixes ++ [(suffix, trafficClass)] }
  | none =>
    { table with literalDomains :=
        FirstWins.orInsert table.literalDomains (asciiLower domain, trafficClass) }

variable (parseNet : String → Option IpNet)

/-- One range of a class; a range that does not parse is skipped. -/
def addRange (trafficClass : TrafficClass) (table : SteeringTable) (range : String)
    : SteeringTable :=
  match parseNet range with
  | some net => { table with ipRanges := table.ipRanges ++ [(net, trafficClass)] }
  | none => table

variable (table : SteeringTable)

def addClass (rules : SteeringClassRules) : SteeringTable :=
  rules.ipRanges.foldl (addRange parseNet rules.trafficClass)
    (rules.domains.foldl (addDomain rules.trafficClass) table)

variable (ruleSet : SteeringRuleSet)

def fromRuleSet : SteeringTable :=
  ruleSet.classes.foldl (addClass parseNet) empty

/-- The apex or a name below it. -/
def domainMatchesSuffix (suffix host : Text) : Bool := host == suffix ||
    match stripSuffix suffix host with
    | none => false
    | some front => ['.'].isSuffixOf front && !front.isEmpty

def byteLen (text : Text) : Nat := (text.map Char.utf8Size).sum

def classForHost (host : Text) : Option TrafficClass :=
  let hostLc := asciiLower host
  match get? table.literalDomains hostLc with
  | some trafficClass => some trafficClass
  | none =>
    (firstMax (fun entry => byteLen entry.1)
      (table.wildcardSuffixes.filter fun entry => domainMatchesSuffix entry.1 hostLc)).map
      Prod.snd

def classForIp (addr : IpAddr) : Option TrafficClass :=
  (firstMax (fun entry => entry.1.prefixLen)
    (table.ipRanges.filter fun entry => entry.1.contains addr)).map Prod.snd

/-! ## What a table holds -/

/-- The domains of a rule set with their classes, in the order the table is
filled. -/
def pairs : List (Text × TrafficClass) :=
  ruleSet.classes.flatMap fun rules => rules.domains.map fun domain => (domain, rules.trafficClass)

def literalEntry (pair : Text × TrafficClass) : Option (Text × TrafficClass) :=
  match stripPrefix ['*', '.'] (asciiLower pair.1) with
  | some _ => none
  | none => some (asciiLower pair.1, pair.2)

def wildcardEntry (pair : Text × TrafficClass) : Option (Text × TrafficClass) :=
  match stripPrefix ['*', '.'] (asciiLower pair.1) with
  | some [] => none
  | some suffix => some (suffix, pair.2)
  | none => none

section

variable (trafficClass : TrafficClass)

include trafficClass

theorem addDomain_literal (table : SteeringTable) (domain key : Text) :
    get? (addDomain trafficClass table domain).literalDomains key =
      (get? table.literalDomains key).or
        (get? (literalEntry (domain, trafficClass)).toList key) := by
  simp only [addDomain, literalEntry]
  rcases stripPrefix ['*', '.'] (asciiLower domain) with _ | _ | ⟨first, rest⟩
  · exact get?_orInsert _ _ _
  · simp [get?]
  · simp [get?]

theorem addDomain_wildcard (table : SteeringTable) (domain : Text) :
    (addDomain trafficClass table domain).wildcardSuffixes =
      table.wildcardSuffixes ++ (wildcardEntry (domain, trafficClass)).toList := by
  simp only [addDomain, wildcardEntry]
  rcases stripPrefix ['*', '.'] (asciiLower domain) with _ | _ | ⟨first, rest⟩ <;> simp

theorem foldl_addRange_domains (ranges : List String) (table : SteeringTable) :
    (ranges.foldl (addRange parseNet trafficClass) table).literalDomains = table.literalDomains ∧
    (ranges.foldl (addRange parseNet trafficClass) table).wildcardSuffixes =
      table.wildcardSuffixes := by
  induction ranges generalizing table with
  | nil => exact ⟨rfl, rfl⟩
  | cons range rest ih =>
    have one : (addRange parseNet trafficClass table range).literalDomains = table.literalDomains ∧
        (addRange parseNet trafficClass table range).wildcardSuffixes = table.wildcardSuffixes := by
      unfold addRange
      split <;> exact ⟨rfl, rfl⟩
    obtain ⟨literals, wildcards⟩ := ih (addRange parseNet trafficClass table range)
    exact ⟨literals.trans one.1, wildcards.trans one.2⟩

theorem foldl_addDomain (domains : List Text) (table : SteeringTable) (key : Text) :
    get? (domains.foldl (addDomain trafficClass) table).literalDomains key =
      (get? table.literalDomains key).or (get?
        ((domains.map fun domain => (domain, trafficClass)).filterMap literalEntry) key) ∧
    (domains.foldl (addDomain trafficClass) table).wildcardSuffixes = table.wildcardSuffixes ++
        (domains.map fun domain => (domain, trafficClass)).filterMap wildcardEntry := by
  induction domains generalizing table with
  | nil => simp [get?]
  | cons domain rest ih =>
    obtain ⟨literals, wildcards⟩ := ih (addDomain trafficClass table domain)
    rw [foldl_cons, literals, wildcards, addDomain_literal, addDomain_wildcard,
      Option.or_assoc, ← get?_append, append_assoc]
    constructor
    · cases entry : literalEntry (domain, trafficClass) <;> simp [entry]
    · cases entry : wildcardEntry (domain, trafficClass) <;> simp [entry]

end

/-- **A table answers literal lookups with the first literal of its pairs, and
holds their wildcards in order.** -/
theorem fromRuleSet_domains (key : Text) : get? (fromRuleSet parseNet ruleSet).literalDomains key =
      get? ((pairs ruleSet).filterMap literalEntry) key ∧
    (fromRuleSet parseNet ruleSet).wildcardSuffixes = (pairs ruleSet).filterMap wildcardEntry := by
  have general : ∀ (classes : List SteeringClassRules) (table : SteeringTable),
      get? (classes.foldl (addClass parseNet) table).literalDomains key =
        (get? table.literalDomains key).or (get? ((pairs ⟨classes⟩).filterMap literalEntry) key) ∧
      (classes.foldl (addClass parseNet) table).wildcardSuffixes =
        table.wildcardSuffixes ++ (pairs ⟨classes⟩).filterMap wildcardEntry := by
    intro classes
    induction classes with
    | nil => simp [pairs, get?]
    | cons rules rest ih =>
      intro table
      obtain ⟨literals, wildcards⟩ := ih (addClass parseNet table rules)
      obtain ⟨rangeLiterals, rangeWildcards⟩ := foldl_addRange_domains parseNet
        rules.trafficClass rules.ipRanges
        (rules.domains.foldl (addDomain rules.trafficClass) table)
      obtain ⟨domainLiterals, domainWildcards⟩ :=
        foldl_addDomain rules.trafficClass rules.domains table key
      rw [foldl_cons, literals, wildcards, addClass, rangeLiterals, rangeWildcards,
        domainLiterals, domainWildcards, Option.or_assoc, ← get?_append,
        append_assoc, ← filterMap_append, ← filterMap_append]
      exact ⟨rfl, rfl⟩
  simpa [fromRuleSet, empty, get?] using general ruleSet.classes empty

/-! ## Which entry decides -/

/-- How strongly a shipped domain covers a host: a literal more than any
wildcard, a wildcard by the length of its suffix. -/
def cover (host domain : Text) : Option (WithTop Nat) :=
  match stripPrefix ['*', '.'] (asciiLower domain) with
  | none => if asciiLower domain = asciiLower host then some ⊤ else none
  | some [] => none
  | some suffix =>
    if domainMatchesSuffix suffix (asciiLower host) then
      some (WithTop.some (byteLen suffix))
    else none

theorem cover_eq_some_iff (host : Text) (pair : Text × TrafficClass) (strength : WithTop Nat) :
    cover host pair.1 = some strength ↔
      (literalEntry pair = some (asciiLower host, pair.2) ∧ strength = ⊤) ∨
      ∃ suffix, wildcardEntry pair = some (suffix, pair.2) ∧
        domainMatchesSuffix suffix (asciiLower host) ∧
        strength = WithTop.some (byteLen suffix) := by
  simp only [cover, literalEntry, wildcardEntry]
  rcases stripPrefix ['*', '.'] (asciiLower pair.1) with _ | _ | ⟨first, rest⟩
  · simp only [ite_none_right_eq_some, Option.some.injEq, Prod.mk.injEq, and_true,
      reduceCtorEq, false_and, exists_false, or_false]
    exact and_congr_right fun _ => eq_comm
  · simp
  · simp only [ite_none_right_eq_some, Option.some.injEq, reduceCtorEq, false_and,
      Prod.mk.injEq, and_true, false_or]
    constructor
    · rintro ⟨covers, rfl⟩
      exact ⟨_, rfl, covers, rfl⟩
    · rintro ⟨_, rfl, covers, rfl⟩
      exact ⟨covers, rfl⟩

/-- No pair covers the host better than the given strength, and those that
cover it as well belong to the class or a later one. -/
def Dominates (host : Text) (listed : List (Text × TrafficClass)) (strength : WithTop Nat)
    (trafficClass : TrafficClass) : Prop :=
  ∀ pair ∈ listed, ∀ other, cover host pair.1 = some other →
    other ≤ strength ∧ (other = strength → trafficClass.rank ≤ pair.2.rank)

variable {pair entry : Text × TrafficClass}

theorem literalEntry_eq_some (read : literalEntry pair = some entry) : entry.2 = pair.2 := by
  unfold literalEntry at read
  split at read <;> cases read
  rfl

theorem wildcardEntry_eq_some (read : wildcardEntry pair = some entry) : entry.2 = pair.2 := by
  unfold wildcardEntry at read
  split at read <;> cases read
  rfl

section Deciding

variable {listed : List (Text × TrafficClass)} {host : Text}

def hostWildcards (listed : List (Text × TrafficClass)) (host : Text) :
    List (Text × TrafficClass) :=
  (listed.filterMap wildcardEntry).filter fun entry =>
    domainMatchesSuffix entry.1 (asciiLower host)

theorem literal_dominates
    (sorted : listed.Pairwise fun first second => first.2.rank ≤ second.2.rank)
    {trafficClass : TrafficClass}
    (found : get? (listed.filterMap literalEntry) (asciiLower host) = some trafficClass) :
    ∃ domain strength, (domain, trafficClass) ∈ listed ∧ cover host domain = some strength ∧
      Dominates host listed strength trafficClass := by
  have literalsSorted : (listed.filterMap literalEntry).Pairwise
      fun first second => first.2.rank ≤ second.2.rank := by
    refine sorted.filterMap _ fun first second below entry read entry' read' => ?_
    rw [literalEntry_eq_some read, literalEntry_eq_some read']
    exact below
  obtain ⟨⟨domain, _⟩, member, read⟩ := mem_filterMap.mp (mem_of_get?_eq_some found)
  obtain rfl : trafficClass = _ := literalEntry_eq_some read
  refine ⟨domain, ⊤, member, (cover_eq_some_iff host (domain, _) ⊤).mpr (.inl ⟨read, rfl⟩), ?_⟩
  intro other otherListed strength covers
  refine ⟨le_top, fun tie => ?_⟩
  rcases (cover_eq_some_iff host other strength).mp covers with ⟨entry, -⟩ | ⟨_, _, _, finite⟩
  · exact rel_of_get?_eq_some (R := fun first second => first.rank ≤ second.rank)
      found (fun _ => le_rfl) literalsSorted (mem_filterMap.mpr ⟨_, otherListed, entry⟩)
  · exact absurd (finite ▸ tie) WithTop.coe_ne_top

theorem wildcard_of_cover (missing : get? (listed.filterMap literalEntry) (asciiLower host) = none)
    {pair : Text × TrafficClass} (member : pair ∈ listed) {strength : WithTop Nat}
    (covers : cover host pair.1 = some strength) :
    ∃ suffix, (suffix, pair.2) ∈ hostWildcards listed host ∧
      strength = WithTop.some (byteLen suffix) := by
  rcases (cover_eq_some_iff host pair strength).mp covers with
    ⟨entry, -⟩ | ⟨suffix, entry, matched, length⟩
  · exact absurd (mem_filterMap.mpr ⟨pair, member, entry⟩) (not_mem_of_get?_eq_none missing pair.2)
  · exact ⟨suffix, mem_filter.mpr ⟨mem_filterMap.mpr ⟨pair, member, entry⟩, matched⟩, length⟩

theorem wildcard_dominates
    (sorted : listed.Pairwise fun first second => first.2.rank ≤ second.2.rank)
    (missing : get? (listed.filterMap literalEntry) (asciiLower host) = none)
    {best : Text × TrafficClass}
    (longest : IsFirstMax (fun entry => byteLen entry.1) (hostWildcards listed host) best) :
    ∃ domain strength, (domain, best.2) ∈ listed ∧ cover host domain = some strength ∧
      Dominates host listed strength best.2 := by
  have wildcardsSorted : (hostWildcards listed host).Pairwise
      fun first second => first.2.rank ≤ second.2.rank := by
    refine Pairwise.filter _ (sorted.filterMap _ fun first second below entry read
      entry' read' => ?_)
    rw [wildcardEntry_eq_some read, wildcardEntry_eq_some read']
    exact below
  obtain ⟨stored, matched⟩ := mem_filter.mp longest.mem
  obtain ⟨⟨domain, _⟩, member, read⟩ := mem_filterMap.mp stored
  obtain rfl : best.2 = _ := wildcardEntry_eq_some read
  refine ⟨domain, byteLen best.1, member,
    (cover_eq_some_iff host (domain, _) _).mpr (.inr ⟨best.1, read, matched, rfl⟩), ?_⟩
  intro other otherListed strength covers
  obtain ⟨suffix, inside, rfl⟩ := wildcard_of_cover missing otherListed covers
  refine ⟨WithTop.coe_le_coe.mpr (longest.le inside), fun tie => ?_⟩
  rcases longest.rel_of_tie wildcardsSorted inside (WithTop.coe_injective tie) with same | below
  · rw [← same]
  · exact below

end Deciding

/-- **The table answers with the class of the dominating entry.** -/
theorem classForHost_dominates (parseNet : String → Option IpNet) (ruleSet : SteeringRuleSet)
    (sorted : (pairs ruleSet).Pairwise fun first second => first.2.rank ≤ second.2.rank)
    (host : Text) :
    match (fromRuleSet parseNet ruleSet).classForHost host with
    | some trafficClass => ∃ domain strength, (domain, trafficClass) ∈ pairs ruleSet ∧
        cover host domain = some strength ∧
        Dominates host (pairs ruleSet) strength trafficClass
    | none => ∀ pair ∈ pairs ruleSet, cover host pair.1 = none := by
  obtain ⟨literals, wildcards⟩ := fromRuleSet_domains parseNet ruleSet (asciiLower host)
  simp only [classForHost, literals, wildcards]
  cases literal : get? ((pairs ruleSet).filterMap literalEntry) (asciiLower host) with
  | some trafficClass => exact literal_dominates sorted literal
  | none =>
    cases winner : firstMax (fun entry : Text × TrafficClass => byteLen entry.1)
        (hostWildcards (pairs ruleSet) host) with
    | some best =>
      simp only [hostWildcards] at winner
      rw [winner]
      exact wildcard_dominates sorted literal (firstMax_isFirstMax winner)
    | none =>
      have uncovered := firstMax_eq_none_iff.mp winner
      simp only [hostWildcards] at winner
      rw [winner]
      intro pair member
      by_contra covered
      obtain ⟨strength, covers⟩ := ne_none_iff_exists'.mp covered
      obtain ⟨suffix, inside, -⟩ := wildcard_of_cover literal member covers
      rw [uncovered] at inside
      cases inside

end SteeringTable

end Steering
end ShieldNet
