import ShieldNet.Lib.Runs
import ShieldNet.Lib.Text

/-!
# Rule feeds and their versions

`RuleUpdateScheduler::run_once` pulls the signed feeds and hands what it has merged to the
stager, which `IpsManager::apply_rule_bundle` hands single bundles (`crates/sng-ips`). The
scheduler counts its revisions from zero and the stager takes no version twice, so changed
feeds are installed as long as nothing else has given it a higher one
(`changed_feeds_installed`). The versions of the feeds themselves are looked at nowhere: they
do not go back where the fetcher does not (`feed_versions_increase`).
-/

namespace ShieldNet.Ips

/-! ## The stager -/

structure IpsRuleBundleClaims where
  version : ℕ
  rulesText : Text

inductive IpsError where
  | ruleStale (incoming current : ℕ)
  | io (message : String)

/-- The last version, and what the live rule file holds. -/
structure FsRuleStager where
  installed : Option ℕ
  file : Text

/-- `fails` is what the validator or the file system says. -/
def FsRuleStager.stageAndSwap (stager : FsRuleStager) (claims : IpsRuleBundleClaims)
    (fails : Option String) : Except IpsError ℕ × FsRuleStager :=
  match stager.installed.filter (claims.version ≤ ·), fails with
  | some current, _ => (.error (.ruleStale claims.version current), stager)
  | none, some message => (.error (.io message), stager)
  | none, none => (.ok claims.version, ⟨some claims.version, claims.rulesText⟩)

theorem FsRuleStager.stageAndSwap_cases (stager : FsRuleStager) (claims : IpsRuleBundleClaims)
    (fails : Option String) : (∃ error, stager.stageAndSwap claims fails = (.error error, stager)) ∨
      fails = none ∧ stager.stageAndSwap claims fails =
        (.ok claims.version, ⟨some claims.version, claims.rulesText⟩) := by
  unfold stageAndSwap
  split
  case h_3 => exact .inr ⟨rfl, rfl⟩
  all_goals exact .inl ⟨_, rfl⟩

theorem FsRuleStager.stageAndSwap_of_newer {stager : FsRuleStager} (claims : IpsRuleBundleClaims)
    (newer : ∀ current ∈ stager.installed, current < claims.version) :
    stager.stageAndSwap claims none =
      (.ok claims.version, ⟨some claims.version, claims.rulesText⟩) := by
  have fresh : stager.installed.filter (claims.version ≤ ·) = none := by
    rw [Option.filter_eq_none_iff]
    intro current stored
    rw [decide_eq_true_eq]
    exact Nat.not_le.mpr (newer current stored)
  unfold stageAndSwap
  rw [fresh]

/-! ## The scheduler -/

/-- `prepare` merges the texts and filters them by the selection. -/
structure RuleLibraries (ς δ : Type) where
  prepare : ς → List Text → Text
  sha256 : Text → δ

structure MergeState (δ : Type) where
  lastHash : Option δ := none
  revision : ℕ := 0

structure RuleUpdateReport where
  feeds : List (Except String ℕ)
  installed : Bool
  revision : Option ℕ

/-- The scheduler with its stager. `installs` is bookkeeping of the model: what came of the
feeds at each install, the last one first. -/
structure RuleUpdates (δ : Type) where
  stager : FsRuleStager
  state : MergeState δ := {}
  installs : List (List (Except String ℕ)) := []

/-- What `fetch_and_verify` returns for each feed. -/
abbrev Fetched := List (Except String IpsRuleBundleClaims)

def Fetched.texts (fetched : Fetched) : List Text :=
  fetched.filterMap fun result => result.toOption.map IpsRuleBundleClaims.rulesText

def Fetched.outcomes (fetched : Fetched) : List (Except String ℕ) :=
  fetched.map (Except.map IpsRuleBundleClaims.version)

inductive RuleEvent (ς : Type) where
  | run (fetched : Fetched) (selection : ς) (fails : Option String)
  | push (claims : IpsRuleBundleClaims) (fails : Option String)

open RuleEvent

variable {ς δ : Type} [DecidableEq δ] (libraries : RuleLibraries ς δ) (updates : RuleUpdates δ)

def runOnce (fetched : Fetched) (selection : ς)
    (fails : Option String) : Except IpsError RuleUpdateReport × RuleUpdates δ :=
  let revision := updates.state.revision
  if fetched.texts = [] then
    (.ok ⟨fetched.outcomes, false, if revision = 0 then none else some revision⟩, updates)
  else
    let content := libraries.prepare selection fetched.texts
    let hash := libraries.sha256 content
    if updates.state.lastHash = some hash then
      (.ok ⟨fetched.outcomes, false, some revision⟩, updates)
    else
      match updates.stager.stageAndSwap ⟨revision + 1, content⟩ fails with
      | (.error error, stager) => (.error error, { updates with stager })
      | (.ok version, stager) => (.ok ⟨fetched.outcomes, true, some version⟩,
          ⟨stager, ⟨some hash, version⟩, fetched.outcomes :: updates.installs⟩)

def step : RuleEvent ς → RuleUpdates δ
  | .run fetched selection fails => (runOnce libraries updates fetched selection fails).2
  | .push claims fails => { updates with stager := (updates.stager.stageAndSwap claims fails).2 }

theorem runOnce_cases (fetched : Fetched) (selection : ς)
    (fails : Option String) : (runOnce libraries updates fetched selection fails).2 = updates ∨
      ∃ content hash, (runOnce libraries updates fetched selection fails).2 =
        ⟨⟨some (updates.state.revision + 1), content⟩, ⟨some hash, updates.state.revision + 1⟩,
          fetched.outcomes :: updates.installs⟩ := by
  unfold runOnce
  dsimp only
  split
  case isTrue => exact .inl rfl
  split
  case isTrue => exact .inl rfl
  rcases updates.stager.stageAndSwap_cases _ fails with ⟨_, failed⟩ | ⟨-, swapped⟩
  · rw [failed]
    exact .inl rfl
  · rw [swapped]
    exact .inr ⟨_, _, rfl⟩

/-! ## Changed feeds -/

/-- A bundle that is pushed is not ahead of the scheduler, or cannot be installed. -/
def PushesBehind : RuleEvent ς → Prop
  | .run .. => True
  | .push claims fails => fails.isSome = true ∨ claims.version ≤ updates.state.revision

/-- The stager has no version above the scheduler's revision. -/
def Covered : Prop :=
  ∀ version ∈ updates.stager.installed, version ≤ updates.state.revision

theorem Covered.step {updates : RuleUpdates δ} {event : RuleEvent ς} (covered : Covered updates)
    (behind : PushesBehind updates event) : Covered (step libraries updates event) := by
  cases event with
  | run fetched selection fails =>
    rcases runOnce_cases libraries updates fetched selection fails with same | ⟨_, _, installed⟩
    · rwa [Ips.step, same]
    · rw [Ips.step, installed]
      rintro version ⟨⟩
      exact le_rfl
  | push claims fails =>
    rcases updates.stager.stageAndSwap_cases claims fails with ⟨_, failed⟩ | ⟨works, swapped⟩
    · rwa [Ips.step, failed]
    · rw [Ips.step, swapped]
      rintro version ⟨⟩
      exact behind.resolve_left (by simp [works])

/-- **Changed feeds are installed** while nothing but the scheduler raises the version of the
stager, which is unseeded. -/
theorem changed_feeds_installed (stager : FsRuleStager) (events : List (RuleEvent ς))
    (unseeded : ∀ version ∈ stager.installed, version = 0)
    (along : AlongRun (step libraries) PushesBehind { stager } events) (fetched : Fetched)
    (selection : ς) (verified : fetched.texts ≠ [])
    (changed : (events.foldl (step libraries) { stager }).state.lastHash ≠
      some (libraries.sha256 (libraries.prepare selection fetched.texts))) :
    let updates := events.foldl (step libraries) { stager }
    let result := runOnce libraries updates fetched selection none
    result.1 = .ok ⟨fetched.outcomes, true, some (updates.state.revision + 1)⟩ ∧
      result.2.stager.file = libraries.prepare selection fetched.texts := by
  have covered : Covered (events.foldl (step libraries) { stager }) :=
    along.invariant Covered (fun _ _ holds behind => holds.step libraries behind)
      fun version seeded => (unseeded version seeded).le
  dsimp only
  rw [runOnce, if_neg verified]
  rw [if_neg changed, FsRuleStager.stageAndSwap_of_newer _
    fun version stored => Nat.lt_succ_of_le (covered version stored)]
  exact ⟨rfl, rfl⟩

def plainLibraries : RuleLibraries Unit Text := ⟨fun _ => List.flatten, id⟩

/-- A run, and a push that comes too late. -/
def runThenPush : List (RuleEvent Unit) :=
  [.run [.ok ⟨7, ['a']⟩] () none, .push ⟨1, ['c']⟩ none]

theorem second_feed_installed :
    (runOnce plainLibraries (runThenPush.foldl (step plainLibraries) { stager := ⟨none, []⟩ })
      [.ok ⟨8, ['b']⟩] () none).2.stager.file = ['b'] :=
  (changed_feeds_installed plainLibraries ⟨none, []⟩ runThenPush (by simp)
    ⟨trivial, .inr (by decide), trivial⟩ _ () (by decide) (by decide)).2

/-- **A stager that was seeded refuses the first feeds.** -/
theorem seeded_stager_refuses :
    runOnce plainLibraries { stager := ⟨some 5, ['a']⟩ } [.ok ⟨6, ['b']⟩] () none =
      (.error (.ruleStale 1 5), { stager := ⟨some 5, ['a']⟩ }) :=
  rfl

/-! ## The versions of a feed -/

variable (feed : ℕ)

/-- The version of a feed, by its place. -/
def versionOf (outcomes : List (Except String ℕ)) : Option ℕ :=
  outcomes[feed]?.bind Except.toOption

def RuleEvent.offered : RuleEvent ς → Option ℕ
  | .run fetched .. => versionOf feed fetched.outcomes
  | .push .. => none

/-- The versions of a feed that were installed, in order. -/
def RuleUpdates.versions (updates : RuleUpdates δ) : List ℕ :=
  updates.installs.reverse.filterMap (versionOf feed)

theorem versions_step (updates : RuleUpdates δ) (event : RuleEvent ς) :
    (step libraries updates event).versions feed = updates.versions feed ∨
      (step libraries updates event).versions feed =
        updates.versions feed ++ (event.offered feed).toList := by
  cases event with
  | push claims fails => exact .inl rfl
  | run fetched selection fails =>
    rcases runOnce_cases libraries updates fetched selection fails with same | ⟨_, _, installed⟩
    · exact .inl (by rw [step, same])
    · refine .inr ?_
      rw [step, installed, RuleUpdates.versions, List.reverse_cons, List.filterMap_append]
      cases found : versionOf feed fetched.outcomes <;> simp [found, offered, RuleUpdates.versions]

theorem versions_sublist (updates : RuleUpdates δ) (events : List (RuleEvent ς)) :
    ((events.foldl (step libraries) updates).versions feed).Sublist
      (updates.versions feed ++ events.filterMap (offered feed)) := by
  induction events generalizing updates with
  | nil => simp
  | cons event rest ih =>
    refine (ih _).trans ?_
    have first : (event :: rest).filterMap (offered feed) =
        (event.offered feed).toList ++ rest.filterMap (offered feed) := by
      cases found : event.offered feed <;> simp [found]
    rw [first]
    rcases versions_step libraries feed updates event with same | added
    · rw [same]
      exact (List.sublist_append_right _ _).append_left _
    · rw [added, List.append_assoc]

/-- **The installed versions of a feed do not go back** where those that are fetched do not. -/
theorem feed_versions_increase (stager : FsRuleStager) {events : List (RuleEvent ς)}
    (offered : (events.filterMap (offered feed)).Pairwise (· ≤ ·)) :
    ((events.foldl (step libraries) { stager }).versions feed).Pairwise (· ≤ ·) :=
  offered.sublist (versions_sublist libraries feed { stager } events)

/-- Two runs, with these versions of the one feed. -/
def twoRuns (first second : ℕ) : List (RuleEvent Unit) :=
  [.run [.ok ⟨first, ['a']⟩] () none, .run [.ok ⟨second, ['b']⟩] () none]

theorem newer_versions_installed :
    (((twoRuns 1 2).foldl (step plainLibraries) { stager := ⟨none, []⟩ }).versions 0).Pairwise
      (· ≤ ·) :=
  feed_versions_increase plainLibraries 0 ⟨none, []⟩ (by decide)

/-- **A bundle that is replayed is installed.** -/
theorem replayed_bundle_installed :
    ((twoRuns 2 1).foldl (step plainLibraries) { stager := ⟨none, []⟩ }).versions 0 = [2, 1] := by
  decide

end ShieldNet.Ips
