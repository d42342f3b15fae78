import Mathlib.Data.Nat.Notation

/-!
# Runs

A machine that takes one event after another, conditions on the steps of a run,
and rules for whole runs: an invariant, conditions that agree under an
invariant, and a potential that pays for the events that are counted. At the end,
what a call to another party comes to that may fail and may have taken effect.
-/

namespace ShieldNet

open List

variable {σ ε : Type} (step : σ → ε → σ)

/-- A condition on the state and the event holds at each step of the run. -/
def AlongRun (condition : σ → ε → Prop) : σ → List ε → Prop
  | _, [] => True
  | state, event :: rest => condition state event ∧ AlongRun condition (step state event) rest

instance AlongRun.decidable {condition : σ → ε → Prop}
    [∀ state event, Decidable (condition state event)] :
    (state : σ) → (events : List ε) → Decidable (AlongRun step condition state events)
  | _, [] => .isTrue trivial
  | state, event :: rest =>
    haveI : Decidable (AlongRun step condition (step state event) rest) :=
      AlongRun.decidable (step state event) rest
    inferInstanceAs (Decidable (_ ∧ _))

def countAlong (counts : σ → ε → Bool) : σ → List ε → Nat
  | _, [] => 0
  | state, event :: rest =>
    (if counts state event then 1 else 0) + countAlong counts (step state event) rest

variable {step} {condition other : σ → ε → Prop} {state : σ} {events : List ε}

theorem AlongRun.and_forall {allowed : ε → Prop}
    (along : AlongRun step condition state events) (each : ∀ event ∈ events, allowed event) :
    AlongRun step (fun state event => allowed event ∧ condition state event) state events := by
  induction events generalizing state with
  | nil => exact trivial
  | cons event rest ih =>
    rw [forall_mem_cons] at each
    exact ⟨⟨each.1, along.1⟩, ih along.2 each.2⟩

theorem AlongRun.imp (weaker : ∀ state event, condition state event → other state event)
    (along : AlongRun step condition state events) : AlongRun step other state events := by
  induction events generalizing state with
  | nil => exact trivial
  | cons event rest ih =>
    exact ⟨weaker state event along.1, ih along.2⟩

theorem alongRun_and :
    AlongRun step (fun state event => condition state event ∧ other state event) state events ↔
      AlongRun step condition state events ∧ AlongRun step other state events := by
  induction events generalizing state with
  | nil => exact (and_iff_left trivial).symm
  | cons event rest ih =>
    rw [AlongRun, AlongRun, AlongRun, ih]
    exact and_and_and_comm

theorem alongRun_append {early later : List ε} :
    AlongRun step condition state (early ++ later) ↔ AlongRun step condition state early ∧
      AlongRun step condition (early.foldl step state) later := by
  induction early generalizing state with
  | nil => exact (and_iff_right trivial).symm
  | cons event rest ih =>
    rw [cons_append, AlongRun, AlongRun, ih, and_assoc]
    rfl

section Invariant

variable (Invariant : σ → Prop)
  (kept : ∀ state event, Invariant state → condition state event → Invariant (step state event))

include kept

/-- **An invariant of the steps holds where the run ends.** -/
theorem AlongRun.invariant (along : AlongRun step condition state events)
    (start : Invariant state) : Invariant (events.foldl step state) := by
  induction events generalizing state with
  | nil => exact start
  | cons event rest ih =>
    exact ih along.2 (kept state event start along.1)

/-- **What an invariant gives holds at each step.** -/
theorem AlongRun.of_invariant
    (gives : ∀ state event, Invariant state → condition state event → other state event)
    (along : AlongRun step condition state events) (start : Invariant state) :
    AlongRun step other state events := by
  induction events generalizing state with
  | nil => exact trivial
  | cons event rest ih =>
    exact ⟨gives state event start along.1, ih along.2 (kept state event start along.1)⟩

/-- **A potential that falls by one with each counted step bounds their
number.** -/
theorem AlongRun.countAlong_le {counts : σ → ε → Bool} (potential : σ → Nat)
    (paid : ∀ state event, Invariant state → condition state event →
      potential (step state event) + (if counts state event then 1 else 0) ≤ potential state)
    (along : AlongRun step condition state events) (start : Invariant state) :
    countAlong step counts state events ≤ potential state := by
  induction events generalizing state with
  | nil => exact Nat.zero_le _
  | cons event rest ih =>
    have later := ih along.2 (kept state event start along.1)
    have now := paid state event start along.1
    rw [countAlong]
    omega

end Invariant

theorem alongRun_iff_forall : AlongRun step condition state events ↔ ∀ before event after,
    events = before ++ event :: after → condition (before.foldl step state) event := by
  induction events generalizing state with
  | nil => simp [AlongRun]
  | cons first rest ih =>
    rw [AlongRun, ih]
    constructor
    · rintro ⟨now, later⟩ before event after split
      cases before with
      | nil =>
        obtain ⟨rfl, -⟩ := List.cons.inj split
        exact now
      | cons head before =>
        obtain ⟨rfl, remaining⟩ := List.cons.inj split
        exact later before event after remaining
    · intro each
      refine ⟨each [] first rest rfl, ?_⟩
      intro before event after split
      exact each (first :: before) event after (by rw [split, cons_append])

/-- The run that remembers its events. -/
def remember (past : List ε) (event : ε) : List ε := past ++ [event]

theorem foldl_remember (past events : List ε) : events.foldl remember past = past ++ events := by
  induction events generalizing past with
  | nil => exact (append_nil past).symm
  | cons event rest ih => rw [foldl_cons, ih, remember, append_assoc, singleton_append]

theorem alongRun_remember_iff {condition : List ε → ε → Prop} :
    AlongRun remember condition [] events ↔
      ∀ before event after, events = before ++ event :: after → condition before event := by
  simp only [alongRun_iff_forall, foldl_remember, nil_append]

/-- A property holds in every state of a run exactly when each step ends in a
state that has it. -/
theorem throughout_iff {Property : σ → Prop} (start : Property state) :
    (∀ before after, events = before ++ after → Property (before.foldl step state)) ↔
      AlongRun step (fun state event => Property (step state event)) state events := by
  induction events generalizing state with
  | nil =>
    refine ⟨fun _ => trivial, ?_⟩
    intro _ before after split
    rw [(nil_eq_append_iff.mp split).1]
    exact start
  | cons event rest ih =>
    constructor
    · intro throughout
      have next : Property (step state event) := throughout [event] rest rfl
      refine ⟨next, (ih next).mp ?_⟩
      intro before after split
      exact throughout (event :: before) after (by rw [split, cons_append])
    · intro along before after split
      cases before with
      | nil => exact start
      | cons first before =>
        rw [cons_append, List.cons.injEq] at split
        rw [foldl_cons, ← split.1]
        exact (ih along.1).mpr along.2 before after split.2

/-- **Conditions that agree under an invariant hold along the same runs**, where
the one keeps the invariant. -/
theorem AlongRun.congr (Invariant : σ → Prop)
    (same : ∀ state event, Invariant state → (condition state event ↔ other state event))
    (kept : ∀ state event, Invariant state → condition state event → Invariant (step state event))
    (start : Invariant state) :
    AlongRun step condition state events ↔ AlongRun step other state events := by
  constructor
  · intro along
    exact along.of_invariant Invariant kept
      (fun state event holds => (same state event holds).mp) start
  · intro along
    refine along.of_invariant Invariant ?_ (fun state event holds => (same state event holds).mpr)
      start
    intro state event holds allowed
    exact kept state event holds ((same state event holds).mpr allowed)

/-- What a call to another party comes to. -/
inductive Answer where
  | ok
  | failed (applied : Bool)

def Answer.applied : Answer → Bool
  | .ok => true
  | .failed applied => applied

def Answer.isOk : Answer → Bool
  | .ok => true
  | .failed _ => false

end ShieldNet
