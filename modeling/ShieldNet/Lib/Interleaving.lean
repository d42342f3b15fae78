import Mathlib.Data.List.Induction
import ShieldNet.Lib.Runs

/-!
# Calls that share a store

A service takes requests. Each request becomes a call, and a call works through
its steps one at a time against a store that all calls share. A run takes
requests and resumes calls in any order; a call that has returned stays where it
is.

The rule for whole runs assigns an assertion to the store and to each place a
call can be at. A step has to establish the assertions of the store and of the
call that moves, and to leave those of the other calls standing.
-/

namespace ShieldNet

open AlongRun List

/-- A service: where the call of a request begins, and what a step of a call does
to the store, given what the world decides at that step. -/
structure Service (σ ρ ι κ : Type) where
  start : ρ → κ
  advance : ι → σ → κ → σ × κ

/-- The shared store and the calls, in the order they were requested. -/
structure Shared (σ κ : Type) where
  store : σ
  calls : List κ

inductive Move (ρ ι : Type) where
  | request (request : ρ)
  | resume (index : Nat) (input : ι)

def Move.request? {ρ ι : Type} : Move ρ ι → Option ρ
  | .request made => some made
  | .resume _ _ => none

namespace Service

variable {σ ρ ι κ : Type} (service : Service σ ρ ι κ)

def step (system : Shared σ κ) : Move ρ ι → Shared σ κ
  | .request request => { system with calls := system.calls ++ [service.start request] }
  | .resume index input =>
    match system.calls[index]? with
    | none => system
    | some call =>
      { store := (service.advance input system.store call).1
        calls := system.calls.set index (service.advance input system.store call).2 }

def idle (store : σ) : Shared σ κ := ⟨store, []⟩

def run (store : σ) (moves : List (Move ρ ι)) : Shared σ κ := moves.foldl service.step (idle store)

variable {store : σ}

theorem run_append {early later : List (Move ρ ι)} :
    service.run store (early ++ later) = later.foldl service.step (service.run store early) :=
  foldl_append

/-- A condition on the call that moves and the system it finds. -/
def AtMove (condition : ι → Shared σ κ → κ → Prop) (system : Shared σ κ) : Move ρ ι → Prop
  | .request _ => True
  | .resume index input => ∀ call ∈ system.calls[index]?, condition input system call

instance {condition : ι → Shared σ κ → κ → Prop}
    [∀ input system call, Decidable (condition input system call)] (system : Shared σ κ) :
    (move : Move ρ ι) → Decidable (AtMove condition system move)
  | .request _ => .isTrue trivial
  | .resume _ _ => inferInstanceAs (Decidable (∀ call ∈ _, _))

/-- A condition on the call that moves and the store it finds. -/
def AtCall (condition : ι → σ → κ → Prop) (system : Shared σ κ) : Move ρ ι → Prop
  | .request _ => True
  | .resume index input => ∀ call ∈ system.calls[index]?, condition input system.store call

instance {condition : ι → σ → κ → Prop}
    [∀ input store call, Decidable (condition input store call)] (system : Shared σ κ) :
    (move : Move ρ ι) → Decidable (AtCall condition system move)
  | .request _ => .isTrue trivial
  | .resume _ _ => inferInstanceAs (Decidable (∀ call ∈ _, _))

variable {move : Move ρ ι} {system : Shared σ κ}

theorem atMove_store_iff {condition : ι → σ → κ → Prop} :
    AtMove (fun input system call => condition input system.store call) system move ↔
      AtCall condition system move := by
  cases move <;> exact Iff.rfl

theorem atMove_of_forall {condition : ι → Shared σ κ → κ → Prop}
    (each : ∀ input system call, condition input system call) (system : Shared σ κ)
    (move : Move ρ ι) : AtMove condition system move := by
  cases move with
  | request => trivial
  | resume => exact fun call _ => each _ system call

def Apart (system : Shared σ κ) (call other : κ) : Prop :=
  ∃ here there : ℕ, here ≠ there ∧ system.calls[here]? = some call ∧
    system.calls[there]? = some other

variable {call other : κ}

theorem forall_apart_iff {allowed : κ → Prop} : (∀ other, Apart system call other → allowed other) ↔
    ∀ here < system.calls.length, system.calls[here]? = some call →
      ∀ there < system.calls.length, here ≠ there →
        ∀ other ∈ system.calls[there]?, allowed other := by
  constructor
  · intro each here _ found there _ differ other foundOther
    exact each other ⟨here, there, differ, found, foundOther⟩
  · rintro each other ⟨here, there, differ, found, foundOther⟩
    exact each here (List.getElem?_eq_some_iff.mp found).1 found there
      (List.getElem?_eq_some_iff.mp foundOther).1 differ other foundOther

instance [DecidableEq κ] {system : Shared σ κ} {call : κ} {allowed : κ → Prop}
    [DecidablePred allowed] : Decidable (∀ other, Apart system call other → allowed other) :=
  decidable_of_iff _ forall_apart_iff.symm

structure Asserts (Store : σ → Prop) (Call : σ → κ → Prop) (system : Shared σ κ) : Prop where
  store : Store system.store
  calls : ∀ call ∈ system.calls, Call system.store call

theorem Apart.mem_left (apart : Apart system call other) : call ∈ system.calls := by
  obtain ⟨here, there, -, found, -⟩ := apart
  exact mem_of_getElem? found

theorem Apart.mem_right (apart : Apart system call other) : other ∈ system.calls := by
  obtain ⟨here, there, -, -, found⟩ := apart
  exact mem_of_getElem? found

variable {index : ℕ}

/-- Two calls that are apart when one has moved: the one that moved and another, or two
others. -/
theorem Apart.of_set {moved first second : κ}
    (apart : Apart ⟨store, system.calls.set index moved⟩ first second)
    (found : system.calls[index]? = some call) :
    (first = moved ∧ Apart system call second) ∨ (second = moved ∧ Apart system call first) ∨
      Apart system first second := by
  obtain ⟨here, there, differ, foundFirst, foundSecond⟩ := apart
  by_cases isFirst : index = here
  · subst isFirst
    rw [getElem?_set_self', found] at foundFirst
    rw [getElem?_set_ne differ] at foundSecond
    cases foundFirst
    exact .inl ⟨rfl, index, there, differ, found, foundSecond⟩
  · rw [getElem?_set_ne isFirst] at foundFirst
    by_cases isSecond : index = there
    · subst isSecond
      rw [getElem?_set_self', found] at foundSecond
      cases foundSecond
      exact .inr (.inl ⟨rfl, index, here, isFirst, found, foundFirst⟩)
    · rw [getElem?_set_ne isSecond] at foundSecond
      exact .inr (.inr ⟨here, there, differ, foundFirst, foundSecond⟩)

theorem apart_of_mem_set {moved : κ} (member : other ∈ system.calls.set index moved)
    (found : system.calls[index]? = some call) : other = moved ∨ Apart system call other := by
  obtain ⟨place, foundOther⟩ := mem_iff_getElem?.mp member
  rw [getElem?_set] at foundOther
  split at foundOther
  case isTrue => exact .inl (Option.some.inj (Option.ite_none_right_eq_some.mp foundOther).2).symm
  case isFalse elsewhere => exact .inr ⟨index, place, elsewhere, found, foundOther⟩

theorem getElem?_of_request {fresh : κ} (found : (system.calls ++ [fresh])[index]? = some call)
    (old : call ≠ fresh) : system.calls[index]? = some call := by
  rw [getElem?_append] at found
  split at found
  case isTrue => exact found
  case isFalse => exact absurd (mem_singleton.mp (mem_of_getElem? found)) old

variable {service} {Store : σ → Prop} {Call : σ → κ → Prop} {moves : List (Move ρ ι)}

theorem step_store (service : Service σ ρ ι κ) (system : Shared σ κ) (move : Move ρ ι) :
    (service.step system move).store = system.store ∨ ∃ input, ∃ call ∈ system.calls,
      (service.step system move).store = (service.advance input system.store call).1 := by
  cases move with
  | request => exact .inl rfl
  | resume index input =>
    rw [step]
    split
    case h_1 => exact .inl rfl
    case h_2 call found => exact .inr ⟨input, call, mem_of_getElem? found, rfl⟩

theorem asserts_idle (holds : Store store) : Asserts Store Call (idle store) :=
  ⟨holds, fun _ member => absurd member not_mem_nil⟩

section Rules

variable {condition : ι → Shared σ κ → κ → Prop}
  (started : ∀ store request, Store store → Call store (service.start request))
  (own : ∀ input system call, Asserts Store Call system → call ∈ system.calls →
    condition input system call → Store (service.advance input system.store call).1 ∧
        Call (service.advance input system.store call).1
          (service.advance input system.store call).2)
  (stable : ∀ input system call other, Asserts Store Call system → Apart system call other →
    condition input system call → Call (service.advance input system.store call).1 other)

include started own stable

/-- **A move keeps the assertions** when a fresh call has its assertion, the call
that moves establishes its next one, and the others stand. -/
theorem step_asserts (holds : Asserts Store Call system)
    (allowed : AtMove condition system move) : Asserts Store Call (service.step system move) := by
  cases move with
  | request request =>
    have new := started system.store request holds.store
    exact ⟨holds.store, forall_mem_append.mpr ⟨holds.calls, forall_mem_singleton.mpr new⟩⟩
  | resume index input =>
    rw [step]
    split
    case h_1 => exact holds
    case h_2 call found =>
      have underWay := mem_of_getElem? found
      have condition := allowed call found
      have next := own input system call holds underWay condition
      refine ⟨next.1, ?_⟩
      intro other member
      rcases apart_of_mem_set member found with rfl | apart
      · exact next.2
      · exact stable input system call other holds apart condition

variable (Store Call)

/-- **The assertions hold where a run ends** whose moves all meet the condition. -/
theorem run_asserts (start : Store store)
    (along : AlongRun service.step (AtMove condition) (idle store) moves) :
    Asserts Store Call (service.run store moves) :=
  along.invariant (Asserts Store Call)
    (fun _ _ holds allowed => step_asserts started own stable holds allowed)
    (asserts_idle start)

/-- **What the assertions give holds at each move** of a run whose moves all meet the
condition. -/
theorem along_asserts {property : ι → Shared σ κ → κ → Prop}
    (gives : ∀ input system call, Asserts Store Call system → call ∈ system.calls →
      condition input system call → property input system call) (start : Store store)
    (along : AlongRun service.step (AtMove condition) (idle store) moves) :
    AlongRun service.step (AtMove property) (idle store) moves := by
  refine along.of_invariant (Asserts Store Call)
    (fun _ _ holds allowed => step_asserts started own stable holds allowed) ?_ (asserts_idle start)
  rintro system (request | ⟨index, input⟩) holds allowed
  · exact trivial
  · exact fun call found => gives input system call holds (mem_of_getElem? found)
      (allowed call found)

end Rules

variable {condition : ι → σ → κ → Prop}

/-- **A property of the store holds throughout exactly the runs whose moves all
meet a condition**, when under the assertions a step keeps the property exactly on
that condition. -/
theorem throughout_run_iff (Store : σ → Prop) (Call : σ → κ → Prop) (Property : σ → Prop)
    (started : ∀ store request, Store store → Call store (service.start request))
    (own : ∀ input store call, Store store → Call store call → Property store →
      Store (service.advance input store call).1 ∧
        Call (service.advance input store call).1 (service.advance input store call).2)
    (stable : ∀ input store call other, Store store → Call store call → Call store other →
      Property store → Call (service.advance input store call).1 other)
    (keptIff : ∀ input store call, Store store → Call store call → Property store →
      (Property (service.advance input store call).1 ↔ condition input store call))
    (start : Store store) (holds : Property store) :
    (∀ before after, moves = before ++ after → Property (service.run store before).store) ↔
      AlongRun service.step (AtCall condition) (idle store) moves := by
  have keptExactly : ∀ system move, Asserts Store Call system ∧ Property system.store →
      (Property (service.step system move).store ↔ AtCall condition system move) := by
    rintro system (request | ⟨index, input⟩) ⟨asserted, property⟩
    · exact ⟨fun _ => trivial, fun _ => property⟩
    · rw [step, AtCall]
      cases found : system.calls[index]? with
      | none => simpa using property
      | some call =>
        have here := keptIff input system.store call asserted.store
          (asserted.calls call (mem_of_getElem? found)) property
        simpa using here
  refine (@throughout_iff _ _ service.step (idle store) moves (fun system => Property system.store)
    holds).trans ?_
  apply congr (fun system => Asserts Store Call system ∧ Property system.store) keptExactly
  · rintro system move ⟨asserted, property⟩ next
    have allowed : AtMove (fun _ system _ => Property system.store) system move := by
      cases move with
      | request => trivial
      | resume => exact fun _ _ => property
    refine ⟨step_asserts started ?_ ?_ asserted allowed, next⟩
    · intro input system call holds underWay property
      exact own input system.store call holds.store (holds.calls call underWay) property
    · intro input system call other holds apart property
      exact stable input system.store call other holds.store (holds.calls call apart.mem_left)
        (holds.calls other apart.mem_right) property
  · exact ⟨asserts_idle start, holds⟩

/-! ## What a run leaves behind -/

theorem run_snoc :
    service.run store (moves ++ [move]) = service.step (service.run store moves) move :=
  run_append service

/-- **What every move keeps holds where a run ends.** -/
theorem run_invariant (Invariant : Shared σ κ → Prop) (start : Invariant (idle store))
    (kept : ∀ system move, Invariant system → Invariant (service.step system move))
    (moves : List (Move ρ ι)) : Invariant (service.run store moves) :=
  foldlRecOn (motive := Invariant) moves _ start fun system holds move _ =>
    kept system move holds

/-- **Assertions that every move keeps hold where a run ends.** -/
theorem every_run_asserts (Store : σ → Prop) (Call : σ → κ → Prop)
    (started : ∀ store request, Store store → Call store (service.start request))
    (own : ∀ input system call, Asserts Store Call system → call ∈ system.calls →
      Store (service.advance input system.store call).1 ∧
        Call (service.advance input system.store call).1
          (service.advance input system.store call).2)
    (stable : ∀ input system call other, Asserts Store Call system → Apart system call other →
      Call (service.advance input system.store call).1 other) (start : Store store)
    (moves : List (Move ρ ι)) : Asserts Store Call (service.run store moves) := by
  refine run_invariant (Asserts Store Call) (asserts_idle start) ?_ moves
  intro system move holds
  refine step_asserts started ?_ ?_ holds (atMove_of_forall (fun _ _ _ => trivial) system move)
  · intro input system call holds underWay _
    exact own input system call holds underWay
  · intro input system call other holds apart _
    exact stable input system call other holds apart

theorem run_requests (requestOf : κ → ρ)
    (started : ∀ request, requestOf (service.start request) = request)
    (kept : ∀ input store call, requestOf (service.advance input store call).2 = requestOf call)
    (store : σ) (moves : List (Move ρ ι)) :
    (service.run store moves).calls.map requestOf = moves.filterMap Move.request? := by
  induction moves using reverseRecOn with
  | nil => rfl
  | append_singleton early move ih =>
    rw [run_snoc, filterMap_append, ← ih]
    cases move with
    | request request =>
      rw [step, map_append, map_singleton, started]
      rfl
    | resume index input =>
      rw [step]
      split
      case h_1 => exact (append_nil _).symm
      case h_2 call found =>
        obtain ⟨inside, rfl⟩ := List.getElem?_eq_some_iff.mp found
        have inside' : index < ((service.run store early).calls.map requestOf).length := by
          rwa [length_map]
        rw [map_set, kept, ← getElem_map requestOf (h := inside'), set_getElem_self]
        exact (append_nil _).symm

section

variable (returned : ∀ input store, service.advance input store call = (store, call))
  (found : system.calls[index]? = some call)
include returned found

theorem step_returned (move : Move ρ ι) : (service.step system move).calls[index]? = some call := by
  cases move with
  | request request =>
    exact getElem?_append_left (List.getElem?_eq_some_iff.mp found).1 ▸ found
  | resume moved input =>
    rw [step]
    split
    case h_1 => exact found
    case h_2 other foundOther =>
      rw [getElem?_set]
      split
      case isTrue same =>
        cases same
        cases found.symm.trans foundOther
        rw [if_pos (List.getElem?_eq_some_iff.mp found).1, returned]
      case isFalse => exact found

theorem run_returned (later : List (Move ρ ι)) :
    (later.foldl service.step system).calls[index]? = some call :=
  foldlRecOn (motive := fun reached : Shared σ κ => reached.calls[index]? = some call) later _
    found fun _ found move _ => step_returned returned found move

end

/-- **What a call has seen was there**: when each step of a call either sees the system it
finds or keeps what was seen before, what a call has seen goes back to a moment of
the run. -/
theorem run_past (Past : Shared σ κ → ℕ → κ → Prop) {Seen : κ → Prop}
    (started : ∀ request, ¬ Seen (service.start request))
    (moved : ∀ input system index call, system.calls[index]? = some call →
      Seen (service.advance input system.store call).2 →
        Past system index (service.advance input system.store call).2 ∨
          (Seen call ∧ ∀ earlier, Past earlier index call →
            Past earlier index (service.advance input system.store call).2))
    (found : (service.run store moves).calls[index]? = some call) (seen : Seen call) :
    ∃ before after, moves = before ++ after ∧ Past (service.run store before) index call := by
  induction moves using reverseRecOn generalizing call with
  | nil => cases found
  | append_singleton early move ih =>
    -- a moment of the shorter run is one of the longer run
    have extend : ∀ {call}, (∃ before after, early = before ++ after ∧
        Past (service.run store before) index call) →
        ∃ before after, early ++ [move] = before ++ after ∧
          Past (service.run store before) index call := by
      rintro call ⟨before, after, rfl, past⟩
      exact ⟨before, after ++ [move], append_assoc .., past⟩
    rw [run_snoc] at found
    cases move with
    | request request =>
      rw [step, getElem?_append] at found
      split at found
      case isTrue => exact extend (ih found seen)
      cases mem_singleton.mp (mem_of_getElem? found)
      exact absurd seen (started request)
    | resume place input =>
      rw [step] at found
      split at found
      case h_1 => exact extend (ih found seen)
      case h_2 other foundOther =>
        rw [getElem?_set] at found
        split at found
        case isFalse => exact extend (ih found seen)
        case isTrue same =>
          cases same
          cases (Option.ite_none_right_eq_some.mp found).2
          rcases moved input _ index other foundOther seen with now | ⟨seenBefore, kept⟩
          · exact ⟨early, [.resume index input], rfl, now⟩
          · obtain ⟨before, after, whole, past⟩ := ih foundOther seenBefore
            exact extend ⟨before, after, whole, kept _ past⟩

/-! ## Calls that hold numbers -/

/-- A call holds no number at first, and takes one only as the next of the store. -/
structure Numbered (service : Service σ ρ ι κ) (number : κ → Option ℕ) (next : σ → ℕ) : Prop where
  start : ∀ request, number (service.start request) = none
  advance : ∀ input store call, (next (service.advance input store call).1 = next store ∧
      (number (service.advance input store call).2 = none ∨
        number (service.advance input store call).2 = number call)) ∨
    (next (service.advance input store call).1 = next store + 1 ∧
      (number (service.advance input store call).2 = none ∨
        number (service.advance input store call).2 = some (next store)))

structure DistinctNumbers (number : κ → Option ℕ) (next : σ → ℕ) (system : Shared σ κ) : Prop where
  below : ∀ call ∈ system.calls, ∀ n, number call = some n → n < next system.store
  apart : ∀ call other, Apart system call other → ∀ n, number call = some n → number other ≠ some n

section Numbers

variable {number : κ → Option ℕ} {next : σ → ℕ}

theorem distinctNumbers_idle : DistinctNumbers number next (idle store : Shared σ κ) :=
  ⟨fun _ member => absurd member not_mem_nil, fun _ _ apart => absurd apart.mem_left not_mem_nil⟩

section

variable (numbered : Numbered service number next)
include numbered

theorem Numbered.advance_apart (distinct : DistinctNumbers number next system) {input : ι}
    (apart : Apart system call other) {n : ℕ}
    (held : number (service.advance input system.store call).2 = some n) :
    number other ≠ some n := by
  rcases numbered.advance input system.store call with ⟨-, none | same⟩ | ⟨-, none | new⟩
  · rw [none] at held
    cases held
  · exact distinct.apart call other apart n (same ▸ held)
  · rw [none] at held
    cases held
  · intro heldToo
    cases new.symm.trans held
    exact absurd (distinct.below other apart.mem_right _ heldToo) (Nat.lt_irrefl _)

theorem Numbered.request_distinct (request : ρ) (distinct : DistinctNumbers number next system) :
    DistinctNumbers number next (service.step system (.request request)) := by
  have old : ∀ {call : κ} {n : ℕ}, number call = some n → call ≠ service.start request := by
    rintro _ n held rfl
    rw [numbered.start request] at held
    cases held
  refine ⟨?_, ?_⟩
  · intro call member n held
    obtain ⟨place, found⟩ := mem_iff_getElem?.mp member
    exact distinct.below call (mem_of_getElem? (getElem?_of_request found (old held))) n held
  · rintro call other ⟨here, there, differ, found, found'⟩ n held heldToo
    exact distinct.apart call other ⟨here, there, differ, getElem?_of_request found (old held),
      getElem?_of_request found' (old heldToo)⟩ n held heldToo

theorem Numbered.advance_below (distinct : DistinctNumbers number next system) {input : ι}
    (underWay : call ∈ system.calls) {n : ℕ}
    (held : number (service.advance input system.store call).2 = some n) :
    n < next (service.advance input system.store call).1 := by
  rcases numbered.advance input system.store call with ⟨same, none | kept⟩ | ⟨more, none | new⟩
  · rw [none] at held
    cases held
  · rw [same]
    exact distinct.below call underWay n (kept ▸ held)
  · rw [none] at held
    cases held
  · cases new.symm.trans held
    rw [more]
    exact Nat.lt_succ_self _

/-- **Numbers stay distinct.** -/
theorem Numbered.step (move : Move ρ ι) (distinct : DistinctNumbers number next system) :
    DistinctNumbers number next (service.step system move) := by
  cases move with
  | request request => exact numbered.request_distinct request distinct
  | resume index input =>
    rw [Service.step]
    split
    case h_1 => exact distinct
    case h_2 call found =>
      refine ⟨?_, ?_⟩
      · intro other member n held
        rcases mem_or_eq_of_mem_set member with earlier | rfl
        · have below := distinct.below other earlier n held
          dsimp only
          rcases numbered.advance input system.store call with ⟨same, -⟩ | ⟨more, -⟩ <;> omega
        · exact numbered.advance_below distinct (mem_of_getElem? found) held
      · intro first second apart n held heldToo
        rcases apart.of_set found with ⟨rfl, before⟩ | ⟨rfl, before⟩ | before
        · exact numbered.advance_apart distinct before held heldToo
        · exact numbered.advance_apart distinct before heldToo held
        · exact distinct.apart first second before n held heldToo

end

end Numbers

/-! ## Calls that hold a lock -/

/-- A call starts without the lock and takes it only when it is free; the lock changes
with who holds it only. -/
structure Locking (service : Service σ ρ ι κ) (locked : σ → Bool) (Holds : κ → Prop) : Prop where
  start : ∀ request, ¬ Holds (service.start request)
  taken : ∀ input store call, ¬ Holds call → Holds (service.advance input store call).2 →
    locked store = false ∧ locked (service.advance input store call).1 = true
  kept : ∀ input store call, (Holds call ↔ Holds (service.advance input store call).2) →
    locked (service.advance input store call).1 = locked store

/-- A step takes the lock, gives it up, or leaves it with who has it. -/
theorem Locking.of_cases {locked : σ → Bool} {Holds : κ → Prop}
    (start : ∀ request, ¬ Holds (service.start request))
    (cases : ∀ input store call,
      (¬ Holds call ∧ Holds (service.advance input store call).2 ∧ locked store = false ∧
        locked (service.advance input store call).1) ∨
      (Holds call ∧ ¬ Holds (service.advance input store call).2) ∨
      ((Holds call ↔ Holds (service.advance input store call).2) ∧
        locked (service.advance input store call).1 = locked store)) :
    Locking service locked Holds where
  start := start
  taken input store call before after := by
    rcases cases input store call with ⟨-, -, free, taken⟩ | ⟨holds, -⟩ | ⟨same, -⟩
    · exact ⟨free, taken⟩
    · exact absurd holds before
    · exact absurd (same.mpr after) before
  kept input store call same := by
    rcases cases input store call with ⟨before, after, -⟩ | ⟨before, after⟩ | ⟨-, kept⟩
    · exact absurd (same.mpr after) before
    · exact absurd (same.mp before) after
    · exact kept

/-- A call that holds the lock finds it locked, and no other call holds it. -/
structure Exclusive (locked : σ → Bool) (Holds : κ → Prop) (system : Shared σ κ) : Prop where
  locked : ∀ call ∈ system.calls, Holds call → locked system.store = true
  apart : ∀ call other, Apart system call other → Holds call → ¬ Holds other

section Locks

variable {locked : σ → Bool} {Holds : κ → Prop}

theorem exclusive_idle : Exclusive locked Holds (idle store : Shared σ κ) :=
  ⟨fun _ member => absurd member not_mem_nil, fun _ _ apart => absurd apart.mem_left not_mem_nil⟩

variable (locking : Locking service locked Holds)

include locking

theorem Locking.request_exclusive (request : ρ) (exclusive : Exclusive locked Holds system) :
    Exclusive locked Holds (service.step system (.request request)) := by
  have old : ∀ {call : κ}, Holds call → call ≠ service.start request := by
    rintro _ holds rfl
    exact locking.start request holds
  refine ⟨?_, ?_⟩
  · intro call member holds
    obtain ⟨place, found⟩ := mem_iff_getElem?.mp member
    exact exclusive.locked call (mem_of_getElem? (getElem?_of_request found (old holds))) holds
  · rintro call other ⟨here, there, differ, found, found'⟩ holds holdsToo
    exact exclusive.apart call other ⟨here, there, differ, getElem?_of_request found (old holds),
      getElem?_of_request found' (old holdsToo)⟩ holds holdsToo

theorem Locking.advance_apart
    (exclusive : Exclusive locked Holds system) {input : ι} (apart : Apart system call other)
    (holds : Holds (service.advance input system.store call).2) : ¬ Holds other := by
  by_cases before : Holds call
  · exact exclusive.apart call other apart before
  · intro holdsToo
    have free := (locking.taken input system.store call before holds).1
    rw [exclusive.locked other apart.mem_right holdsToo] at free
    cases free

/-- **The lock stays with one call.** -/
theorem Locking.step (move : Move ρ ι) (exclusive : Exclusive locked Holds system) :
    Exclusive locked Holds (service.step system move) := by
  cases move with
  | request request => exact locking.request_exclusive request exclusive
  | resume index input =>
    rw [Service.step]
    split
    case h_1 => exact exclusive
    case h_2 call found =>
      have underWay := mem_of_getElem? found
      refine ⟨?_, ?_⟩
      · intro other member holds
        rcases apart_of_mem_set member found with rfl | apart
        · by_cases before : Holds call
          · rw [locking.kept input system.store call (iff_of_true before holds)]
            exact exclusive.locked call underWay before
          · exact (locking.taken input system.store call before holds).2
        · -- another call holds the lock, so the one that moves neither had it nor has it
          have without : ¬ Holds call := fun before =>
            exclusive.apart call other apart before holds
          have still : ¬ Holds (service.advance input system.store call).2 := fun after =>
            locking.advance_apart exclusive apart after holds
          rw [locking.kept input system.store call (iff_of_false without still)]
          exact exclusive.locked other apart.mem_right holds
      · intro first second apart holds holdsToo
        rcases apart.of_set found with ⟨rfl, before⟩ | ⟨rfl, before⟩ | before
        · exact locking.advance_apart exclusive before holds holdsToo
        · exact locking.advance_apart exclusive before holdsToo holds
        · exact exclusive.apart first second before holds holdsToo

end Locks

theorem alongRun_atMove_and {condition : ι → Shared σ κ → κ → Prop} (Invariant : Shared σ κ → Prop)
    (kept : ∀ system move, Invariant system → Invariant (service.step system move))
    (along : AlongRun service.step (AtMove condition) system moves) (start : Invariant system) :
    AlongRun service.step
      (AtMove fun input system call => Invariant system ∧ condition input system call)
      system moves := by
  have both := along.of_invariant Invariant (fun system move holds _ => kept system move holds)
    (fun _ _ => And.intro) start
  refine both.imp ?_
  rintro system (request | ⟨index, input⟩) ⟨holds, allowed⟩
  · exact trivial
  · exact fun call found => ⟨holds, allowed call found⟩

/-- **What the requests give their calls, and each step keeps, holds of every call that
moves.** -/
theorem alongRun_calls {Allowed : κ → Prop}
    (kept : ∀ input store call, Allowed call → Allowed (service.advance input store call).2)
    (started : ∀ request, Move.request request ∈ moves → Allowed (service.start request))
    (underWay : ∀ call ∈ system.calls, Allowed call) :
    AlongRun service.step (AtCall fun _ _ call => Allowed call) system moves := by
  induction moves generalizing system with
  | nil => exact trivial
  | cons move rest ih =>
    have later : ∀ request, Move.request request ∈ rest → Allowed (service.start request) :=
      fun request member => started request (mem_cons_of_mem _ member)
    cases move with
    | request request =>
      have new := started request mem_cons_self
      exact ⟨trivial, ih later (forall_mem_append.mpr ⟨underWay, forall_mem_singleton.mpr new⟩)⟩
    | resume index input =>
      refine ⟨fun call found => underWay call (mem_of_getElem? found), ih later ?_⟩
      rw [step]
      split
      case h_1 => exact underWay
      case h_2 call found =>
        intro other member
        rcases mem_or_eq_of_mem_set member with earlier | rfl
        · exact underWay other earlier
        · exact kept input system.store call (underWay call (mem_of_getElem? found))

/-! ## Calls that run alone -/

/-- The steps of a call, for as many as the world has inputs. -/
def proceed (service : Service σ ρ ι κ) (inputs : List ι) (reached : σ × κ) : σ × κ :=
  inputs.foldl (fun reached input => service.advance input reached.1 reached.2) reached

theorem proceed_cons {input : ι} {rest : List ι} : service.proceed (input :: rest) (store, call) =
    service.proceed rest (service.advance input store call) := rfl

theorem proceed_append {early later : List ι} {reached : σ × κ} :
    service.proceed (early ++ later) reached =
      service.proceed later (service.proceed early reached) :=
  foldl_append

def alone (service : Service σ ρ ι κ) (inputs : List ι) (store : σ) (request : ρ) : σ × κ :=
  service.proceed inputs (store, service.start request)

theorem alone_append {early later : List ι} {request : ρ} :
    service.alone (early ++ later) store request =
      service.proceed later (service.alone early store request) :=
  proceed_append

theorem proceed_of_returned (returned : ∀ input, service.advance input store call = (store, call))
    (inputs : List ι) : service.proceed inputs (store, call) = (store, call) :=
  foldlRecOn (motive := fun reached => reached = (store, call)) inputs _ rfl
    fun reached same input _ => by rw [same, returned]

/-- **What each step of a call keeps holds where it stops.** -/
theorem alone_invariant (Invariant : σ → κ → Prop)
    (kept : ∀ input store call, Invariant store call →
      Invariant (service.advance input store call).1 (service.advance input store call).2)
    {inputs : List ι} {request : ρ} (start : Invariant store (service.start request)) :
    Invariant (service.alone inputs store request).1 (service.alone inputs store request).2 :=
  foldlRecOn (motive := fun reached : σ × κ => Invariant reached.1 reached.2) inputs _ start
    fun reached holds input _ => kept input reached.1 reached.2 holds

/-! ## Calls one after another -/

end Service

/-- A request whose call runs alone, with what the world decides at each of its steps. The
call stops where the inputs end. -/
structure Turn (ρ ι : Type) where
  request : ρ
  inputs : List ι

namespace Service

variable {σ ρ ι κ : Type} {service : Service σ ρ ι κ} {condition other : ι → σ → κ → Prop}

def turn (service : Service σ ρ ι κ) (store : σ) (turn : Turn ρ ι) : σ :=
  (service.alone turn.inputs store turn.request).1

def turns (service : Service σ ρ ι κ) (store : σ) (turns : List (Turn ρ ι)) : σ :=
  turns.foldl service.turn store

def InSteps (service : Service σ ρ ι κ) (condition : ι → σ → κ → Prop) (reached : σ × κ)
    (inputs : List ι) : Prop :=
  AlongRun (fun reached input => service.advance input reached.1 reached.2)
    (fun reached input => condition input reached.1 reached.2) reached inputs

def InTurn (service : Service σ ρ ι κ) (condition : ι → σ → κ → Prop) (store : σ)
    (turns : List (Turn ρ ι)) : Prop :=
  AlongRun service.turn
    (fun store turn => service.InSteps condition (store, service.start turn.request) turn.inputs)
    store turns

instance [∀ input store call, Decidable (condition input store call)] (store : σ)
    (turns : List (Turn ρ ι)) : Decidable (service.InTurn condition store turns) :=
  haveI (store : σ) (turn : Turn ρ ι) : Decidable
      (service.InSteps condition (store, service.start turn.request) turn.inputs) :=
    decidable _ _ _
  decidable _ _ _

section Rest

variable (Rest : σ → Prop) (Knows : σ → κ → Prop)
  (started : ∀ store request, Rest store → Knows store (service.start request))
  (own : ∀ input store call, Knows store call → condition input store call →
    Knows (service.advance input store call).1 (service.advance input store call).2)
  (ended : ∀ store call, Knows store call → Rest store)

include started own ended

variable {store : σ}

/-- Where a call stops, the next one can start. -/
theorem turn_rest {turn : Turn ρ ι} (rest : Rest store)
    (along : service.InSteps condition (store, service.start turn.request) turn.inputs) :
    Rest (service.turn store turn) :=
  ended _ _ (invariant (fun reached : σ × κ => Knows reached.1 reached.2)
    (fun reached input => own input reached.1 reached.2) along (started store turn.request rest))

variable {turns : List (Turn ρ ι)}

/-- **What calls need and leave behind holds after each of them**, when it starts what a
call knows and each step keeps that. -/
theorem turns_rest (rest : Rest store)
    (along : service.InTurn condition store turns) : Rest (service.turns store turns) :=
  invariant Rest (fun _ _ rest => turn_rest Rest Knows started own ended rest) along rest

/-- **Conditions that agree where a call knows its place hold in the same sequences.** -/
theorem inTurn_congr (same : ∀ input store call, Knows store call →
      (condition input store call ↔ other input store call)) (rest : Rest store) :
    service.InTurn condition store turns ↔ service.InTurn other store turns := by
  refine congr Rest ?_ (fun _ _ rest => turn_rest Rest Knows started own ended rest) rest
  intro store turn rest
  exact congr (fun reached : σ × κ => Knows reached.1 reached.2)
    (fun reached input => same input reached.1 reached.2)
    (fun reached input => own input reached.1 reached.2) (started store turn.request rest)

end Rest

end Service
end ShieldNet
