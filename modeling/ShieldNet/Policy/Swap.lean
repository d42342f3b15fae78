import ShieldNet.Lib.Interleaving
import ShieldNet.Policy.Engine

/-!
# Swaps that race

`PolicyEngine::swap` without `force` and `PolicyEngine::evaluate`, run by any number
of threads. A swap decodes its body once, and then runs `ArcSwap::rcu`: it reads
the pointer of the loaded bundle, decides on the bundle behind it, and installs its
choice only when the pointer is still the one it has read; otherwise it starts over
with the pointer it found. An `Arc` is one allocation, so pointers are allocation
numbers and the bundles behind them never change.

The exchange that ends the loop is the moment at which a swap takes effect, and
what it does there is what the atomic `PolicyEngine.swap` does
(`exchange_swaps`). The laws of whole runs follow (`racing_swaps_keep_newest`).
-/

namespace ShieldNet.Policy

open Service LoadedBundle List

/-- What the threads share: the pointer of the `ArcSwap`, and the bundle behind each
pointer that was given out. -/
structure EngineStore where
  target : BundleTarget
  heap : ℕ → LoadedBundle
  allocated : ℕ
  current : ℕ

namespace EngineStore

def ofEngine (engine : PolicyEngine) : EngineStore := ⟨engine.target, fun _ => engine.bundle, 1, 0⟩

variable (store : EngineStore)

def bundle : LoadedBundle := store.heap store.current

def engine : PolicyEngine := ⟨store.target, store.bundle⟩

variable (bundle : LoadedBundle)

/-- `Arc::new`: the bundle is behind the next pointer. -/
def allocate : EngineStore := { store with
    heap := Function.update store.heap store.allocated bundle
    allocated := store.allocated + 1 }

theorem allocate_heap_self : (store.allocate bundle).heap store.allocated = bundle :=
  Function.update_self ..

theorem allocate_heap_of_lt {pointer : ℕ} (known : pointer < store.allocated) :
    (store.allocate bundle).heap pointer = store.heap pointer :=
  Function.update_of_ne (Nat.ne_of_lt known) ..

/-- The closure of the `rcu`, run on the pointer that was read: the pointer to
install, and what it leaves in `stale`. -/
def decide (next current : ℕ) : ℕ × Option SwapError :=
  if (store.heap next).graphVersion < (store.heap current).graphVersion then
    (current, some (.stale (store.heap next).graphId (store.heap next).graphVersion
      (store.heap current).graphVersion))
  else (next, none)

end EngineStore

inductive EngineRequest where
  | swap (body : List UInt8)
  | evaluate (flow : Flow)

/-- Where a call stands. `load` and `exchange` are the loop of the `rcu`: `next` points
at the decoded bundle, `seen` is the pointer the closure has decided on. -/
inductive EngineCall where
  | swap (body : List UInt8)
  | load (body : List UInt8) (next : ℕ)
  | exchange (body : List UInt8) (next seen : ℕ)
  | swapped (body : List UInt8) (result : Except SwapError Unit)
  | evaluate (flow : Flow)
  | evaluating (flow : Flow) (bundle : LoadedBundle)
  | evaluated (flow : Flow) (verdict : Verdict)

namespace EngineCall

def start : EngineRequest → EngineCall
  | .swap body => .swap body
  | .evaluate flow => .evaluate flow

def request : EngineCall → EngineRequest
  | .swap body | .load body _ | .exchange body _ _ | .swapped body _ => .swap body
  | .evaluate flow | .evaluating flow _ | .evaluated flow _ => .evaluate flow

def Returned : EngineCall → Prop
  | .swapped .. | .evaluated .. => True
  | .swap _ | .load .. | .exchange .. | .evaluate _ | .evaluating .. => False

def advance (text : RustText) (decode : List UInt8 → Option RawBundle) (store : EngineStore) :
    EngineCall → EngineStore × EngineCall
  | .swap body =>
    match ofBytes text decode body store.target with
    | .error error => (store, .swapped body (.error error))
    | .ok bundle => (store.allocate bundle, .load body store.allocated)
  | .load body next => (store, .exchange body next store.current)
  | .exchange body next seen =>
    if store.current = seen then
      ({ store with current := (store.decide next seen).1 },
        .swapped body (match (store.decide next seen).2 with
          | some stale => .error stale
          | none => .ok ()))
    else (store, .exchange body next store.current)
  | .swapped body result => (store, .swapped body result)
  | .evaluate flow => (store, .evaluating flow store.bundle)
  | .evaluating flow bundle => (store, .evaluated flow (Policy.evaluate text bundle flow))
  | .evaluated flow verdict => (store, .evaluated flow verdict)

end EngineCall

def engineService (text : RustText) (decode : List UInt8 → Option RawBundle) :
    Service EngineStore EngineRequest Unit EngineCall :=
  ⟨EngineCall.start, fun _ store call => call.advance text decode store⟩

namespace EngineCall

variable {text : RustText} {decode : List UInt8 → Option RawBundle} {store stored : EngineStore}
  {call moved : EngineCall}

/-! ## What a step does -/

variable (text decode store) in
inductive Stepped : EngineCall → EngineStore → EngineCall → Prop where
  | undecoded {body error} : ofBytes text decode body store.target = .error error →
      Stepped (.swap body) store (.swapped body (.error error))
  | decoded {body bundle} : ofBytes text decode body store.target = .ok bundle →
      Stepped (.swap body) (store.allocate bundle) (.load body store.allocated)
  | loaded {body next} : Stepped (.load body next) store (.exchange body next store.current)
  | retried {body next seen} : store.current ≠ seen → Stepped (.exchange body next seen) store
        (.exchange body next store.current)
  | installed {body next seen} : store.current = seen →
      ¬ (store.heap next).graphVersion < store.bundle.graphVersion →
      Stepped (.exchange body next seen) { store with current := next } (.swapped body (.ok ()))
  | refused {body next seen} : store.current = seen →
      (store.heap next).graphVersion < store.bundle.graphVersion →
      Stepped (.exchange body next seen) store
        (.swapped body (.error (.stale (store.heap next).graphId (store.heap next).graphVersion
          store.bundle.graphVersion)))
  | looked {flow} : Stepped (.evaluate flow) store (.evaluating flow store.bundle)
  | judged {flow bundle} : Stepped (.evaluating flow bundle) store
        (.evaluated flow (Policy.evaluate text bundle flow))
  | idle {call : EngineCall} : call.Returned → Stepped call store call

theorem advance_stepped (text : RustText) (decode : List UInt8 → Option RawBundle)
    (store : EngineStore) (call : EngineCall) :
    Stepped text decode store call (call.advance text decode store).1
      (call.advance text decode store).2 := by
  cases call with
  | swap body =>
    rw [advance]
    split
    case h_1 error refused => exact .undecoded refused
    case h_2 bundle decoded => exact .decoded decoded
  | load body next => exact .loaded
  | exchange body next seen =>
    rw [advance]
    split
    case isFalse changed => exact .retried changed
    case isTrue same =>
      cases same
      rw [EngineStore.decide]
      split
      case isTrue older => exact .refused rfl older
      case isFalse newer => exact .installed rfl newer
  | evaluate => exact .looked
  | evaluating => exact .judged
  | _ => exact .idle trivial

variable (stepped : Stepped text decode store call stored moved)

include stepped in
theorem Stepped.request : moved.request = call.request := by
  cases stepped <;> rfl

include stepped in
/-- A step that loads another bundle ends a swap with success. -/
theorem Stepped.bundle_cases
    (valid : store.current < store.allocated) : stored.bundle = store.bundle ∨
      ∃ body next seen, call = .exchange body next seen ∧ moved = .swapped body (.ok ()) ∧
        stored.bundle = store.heap next := by
  cases stepped with
  | installed => exact .inr ⟨_, _, _, rfl, rfl, rfl⟩
  | decoded => exact .inl (store.allocate_heap_of_lt _ valid)
  | _ => exact .inl rfl

/-! ## Pointers stay good -/

/-- What no step takes back: pointers keep their bundles, and the version of the loaded
bundle does not fall. -/
structure Extends (earlier later : EngineStore) : Prop where
  target : later.target = earlier.target
  allocated : earlier.allocated ≤ later.allocated
  heap : ∀ pointer, pointer < earlier.allocated → later.heap pointer = earlier.heap pointer
  version : earlier.bundle.graphVersion ≤ later.bundle.graphVersion

theorem extends_refl (store : EngineStore) : Extends store store :=
  ⟨rfl, Nat.le_refl _, fun _ _ => rfl, Int.le_refl _⟩

theorem Extends.trans {first second third : EngineStore} (early : Extends first second)
    (late : Extends second third) : Extends first third where
  target := late.target.trans early.target
  allocated := Nat.le_trans early.allocated late.allocated
  heap pointer known :=
    (late.heap pointer (Nat.lt_of_lt_of_le known early.allocated)).trans (early.heap pointer known)
  version := Int.le_trans early.version late.version

/-- What a call relies on: its pointers were given out, `next` points at the bundle its
body decodes to, and when the swap is over the loaded bundle is no older than that. -/
def Knows (text : RustText) (decode : List UInt8 → Option RawBundle) (store : EngineStore) :
    EngineCall → Prop
  | .load body next => next < store.allocated ∧
      ofBytes text decode body store.target = .ok (store.heap next)
  | .exchange body next seen => next < store.allocated ∧
      ofBytes text decode body store.target = .ok (store.heap next) ∧
      seen < store.allocated
  | .swapped body _ => ∀ bundle, ofBytes text decode body store.target = .ok bundle →
      bundle.graphVersion ≤ store.bundle.graphVersion
  | .swap _ | .evaluate _ | .evaluating .. | .evaluated .. => True

theorem Knows.extends {later : EngineStore} (knows : call.Knows text decode store)
    (grown : Extends store later) : call.Knows text decode later := by
  cases call with
  | load body next =>
    rw [Knows] at knows ⊢
    rw [grown.target, grown.heap next knows.1]
    exact ⟨Nat.lt_of_lt_of_le knows.1 grown.allocated, knows.2⟩
  | exchange body next seen =>
    rw [Knows] at knows ⊢
    rw [grown.target, grown.heap next knows.1]
    exact ⟨Nat.lt_of_lt_of_le knows.1 grown.allocated, knows.2.1,
      Nat.lt_of_lt_of_le knows.2.2 grown.allocated⟩
  | swapped body result =>
    rw [Knows] at knows ⊢
    rw [grown.target]
    exact fun bundle decoded => Int.le_trans (knows bundle decoded) grown.version
  | _ => trivial

include stepped in
theorem Stepped.extends (valid : store.current < store.allocated) : Extends store stored := by
  cases stepped with
  | decoded =>
    refine ⟨rfl, Nat.le_succ _, fun _ known => store.allocate_heap_of_lt _ known, ?_⟩
    exact Int.le_of_eq (congrArg graphVersion (store.allocate_heap_of_lt _ valid).symm)
  | installed same newer => exact ⟨rfl, Nat.le_refl _, fun _ _ => rfl, Int.not_lt.mp newer⟩
  | _ => exact extends_refl store

include stepped in
/-- A step leaves the pointer of the engine good, and the call with what it relies on. -/
theorem Stepped.knows
    (valid : store.current < store.allocated) (knows : call.Knows text decode store) :
    stored.current < stored.allocated ∧ moved.Knows text decode stored := by
  cases stepped with
  | undecoded refused =>
    refine ⟨valid, fun bundle decoded => ?_⟩
    rw [refused] at decoded
    cases decoded
  | decoded decoded =>
    refine ⟨Nat.lt_succ_of_lt valid, Nat.lt_succ_self _, ?_⟩
    exact decoded.trans (congrArg Except.ok (store.allocate_heap_self _).symm)
  | loaded => exact ⟨valid, knows.1, knows.2, valid⟩
  | retried => exact ⟨valid, knows.1, knows.2.1, valid⟩
  | installed same newer =>
    refine ⟨knows.1, fun bundle decoded => ?_⟩
    cases decoded.symm.trans knows.2.1
    exact Int.le_refl _
  | refused same older =>
    refine ⟨valid, fun bundle decoded => ?_⟩
    cases decoded.symm.trans knows.2.1
    exact Int.le_of_lt older
  | idle => exact ⟨valid, knows⟩
  | _ => exact ⟨valid, trivial⟩

/-- **The exchange that ends the loop is one atomic `PolicyEngine.swap`** on the
engine it finds: it returns the same error and changes nothing, or leaves the same engine. -/
theorem exchange_swaps {body : List UInt8} {next seen : ℕ} {result : Except SwapError Unit}
    (stepped : Stepped text decode store (.exchange body next seen) stored (.swapped body result))
    (knows : Knows text decode store (.exchange body next seen)) :
    store.engine.swap text decode body false = result.map fun _ => stored.engine := by
  have decoded : ofBytes text decode body store.engine.target = .ok (store.heap next) := knows.2.1
  rw [PolicyEngine.swap, decoded]
  cases stepped with
  | installed same newer => exact if_neg newer
  | refused same older => exact if_pos older

/-! ## One swap after another -/

def result : EngineCall → Option (List UInt8 × Except SwapError Unit)
  | .swapped body result => some (body, result)
  | _ => none

variable (text decode) in
/-- What a lone `PolicyEngine.swap` does, if one is made, with its body and its result. -/
inductive AtomicStep (engine : PolicyEngine) :
    Option (List UInt8 × Except SwapError Unit) → PolicyEngine → Prop where
  | stutter : AtomicStep engine none engine
  | loads {body after} : engine.swap text decode body false = .ok after →
      AtomicStep engine (some (body, .ok ())) after
  | fails {body error} : engine.swap text decode body false = .error error →
      AtomicStep engine (some (body, .error error)) engine

include stepped in
theorem Stepped.atomic (valid : store.current < store.allocated)
    (knows : call.Knows text decode store) : AtomicStep text decode store.engine
      (if call.result = none then moved.result else none) stored.engine := by
  cases stepped with
  | undecoded refused => exact .fails (by rw [PolicyEngine.swap, EngineStore.engine, refused])
  | @decoded _ bundle =>
    have same : (store.allocate bundle).engine = store.engine :=
      congrArg (PolicyEngine.mk store.target) (store.allocate_heap_of_lt bundle valid)
    rw [same]
    exact .stutter
  | installed same newer => exact .loads (exchange_swaps (.installed same newer) knows)
  | refused same older => exact .fails (exchange_swaps (.refused same older) knows)
  | idle returned =>
    cases call with
    | swapped | evaluated => exact .stutter
    | _ => exact returned.elim
  | _ => exact .stutter

end EngineCall

/-! ## Whole runs -/

namespace EngineStore

variable {text : RustText} {decode : List UInt8 → Option RawBundle}

def Sound (text : RustText) (decode : List UInt8 → Option RawBundle) :
    Shared EngineStore EngineCall → Prop :=
  Asserts (fun store => store.current < store.allocated)
    (fun store call => call.Knows text decode store)

theorem Sound.step_extends {system : Shared EngineStore EngineCall}
    (sound : Sound text decode system) (move : Move EngineRequest Unit) :
    EngineCall.Extends system.store ((engineService text decode).step system move).store := by
  rcases (engineService text decode).step_store system move with same | ⟨_, call, _, moved⟩
  · rw [same]
    exact EngineCall.extends_refl _
  · rw [moved]
    exact (call.advance_stepped text decode system.store).extends sound.store

end EngineStore

section Run

open EngineStore EngineCall

variable {text : RustText} {decode : List UInt8 → Option RawBundle} {engine : PolicyEngine}

/-- The system that a run of calls on an engine leads to. -/
def raceOn (text : RustText) (decode : List UInt8 → Option RawBundle) (engine : PolicyEngine)
    (moves : List (Move EngineRequest Unit)) : Shared EngineStore EngineCall :=
  (engineService text decode).run (ofEngine engine) moves

variable {moves : List (Move EngineRequest Unit)}

theorem raceOn_snoc {move : Move EngineRequest Unit} : raceOn text decode engine (moves ++ [move]) =
    (engineService text decode).step (raceOn text decode engine moves) move :=
  run_snoc

theorem raceOn_sound (moves : List (Move EngineRequest Unit)) :
    Sound text decode (raceOn text decode engine moves) := by
  refine every_run_asserts _ _ ?_ ?_ ?_ ?_ moves
  · rintro store (body | flow) - <;> trivial
  · intro _ system call sound underWay
    exact (call.advance_stepped text decode system.store).knows sound.store
      (sound.calls call underWay)
  · intro _ system call other sound apart
    exact (sound.calls other apart.mem_right).extends
      ((call.advance_stepped text decode system.store).extends sound.store)
  · exact Nat.zero_lt_one

theorem raceOn_extends (before after : List (Move EngineRequest Unit)) :
    Extends (raceOn text decode engine before).store
      (raceOn text decode engine (before ++ after)).store := by
  induction after using reverseRecOn with
  | nil =>
    rw [append_nil]
    exact extends_refl _
  | append_singleton after move ih =>
    rw [← append_assoc, raceOn_snoc]
    exact ih.trans ((raceOn_sound _).step_extends move)

/-- A swap that fails loads nothing in any of its steps. -/
theorem bundle_of_failed {before after : List (Move EngineRequest Unit)} {index : ℕ}
    {body : List UInt8} {error : SwapError}
    (failed : (raceOn text decode engine (before ++ .resume index () :: after)).calls[index]? =
      some (.swapped body (.error error))) :
    (raceOn text decode engine (before ++ [.resume index ()])).store.bundle =
      (raceOn text decode engine before).store.bundle := by
  have afterwards : (raceOn text decode engine (before ++ .resume index () :: after)) =
      after.foldl (engineService text decode).step
        (raceOn text decode engine (before ++ [.resume index ()])) := by
    rw [raceOn, raceOn, append_cons]
    exact run_append _
  rw [afterwards] at failed
  rw [raceOn_snoc, step] at failed ⊢
  split
  case h_1 => rfl
  case h_2 call found =>
    simp only [found] at failed
    rcases (call.advance_stepped text decode _).bundle_cases (raceOn_sound before).store with
      same | ⟨other, _, _, -, succeeded, -⟩
    · exact same
    -- had the step ended the swap with success, the call would still say so
    have here : ((raceOn text decode engine before).calls.set index
        (call.advance text decode (raceOn text decode engine before).store).2)[index]? =
          some (.swapped other (.ok ())) := by
      rw [getElem?_set_self (List.getElem?_eq_some_iff.mp found).1, succeeded]
    cases (run_returned (fun _ _ => rfl) here after).symm.trans failed

def EngineCall.HasLooked : EngineCall → Prop
  | .evaluating .. | .evaluated .. => True
  | .swap _ | .load .. | .exchange .. | .swapped .. | .evaluate _ => False

/-- The call, about to read, found the bundle that it then judges the flow by. -/
def EngineCall.Judges (text : RustText) (system : Shared EngineStore EngineCall) (index : ℕ) :
    EngineCall → Prop
  | .evaluating flow bundle =>
    system.calls[index]? = some (.evaluate flow) ∧ bundle = system.store.bundle
  | .evaluated flow verdict =>
    system.calls[index]? = some (.evaluate flow) ∧
      verdict = Policy.evaluate text system.store.bundle flow
  | .swap _ | .load .. | .exchange .. | .swapped .. | .evaluate _ => False

/-- A verdict is that of a bundle that was loaded while the call was under way. -/
theorem judges_past {index : ℕ} {call : EngineCall}
    (found : (raceOn text decode engine moves).calls[index]? = some call) (looked : call.HasLooked)
    : ∃ before after, moves = before ++ after ∧
      call.Judges text (raceOn text decode engine before) index := by
  refine run_past (Judges text) ?_ ?_ found looked
  · rintro (body | flow) <;> exact id
  · intro _ system index call found looked
    have stepped := call.advance_stepped text decode system.store
    change HasLooked (call.advance text decode system.store).2 at looked
    change Judges text system index (call.advance text decode system.store).2 ∨
      (call.HasLooked ∧ ∀ earlier, call.Judges text earlier index →
        Judges text earlier index (call.advance text decode system.store).2)
    generalize (call.advance text decode system.store).1 = stored at stepped
    generalize (call.advance text decode system.store).2 = moved at stepped looked ⊢
    cases stepped with
    | looked => exact .inl ⟨found, rfl⟩
    | judged =>
      refine .inr ⟨trivial, ?_⟩
      rintro earlier ⟨there, rfl⟩
      exact ⟨there, rfl⟩
    | idle => exact .inr ⟨looked, fun _ => id⟩
    | _ => exact looked.elim

def offeredVersions (text : RustText) (decode : List UInt8 → Option RawBundle)
    (target : BundleTarget) (moves : List (Move EngineRequest Unit)) : Set Int :=
  {version | ∃ body bundle, .request (.swap body) ∈ moves ∧
    ofBytes text decode body target = .ok bundle ∧ bundle.graphVersion = version}

theorem request_mem {request : EngineRequest} :
    (∃ call ∈ (raceOn text decode engine moves).calls, call.request = request) ↔
      .request request ∈ moves := by
  have requests : (raceOn text decode engine moves).calls.map EngineCall.request =
      moves.filterMap Move.request? :=
    run_requests EngineCall.request (by rintro (body | flow) <;> rfl)
      (fun _ store call => (call.advance_stepped text decode store).request) _ moves
  rw [← mem_map, requests, mem_filterMap]
  constructor
  · rintro ⟨move | _, member, made⟩
    · cases made
      exact member
    · cases made
  · exact fun member => ⟨_, member, rfl⟩

theorem version_offered (moves : List (Move EngineRequest Unit)) :
    (raceOn text decode engine moves).store.bundle.graphVersion ∈
      insert engine.bundle.graphVersion (offeredVersions text decode engine.target moves) := by
  induction moves using reverseRecOn with
  | nil => exact .inl rfl
  | append_singleton moves move ih =>
    have target : (raceOn text decode engine moves).store.target = engine.target :=
      (raceOn_extends [] moves).target
    have wider : insert engine.bundle.graphVersion
          (offeredVersions text decode engine.target moves) ⊆
        insert engine.bundle.graphVersion
          (offeredVersions text decode engine.target (moves ++ [move])) := by
      apply Set.insert_subset_insert
      rintro version ⟨body, bundle, requested, offered⟩
      exact ⟨body, bundle, mem_append_left _ requested, offered⟩
    rw [raceOn_snoc]
    cases move with
    | request request => exact wider ih
    | resume index _ =>
      rw [step]
      split
      case h_1 => exact wider ih
      case h_2 call found =>
        have underWay := mem_of_getElem? found
        have requested := request_mem.mp ⟨call, underWay, rfl⟩
        rcases (call.advance_stepped text decode _).bundle_cases (raceOn_sound moves).store with
          same | ⟨body, next, seen, rfl, -, loaded⟩
        · rw [← same] at ih
          exact wider ih
        · have knows := (raceOn_sound moves).calls _ underWay
          refine .inr ⟨body, _, mem_append_left _ requested, ?_, rfl⟩
          rw [← target]
          exact knows.2.1.trans (congrArg Except.ok loaded.symm)

/-- **Racing swaps keep the newest bundle.** The loaded version never falls; a swap
that returns an error has loaded nothing in any of its steps; a verdict is that of
one bundle, loaded at a moment between the call and its return; and when all calls
have returned, the loaded version is the greatest of the first and of those offered
that decode for the target. -/
theorem racing_swaps_keep_newest (text : RustText) (decode : List UInt8 → Option RawBundle)
    (engine : PolicyEngine) (moves : List (Move EngineRequest Unit)) :
    (∀ before after, moves = before ++ after →
      (raceOn text decode engine before).store.bundle.graphVersion ≤
        (raceOn text decode engine moves).store.bundle.graphVersion) ∧
    (∀ before index after body error, moves = before ++ .resume index () :: after →
      (raceOn text decode engine moves).calls[index]? = some (.swapped body (.error error)) →
        (raceOn text decode engine (before ++ [.resume index ()])).store.bundle =
          (raceOn text decode engine before).store.bundle) ∧
    (∀ (index : ℕ) flow verdict,
      (raceOn text decode engine moves).calls[index]? = some (.evaluated flow verdict) →
        ∃ before after, moves = before ++ after ∧
          (raceOn text decode engine before).calls[index]? = some (.evaluate flow) ∧
            verdict = evaluate text (raceOn text decode engine before).store.bundle flow) ∧
    ((∀ call ∈ (raceOn text decode engine moves).calls, call.Returned) →
      IsGreatest (insert engine.bundle.graphVersion
        (offeredVersions text decode engine.target moves))
        (raceOn text decode engine moves).store.bundle.graphVersion) := by
  refine ⟨?_, ?_, ?_, ?_⟩
  · rintro before after rfl
    exact (raceOn_extends before after).version
  · rintro before index after body error rfl failed
    exact bundle_of_failed failed
  · intro index flow verdict found
    exact judges_past found trivial
  · intro allReturned
    refine ⟨version_offered moves, ?_⟩
    rintro version (rfl | ⟨body, bundle, requested, decoded, rfl⟩)
    · exact (raceOn_extends [] moves).version
    · obtain ⟨call, underWay, isSwap⟩ := request_mem.mpr requested
      have knows := (raceOn_sound moves).calls call underWay
      have returned := allReturned call underWay
      have target : (raceOn text decode engine moves).store.target = engine.target :=
        (raceOn_extends [] moves).target
      cases call with
      | swapped swappedBody result =>
        cases isSwap
        exact knows bundle (target ▸ decoded)
      | evaluated => cases isSwap
      | _ => exact returned.elim

/-- **Racing swaps refine the atomic engine**: in every run, the step with which a swap returns is
one `PolicyEngine.swap` of its body, with its result, on the engine of that moment, and every
other step leaves the engine as it is. -/
theorem racing_swaps_refine_atomic (text : RustText) (decode : List UInt8 → Option RawBundle)
    (engine : PolicyEngine) (moves : List (Move EngineRequest Unit)) :
    let store := (raceOn text decode engine moves).store
    ∀ call ∈ (raceOn text decode engine moves).calls,
      AtomicStep text decode store.engine
        (if call.result = none then (call.advance text decode store).2.result else none)
        (call.advance text decode store).1.engine := by
  intro store call underWay
  have sound : Sound text decode (raceOn text decode engine moves) := raceOn_sound moves
  exact (call.advance_stepped text decode store).atomic sound.store (sound.calls call underWay)

end Run
end ShieldNet.Policy
