import Mathlib.Data.List.Perm.Basic

/-!
# The spool

`BoundedSpool` of `crates/sng-comms/src/spool.rs`: a queue that never grows past its
capacity. A push at the back makes room by dropping the oldest items, and putting an item
back at the front makes room by dropping the newest. Nothing is lost without being
counted: what a spool held and was given is what it holds and what it evicted.
-/

namespace ShieldNet.Telemetry

open List

variable {T : Type}

/-- The loop that drops items from the front while there are as many as the capacity. -/
def evictFront (capacity : Nat) : List T → List T × List T
  | [] => ([], [])
  | item :: rest =>
    if capacity ≤ (item :: rest).length then
      let (evicted, kept) := evictFront capacity rest
      (item :: evicted, kept)
    else ([], item :: rest)

def evictBack (capacity : Nat) (items : List T) : List T × List T :=
  let (evicted, kept) := evictFront capacity items.reverse
  (evicted, kept.reverse)

theorem evictFront_append (capacity : Nat) (items : List T) :
    (evictFront capacity items).1 ++ (evictFront capacity items).2 = items := by
  induction items with
  | nil => rfl
  | cons item rest ih =>
    rw [evictFront]
    split
    case isTrue => simp [ih]
    case isFalse => rfl

theorem evictBack_append (capacity : Nat) (items : List T) :
    (evictBack capacity items).2 ++ (evictBack capacity items).1.reverse = items := by
  have whole := congrArg reverse (evictFront_append capacity items.reverse)
  simpa [evictBack] using whole

theorem length_evictFront {capacity : Nat} (positive : 0 < capacity) (items : List T) :
    (evictFront capacity items).2.length < capacity := by
  induction items with
  | nil => exact positive
  | cons item rest ih =>
    rw [evictFront]
    split
    case isTrue => exact ih
    case isFalse below => exact Nat.lt_of_not_le below

structure BoundedSpool (T : Type) where
  items : List T
  capacity : Nat
  pushed : UInt64
  respooled : UInt64
  evicted : UInt64
  drained : UInt64

namespace BoundedSpool

def new (capacity : Nat) : BoundedSpool T := ⟨[], capacity, 0, 0, 0, 0⟩

variable (spool : BoundedSpool T)

/-- `BoundedSpool::push`, with what it evicts: the outcome is `AcceptedWithEviction` when
that is not empty. -/
def push (item : T) : BoundedSpool T × List T :=
  if spool.capacity = 0 then
    ({ spool with pushed := spool.pushed + 1, evicted := spool.evicted + 1 }, [item])
  else
    let (evicted, kept) := evictFront spool.capacity spool.items
    ({ spool with
        items := kept ++ [item]
        pushed := spool.pushed + 1
        evicted := spool.evicted + UInt64.ofNat evicted.length },
      evicted)

def pushFront (item : T) : BoundedSpool T × List T :=
  if spool.capacity = 0 then
    ({ spool with respooled := spool.respooled + 1, evicted := spool.evicted + 1 }, [item])
  else
    let (evicted, kept) := evictBack spool.capacity spool.items
    ({ spool with
        items := item :: kept
        respooled := spool.respooled + 1
        evicted := spool.evicted + UInt64.ofNat evicted.length },
      evicted)

def popFront : Option T × BoundedSpool T :=
  match spool.items with
  | [] => (none, spool)
  | item :: rest => (some item, { spool with items := rest, drained := spool.drained + 1 })

variable (spool : BoundedSpool T) (item : T)

theorem push_sublist : (spool.push item).1.items.Sublist (spool.items ++ [item]) := by
  rw [push]
  split
  case isTrue => exact sublist_append_left ..
  have kept : (evictFront spool.capacity spool.items).2.Sublist spool.items := by
    conv => rhs; rw [← evictFront_append spool.capacity spool.items]
    exact sublist_append_right ..
  exact kept.append (Sublist.refl _)

theorem pushFront_sublist : (spool.pushFront item).1.items.Sublist (item :: spool.items) := by
  rw [pushFront]
  split
  case isTrue => exact sublist_cons_self ..
  have kept : (evictBack spool.capacity spool.items).2.Sublist spool.items := by
    conv => rhs; rw [← evictBack_append spool.capacity spool.items]
    exact sublist_append_left ..
  exact kept.cons_cons item

/-- **A push loses nothing**: the items before and the new one are those kept and those
evicted. -/
theorem push_perm :
    ((spool.push item).1.items ++ (spool.push item).2).Perm (item :: spool.items) := by
  rw [push]
  split
  case isTrue => exact perm_append_singleton ..
  rw [append_assoc]
  refine (perm_append_comm ..).trans ?_
  rw [append_assoc, evictFront_append]
  rfl

/-- **Putting an item back loses nothing.** -/
theorem pushFront_perm :
    ((spool.pushFront item).1.items ++ (spool.pushFront item).2).Perm (item :: spool.items) := by
  rw [pushFront]
  split
  case isTrue => exact perm_append_singleton ..
  conv => rhs; rw [← evictBack_append spool.capacity spool.items]
  exact (reverse_perm _).symm.append_left _

theorem push_evicted :
    (spool.push item).1.evicted = spool.evicted + UInt64.ofNat (spool.push item).2.length := by
  rw [push]
  split <;> rfl

theorem pushFront_evicted : (spool.pushFront item).1.evicted =
    spool.evicted + UInt64.ofNat (spool.pushFront item).2.length := by
  rw [pushFront]
  split <;> rfl

@[simp] theorem push_capacity : (spool.push item).1.capacity = spool.capacity := by
  rw [push]
  split <;> rfl

@[simp] theorem pushFront_capacity : (spool.pushFront item).1.capacity = spool.capacity := by
  rw [pushFront]
  split <;> rfl

/-- **The spool stays within its capacity.** -/
theorem length_push (within : spool.items.length ≤ spool.capacity) :
    (spool.push item).1.items.length ≤ spool.capacity := by
  rw [push]
  split
  case isTrue => exact within
  case isFalse positive =>
    have room := length_evictFront (Nat.pos_of_ne_zero positive) spool.items
    simp only [length_append, length_singleton]
    omega

theorem length_pushFront (within : spool.items.length ≤ spool.capacity) :
    (spool.pushFront item).1.items.length ≤ spool.capacity := by
  rw [pushFront]
  split
  case isTrue => exact within
  case isFalse positive =>
    have room := length_evictFront (Nat.pos_of_ne_zero positive) spool.items.reverse
    simp only [evictBack, length_cons, length_reverse]
    omega

end BoundedSpool

end ShieldNet.Telemetry
