import Mathlib.Algebra.GroupWithZero.Nat
import Mathlib.Data.List.Infix

/-!
# The packet-capture ring

`PcapRing` of `crates/sng-telemetry/src/pcap.rs`. A push drops the oldest frames until the new one
fits both caps, so it keeps the longest suffix that leaves room for it (`push_keeps`). A frame that
is longer than the byte cap is refused only once every frame is gone (`refused_push_empties`).
-/

namespace ShieldNet.Telemetry

open List

structure CapturedFrame where
  bytes : List UInt8
  deriving DecidableEq

/-- The caps are positive, or `PcapRing::new` panics. -/
structure PcapRingConfig where
  maxPackets : Nat
  maxTotalBytes : Nat
  maxPacketBytes : Nat
  positive : 0 < maxPackets ∧ 0 < maxTotalBytes ∧ 0 < maxPacketBytes

def byteCount (frames : List CapturedFrame) : Nat := (frames.map (·.bytes.length)).sum

structure RingState where
  frames : List CapturedFrame
  totalBytes : Nat
  counted : totalBytes = byteCount frames

inductive RingCall where
  | push (frame : CapturedFrame)
  | drain

namespace PcapRingConfig

variable (config : PcapRingConfig)

/-- The loop of `push`, with the number of frames it evicts. It gives up when none are left. -/
def makeRoom (length : Nat) : (frames : List CapturedFrame) → (totalBytes : Nat) →
    totalBytes = byteCount frames → RingState × Option Nat
  | [], totalBytes, counted => (⟨[], totalBytes, counted⟩,
      if config.maxPackets ≤ 0 ∨ config.maxTotalBytes < totalBytes + length then none else some 0)
  | oldest :: rest, totalBytes, counted =>
    if config.maxPackets ≤ rest.length + 1 ∨ config.maxTotalBytes < totalBytes + length then
      let (state, evicted) := makeRoom length rest (totalBytes - oldest.bytes.length)
        (by simp [counted, byteCount])
      (state, evicted.map (· + 1))
    else (⟨oldest :: rest, totalBytes, counted⟩, some 0)

def push (state : RingState) (frame : CapturedFrame) : RingState × Except String Nat :=
  let length := frame.bytes.length
  let packet := config.maxPacketBytes
  let total := config.maxTotalBytes
  if length = 0 then (state, .error "captured frame is empty (zero bytes)")
  else if packet < length then
    (state, .error s!"captured frame is {length} bytes, exceeds max_packet_bytes {packet}")
  else
    match config.makeRoom length state.frames state.totalBytes state.counted with
    | (left, none) =>
      (left, .error s!"captured frame is {length} bytes but max_total_bytes is {total}")
    | (left, some evicted) => (⟨left.frames ++ [frame], left.totalBytes + frame.bytes.length,
        by simp [left.counted, byteCount]⟩, .ok evicted)

def step (state : RingState) : RingCall → RingState
  | .push frame => (config.push state frame).1
  | .drain => ⟨[], 0, rfl⟩

def run (calls : List RingCall) : RingState := calls.foldl config.step ⟨[], 0, rfl⟩

def fits (frames : List CapturedFrame) : Bool :=
  frames.length ≤ config.maxPackets ∧ byteCount frames ≤ config.maxTotalBytes

/-- The longest suffix that fits with the new frame. -/
def longest (frames : List CapturedFrame) (frame : CapturedFrame) : Option (List CapturedFrame) :=
  frames.tails.find? fun kept => config.fits (kept ++ [frame])

/-- A push keeps the longest suffix that fits or, when it fails, everything. -/
def PushKeeps (state : RingState) (frame : CapturedFrame) : Prop :=
  match config.push state frame with
  | (after, .ok _) => (config.longest state.frames frame).map (· ++ [frame]) = some after.frames
  | (after, .error _) => after.frames = state.frames

variable {config} {frame : CapturedFrame}

theorem fits_iff {totalBytes : Nat} {frames : List CapturedFrame}
    (counted : totalBytes = byteCount frames) : config.fits (frames ++ [frame]) ↔
      ¬ (config.maxPackets ≤ frames.length ∨
        config.maxTotalBytes < totalBytes + frame.bytes.length) := by
  rw [fits, decide_eq_true_iff, length_append, length_singleton, byteCount,
    map_append, sum_append, counted, byteCount, map_singleton, sum_singleton]
  omega

/-- The loop stops at the longest suffix that fits. -/
theorem makeRoom_longest (frames : List CapturedFrame) (totalBytes : Nat)
    (counted : totalBytes = byteCount frames) :
    (config.makeRoom frame.bytes.length frames totalBytes counted).2.map (fun _ =>
        (config.makeRoom frame.bytes.length frames totalBytes counted).1.frames) =
      config.longest frames frame := by
  induction frames generalizing totalBytes with
  | nil =>
    have room := @fits_iff config frame _ _ counted
    rw [longest, tails, find?_singleton, makeRoom]
    split
    case isTrue full =>
      rw [if_neg (mt room.mp (not_not.mpr full))]
      rfl
    case isFalse free =>
      rw [if_pos (room.mpr free)]
      rfl
  | cons oldest rest ih =>
    have room := @fits_iff config frame _ _ counted
    rw [longest, tails, find?_cons, makeRoom]
    split
    case isTrue full =>
      rw [Bool.eq_false_iff.mpr (mt room.mp (not_not.mpr full)), ← longest, ← ih, Option.map_map]
      rfl
    case isFalse free =>
      rw [room.mpr free]
      rfl

/-- **A push keeps as much as fits and fails cleanly**, after any calls, unless the frame is longer
than the byte cap but not than the packet cap. -/
theorem push_keeps (config : PcapRingConfig) (calls : List RingCall) (frame : CapturedFrame)
    (room : frame.bytes.length ≤ config.maxPacketBytes →
      frame.bytes.length ≤ config.maxTotalBytes) :
    (config.run calls).totalBytes = byteCount (config.run calls).frames ∧
      config.PushKeeps (config.run calls) frame := by
  refine ⟨(config.run calls).counted, ?_⟩
  have kept := @makeRoom_longest config frame _ _ (config.run calls).counted
  rw [PushKeeps, push]
  by_cases empty : frame.bytes.length = 0
  · rw [if_pos empty]
  by_cases long : config.maxPacketBytes < frame.bytes.length
  · rw [if_neg empty, if_pos long]
  rw [if_neg empty, if_neg long]
  cases made : config.makeRoom frame.bytes.length _ _ (config.run calls).counted with
  | mk left evicted =>
    rw [made] at kept
    cases evicted with
    | none =>
      have alone : config.fits ([] ++ [frame]) = true := by
        rw [fits_iff rfl, byteCount]
        have small := room (Nat.le_of_not_lt long)
        have positive := config.positive.1
        simp
        omega
      exact absurd alone (find?_eq_none.mp kept.symm [] (by simp))
    | some evicted =>
      rw [← kept]
      rfl

def tightRing : PcapRingConfig := ⟨2, 3, 4, by decide⟩

theorem short_frame_kept : (tightRing.run [.push ⟨[0, 0]⟩]).totalBytes = 2 ∧
      tightRing.PushKeeps (tightRing.run [.push ⟨[0, 0]⟩]) ⟨[1]⟩ :=
  push_keeps tightRing [.push ⟨[0, 0]⟩] ⟨[1]⟩ fun _ => by decide

/-- **A push that fails loses frames.** The frame is within the packet cap, but longer than the
byte cap. -/
theorem refused_push_empties : (tightRing.run [.push ⟨[0]⟩]).frames = [⟨[0]⟩] ∧
      (tightRing.push (tightRing.run [.push ⟨[0]⟩]) ⟨[0, 0, 0, 0]⟩).2 =
        .error "captured frame is 4 bytes but max_total_bytes is 3" ∧
      (tightRing.push (tightRing.run [.push ⟨[0]⟩]) ⟨[0, 0, 0, 0]⟩).1.frames = [] :=
  ⟨rfl, rfl, rfl⟩

end PcapRingConfig

end ShieldNet.Telemetry
