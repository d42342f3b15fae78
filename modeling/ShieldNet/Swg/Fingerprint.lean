import Mathlib.Data.List.Infix
import Mathlib.Data.Nat.Digits.Defs
import ShieldNet.Lib.Assoc

/-!
# Document fingerprints

The rolling hash of `crates/sng-swg/src/dlp_inline.rs`. It hashes each window (`scanned_matches`),
but the rules of one window are not forgotten before the next: a rule counts once however many
windows match it, so the counts are right exactly when no rule matches two
(`fingerprintScan_counts_iff`).
-/

namespace ShieldNet.Swg

open List

def fingerprintNgramSize : Nat := 50

def rkBase : Nat := 257

def rkModulus : Nat := 1000000007

structure DlpFingerprint where
  hashes : List Nat

/-- What `fingerprint_index` has at a hash. -/
def ruleIndices (rules : List DlpFingerprint) (hash : Nat) : List Nat :=
  rules.zipIdx.flatMap fun (rule, index) => (rule.hashes.filter (· = hash)).map fun _ => index

/-- The bytes read so far come last first. -/
structure Scan where
  read : List UInt8
  hash : Nat
  matchedRules : List Nat
  matchCounts : Assoc Nat Nat

def Scan.count (scan : Scan) (index : Nat) : Scan :=
  if index ∈ scan.matchedRules then scan
  else
    { scan with
      matchedRules := index :: scan.matchedRules
      matchCounts := scan.matchCounts.set index ((scan.matchCounts.get? index).getD 0 + 1) }

def power : Nat :=
  (List.range (fingerprintNgramSize - 1)).foldl (fun power _ => power * rkBase % rkModulus) 1

variable (rules : List DlpFingerprint)

def scanByte (scan : Scan) (byte : UInt8) : Scan :=
  let hash := (scan.hash * rkBase + byte.toNat) % rkModulus
  let read := byte :: scan.read
  if fingerprintNgramSize - 1 ≤ scan.read.length then
    let oldByte := (read.getD (fingerprintNgramSize - 1) 0).toNat
    { (ruleIndices rules hash).foldl Scan.count scan with
      read, hash := (hash + rkModulus - oldByte * power % rkModulus) % rkModulus }
  else { scan with read, hash }

variable (region : List UInt8)

def scanned : Scan := region.foldl (scanByte rules) ⟨[], 0, [], .empty⟩

def fingerprintScan : List (Nat × Nat) :=
  if rules = [] ∨ region.length < fingerprintNgramSize then []
  else (scanned rules region).matchCounts.entries

/-! ## The windows -/

/-- The polynomial hash of bytes that come last first. -/
def polynomialHash (bytes : List UInt8) : Nat :=
  Nat.ofDigits rkBase (bytes.map UInt8.toNat) % rkModulus

/-- How many windows have one of the hashes: one ends wherever 50 bytes or more were read. -/
def hits (hashes : List Nat) : Nat :=
  region.inits.countP fun upTo => fingerprintNgramSize ≤ upTo.length ∧
    polynomialHash (upTo.reverse.take fingerprintNgramSize) ∈ hashes

variable {rules region} {byte : UInt8} {bytes : List UInt8} {scan : Scan} {index : Nat}

theorem polynomialHash_cons :
    polynomialHash (byte :: bytes) = (polynomialHash bytes * rkBase + byte.toNat) % rkModulus := by
  rw [polynomialHash, polynomialHash, map_cons, Nat.ofDigits_cons, Nat.add_mod _ byte.toNat,
    Nat.mod_mul_mod, ← Nat.add_mod, Nat.mul_comm, Nat.add_comm]

theorem power_eq : power = rkBase ^ (fingerprintNgramSize - 1) % rkModulus := by decide

theorem polynomialHash_slide (full : bytes.length = fingerprintNgramSize - 1) :
    (polynomialHash (bytes ++ [byte]) + rkModulus - byte.toNat * power % rkModulus) % rkModulus =
      polynomialHash bytes := by
  rw [polynomialHash, polynomialHash, power_eq, Nat.mul_mod_mod, map_append,
    Nat.ofDigits_append, length_map, full, map_singleton, Nat.ofDigits_singleton,
    Nat.mul_comm byte.toNat, rkModulus]
  omega

theorem hits_snoc (hashes : List Nat) : hits (region ++ [byte]) hashes = hits region hashes +
    if fingerprintNgramSize ≤ region.length + 1 ∧
      polynomialHash ((byte :: region.reverse).take fingerprintNgramSize) ∈ hashes
        then 1 else 0 := by
  simp [hits, inits_append, countP_append, countP_cons]

/-! ## What is counted -/

theorem mem_ruleIndices {hash : Nat} : index ∈ ruleIndices rules hash ↔
    ∃ rule ∈ rules[index]?, hash ∈ rule.hashes := by
  simp [ruleIndices, mem_zipIdx_iff_getElem?]

theorem Scan.mem_count {rule : Nat} : rule ∈ (scan.count index).matchedRules ↔
    rule ∈ scan.matchedRules ∨ rule = index := by
  rw [count]
  split
  case isTrue before =>
    refine (or_iff_left_of_imp ?_).symm
    rintro rfl
    exact before
  case isFalse => exact mem_cons.trans or_comm

theorem Scan.mem_foldl_count {rule : Nat} {indices : List Nat} :
    rule ∈ (indices.foldl count scan).matchedRules ↔ rule ∈ scan.matchedRules ∨ rule ∈ indices := by
  induction indices generalizing scan with
  | nil => simp
  | cons head rest ih => rw [foldl_cons, ih, mem_count, or_assoc, mem_cons]

def Scan.CountsOnce (scan : Scan) : Prop :=
  ∀ index count, scan.matchCounts.get? index = some count ↔ index ∈ scan.matchedRules ∧ count = 1

theorem Scan.CountsOnce.count (once : scan.CountsOnce) (index : Nat) :
    (scan.count index).CountsOnce := by
  rw [Scan.count]
  split
  case isTrue => exact once
  case isFalse new =>
    have absent : scan.matchCounts.get? index = none :=
      Option.eq_none_iff_forall_ne_some.mpr fun count found => new ((once index count).mp found).1
    intro other count
    rw [Assoc.get?_set, absent, mem_cons]
    by_cases same : other = index
    · simp [same, eq_comm]
    · simp [same, once other count]

/-- **The scan hashes each window**, and remembers the rules that any of them matches. -/
theorem scanned_matches : (scanned rules region).read = region.reverse ∧
    (scanned rules region).hash = polynomialHash (region.reverse.take (fingerprintNgramSize - 1)) ∧
    (scanned rules region).CountsOnce ∧ ∀ index, index ∈ (scanned rules region).matchedRules ↔
      ∃ rule ∈ rules[index]?, 0 < hits region rule.hashes := by
  induction region using reverseRecOn with
  | nil => simp [scanned, hits, fingerprintNgramSize, polynomialHash, Scan.CountsOnce]
  | append_singleton front byte ih =>
    obtain ⟨read, hash, once, matched⟩ := ih
    -- the window that ends with the byte
    have pushed : (polynomialHash (front.reverse.take (fingerprintNgramSize - 1)) * rkBase +
        byte.toNat) % rkModulus =
          polynomialHash ((byte :: front.reverse).take fingerprintNgramSize) :=
      polynomialHash_cons.symm
    rw [scanned, foldl_concat, ← scanned, scanByte, hash, pushed, read, reverse_concat,
      length_reverse]
    simp only [hits_snoc]
    split
    case isFalse short =>
      have small : ¬ fingerprintNgramSize ≤ front.length + 1 := by omega
      refine ⟨rfl, ?_, once, by simpa [small] using matched⟩
      rw [take_of_length_le (by simp; omega), take_of_length_le (by simp; omega)]
    case isTrue full =>
      have large : fingerprintNgramSize ≤ front.length + 1 := by omega
      have inside : 49 < (byte :: front.reverse).length := by
        rw [length_cons, length_reverse]
        exact large
      refine ⟨rfl, ?_, ?_, fun index => ?_⟩
      · have ends : (byte :: front.reverse).take fingerprintNgramSize =
            (byte :: front.reverse).take 49 ++ [(byte :: front.reverse).getD 49 0] := by
          rw [getD_eq_getElem?_getD, getElem?_eq_getElem inside]
          exact (take_append_getElem inside).symm
        rw [ends]
        exact polynomialHash_slide (length_take_of_le inside.le)
      · exact foldlRecOn (motive := Scan.CountsOnce) _ _ once fun _ once index _ =>
          once.count index
      · refine Scan.mem_foldl_count.trans ?_
        rw [matched, mem_ruleIndices, ← exists_or]
        refine exists_congr fun rule => ?_
        split <;> simp_all

/-- **A scan reports the rules that match a window, each once.** -/
theorem mem_fingerprintScan {count : Nat} : (index, count) ∈ fingerprintScan rules region ↔
    count = 1 ∧ ∃ rule ∈ rules[index]?, 0 < hits region rule.hashes := by
  obtain ⟨-, -, once, matched⟩ := @scanned_matches rules region
  rw [fingerprintScan]
  split
  case isTrue idle =>
    refine iff_of_false not_mem_nil ?_
    rintro ⟨-, rule, listed, hit⟩
    obtain ⟨upTo, front, full, -⟩ : ∃ upTo ∈ region.inits,
        fingerprintNgramSize ≤ upTo.length ∧ _ := by
      simpa [hits] using hit
    rcases idle with rfl | short
    · cases listed
    · exact absurd (full.trans ((mem_inits _ _).mp front).length_le) (Nat.not_le.mpr short)
  case isFalse => rw [Assoc.mem_entries_iff, once, matched, and_comm]

/-- **The counts are those of the windows exactly when no rule matches two.** -/
theorem fingerprintScan_counts_iff (rules : List DlpFingerprint) (region : List UInt8) :
    (∀ index count, (index, count) ∈ fingerprintScan rules region ↔
      ∃ rule ∈ rules[index]?, count = hits region rule.hashes ∧ count ≠ 0) ↔
    ∀ rule ∈ rules, hits region rule.hashes ≤ 1 := by
  constructor
  · intro counts rule listed
    obtain ⟨index, found⟩ := mem_iff_getElem?.mp listed
    by_contra more
    have counted := (counts index _).mpr ⟨rule, found, rfl, by omega⟩
    exact more (mem_fingerprintScan.mp counted).1.le
  · intro once index count
    rw [mem_fingerprintScan, ← exists_and_left]
    refine exists_congr fun rule => ?_
    have most : rule ∈ rules[index]? → hits region rule.hashes ≤ 1 := fun found =>
      once rule (mem_of_getElem? found)
    grind

/-- Of the four windows of a region one matches, and the rule counts one. -/
theorem one_window_counted :
    (0, 1) ∈ fingerprintScan [⟨[0]⟩] (.replicate 50 0 ++ [1, 1, 1]) :=
  ((fingerprintScan_counts_iff _ _).mpr (by decide +kernel) 0 1).mpr
    ⟨⟨[0]⟩, rfl, by decide +kernel, by decide⟩

/-- Two windows match, and the rule counts one. -/
theorem second_window_uncounted : hits (.replicate 51 0) [0] = 2 ∧
    fingerprintScan [⟨[0]⟩] (.replicate 51 0) = [(0, 1)] := by
  decide +kernel

end ShieldNet.Swg
