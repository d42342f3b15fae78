import Mathlib.Data.BitVec
import ShieldNet.Lib.Text

/-!
# Addresses and networks

An address is a 32-bit or a 128-bit word, and a network is an address with a
prefix length that fits its family. A network contains an address of its own
family when the two agree on the leading `prefixLen` bits, and never one of the
other family (`IpNet.contains`).
-/

namespace ShieldNet

inductive IpFamily where
  | v4
  | v6
  deriving DecidableEq

inductive IpAddr where
  | v4 (bits : BitVec 32)
  | v6 (bits : BitVec 128)

namespace IpAddr

def family : IpAddr → IpFamily
  | .v4 _ => .v4
  | .v6 _ => .v6

def ofOctets (a b c d : BitVec 8) : IpAddr := .v4 (a ++ b ++ c ++ d)

end IpAddr

/-- The two words agree on their `len` leading bits. -/
def prefixAgrees {w : Nat} (len : Nat) (a b : BitVec w) : Bool := a >>> (w - len) == b >>> (w - len)

/-- The word with all but its `len` leading bits cleared. -/
def keepPrefix {w : Nat} (len : Nat) (a : BitVec w) : BitVec w := a >>> (w - len) <<< (w - len)

/-- Clearing bits behind the compared ones does not show. -/
theorem keepPrefix_ushiftRight {w : Nat} {len longer : Nat} (within : len ≤ longer)
    (a : BitVec w) : keepPrefix longer a >>> (w - len) = a >>> (w - len) := by
  apply BitVec.eq_of_getLsbD_eq
  intro i small
  simp only [keepPrefix, BitVec.getLsbD_ushiftRight, BitVec.getLsbD_shiftLeft]
  have beyond : ¬w - len + i < w - longer := by omega
  have index : w - longer + (w - len + i - (w - longer)) = w - len + i := by omega
  simp only [beyond, decide_false, Bool.not_false, Bool.and_true, index]
  by_cases inside : w - len + i < w
  · simp [inside]
  · simp [inside, BitVec.getLsbD_of_ge a _ (not_lt.mp inside)]

/-- Of two prefixes that agree with one word, the shorter agrees with the
longer one. -/
theorem prefixAgrees_keepPrefix {w : Nat} {len longer : Nat} {a b addr : BitVec w}
    (within : len ≤ longer) (agrees : prefixAgrees len a addr)
    (agrees' : prefixAgrees longer b addr) :
    prefixAgrees len a (keepPrefix longer b) := by
  simp only [prefixAgrees, beq_iff_eq] at agrees agrees' ⊢
  have same : keepPrefix longer b = keepPrefix longer addr := by
    rw [keepPrefix, keepPrefix, agrees']
  rw [same, keepPrefix_ushiftRight within, agrees]

instance neZero_lengths : NeZero 33 := ⟨by decide⟩

/-- A network in CIDR form. The address may carry host bits; only its leading
bits take part in `contains`. -/
inductive IpNet where
  | v4 (addr : BitVec 32) (len : Fin 33)
  | v6 (addr : BitVec 128) (len : Fin 129)
  deriving DecidableEq

namespace IpNet

def family : IpNet → IpFamily
  | .v4 _ _ => .v4
  | .v6 _ _ => .v6

def prefixLen : IpNet → Nat
  | .v4 _ len => len
  | .v6 _ len => len

def contains : IpNet → IpAddr → Bool
  | .v4 net len, .v4 addr => prefixAgrees len net addr
  | .v6 net len, .v6 addr => prefixAgrees len net addr
  | _, _ => false

theorem family_eq_of_contains {net : IpNet} {addr : IpAddr}
    (inside : net.contains addr) : net.family = addr.family := by
  cases net <;> cases addr <;> simp_all [contains, family, IpAddr.family]

def network : IpNet → IpAddr
  | .v4 addr len => .v4 (keepPrefix len addr)
  | .v6 addr len => .v6 (keepPrefix len addr)

theorem contains_network_of_common {first second : IpNet} {addr : IpAddr}
    (inside : first.contains addr) (inside' : second.contains addr) :
    first.contains second.network ∨ second.contains first.network := by
  cases first with
  | v4 a len | v6 a len =>
    cases addr <;> cases second <;> simp only [contains, Bool.false_eq_true] at inside inside'
    rename_i bits b longer
    rcases le_total len.val longer.val with within | within
    · exact .inl (prefixAgrees_keepPrefix within inside inside')
    · exact .inr (prefixAgrees_keepPrefix within inside' inside)

end IpNet

/-! ## The dotted form of IPv4 -/

/-- One octet: at most three digits and no leading zero. -/
def parseOctet (text : Text) : Option (BitVec 8) :=
  match Text.decimal text with
  | some value =>
    if value < 256 ∧ (text.length = 1 ∨ text.head? ≠ some '0') then some (.ofNat 8 value)
    else none
  | none => none

def parseDotted (text : Text) : Option (BitVec 32) :=
  match (text.splitOn '.').mapM parseOctet with
  | some [a, b, c, d] => some (a ++ b ++ c ++ d)
  | _ => none

def IpAddr.parseV4 (text : String) : Option IpAddr := (parseDotted text.toList).map .v4

def IpNet.parseV4 (text : String) : Option IpNet :=
  match text.toList.splitOn '/' with
  | [addr, len] => do
      let bits ← parseDotted addr
      let value ← Text.decimal len
      if small : value < 33 then some (.v4 bits ⟨value, small⟩) else none
  | _ => none

end ShieldNet
