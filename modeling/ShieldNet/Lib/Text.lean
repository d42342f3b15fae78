import Mathlib.Algebra.GroupWithZero.Nat
import Mathlib.Data.List.DropRight
import Mathlib.Data.List.Infix

/-!
# Text as character lists

Case mapping, blanks and affixes of texts. Rust's `to_ascii_lowercase` only
maps the letters `A` to `Z`, `strip_prefix` and `strip_suffix` return what is
left after an affix that is present, and Go's `strings.TrimSpace` drops the
blanks at both ends.
-/

namespace ShieldNet

open List

abbrev Text := List Char

namespace Text

instance decidableMem (text : Text) (texts : List Text) : Decidable (text ∈ texts) :=
  inferInstanceAs (Decidable (_ ∈ _))

variable (text : Text)

def asciiLower : Text := text.map Char.toLower

theorem toNat_toLower (c : Char) : c.toLower.toNat =
    if 65 ≤ c.toNat ∧ c.toNat ≤ 90 then c.toNat + 32 else c.toNat := by
  unfold Char.toLower
  split
  case isTrue upper =>
    have above : 65 ≤ c.toNat := UInt32.le_iff_toNat_le.mp upper.1
    have below : c.toNat ≤ 90 := UInt32.le_iff_toNat_le.mp upper.2
    have room : c.val.toNat + 32 < UInt32.size :=
      Nat.lt_of_le_of_lt (Nat.add_le_add_right below 32) (by decide)
    rw [if_pos ⟨above, below⟩]
    exact (UInt32.toNat_add _ _).trans (Nat.mod_eq_of_lt room)
  case isFalse other =>
    rw [if_neg]
    exact fun upper =>
      other ⟨UInt32.le_iff_toNat_le.mpr upper.1, UInt32.le_iff_toNat_le.mpr upper.2⟩

theorem toLower_idem (c : Char) : c.toLower.toLower = c.toLower := by
  apply Char.toNat_inj.mp
  have once := toNat_toLower c
  have twice := toNat_toLower c.toLower
  split at once <;> split at twice <;> omega

/-- `unicode.IsSpace`, by code point. -/
def isSpace (c : Char) : Bool :=
  c.toNat ∈ [0x09, 0x0a, 0x0b, 0x0c, 0x0d, 0x20, 0x85, 0xa0, 0x1680, 0x2028, 0x2029, 0x202f,
    0x205f, 0x3000] ||
  (0x2000 ≤ c.toNat && c.toNat ≤ 0x200a)

theorem isSpace_of_letter {c : Char} (above : 65 ≤ c.toNat) (below : c.toNat ≤ 122) :
    isSpace c = false := by
  rw [isSpace, Bool.eq_false_iff]
  simp
  omega

theorem isSpace_toLower (c : Char) : isSpace c.toLower = isSpace c := by
  have lowered := toNat_toLower c
  split at lowered
  case isTrue upper =>
    rw [isSpace_of_letter (by omega) (by omega), isSpace_of_letter (by omega) (by omega)]
  case isFalse => rw [Char.toNat_inj.mp lowered]

def trimSpace : Text := ((text.dropWhile isSpace).reverse.dropWhile isSpace).reverse

theorem trimSpace_idem : trimSpace (trimSpace text) = trimSpace text := by
  have begins : (trimSpace text).dropWhile isSpace = trimSpace text := by
    cases trimmed : trimSpace text with
    | nil => rfl
    | cons first rest =>
      obtain ⟨blanks, whole⟩ := rdropWhile_prefix isSpace (text.dropWhile isSpace)
      change trimSpace text ++ blanks = _ at whole
      have head := head?_dropWhile_not isSpace text
      rw [← whole, trimmed] at head
      exact dropWhile_cons_of_neg (Bool.not_eq_true _ ▸ head)
  calc trimSpace (trimSpace text)
    _ = ((trimSpace text).dropWhile isSpace).rdropWhile isSpace := rfl
    _ = (trimSpace text).rdropWhile isSpace := by rw [begins]
    _ = trimSpace text := rdropWhile_idempotent isSpace _

/-- Trimming is by the blanks alone. -/
theorem trimSpace_map {replace : Char → Char} (keeps : ∀ c, isSpace (replace c) = isSpace c)
    (text : Text) : trimSpace (text.map replace) = (trimSpace text).map replace := by
  have blanks : isSpace ∘ replace = isSpace := funext keeps
  rw [trimSpace, trimSpace, dropWhile_map, ← map_reverse, dropWhile_map, blanks, map_reverse]

def stripPrefix (affix text : Text) : Option Text :=
  if affix.isPrefixOf text then some (text.drop affix.length) else none

def stripSuffix (affix text : Text) : Option Text :=
  if affix.isSuffixOf text then some (text.take (text.length - affix.length)) else none

theorem stripSuffix_append (affix text : Text) : stripSuffix affix (text ++ affix) = some text := by
  have ends : affix.isSuffixOf (text ++ affix) :=
    isSuffixOf_iff_suffix.mpr (suffix_append text affix)
  rw [stripSuffix, if_pos ends, length_append, Nat.add_sub_cancel, take_left]

def utf8 : List UInt8 := text.flatMap String.utf8EncodeChar

def byteLength : Nat := (text.map Char.utf8Size).sum

/-- `contains`: the part lies somewhere in the text. -/
def hasInfix (text part : Text) : Bool := part <:+: text

/-- The value of a nonempty string of decimal digits. -/
def decimal : Option Nat :=
  if text ≠ [] ∧ text.all Char.isDigit then
    some (text.foldl (fun value digit => 10 * value + (digit.toNat - '0'.toNat)) 0)
  else none

end Text

end ShieldNet
