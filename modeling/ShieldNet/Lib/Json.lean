/-!
# JSON documents

A document is a tree of values. Objects are member lists: they keep the order
and the repeated keys of the text, since two readers of one text may treat a
repeated key differently. Numbers keep their text.

`Json.fits` is the acceptance test of a reader that bounds the nesting of
arrays and objects and that only accepts the numbers it can represent.
-/

namespace ShieldNet

inductive Json where
  | null
  | bool (value : Bool)
  | num (text : String)
  | str (value : String)
  | arr (elems : List Json)
  | obj (members : List (String × Json))

namespace Json

/-! ## Members of an object -/

variable (key : String)

/-- The values stored under a key, in order. -/
def valuesAt (members : List (String × Json)) : List Json :=
  (members.filter fun member => member.1 == key).map Prod.snd

@[simp] theorem valuesAt_nil : valuesAt key [] = [] := rfl

@[simp] theorem valuesAt_cons_self (value : Json) (rest : List (String × Json)) :
    valuesAt key ((key, value) :: rest) = value :: valuesAt key rest := by
  simp [valuesAt]

theorem valuesAt_cons_of_ne {key other : String} (value : Json) (rest : List (String × Json))
    (different : other ≠ key) : valuesAt key ((other, value) :: rest) = valuesAt key rest := by
  simp [valuesAt, different]

@[simp] theorem valuesAt_append (first second : List (String × Json)) :
    valuesAt key (first ++ second) = valuesAt key first ++ valuesAt key second := by
  simp [valuesAt]

/-! ## Length of the compact text -/

mutual

/-- The length in bytes of the text without blanks, for strings that need no
escapes. -/
def compactLen : Json → Nat
  | .null => 4
  | .bool true => 4
  | .bool false => 5
  | .num text => text.utf8ByteSize
  | .str value => value.utf8ByteSize + 2
  | .arr elems => compactLenElems elems + 2
  | .obj members => compactLenMembers members + 2

def compactLenElems : List Json → Nat
  | [] => 0
  | [elem] => compactLen elem
  | elem :: rest => compactLen elem + 1 + compactLenElems rest

def compactLenMembers : List (String × Json) → Nat
  | [] => 0
  | [(key, value)] => key.utf8ByteSize + 3 + compactLen value
  | (key, value) :: rest =>
    key.utf8ByteSize + 3 + compactLen value + 1 + compactLenMembers rest

end

/-! ## Bounded readers -/

section Fits

variable (inRange : String → Bool)

mutual

/-- The document nests at most `depth` arrays and objects and all its numbers
are in range. -/
def fits : Nat → Json → Bool
  | _, .null => true
  | _, .bool _ => true
  | _, .num text => inRange text
  | _, .str _ => true
  | 0, .arr _ => false
  | depth + 1, .arr elems => fitsElems depth elems
  | 0, .obj _ => false
  | depth + 1, .obj members => fitsMembers depth members

def fitsElems : Nat → List Json → Bool
  | _, [] => true
  | depth, elem :: rest => fits depth elem && fitsElems depth rest

def fitsMembers : Nat → List (String × Json) → Bool
  | _, [] => true
  | depth, (_, value) :: rest => fits depth value && fitsMembers depth rest

end

@[simp] theorem fits_arr_succ (depth : Nat) (elems : List Json) :
    fits inRange (depth + 1) (.arr elems) = elems.all (fits inRange depth) := by
  rw [fits]
  induction elems with
  | nil => rfl
  | cons elem rest ih =>
    simp only [fitsElems, List.all_cons, ih]

@[simp] theorem fits_obj_succ (depth : Nat) (members : List (String × Json)) :
    fits inRange (depth + 1) (.obj members) =
      members.all fun member => fits inRange depth member.2 := by
  rw [fits]
  induction members with
  | nil => rfl
  | cons member rest ih =>
    simp only [fitsMembers, List.all_cons, ih]

@[simp] theorem fits_str (depth : Nat) (value : String) :
    fits inRange depth (.str value) := by
  cases depth <;> rfl

end Fits

end Json

end ShieldNet
