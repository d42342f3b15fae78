import ShieldNet.Lib.StrMap
import ShieldNet.Lib.Json
import ShieldNet.Lib.Text

/-!
# Reading documents the way `encoding/json` does

`json.Unmarshal` decodes into an existing value: `null` leaves most values as
they are, object keys select struct fields up to letter case, unknown keys are
skipped, and a repeated key decodes again over what the first one stored. A
decoder is therefore an update that may fail (`GoJson.Decoder`).
-/

namespace ShieldNet.GoJson

/-- Decode a document into an existing value; `none` is an `Unmarshal` error. -/
abbrev Decoder (α : Type) := Json → α → Option α

variable {α σ : Type}

def string : Decoder String
  | .str value, _ => some value
  | .null, old => some old
  | _, _ => none

/-- The number texts an `int` accepts: an optional sign and digits, within 64
bits. -/
def parseInt (text : String) : Option Int :=
  let value : Option Int :=
    match text.toList with
    | '-' :: rest => (Text.decimal rest).map fun n => -(n : Int)
    | chars => (Text.decimal chars).map fun n => (n : Int)
  value.filter fun n => decide (-0x8000000000000000 ≤ n ∧ n ≤ 0x7fffffffffffffff)

def int : Decoder Int
  | .num text, _ => parseInt text
  | .null, old => some old
  | _, _ => none

/-- The document itself, `null` included. -/
def rawMessage : Decoder (Option Json) := fun document _ => some (some document)

/-- The elements of an array, each decoded over the element already stored at
its index, or over the zero value. -/
def elems (zero : α) (elem : Decoder α) : List Json → List α → Option (List α)
  | [], _ => some []
  | document :: rest, old => do
      let first ← elem document (old.head?.getD zero)
      let others ← elems zero elem rest old.tail
      some (first :: others)

/-- A slice. `null` makes it nil. -/
def slice (zero : α) (elem : Decoder α) : Decoder (List α)
  | .arr documents, old => elems zero elem documents old
  | .null, _ => some []
  | _, _ => none

/-- A pointer. `null` makes it nil; anything else decodes into the value it
points to, a fresh one when it was nil. -/
def pointer (zero : α) (target : Decoder α) : Decoder (Option α)
  | .null, _ => some none
  | document, old => (target document (old.getD zero)).map some

/-- A map with string keys: each member decodes into a zero value and replaces
the entry of its key. -/
def map (zero : α) (value : Decoder α) : Decoder (StrMap α)
  | .obj members, old =>
    members.foldlM (fun stored member =>
      (value member.2 zero).map (stored.insert member.1)) old
  | .null, _ => some StrMap.empty
  | _, _ => none

/-! ## Structs -/

/-- Simple case folding onto the letters field names are made of: besides the
capital letters, the long s and the Kelvin sign fold into ASCII. -/
def foldRune (char : Char) : Char :=
  if char = '\u017f' then 's' else if char = '\u212a' then 'k' else char.toLower

/-- Two names that `encoding/json` takes for one another. -/
def foldEq (first second : String) : Bool := first.toList.map foldRune == second.toList.map foldRune

variable (fields : List (String × Decoder σ))

/-- The decoder of the field a key selects: the exact name first, then a name
equal up to case. -/
def fieldOf (key : String) : Option (Decoder σ) :=
  match fields.find? fun field => field.1 == key with
  | some field => some field.2
  | none => (fields.find? fun field => foldEq field.1 key).map Prod.snd

def struct : Decoder σ
  | .obj members, old =>
    members.foldlM (fun stored member =>
      match fieldOf fields member.1 with
      | some field => field member.2 stored
      | none => some stored) old
  | .null, old => some old
  | _, _ => none

def focus (get : σ → α) (set : α → σ → σ) (field : Decoder α) : Decoder σ :=
  fun document old => (field document (get old)).map fun value => set value old

/-! ## Reading back -/

theorem elems_map {zero : α} {elem : Decoder α} {write : α → Json}
    (reads : ∀ value, elem (write value) zero = some value) (values : List α) :
    elems zero elem (values.map write) [] = some values := by
  induction values with
  | nil => rfl
  | cons value rest ih => simp [elems, reads, ih]

variable {fields : List (String × Decoder σ)}

/-- The members that come later are read over what the earlier ones have stored. -/
theorem struct_append_eq {first second : List (String × Json)} {old between : σ}
    (early : struct fields (.obj first) old = some between) :
    struct fields (.obj (first ++ second)) old = struct fields (.obj second) between := by
  rw [struct] at early ⊢
  rw [List.foldlM_append, early]
  rfl

theorem struct_append {first second : List (String × Json)} {old between read : σ}
    (early : struct fields (.obj first) old = some between)
    (late : struct fields (.obj second) between = some read) :
    struct fields (.obj (first ++ second)) old = some read :=
  (struct_append_eq early).trans late

theorem struct_skip {members : List (String × Json)}
    (apart : ∀ member ∈ members, ∀ field ∈ fields, foldEq field.1 member.1 = false) (old : σ) :
    struct fields (.obj members) old = some old := by
  induction members with
  | nil => rfl
  | cons member rest ih =>
    rw [List.forall_mem_cons] at apart
    have exact : ∀ field ∈ fields, field.1 ≠ member.1 := by
      intro field listed same
      simpa [same, foldEq] using apart.1 field listed
    have skipped : fieldOf fields member.1 = none := by
      rw [fieldOf, List.find?_eq_none.mpr (by simpa using exact),
        List.find?_eq_none.mpr (by simpa using apart.1), Option.map_none]
    rw [struct, List.foldlM_cons, skipped]
    exact ih apart.2

end ShieldNet.GoJson
