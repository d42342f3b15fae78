import ShieldNet.Lib.Json
import ShieldNet.Lib.Text
import Mathlib.Data.List.Forall2
import Mathlib.Data.Rat.Defs

/-!
# Reading documents the way derived `serde` readers do

A reader is a partial function from documents. A derived struct reader accepts
each of its fields at most once (`Serde.required`, `Serde.defaulted`), an enum
of unit variants is named by a string or by an object with the single member
`name: null` (`Serde.unitEnum`), and an internally tagged enum takes its
variant from the tag member of an object or from the head of an array
(`Serde.tagged`).
-/

namespace ShieldNet.Serde

open List

variable {α β : Type}

def string : Json → Option String
  | .str value => some value
  | _ => none

def bool : Json → Option Bool
  | .bool value => some value
  | _ => none

def unsigned (bound : Nat) : Json → Option Nat
  | .num text => (Text.decimal text.toList).filter (· < bound)
  | _ => none

def fraction (digits : Text) : Option ℚ :=
  (Text.decimal digits).map fun value => (value : ℚ) / 10 ^ digits.length

def exponent : Text → Option Int
  | '-' :: digits => (Text.decimal digits).map fun value => -(value : Int)
  | '+' :: digits | digits => (Text.decimal digits).map fun value => (value : Int)

/-- The value of a decimal number that has no sign. -/
def magnitude (text : Text) : Option ℚ := do
  let (mantissa, power) := text.span fun c => c ≠ 'e' && c ≠ 'E'
  let (whole, part) := mantissa.span (· ≠ '.')
  let whole ← Text.decimal whole
  let part ← if part = [] then some 0 else fraction part.tail
  let power ← if power = [] then some 0 else exponent power.tail
  some (((whole : ℚ) + part) * 10 ^ power)

/-- A number, without the rounding to `f64`. -/
def float : Json → Option ℚ
  | .num text =>
    match text.toList with
    | '-' :: rest => (magnitude rest).map fun value => -value
    | digits => magnitude digits
  | _ => none

variable (read : Json → Option α)

def vec : Json → Option (List α)
  | .arr elems => elems.mapM read
  | _ => none

def option : Json → Option (Option α)
  | .null => some none
  | document => (read document).map some

/-- An enum whose variants carry no data. -/
def unitEnum (ofName : String → Option α) : Json → Option α
  | .str name => ofName name
  | .obj [(name, .null)] => ofName name
  | _ => none

def required (key : String) (members : List (String × Json)) : Option α :=
  match Json.valuesAt key members with
  | [value] => read value
  | _ => none

/-- A field that may be left out and may not be repeated. -/
def defaulted (fallback : α) (read : Json → Option α) (key : String)
    (members : List (String × Json)) : Option α :=
  match Json.valuesAt key members with
  | [] => some fallback
  | [value] => read value
  | _ => none

/-- An internally tagged enum. The rest of the object or array belongs to the
variant. -/
def tagged (tag : String) (ofMembers : String → List (String × Json) → Option α)
    (ofElems : String → List Json → Option α) : Json → Option α
  | .obj members =>
    match Json.valuesAt tag members with
    | [.str name] => ofMembers name (members.filter fun member => member.1 != tag)
    | _ => none
  | .arr (.str name :: rest) => ofElems name rest
  | _ => none

/-! ## Lists of documents -/

variable {inputs : List β} {outputs : List α}

theorem mapM_eq_some_iff {read : β → Option α} : inputs.mapM read = some outputs ↔
    Forall₂ (fun input output => read input = some output) inputs outputs := by
  induction inputs generalizing outputs with
  | nil => simp [mapM_nil, eq_comm]
  | cons input rest ih =>
    cases outputs with
    | nil => simp [mapM_cons, Option.bind_eq_some_iff]
    | cons output others =>
      simp [mapM_cons, Option.bind_eq_some_iff, ih]

theorem isSome_mapM_iff {read : β → Option α} :
    (inputs.mapM read).isSome ↔ ∀ input ∈ inputs, (read input).isSome := by
  induction inputs with
  | nil => simp
  | cons input rest ih =>
    cases first : read input <;> cases others : rest.mapM read <;> simp_all [mapM_cons]

theorem exists_of_forall₂ {γ δ : Type} {related : γ → δ → Prop} {first : List γ} {second : List δ}
    (pairs : Forall₂ related first second) {one : γ} (listed : one ∈ first) :
    ∃ two ∈ second, related one two := by
  induction pairs with
  | nil => cases listed
  | cons here _ ih =>
    rcases mem_cons.mp listed with rfl | later
    · exact ⟨_, mem_cons_self, here⟩
    · obtain ⟨two, member, found⟩ := ih later
      exact ⟨two, mem_cons_of_mem _ member, found⟩

theorem exists_output_of_mapM {read : β → Option α} (reads : inputs.mapM read = some outputs)
    {input : β} (listed : input ∈ inputs) : ∃ output ∈ outputs, read input = some output :=
  exists_of_forall₂ (mapM_eq_some_iff.mp reads) listed

theorem mapM_congr {read other : β → Option α} (same : ∀ input ∈ inputs, read input = other input) :
    inputs.mapM read = inputs.mapM other := by
  induction inputs with
  | nil => rfl
  | cons input rest ih =>
    rw [forall_mem_cons] at same
    simp only [mapM_cons, same.1, ih same.2]

@[simp] theorem vec_arr_map (write : β → Json) (values : List β) :
    vec read (.arr (values.map write)) = values.mapM fun value => read (write value) := by
  simp [vec, mapM_map, Function.comp_def]

@[simp] theorem vec_string_map (values : List String) :
    vec string (.arr (values.map .str)) = some values := by
  rw [vec_arr_map, mapM_eq_some_iff]
  exact forall₂_same.mpr fun _ _ => rfl

end ShieldNet.Serde
