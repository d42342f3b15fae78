import ShieldNet.Policy.Engine

/-!
# From the control plane's encoder to the enforcement plane's reader

What the reader makes of a document the encoder wrote, stated on the control
plane's data: a vertex ships when its kind is known and its `match` document is
readable (`shipSubject`, `shipPredicate`), a rule ships when all its parts do
(`shipRule`), and the reader of an encoded rule is exactly that
(`read_encodeRule`). The nesting bound of the reader falls on the opaque
documents (`fits_encodeRule`).
-/

namespace ShieldNet.Policy

open Serde Json List

/-! ## Members of encoded objects -/

@[simp] theorem valuesAt_omitEmpty_self (key : String) (values : List Json) :
    valuesAt key (omitEmpty key values) = if values = [] then [] else [.arr values] := by
  unfold omitEmpty
  split <;> simp

theorem valuesAt_omitEmpty_of_ne {key other : String} (values : List Json)
    (different : other ≠ key) : valuesAt key (omitEmpty other values) = [] := by
  unfold omitEmpty
  split
  · rfl
  · rw [valuesAt_cons_of_ne _ _ different, valuesAt_nil]

theorem GoRule.extra_get?_known (r : GoRule) :
    ∀ key ∈ knownRuleFields, r.extra.get? key = none := by
  intro key known
  rw [StrMap.get?, Option.map_eq_none_iff, find?_eq_none]
  intro entry stored same
  exact r.extra_unknown entry.1 (mem_map_of_mem stored) (eq_of_beq same ▸ known)

theorem defaulted_vec_omitEmpty {α β : Type} (read : Json → Option α) (write : β → Json)
    (key : String) (values : List β) (members : List (String × Json))
    (only : valuesAt key members =
      if values.map write = [] then [] else [.arr (values.map write)]) :
    defaulted [] (vec read) key members = values.mapM fun value => read (write value) := by
  cases values with
  | nil => simp [defaulted, only]
  | cons value rest =>
    rw [← vec_arr_map]
    simp [defaulted, only]

/-! ## Vertices -/

section Shipping

variable (text : RustText)

def shipSubject (s : GoSubject) : Option Subject := do
  let kind ← SubjectKind.ofName s.kind
  let matcher ← s.matchDoc.elim (some .any) (SubjectMatch.read text)
  some ⟨s.name, kind, matcher⟩

def shipPredicate (p : GoPredicate) : Option Predicate :=
  (p.matchDoc.elim (some .always) (PredicateMatch.read text)).map fun matcher =>
    ⟨p.name, matcher⟩

theorem valuesAt_matchMember (matchDoc : Option Json) :
    valuesAt "match" (matchMember matchDoc) = matchDoc.toList := by
  cases matchDoc with
  | none => rfl
  | some document => exact valuesAt_cons_self _ _ _

theorem valuesAt_matchMember_of_ne {key : String} (different : "match" ≠ key)
    (matchDoc : Option Json) : valuesAt key (matchMember matchDoc) = [] := by
  cases matchDoc with
  | none => rfl
  | some document => exact valuesAt_cons_of_ne _ _ different

theorem read_encodeSubject (s : GoSubject) :
    Subject.read text (encodeSubject s) = shipSubject text s := by
  obtain ⟨name, kind, matchDoc⟩ := s
  have nameAt : valuesAt "name" ([("name", .str name), ("kind", .str kind)] ++
      matchMember matchDoc) = [.str name] := by
    simp [valuesAt_cons_of_ne, valuesAt_matchMember_of_ne]
  have kindAt : valuesAt "kind" ([("name", .str name), ("kind", .str kind)] ++
      matchMember matchDoc) = [.str kind] := by
    simp [valuesAt_cons_of_ne, valuesAt_matchMember_of_ne]
  have matchAt : valuesAt "match" ([("name", .str name), ("kind", .str kind)] ++
      matchMember matchDoc) = matchDoc.toList := by
    simp [valuesAt_cons_of_ne, valuesAt_matchMember]
  cases matchDoc <;> rfl

theorem read_encodePredicate (p : GoPredicate) :
    Predicate.read text (encodePredicate p) = shipPredicate text p := by
  obtain ⟨name, matchDoc⟩ := p
  have nameAt : valuesAt "name" ([("name", .str name)] ++ matchMember matchDoc) = [.str name] := by
    simp [valuesAt_matchMember_of_ne]
  have matchAt : valuesAt "match" ([("name", .str name)] ++ matchMember matchDoc) =
      matchDoc.toList := by
    simp [valuesAt_cons_of_ne, valuesAt_matchMember]
  simp only [encodePredicate, Predicate.read, defaulted, nameAt, matchAt, shipPredicate,
    Option.map_eq_bind]
  cases matchDoc <;> rfl

/-! ## Rules -/

variable (r : GoRule)

/-- The `suggested_verb` a rule carries among its extra members. -/
def suggestedVerbOf : Option (Option Verb) :=
  match r.extra.get? "suggested_verb" with
  | none => some none
  | some document => Serde.option (unitEnum Verb.ofName) document

def shipRule : Option Rule := do
  let domain ← EnforcementDomain.ofName r.domain
  let verb ← Verb.ofName r.verb
  let suggestedVerb ← suggestedVerbOf r
  let subjects ← r.subjects.mapM (shipSubject text)
  let predicates ← r.predicates.mapM (shipPredicate text)
  some
    { id := r.id, domain, verb, suggestedVerb
      subjectRefs := r.subjectRefs
      predicateRefs := r.predicateRefs
      subjects, predicates
      targets := r.targets
      description := r.description
      extra := StrMap.ofMembers ((r.toRuleFields.members ++ r.extra.entries).filter fun member =>
          !ruleFieldNames.contains member.1) }

theorem valuesAt_entries (map : StrMap Json) (key : String) :
    valuesAt key map.entries = (map.get? key).toList := by
  obtain ⟨entries, sorted⟩ := map
  simp only [StrMap.get?, valuesAt]
  induction entries with
  | nil => rfl
  | cons entry rest ih =>
    obtain ⟨below, restSorted⟩ := pairwise_cons.mp sorted
    by_cases same : entry.1 = key
    · -- later keys are greater, so nothing else is stored under the key
      have others : rest.filter (fun member => member.1 == key) = [] := by
        rw [filter_eq_nil_iff]
        intro other listed
        have := ne_of_gt (below other listed)
        simp_all
      simp [same, others]
    · simpa [same] using ih restSorted

theorem valuesAt_encodeRule (r : GoRule) : let members := r.toRuleFields.members ++ r.extra.entries
    valuesAt "id" members = [.str r.id] ∧
    valuesAt "domain" members = [.str r.domain] ∧
    valuesAt "verb" members = [.str r.verb] ∧
    valuesAt "suggested_verb" members = (r.extra.get? "suggested_verb").toList ∧
    (valuesAt "subject_refs" members =
      if r.subjectRefs.map str = [] then [] else [.arr (r.subjectRefs.map str)]) ∧
    (valuesAt "predicate_refs" members =
      if r.predicateRefs.map str = [] then [] else [.arr (r.predicateRefs.map str)]) ∧
    (valuesAt "subjects" members =
      if r.subjects.map encodeSubject = [] then [] else [.arr (r.subjects.map encodeSubject)]) ∧
    (valuesAt "predicates" members = if r.predicates.map encodePredicate = [] then []
      else [.arr (r.predicates.map encodePredicate)]) ∧
    (valuesAt "targets" members =
      if r.targets.map str = [] then [] else [.arr (r.targets.map str)]) ∧
    (valuesAt "description" members = if r.description = "" then [] else [.str r.description]) := by
  have known := r.extra_get?_known
  simp only [knownRuleFields, forall_mem_cons] at known
  have description : ∀ key : String, valuesAt key (if r.description = "" then []
        else [("description", str r.description)]) =
      if key = "description" then (if r.description = "" then [] else [.str r.description])
      else [] := by
    intro key
    by_cases same : "description" = key
    · subst same
      split <;> simp
    · rw [if_neg (Ne.symm same)]
      split
      · rfl
      · rw [valuesAt_cons_of_ne _ _ same, valuesAt_nil]
  refine ⟨?_, ?_, ?_, ?_, ?_, ?_, ?_, ?_, ?_, ?_⟩ <;>
    simp [RuleFields.members, description, valuesAt_omitEmpty_of_ne, valuesAt_cons_of_ne,
      known, valuesAt_entries]

/-- **The reader of an encoded rule returns the rule as it ships.** -/
theorem read_encodeRule : Rule.read text (encodeRule r) = shipRule text r := by
  obtain ⟨idAt, domainAt, verbAt, suggestedAt, subjectRefsAt, predicateRefsAt, subjectsAt,
    predicatesAt, targetsAt, descriptionAt⟩ := valuesAt_encodeRule r
  have suggested : defaulted none (option (unitEnum Verb.ofName))
      "suggested_verb" (r.toRuleFields.members ++ r.extra.entries) = suggestedVerbOf r := by
    simp only [defaulted, suggestedAt, suggestedVerbOf]
    cases r.extra.get? "suggested_verb" <;> rfl
  have description : defaulted "" string "description"
      (r.toRuleFields.members ++ r.extra.entries) = some r.description := by
    simp only [defaulted, descriptionAt]
    by_cases blank : r.description = "" <;> simp [blank, string]
  have strings : ∀ values : List String,
      (values.mapM fun value => string (.str value)) = some values := by
    intro values
    rw [← vec_arr_map, vec_string_map]
  simp only [encodeRule, Rule.read, required, idAt, domainAt, verbAt, suggested, description,
    defaulted_vec_omitEmpty _ _ _ _ _ subjectRefsAt, defaulted_vec_omitEmpty _ _ _ _ _ subjectsAt,
    defaulted_vec_omitEmpty _ _ _ _ _ predicateRefsAt,
    defaulted_vec_omitEmpty _ _ _ _ _ predicatesAt, defaulted_vec_omitEmpty _ _ _ _ _ targetsAt,
    strings, read_encodeSubject, read_encodePredicate]
  simp [shipRule, string, unitEnum]

/-! ## Nesting -/

/-- Levels left for a `match` document inside the rule table. -/
def vertexNesting : Nat := maxNesting - 4

/-- Levels left for an extra member inside the rule table. -/
def extraNesting : Nat := maxNesting - 2

/-- The opaque documents of a rule are within the reader's bounds. -/
def GoRule.docsFit : Bool :=
  (r.subjects.all fun s => s.matchDoc.all (fits text.numberInRange vertexNesting)) &&
  (r.predicates.all fun p => p.matchDoc.all (fits text.numberInRange vertexNesting)) &&
  (r.extra.entries.all fun entry => entry.2.fits text.numberInRange extraNesting)

open GoRule

theorem fits_matchMember (depth : Nat) (matchDoc : Option Json) :
    ((matchMember matchDoc).all fun member => member.2.fits text.numberInRange depth) =
      matchDoc.all (fits text.numberInRange depth) := by
  cases matchDoc <;> simp [matchMember]

theorem fits_omitEmpty (depth : Nat) (key : String) (values : List Json) :
    ((omitEmpty key values).all fun member => member.2.fits text.numberInRange (depth + 1)) =
      values.all (fits text.numberInRange depth) := by
  unfold omitEmpty
  split
  case isTrue blank => simp [blank]
  case isFalse => simp

theorem fits_encodeRule :
    (encodeRule r).fits text.numberInRange (maxNesting - 1) = r.docsFit text := by
  have subjects : ∀ s : GoSubject, (encodeSubject s).fits text.numberInRange (123 + 1) =
      s.matchDoc.all (fits text.numberInRange 123) := by
    simp [encodeSubject, fits_matchMember]
  have predicates : ∀ p : GoPredicate, (encodePredicate p).fits text.numberInRange (123 + 1) =
      p.matchDoc.all (fits text.numberInRange 123) := by
    simp [encodePredicate, fits_matchMember]
  have description : (if r.description = "" then [] else [("description", str r.description)]).all
        (fun member => member.2.fits text.numberInRange (124 + 1)) := by
    split <;> simp
  have strings : ∀ values : List String, (values.all fun _ => true) := by simp
  show (encodeRule r).fits text.numberInRange (125 + 1) = _
  simp only [encodeRule, RuleFields.members, fits_obj_succ, all_append,
    fits_omitEmpty text 124, description]
  simp [subjects, predicates, strings, docsFit, vertexNesting, extraNesting, maxNesting,
    Function.comp_def, Bool.and_assoc]

/-- The rule as it arrives in a rule table: its documents must be within the
reader's bounds and its parts readable. -/
def GoRule.arrives : Option Rule := if r.docsFit text then shipRule text r else none

/-- **Reading an encoded rule table.** -/
theorem readRules_encodeRules (rules : List GoRule) :
    readRules text (encodeRules rules) = rules.mapM (arrives text) := by
  have bound : (encodeRules rules).fits text.numberInRange maxNesting =
      rules.all (docsFit text) := by
    show (encodeRules rules).fits text.numberInRange (126 + 1) = _
    have each : ∀ r : GoRule, (encodeRule r).fits text.numberInRange 126 = r.docsFit text :=
      fits_encodeRule text
    simp [encodeRules, Function.comp_def, each]
  rw [readRules, bound, encodeRules, vec_arr_map]
  simp only [read_encodeRule]
  split
  case isTrue fit =>
    rw [all_eq_true] at fit
    refine mapM_congr fun r member => ?_
    simp [arrives, fit r member]
  case isFalse unfit =>
    -- a rule that does not fit makes the whole table unreadable
    cases arrived : rules.mapM (arrives text) with
    | none => rfl
    | some shipped =>
      have all := isSome_mapM_iff.mp (Option.isSome_iff_exists.mpr ⟨_, arrived⟩)
      refine absurd (all_eq_true.mpr fun r member => ?_) unfit
      have := all r member
      by_contra bad
      simp [arrives, bad] at this

end Shipping

end ShieldNet.Policy
