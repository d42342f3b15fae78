import Mathlib.Data.List.Basic

/-!
# First-match chains

A chain is a list of entries, each of which accepts or passes over a subject and
carries a verdict; the first entry that accepts decides, and a fallback answers
when none does (`firstMatch`).

The rules below say how a chain behaves under the operations that compilers of
rule lists perform: concatenation, leaving entries out, replacing each entry by
several of the same verdict, and comparing two chains whose matchers are
related entry by entry.
-/

namespace ShieldNet

open List

variable {α β γ δ : Type}

def firstMatch (accepts : α → Bool) (verdict : α → γ) (fallback : γ) : List α → γ
  | [] => fallback
  | entry :: rest =>
    if accepts entry then verdict entry else firstMatch accepts verdict fallback rest

section Chains

variable {accepts : α → Bool} {verdict : α → γ} {fallback : γ}

@[simp] theorem firstMatch_nil : firstMatch accepts verdict fallback [] = fallback := rfl

theorem firstMatch_cons (entry : α) (rest : List α) :
    firstMatch accepts verdict fallback (entry :: rest) =
      if accepts entry then verdict entry else firstMatch accepts verdict fallback rest := rfl

theorem firstMatch_append (first second : List α) :
    firstMatch accepts verdict fallback (first ++ second) =
      firstMatch accepts verdict (firstMatch accepts verdict fallback second) first := by
  induction first with
  | nil => rfl
  | cons entry rest ih =>
    rw [cons_append, firstMatch_cons, firstMatch_cons, ih]

theorem firstMatch_map {δ : Type} (use : γ → δ) (chain : List α) :
    use (firstMatch accepts verdict fallback chain) =
      firstMatch accepts (use ∘ verdict) (use fallback) chain := by
  induction chain with
  | nil => rfl
  | cons entry rest ih =>
    rw [firstMatch_cons, firstMatch_cons, ← ih]
    split <;> rfl

/-- A chain whose verdicts are its entries looks the entry up. -/
theorem firstMatch_some (chain : List α) :
    firstMatch accepts some none chain = chain.find? accepts := by
  induction chain with
  | nil => rfl
  | cons entry rest ih =>
    rw [firstMatch_cons, find?_cons, ih]
    cases accepts entry <;> rfl

/-- A block of lines that accept with one verdict acts as one entry. -/
theorem firstMatch_block {block : List α} {value : γ}
    (agree : ∀ entry ∈ block, accepts entry → verdict entry = value) :
    firstMatch accepts verdict fallback block = if block.any accepts then value else fallback := by
  induction block with
  | nil => rfl
  | cons entry rest ih =>
    rw [forall_mem_cons] at agree
    rw [firstMatch_cons, ih agree.2, any_cons]
    by_cases accepted : accepts entry
    · rw [if_pos accepted, accepted, Bool.true_or, if_pos rfl, agree.1 accepted]
    · rw [if_neg accepted, Bool.eq_false_iff.mpr accepted, Bool.false_or]

variable {chain : List α}

/-- **Replacing each entry by lines that carry its verdict keeps the chain's
answer.** The lines of one entry stay together, so the order of the entries
decides as before. -/
theorem firstMatch_flatMap {expand : α → List β} {acceptsLine : β → Bool} {lineVerdict : β → γ}
    (same : ∀ entry ∈ chain, (expand entry).any acceptsLine = accepts entry)
    (carried : ∀ entry ∈ chain, ∀ line ∈ expand entry, acceptsLine line →
      lineVerdict line = verdict entry) :
    firstMatch acceptsLine lineVerdict fallback (chain.flatMap expand) =
      firstMatch accepts verdict fallback chain := by
  induction chain with
  | nil => rfl
  | cons entry rest ih =>
    rw [forall_mem_cons] at same carried
    rw [flatMap_cons, firstMatch_append, firstMatch_block carried.1, same.1,
      ih same.2 carried.2, firstMatch_cons]

/-- The entry accepts, and nothing before it does. -/
def FirstAccepted (accepts : α → Bool) (chain : List α) (entry : α) : Prop :=
  ∃ before after, chain = before ++ entry :: after ∧ accepts entry = true ∧
    ∀ earlier ∈ before, accepts earlier = false

variable {entry : α}

theorem firstAccepted_cons_iff {head : α} {rest : List α} :
    FirstAccepted accepts (head :: rest) entry ↔ (accepts head ∧ entry = head) ∨
      (accepts head = false ∧ FirstAccepted accepts rest entry) := by
  constructor
  · rintro ⟨before, after, split, accepted, earlier⟩
    cases before with
    | nil =>
      obtain ⟨rfl, rfl⟩ := List.cons.inj split
      exact .inl ⟨accepted, rfl⟩
    | cons first before =>
      obtain ⟨rfl, rfl⟩ := List.cons.inj split
      rw [forall_mem_cons] at earlier
      exact .inr ⟨earlier.1, before, after, rfl, accepted, earlier.2⟩
  · rintro (⟨accepted, rfl⟩ | ⟨passed, before, after, rfl, accepted, earlier⟩)
    · exact ⟨[], rest, rfl, accepted, fun _ listed => absurd listed not_mem_nil⟩
    · exact ⟨head :: before, after, rfl, accepted, forall_mem_cons.mpr ⟨passed, earlier⟩⟩

/-- The first accepting entry of the front of a chain is that of the chain. -/
theorem FirstAccepted.append {front : List α} (found : FirstAccepted accepts front entry)
    (back : List α) : FirstAccepted accepts (front ++ back) entry := by
  obtain ⟨before, after, rfl, accepted, earlier⟩ := found
  exact ⟨before, after ++ back, by simp, accepted, earlier⟩

/-- Entries left out of a chain are entries that do not accept. -/
theorem FirstAccepted.of_filter {keeps : α → Bool}
    (found : FirstAccepted accepts (chain.filter keeps) entry) :
    FirstAccepted (fun entry => keeps entry && accepts entry) chain entry := by
  induction chain with
  | nil =>
    obtain ⟨before, after, split, -⟩ := found
    simp at split
  | cons head rest ih =>
    cases kept : keeps head with
    | false =>
      rw [filter_cons_of_neg (by simp [kept])] at found
      exact firstAccepted_cons_iff.mpr (.inr ⟨by simp [kept], ih found⟩)
    | true =>
      rw [filter_cons_of_pos kept] at found
      refine firstAccepted_cons_iff.mpr ?_
      rcases firstAccepted_cons_iff.mp found with ⟨accepted, rfl⟩ | ⟨passed, later⟩
      · exact .inl ⟨by simp [kept, accepted], rfl⟩
      · exact .inr ⟨by simp [passed], ih later⟩

/-- A stricter matcher that accepts the entry finds it first as well. -/
theorem FirstAccepted.strengthen {stricter : α → Bool} (found : FirstAccepted accepts chain entry)
    (implies : ∀ entry ∈ chain, stricter entry → accepts entry)
    (accepted : stricter entry) : FirstAccepted stricter chain entry := by
  obtain ⟨before, after, rfl, -, earlier⟩ := found
  refine ⟨before, after, rfl, accepted, fun other member => ?_⟩
  refine Bool.eq_false_iff.mpr fun holds => ?_
  have contradiction := implies other (mem_append_left _ member) holds
  rw [earlier other member] at contradiction
  cases contradiction

/-- **What holds of a chain's answer holds of its first accepting entry, or of
the fallback when there is none.** -/
theorem firstMatch_iff (p : γ → Prop) (chain : List α) :
    p (firstMatch accepts verdict fallback chain) ↔
      (∃ entry, FirstAccepted accepts chain entry ∧ p (verdict entry)) ∨
      ((∀ entry ∈ chain, accepts entry = false) ∧ p fallback) := by
  induction chain with
  | nil => simp [FirstAccepted]
  | cons head rest ih =>
    rw [firstMatch_cons]
    cases accepted : accepts head with
    | true => simp [firstAccepted_cons_iff, accepted]
    | false => simp [firstAccepted_cons_iff, accepted, ih]

theorem firstMatch_iff_forall (p : γ → Prop) (chain : List α) :
    p (firstMatch accepts verdict fallback chain) ↔
      (∀ entry, FirstAccepted accepts chain entry → p (verdict entry)) ∧
      ((∀ entry ∈ chain, accepts entry = false) → p fallback) := by
  induction chain with
  | nil => simp [FirstAccepted]
  | cons head rest ih =>
    rw [firstMatch_cons]
    cases accepted : accepts head with
    | true => simp [firstAccepted_cons_iff, accepted]
    | false => simp [firstAccepted_cons_iff, accepted, ih]

theorem firstMatch_eq_elim (chain : List α) :
    firstMatch accepts verdict fallback chain = (chain.find? accepts).elim fallback verdict := by
  rw [← firstMatch_some, firstMatch_map (Option.elim · fallback verdict)]
  rfl

/-- **Accepting more moves the answer along a relation** exactly when the first entry that accepts
anew is related to what the entries after it say. -/
theorem firstMatch_wider_iff {wider : α → Bool} {r : γ → γ → Prop} (refl : ∀ value, r value value)
    (accepted : ∀ entry ∈ chain, accepts entry → wider entry) :
    r (firstMatch accepts verdict fallback chain) (firstMatch wider verdict fallback chain) ↔
      ∀ before entry after, chain = before ++ entry :: after →
        (∀ earlier ∈ before, wider earlier = false) → wider entry = true → accepts entry = false →
          r (firstMatch accepts verdict fallback after) (verdict entry) := by
  induction chain with
  | nil => exact iff_of_true (refl _) fun before entry after split => by simp at split
  | cons head rest ih =>
    rw [forall_mem_cons] at accepted
    rw [firstMatch_cons, firstMatch_cons]
    cases anew : wider head with
    | true =>
      -- no entry behind this one is the first that the wider chain accepts
      have here : ∀ before entry after, head :: rest = before ++ entry :: after →
          (∀ earlier ∈ before, wider earlier = false) → entry = head ∧ after = rest := by
        intro before entry after split earlier
        cases before with
        | nil =>
          obtain ⟨rfl, rfl⟩ := List.cons.inj split
          exact ⟨rfl, rfl⟩
        | cons first before =>
          obtain ⟨rfl, -⟩ := List.cons.inj split
          exact absurd (anew.symm.trans (earlier _ mem_cons_self)) (by decide)
      cases now : accepts head with
      | true =>
        refine iff_of_true (refl _) fun before entry after split earlier _ passed => ?_
        obtain ⟨rfl, -⟩ := here before entry after split earlier
        exact absurd (now.symm.trans passed) (by decide)
      | false =>
        constructor
        · intro related before entry after split earlier _ _
          obtain ⟨rfl, rfl⟩ := here before entry after split earlier
          exact related
        · exact fun each =>
            each [] head rest rfl (fun _ listed => absurd listed not_mem_nil) anew now
    | false =>
      have passed : accepts head = false :=
        Bool.eq_false_iff.mpr fun now => Bool.false_ne_true (anew.symm.trans (accepted.1 now))
      rw [passed]
      refine (ih accepted.2).trans ⟨fun each before entry after split earlier => ?_, ?_⟩
      · cases before with
        | nil =>
          obtain ⟨rfl, rfl⟩ := List.cons.inj split
          exact fun now => absurd (anew.symm.trans now) (by decide)
        | cons first before =>
          obtain ⟨rfl, rfl⟩ := List.cons.inj split
          rw [forall_mem_cons] at earlier
          exact each before entry after rfl earlier.2
      · intro each before entry after split earlier
        exact each (head :: before) entry after (by rw [split, cons_append])
          (forall_mem_cons.mpr ⟨anew, earlier⟩)

end Chains

end ShieldNet
