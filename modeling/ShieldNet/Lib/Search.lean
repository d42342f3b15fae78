import ShieldNet.Lib.Text

/-!
# Searching a text for several words at once

An automaton over a list of words walks a text once and reports hits that do not
overlap. Where a hit is reported, the occurrences that overlap it go unreported,
whichever word they are of.

`Scan` is the contract: each hit is an occurrence that begins no earlier than the
last one ends, and no occurrence is over before the hit begins. It holds of
searches for the leftmost hit and of those that stop at the first end alike. Its
consequence is that every occurrence overlaps a hit (`Scan.overlaps`).
-/

namespace ShieldNet.Search

open List

structure Hit where
  word : Nat
  start : Nat
  stop : Nat

def OccursAt (word text : Text) (start stop : Nat) : Prop :=
  ∃ before after, text = before ++ word ++ after ∧ start = before.length ∧
    stop = before.length + word.length

def Occurs (words : List Text) (text : Text) (hit : Hit) : Prop :=
  ∃ word, words[hit.word]? = some word ∧ OccursAt word text hit.start hit.stop

/-- What a walk reports from a place on. -/
inductive Scan (words : List Text) (text : Text) : Nat → List Hit → Prop where
  | ends {place} (none : ∀ hit, Occurs words text hit → hit.start < place) :
      Scan words text place []
  | hit {place} (hit : Hit) {rest} (occurs : Occurs words text hit)
      (next : place ≤ hit.start)
      (first : ∀ other, Occurs words text other → place ≤ other.start → hit.start < other.stop)
      (more : Scan words text hit.stop rest) : Scan words text place (hit :: rest)

variable {words : List Text} {text : Text} {place : Nat} {hits : List Hit}

theorem Scan.occurs (scan : Scan words text place hits) : ∀ hit ∈ hits, Occurs words text hit := by
  induction scan with
  | ends => exact fun _ member => absurd member not_mem_nil
  | hit hit occurs _ _ _ ih =>
    intro other member
    rcases mem_cons.mp member with rfl | later
    · exact occurs
    · exact ih other later

/-- **Every occurrence overlaps a hit.** -/
theorem Scan.overlaps (scan : Scan words text place hits) {other : Hit}
    (occurs : Occurs words text other) (ahead : place ≤ other.start) :
    ∃ hit ∈ hits, hit.start < other.stop ∧ other.start < hit.stop := by
  induction scan with
  | ends none => exact absurd (none other occurs) (Nat.not_lt.mpr ahead)
  | hit hit _ _ first _ ih =>
    by_cases behind : hit.stop ≤ other.start
    · obtain ⟨later, member, overlaps⟩ := ih behind
      exact ⟨later, mem_cons_of_mem _ member, overlaps⟩
    · exact ⟨hit, mem_cons_self, first other occurs ahead, Nat.not_le.mp behind⟩

/-! ## A search that keeps the contract -/

/-- Walk a text and take at each place the first word that begins there. `skip` are the
characters that the last hit still covers. -/
def leftmostFirst (words : List Text) : Nat → Nat → Text → List Hit
  | _, _, [] => []
  | place, skip + 1, _ :: rest => leftmostFirst words (place + 1) skip rest
  | place, 0, c :: rest =>
    match words.findIdx? (·.isPrefixOf (c :: rest)) with
    | none => leftmostFirst words (place + 1) 0 rest
    | some index =>
      let size := (words[index]?.getD []).length
      ⟨index, place, place + size⟩ :: leftmostFirst words (place + 1) (size - 1) rest

theorem OccursAt.split {word before rest : Text} {start stop : Nat}
    (occurs : OccursAt word (before ++ rest) start stop) (here : start = before.length) :
    word.isPrefixOf rest ∧ stop = start + word.length := by
  obtain ⟨front, after, shape, starts, stops⟩ := occurs
  rw [append_assoc] at shape
  have fronts := (append_inj shape (by omega)).2
  exact ⟨List.isPrefixOf_iff_prefix.mpr ⟨after, fronts.symm⟩, by omega⟩

theorem OccursAt.stop_le {word : Text} {start stop : Nat}
    (occurs : OccursAt word text start stop) : stop ≤ text.length := by
  obtain ⟨before, after, rfl, -, rfl⟩ := occurs
  simp only [length_append]
  omega

theorem OccursAt.start_lt {word : Text} {start stop : Nat}
    (occurs : OccursAt word text start stop) (nonempty : word ≠ []) : start < stop := by
  obtain ⟨before, after, -, rfl, rfl⟩ := occurs
  have size := length_pos_iff.mpr nonempty
  omega

/-- Where no word begins at a place, a walk may as well begin there. -/
theorem Scan.back (scan : Scan words text (place + 1) hits)
    (nothing : ∀ hit, Occurs words text hit → hit.start ≠ place) : Scan words text place hits := by
  have skip : ∀ hit, Occurs words text hit → place ≤ hit.start → place + 1 ≤ hit.start :=
    fun hit occurs ahead => Nat.lt_of_le_of_ne ahead (nothing hit occurs).symm
  cases scan with
  | ends none =>
    exact .ends fun hit occurs => Nat.not_le.mp fun ahead =>
      absurd (none hit occurs) (Nat.not_lt.mpr (skip hit occurs ahead))
  | hit hit occurs next first more =>
    exact .hit hit occurs (by omega)
      (fun other occurs ahead => first other occurs (skip other occurs ahead)) more

/-- The walk over what is left of a text keeps the contract. -/
theorem leftmostFirst_scan (nonempty : ∀ word ∈ words, word ≠ []) :
    ∀ (rest before : Text) (skip : Nat), text = before ++ rest →
      Scan words text (before.length + skip) (leftmostFirst words before.length skip rest) := by
  intro rest
  induction rest with
  | nil =>
    intro before skip shape
    refine .ends fun hit ⟨word, listed, occurs⟩ => ?_
    have starts := occurs.start_lt (nonempty word (mem_of_getElem? listed))
    have stops := occurs.stop_le
    have size : text.length = before.length := by rw [shape, append_nil]
    omega
  | cons c rest ih =>
    intro before skip shape
    have advance := fun skip =>
      ih (before ++ [c]) skip (by rw [shape, append_assoc]; rfl)
    simp only [length_append, length_singleton] at advance
    cases skip with
    | succ skip =>
      rw [leftmostFirst, show before.length + (skip + 1) = before.length + 1 + skip by omega]
      exact advance skip
    | zero =>
      rw [leftmostFirst]
      split
      case h_1 unmatched =>
        rw [findIdx?_eq_none_iff] at unmatched
        refine (advance 0).back fun hit ⟨word, listed, occurs⟩ here => ?_
        rw [shape] at occurs
        have begins := (occurs.split here).1
        rw [unmatched word (mem_of_getElem? listed)] at begins
        exact Bool.false_ne_true begins
      case h_2 index matched =>
        obtain ⟨listed, begins, -⟩ := findIdx?_eq_some_iff_getElem.mp matched
        have word := getElem?_eq_getElem listed
        have size := length_pos_iff.mpr (nonempty _ (getElem_mem listed))
        obtain ⟨after, shapes⟩ := isPrefixOf_iff_prefix.mp begins
        simp only [word, Option.getD_some]
        refine .hit _ ⟨_, word, before, after, ?_, rfl, rfl⟩ (Nat.le_refl _) ?_ ?_
        · rw [shape, append_assoc, shapes]
        · intro other ⟨found, listed, occurs⟩ ahead
          have starts := occurs.start_lt (nonempty found (mem_of_getElem? listed))
          exact Nat.lt_of_le_of_lt ahead starts
        · have more := advance (words[index].length - 1)
          rw [show before.length + 1 + (words[index].length - 1) =
            before.length + words[index].length by omega] at more
          exact more

end ShieldNet.Search
