import ShieldNet.Identity.Store

/-!
# One user through the directories of a tenant

What directory sync comes to for a single email: a seat, with the status of the
local user if there is one, and whether a revocation was published. A directory
lists the email any number of times, each time as active or not, and reconciles
the seat it finds. A user whom some directory lists as active ends up active and
unrevoked exactly when the directories agree (`Seat.run_keeps_iff`): once the user is
active locally, every directory has to list the email, and only as active.
-/

namespace ShieldNet.Identity

open List

structure Seat where
  status : Option UserStatus
  revoked : Bool
  deriving DecidableEq

namespace Seat

variable (seat : Seat)

def offboard : Seat := ⟨seat.status.map fun _ => .deleted, true⟩

/-- One listing of the email, by a directory that found this status when it
began. -/
def list (known : Option UserStatus) (seat : Seat) (active : Bool) : Seat :=
  match active, known with
  | false, some _ => seat.offboard
  | false, none => seat
  | true, none => { seat with status := seat.status.or (some .active) }
  | true, some .active => seat
  | true, some _ => { seat with status := seat.status.map fun _ => .active }

/-- One directory: its listings of the email, and the sweep when there are
none. -/
def reconcile (listings : List Bool) : Seat :=
  let walked := listings.foldl (list seat.status) seat
  if listings = [] ∧ seat.status = some .active then walked.offboard else walked

def run (directories : List (List Bool)) : Seat := directories.foldl reconcile seat

/-- The directory lists the email, and only as active. -/
def OnlyActive (listings : List Bool) : Prop := listings ≠ [] ∧ false ∉ listings

variable (status : Option UserStatus)

/-- The directory leaves a user of this status alone. -/
def Untouched (listings : List Bool) : Prop :=
  match status with
  | none => true ∉ listings
  | some _ => listings = []

/-- The directory makes a user of this status active. -/
def Admitted (listings : List Bool) : Prop :=
  match status with
  | none => true ∈ listings
  | some _ => OnlyActive listings

/-- One of the directories makes a user of this status active; the ones before
it leave the user alone, and the ones after it list the email only as active. -/
def AdmittedWithin (directories : List (List Bool)) : Prop :=
  ∃ before listings after, directories = before ++ listings :: after ∧
    (∀ earlier ∈ before, Untouched status earlier) ∧ Admitted status listings ∧
    ∀ later ∈ after, OnlyActive later

/-- The directories agree that the user is active: each lists an active user's
email and only as active, and a user who is not active is admitted by them. -/
def Agree (directories : List (List Bool)) : Prop :=
  if status = some .active then ∀ listings ∈ directories, OnlyActive listings
  else AdmittedWithin status directories

/-! ## Listings -/

theorem foldl_list_revoked {seat : Seat} (revoked : seat.revoked) (known : Option UserStatus)
    (listings : List Bool) : (listings.foldl (list known) seat).revoked :=
  foldlRecOn (motive := fun seat : Seat => seat.revoked) listings _ revoked
    fun _ revoked active _ => by
      unfold list
      split <;> first | exact revoked | rfl

variable {listings : List Bool}

theorem foldl_list_revokes (known : UserStatus) (inactive : false ∈ listings)
    : (listings.foldl (list (some known)) seat).revoked := by
  obtain ⟨before, after, rfl⟩ := mem_iff_append.mp inactive
  rw [foldl_append, foldl_cons]
  exact foldl_list_revoked rfl _ _

theorem foldl_list_active (active : false ∉ listings) :
    listings.foldl (list (some .active)) seat = seat := by
  induction listings with
  | nil => rfl
  | cons listing rest ih =>
    rw [mem_cons, not_or] at active
    rw [foldl_cons, eq_true_of_ne_false (Ne.symm active.1)]
    exact ih active.2

theorem foldl_list_inactive {known : UserStatus} (inactive : known ≠ .active) (seat : Seat)
    {listings : List Bool} (only : OnlyActive listings) :
    listings.foldl (list (some known)) seat =
      { seat with status := seat.status.map fun _ => .active } := by
  have step : ∀ seat : Seat, list (some known) seat true =
      { seat with status := seat.status.map fun _ => .active } := by
    intro seat
    cases known <;> first | contradiction | rfl
  obtain ⟨nonempty, active⟩ := only
  induction listings generalizing seat with
  | nil => contradiction
  | cons listing rest ih =>
    rw [mem_cons, not_or] at active
    rw [foldl_cons, eq_true_of_ne_false (Ne.symm active.1), step]
    by_cases last : rest = []
    · rw [last, foldl_nil]
    · rw [ih _ last active.2]
      cases seat.status <;> rfl

theorem foldl_list_none (listings : List Bool) : listings.foldl (list none) seat =
    if true ∈ listings then { seat with status := seat.status.or (some .active) } else seat := by
  induction listings generalizing seat with
  | nil => rfl
  | cons listing rest ih =>
    rw [foldl_cons, ih]
    cases listing
    · simp [list]
    · simp only [list, mem_cons, true_or, if_true]
      split
      · cases seat.status <;> rfl
      · rfl

theorem offboard_idle : seat.offboard.status ≠ some .active := by
  cases status : seat.status <;> simp [offboard, status]

theorem foldl_list_idle {seat : Seat} (idle : seat.status ≠ some .active)
    (known : Option UserStatus) {listings : List Bool} (inactive : true ∉ listings) :
    (listings.foldl (list known) seat).status ≠ some .active := by
  refine foldlRecOn (motive := fun seat : Seat => seat.status ≠ some .active) listings _ idle ?_
  intro seat idle active listed
  obtain rfl : active = false := eq_false_of_ne_true fun same => inactive (same ▸ listed)
  cases known with
  | none => exact idle
  | some status => exact offboard_idle seat

/-! ## Directories -/

/-- **A directory that does not list the email as active leaves nobody
active.** -/
theorem reconcile_unlisted (inactive : true ∉ listings) :
    (reconcile seat listings).status ≠ some .active := by
  unfold reconcile
  split
  · exact offboard_idle _
  case isFalse swept =>
    by_cases active : seat.status = some .active
    · cases listings with
      | nil => exact absurd ⟨rfl, active⟩ swept
      | cons listing rest =>
        rw [mem_cons, not_or] at inactive
        rw [foldl_cons, active, eq_false_of_ne_true (Ne.symm inactive.1)]
        exact foldl_list_idle (offboard_idle seat) _ inactive.2
    · exact foldl_list_idle active _ inactive

/-- An active user stays so where only listed as active, and is revoked
otherwise. -/
theorem reconcile_active (listings : List Bool) :
    (OnlyActive listings ∧ reconcile ⟨some .active, false⟩ listings = ⟨some .active, false⟩) ∨
    (¬ OnlyActive listings ∧ (reconcile ⟨some .active, false⟩ listings).revoked) := by
  by_cases inactive : false ∈ listings
  case pos =>
    refine .inr ⟨fun only => only.2 inactive, ?_⟩
    unfold reconcile
    split
    · rfl
    · exact foldl_list_revokes _ _ inactive
  case neg =>
    by_cases empty : listings = []
    · exact .inr ⟨fun only => only.1 empty, by simp [reconcile, empty, offboard]⟩
    · exact .inl ⟨⟨empty, inactive⟩, by simp [reconcile, empty, foldl_list_active _ inactive]⟩

/-- A user who is not active is left alone, made active, or revoked. -/
theorem reconcile_inactive {status : Option UserStatus} (idle : status ≠ some .active)
    (listings : List Bool) :
    (Untouched status listings ∧ ¬ Admitted status listings ∧
      reconcile ⟨status, false⟩ listings = ⟨status, false⟩) ∨
    (Admitted status listings ∧ ¬ Untouched status listings ∧
      reconcile ⟨status, false⟩ listings = ⟨some .active, false⟩) ∨
    (¬ Untouched status listings ∧ ¬ Admitted status listings ∧
      (reconcile ⟨status, false⟩ listings).revoked) := by
  have walked : reconcile ⟨status, false⟩ listings = listings.foldl (list status) ⟨status, false⟩ :=
    if_neg fun swept => idle swept.2
  rw [walked]
  cases status with
  | none =>
    rw [foldl_list_none]
    by_cases active : true ∈ listings
    · exact .inr (.inl ⟨active, fun quiet => quiet active, by simp [active]⟩)
    · exact .inl ⟨active, active, by simp [active]⟩
  | some known =>
    have inactive : known ≠ .active := fun same => idle (congrArg some same)
    by_cases empty : listings = []
    · exact .inl ⟨empty, fun only => only.1 empty, by rw [empty, foldl_nil]⟩
    · by_cases listed : false ∈ listings
      · exact .inr (.inr ⟨empty, fun only => only.2 listed, foldl_list_revokes _ _ listed⟩)
      · exact .inr (.inl ⟨⟨empty, listed⟩, empty, foldl_list_inactive inactive _ ⟨empty, listed⟩⟩)

/-! ## Runs -/

def Keeps : Prop := seat.status = some .active ∧ seat.revoked = false

theorem not_keeps_of_revoked {seat : Seat} (revoked : seat.revoked)
    (directories : List (List Bool)) : ¬ (run seat directories).Keeps := by
  intro keeps
  have still : (run seat directories).revoked :=
    foldlRecOn (motive := fun seat : Seat => seat.revoked) directories _ revoked
      fun _ revoked listings _ => by
        unfold reconcile
        split
        · rfl
        · exact foldl_list_revoked revoked _ _
  rw [keeps.2] at still
  cases still

theorem run_active_keeps_iff (directories : List (List Bool)) :
    (run ⟨some .active, false⟩ directories).Keeps ↔
      ∀ listings ∈ directories, OnlyActive listings := by
  induction directories with
  | nil => simp [run, Keeps]
  | cons listings rest ih =>
    rw [forall_mem_cons]
    rcases reconcile_active listings with ⟨only, same⟩ | ⟨other, revoked⟩
    · rw [run, foldl_cons, same, and_iff_right only]
      exact ih
    · exact iff_of_false (not_keeps_of_revoked revoked rest) fun agree => other agree.1

theorem admittedWithin_cons_iff {status : Option UserStatus} {rest : List (List Bool)} :
    AdmittedWithin status (listings :: rest) ↔
      (Admitted status listings ∧ ∀ later ∈ rest, OnlyActive later) ∨
      (Untouched status listings ∧ AdmittedWithin status rest) := by
  constructor
  · rintro ⟨before, current, after, split, quiet, admitted, only⟩
    cases before with
    | nil =>
      obtain ⟨rfl, rfl⟩ := List.cons.inj split
      exact .inl ⟨admitted, only⟩
    | cons first before =>
      obtain ⟨rfl, rfl⟩ := List.cons.inj split
      rw [forall_mem_cons] at quiet
      exact .inr ⟨quiet.1, before, current, after, rfl, quiet.2, admitted, only⟩
  · rintro (⟨admitted, only⟩ | ⟨untouched, before, current, after, rfl, quiet, admitted, only⟩)
    · exact ⟨[], listings, rest, rfl, nofun, admitted, only⟩
    · exact ⟨listings :: before, current, after, rfl,
        forall_mem_cons.mpr ⟨untouched, quiet⟩, admitted, only⟩

/-- **The user ends up active and unrevoked exactly when the directories
agree.** -/
theorem run_keeps_iff (directories : List (List Bool)) :
    (run ⟨status, false⟩ directories).Keeps ↔ Agree status directories := by
  unfold Agree
  split
  case isTrue active => rw [active, run_active_keeps_iff]
  case isFalse idle =>
    induction directories with
    | nil => simp [run, Keeps, idle, AdmittedWithin]
    | cons listings rest ih =>
      rw [admittedWithin_cons_iff]
      rcases reconcile_inactive idle listings with
        ⟨quiet, notAdmitted, same⟩ | ⟨admitted, notQuiet, becomes⟩ |
          ⟨notQuiet, notAdmitted, revoked⟩
      · rw [run, foldl_cons, same]
        simp only [quiet, notAdmitted, false_and, true_and, false_or]
        exact ih
      · rw [run, foldl_cons, becomes]
        simp only [admitted, notQuiet, false_and, true_and, or_false]
        exact run_active_keeps_iff rest
      · refine iff_of_false (not_keeps_of_revoked revoked rest) ?_
        simp [notQuiet, notAdmitted]

theorem run_unlisted {directories : List (List Bool)} (synced : directories ≠ [])
    (unlisted : ∀ listings ∈ directories, true ∉ listings) :
    (run seat directories).status ≠ some .active := by
  obtain ⟨before, last, rfl⟩ : ∃ before last, directories = before ++ [last] :=
    ⟨_, _, (dropLast_append_getLast synced).symm⟩
  rw [run, foldl_append]
  exact reconcile_unlisted _ (unlisted last (by simp))

end Seat
end ShieldNet.Identity
