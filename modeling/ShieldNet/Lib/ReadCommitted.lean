import ShieldNet.Lib.Table

/-!
# Tables under read committed

A table whose rows have a key and a status, with transactions open on it. Each
row has the status that is committed, if its insert is, and at most one change of
an open transaction: a row that is being changed is locked. A partial unique index
allows one row of an exclusive status.

An insert of an exclusive row waits while a row that could hold the index is being
changed by another transaction, and is refused while one holds it. An update names
a row that its snapshot found, waits for the lock, and then looks at the status
that is committed by now. Both are statements of a transaction that commits or
rolls back later.

What every schedule keeps is a field of the database: at most one exclusive row is
committed (`status_unique`), and the status of a row moves only along the changes
that statements may make (`status_commit`).
-/

namespace ShieldNet.ReadCommitted

open Table Option

variable {κ S : Type}

/-! ## Rows -/

/-- A row: its committed status, and the change of the transaction that has it
locked. -/
structure Row (κ S : Type) where
  key : κ
  committed : Option S
  change : Option (Nat × S)

open Row

/-- Which statuses the partial unique index covers, and how a status may move. -/
structure Rules (S : Type) where
  exclusive : S → Bool
  moves : S → S → Bool

namespace Row

variable (rules : Rules S) (row : Row κ S) (tx : Nat)

def changeBy : Option S :=
  row.change.bind fun change => if change.1 = tx then some change.2 else none

def seenBy : Option S := (row.changeBy tx).or row.committed

def Holds : Prop := ∃ status, row.committed = some status ∧ rules.exclusive status = true

def Claims : Prop := ∃ status, row.change = some (tx, status) ∧ rules.exclusive status = true

/-- An insert of the key by the transaction has to wait for another to end. -/
def blocks [DecidableEq κ] (key : κ) : Bool := row.change.any fun change => change.1 ≠ tx &&
    (row.key = key || rules.exclusive change.2 || row.committed.any rules.exclusive)

/-- An insert of the key by the transaction violates an index. -/
def clashes [DecidableEq κ] (key : κ) : Bool := row.key = key || (row.seenBy tx).any rules.exclusive

def commit : Row κ S :=
  match row.changeBy tx with
  | some status => { row with committed := some status, change := none }
  | none => row

/-- The row once the transaction has rolled back: an insert is gone. -/
def rollback : Option (Row κ S) :=
  match row.changeBy tx with
  | some _ => row.committed.map fun _ => { row with change := none }
  | none => some row

end Row

section Rows

variable {rules : Rules S} {row new : Row κ S} {tx other : Nat} {status : S}

theorem Row.changeBy_eq_some_iff :
    row.changeBy tx = some status ↔ row.change = some (tx, status) := by
  unfold changeBy
  cases row.change with
  | none => simp
  | some change =>
    obtain ⟨writer, written⟩ := change
    by_cases same : writer = tx <;> simp [same]

theorem Row.commit_key : (row.commit tx).key = row.key := by
  unfold commit
  split <;> rfl

theorem Row.rollback_key (kept : row.rollback tx = some new) : new.key = row.key := by
  unfold rollback at kept
  split at kept
  case h_1 =>
    obtain ⟨-, -, rfl⟩ := map_eq_some_iff.mp kept
    rfl
  cases kept
  rfl

theorem Row.commit_cases : (∃ status, row.change = some (tx, status) ∧
      row.commit tx = { row with committed := some status, change := none }) ∨
    (row.changeBy tx = none ∧ row.commit tx = row) := by
  unfold commit
  cases changed : row.changeBy tx with
  | none => exact .inr ⟨rfl, rfl⟩
  | some status => exact .inl ⟨status, changeBy_eq_some_iff.mp changed, rfl⟩

theorem Row.not_changed (unchanged : row.changeBy tx = none) : row.change ≠ some (tx, status) := by
  intro changed
  rw [changeBy_eq_some_iff.mpr changed] at unchanged
  cases unchanged

theorem Row.rollback_cases (kept : row.rollback tx = some new) : new.committed = row.committed ∧
    ((∃ old status, row.committed = some old ∧ row.change = some (tx, status) ∧
      new.change = none) ∨ (row.changeBy tx = none ∧ new = row)) := by
  unfold rollback at kept
  cases changed : row.changeBy tx with
  | none =>
    rw [changed] at kept
    cases kept
    exact ⟨rfl, .inr ⟨rfl, rfl⟩⟩
  | some status =>
    rw [changed] at kept
    obtain ⟨old, committed, rfl⟩ := map_eq_some_iff.mp kept
    exact ⟨rfl, .inl ⟨old, status, committed, changeBy_eq_some_iff.mp changed, rfl⟩⟩

theorem Row.changeBy_commit :
    (row.commit tx).changeBy other = if other = tx then none else row.changeBy other := by
  rcases @Row.commit_cases _ _ row tx with ⟨status, changed, result⟩ | ⟨unchanged, result⟩
  · rw [result]
    simp [changeBy, changed, eq_comm]
  · rw [result]
    split
    case isTrue same => rw [same, unchanged]
    case isFalse => rfl

theorem Row.changeBy_rollback : (row.rollback tx).bind (fun row => row.changeBy other) =
    if other = tx then none else row.changeBy other := by
  unfold rollback
  cases changed : row.changeBy tx with
  | none =>
    dsimp only [bind_some]
    split
    case isTrue same => rw [same, changed]
    case isFalse => rfl
  | some status =>
    have locked := changeBy_eq_some_iff.mp changed
    cases row.committed <;> simp [changeBy, locked, eq_comm]

end Rows

/-! ## Databases -/

variable [DecidableEq κ]

abbrev Rows (κ S : Type) := Table fun row : Row κ S => row.key

structure Consistent (rules : Rules S) (table : Rows κ S) : Prop where
  /-- A row that is not committed is the insert of an exclusive row. -/
  inserted : ∀ {key row}, table.find? key = some row → row.committed = none →
    ∃ tx, row.Claims rules tx
  /-- A committed row is changed along the rules, and not into the index. -/
  forward : ∀ {key row old tx new}, table.find? key = some row → row.committed = some old →
    row.change = some (tx, new) → rules.moves old new = true ∧ rules.exclusive new = false
  oneHolds : ∀ {key other row row'}, table.find? key = some row → table.find? other = some row' →
    row.Holds rules → row'.Holds rules → key = other
  oneClaims : ∀ {key other row row' tx tx'}, table.find? key = some row →
    table.find? other = some row' → row.Claims rules tx → row'.Claims rules tx' → key = other
  /-- A transaction that claims the index has locked the row that holds it. -/
  retires : ∀ {key other row row' tx}, table.find? key = some row →
    table.find? other = some row' → row.Holds rules → row'.Claims rules tx →
      ∃ status, row.change = some (tx, status)

structure Database (κ : Type) {S : Type} [DecidableEq κ] (rules : Rules S) where
  table : Rows κ S
  nextTx : Nat
  consistent : Consistent rules table

inductive Outcome (α : Type) where
  | waits
  | refused
  | done (result : α)

namespace Consistent

variable {rules : Rules S} {table stored : Rows κ S} {tx : Nat} {key : κ} {status : S}

/-! ### Inserts -/

variable {row : Row κ S}

/-- A row in the way of no insert of the transaction is locked by it if it holds the
index. -/
theorem change_of_free (unblocked : row.blocks rules tx key = false)
    (unclashed : row.clashes rules tx key = false) (holds : row.Holds rules) :
    ∃ status, row.change = some (tx, status) := by
  obtain ⟨old, committed, exclusive⟩ := holds
  cases changed : row.change with
  | none => simp [clashes, seenBy, changeBy, changed, committed, exclusive] at unclashed
  | some change =>
    obtain ⟨writer, written⟩ := change
    refine ⟨written, ?_⟩
    by_cases own : writer = tx
    · rw [own]
    · simp [blocks, changed, own, committed, exclusive] at unblocked

/-- A row in the way of no insert claims nothing. -/
theorem not_claims_of_free {writer : Nat} (unblocked : row.blocks rules tx key = false)
    (unclashed : row.clashes rules tx key = false) : ¬ row.Claims rules writer := by
  rintro ⟨written, changed, exclusive⟩
  by_cases own : writer = tx
  · simp [clashes, seenBy, changeBy, changed, own, exclusive] at unclashed
  · simp [blocks, changed, own, exclusive] at unblocked

/-- A table is consistent with a row put in, or in the place of an unlocked one. -/
theorem with_row (new : Row κ S) (consistent : Consistent rules table)
    (lookup : ∀ {k row}, stored.find? k = some row →
      (k = key ∧ row = new) ∨ table.find? k = some row)
    (inserted : new.committed = none → ∃ tx, new.Claims rules tx)
    (forward : ∀ {old tx status}, new.committed = some old → new.change = some (tx, status) →
      rules.moves old status ∧ rules.exclusive status = false)
    (holder : new.Holds rules →
      ∃ row, table.find? key = some row ∧ row.Holds rules ∧ row.change = none)
    (claimer : ∀ {tx}, new.Claims rules tx → ∀ {k row}, table.find? k = some row →
      (∀ {other}, ¬ row.Claims rules other) ∧
        (row.Holds rules → ∃ status, row.change = some (tx, status))) :
    Consistent rules stored := by
  have heldBefore : ∀ {k row}, stored.find? k = some row → row.Holds rules →
      ∃ row, table.find? k = some row ∧ row.Holds rules := by
    intro k row found holds
    rcases lookup found with ⟨rfl, rfl⟩ | old
    · obtain ⟨row, before, held, -⟩ := holder holds
      exact ⟨row, before, held⟩
    · exact ⟨row, old, holds⟩
  constructor
  · intro k row found uncommitted
    rcases lookup found with ⟨-, rfl⟩ | old
    · exact inserted uncommitted
    · exact consistent.inserted old uncommitted
  · intro k row old writer status found committed changed
    rcases lookup found with ⟨-, rfl⟩ | before
    · exact forward committed changed
    · exact consistent.forward before committed changed
  · intro k k' row row' found found' holds holds'
    obtain ⟨_, before, held⟩ := heldBefore found holds
    obtain ⟨_, before', held'⟩ := heldBefore found' holds'
    exact consistent.oneHolds before before' held held'
  · intro k k' row row' writer writer' found found' claims claims'
    rcases lookup found with ⟨rfl, rfl⟩ | old
    · rcases lookup found' with ⟨rfl, -⟩ | old'
      · rfl
      · exact absurd claims' (claimer claims old').1
    · rcases lookup found' with ⟨rfl, rfl⟩ | old'
      · exact absurd claims (claimer claims' old).1
      · exact consistent.oneClaims old old' claims claims'
  · intro k k' row row' writer found found' holds claims
    rcases lookup found' with ⟨rfl, rfl⟩ | old'
    · rcases lookup found with ⟨-, rfl⟩ | old
      · obtain ⟨status, changed, -⟩ := claims
        exact ⟨status, changed⟩
      · exact (claimer claims old).2 holds
    · rcases lookup found with ⟨rfl, rfl⟩ | old
      · -- the row would be locked by the transaction that claims the index
        obtain ⟨_, before, held, unlocked⟩ := holder holds
        obtain ⟨_, changed⟩ := consistent.retires before old' held claims
        rw [unlocked] at changed
        cases changed
      · exact consistent.retires old old' holds claims

/-- **An insert that nothing blocks or refuses keeps the table consistent.** -/
theorem insert (consistent : Consistent rules table)
    (unblocked : ∀ row ∈ table.rows, row.blocks rules tx key = false)
    (unclashed : ∀ row ∈ table.rows, row.clashes rules tx key = false)
    (exclusive : rules.exclusive status)
    (inserted : table.insert? ⟨key, none, some (tx, status)⟩ = some stored) :
    Consistent rules stored := by
  apply with_row ⟨key, none, some (tx, status)⟩ consistent
  · intro k row found
    rw [find?_insert? inserted] at found
    split at found
    case isTrue same => exact .inl ⟨same, (Option.some.inj found).symm⟩
    case isFalse => exact .inr found
  · intro _
    exact ⟨tx, status, rfl, exclusive⟩
  · intro _ _ _ committed
    cases committed
  · rintro ⟨_, committed, -⟩
    cases committed
  · rintro writer ⟨_, changed, -⟩ k row found
    cases changed
    have listed := (find?_eq_some_iff.mp found).1
    exact ⟨not_claims_of_free (unblocked row listed) (unclashed row listed),
      change_of_free (unblocked row listed) (unclashed row listed)⟩

/-! ### Updates -/

/-- **A change of an unlocked row along the rules keeps the table consistent.** -/
theorem update {old : S} (consistent : Consistent rules table)
    (found : table.find? key = some row) (unlocked : row.change = none)
    (committed : row.committed = some old) (moves : rules.moves old status)
    (leaves : rules.exclusive status = false) :
    Consistent rules (table.modify key (fun row => { row with change := some (tx, status) })
      fun _ same => same) := by
  apply with_row { row with change := some (tx, status) } consistent
  · intro k row' isThere
    rw [find?_modify, found] at isThere
    split at isThere
    case isTrue same => exact .inl ⟨same, (Option.some.inj isThere).symm⟩
    case isFalse => exact .inr isThere
  · intro uncommitted
    cases committed.symm.trans uncommitted
  · intro _ _ _ committed' changed
    cases changed
    cases committed.symm.trans committed'
    exact ⟨moves, leaves⟩
  · intro holds
    exact ⟨row, found, holds, unlocked⟩
  · rintro writer ⟨_, changed, exclusive⟩
    cases changed
    rw [leaves] at exclusive
    cases exclusive

/-! ### Ends of transactions -/

/-- The table when a transaction has ended: none of its changes is left, and the rows that it
changed are committed. -/
theorem ended (tx : Nat) (consistent : Consistent rules table)
    (lookup : ∀ {k row'}, stored.find? k = some row' → ∃ row, table.find? k = some row ∧
      (row'.committed.isSome ∧ row'.change = none ∨ row.changeBy tx = none ∧ row' = row))
    (oneHolds : ∀ {k k' row row'}, stored.find? k = some row → stored.find? k' = some row' →
      row.Holds rules → row'.Holds rules → k = k')
    (retires : ∀ {k k' row row' writer}, stored.find? k = some row → table.find? k' = some row' →
      row'.changeBy tx = none → row.Holds rules → row'.Claims rules writer →
        ∃ status, row.change = some (writer, status)) : Consistent rules stored := by
  have claimed : ∀ {k row writer}, stored.find? k = some row → row.Claims rules writer →
      table.find? k = some row ∧ row.changeBy tx = none := by
    rintro k row writer found ⟨_, changed, -⟩
    obtain ⟨_, before, ⟨-, gone⟩ | ⟨unchanged, rfl⟩⟩ := lookup found
    · cases gone.symm.trans changed
    · exact ⟨before, unchanged⟩
  constructor
  · intro k row found uncommitted
    obtain ⟨_, before, ⟨committed, -⟩ | ⟨-, rfl⟩⟩ := lookup found
    · simp [uncommitted] at committed
    · exact consistent.inserted before uncommitted
  · intro k row old writer new found committed changed
    obtain ⟨_, before, ⟨-, gone⟩ | ⟨-, rfl⟩⟩ := lookup found
    · cases gone.symm.trans changed
    · exact consistent.forward before committed changed
  · exact oneHolds
  · intro k k' row row' writer writer' found found' claims claims'
    exact consistent.oneClaims (claimed found claims).1 (claimed found' claims').1 claims claims'
  · intro k k' row row' writer found found' holds claims
    obtain ⟨before', unchanged'⟩ := claimed found' claims
    exact retires found before' unchanged' holds claims

/-- **A commit keeps the table consistent.** -/
theorem commit (consistent : Consistent rules table) :
    Consistent rules (table.filterMap (fun row => some (row.commit tx)) fun _ _ same =>
      Option.some.inj same ▸ commit_key) := by
  have lookup : ∀ {k row'}, (table.filterMap (fun row => some (row.commit tx)) fun _ _ same =>
      Option.some.inj same ▸ commit_key).find? k = some row' →
      ∃ row, table.find? k = some row ∧ row' = row.commit tx := by
    intro k row' found
    rw [find?_filterMap, bind_eq_some_iff] at found
    obtain ⟨row, before, same⟩ := found
    exact ⟨row, before, (Option.some.inj same).symm⟩
  -- a row holds the index then if it claimed it, or held it and was not changed
  have held : ∀ {row : Row κ S}, (row.commit tx).Holds rules → row.Claims rules tx ∨
      row.commit tx = row ∧ row.Holds rules ∧ row.changeBy tx = none := by
    rintro row ⟨status, committed, exclusive⟩
    rcases @Row.commit_cases _ _ row tx with ⟨_, changed, result⟩ | ⟨unchanged, result⟩
    · rw [result] at committed
      cases committed
      exact .inl ⟨status, changed, exclusive⟩
    · rw [result] at committed
      exact .inr ⟨result, ⟨status, committed, exclusive⟩, unchanged⟩
  apply consistent.ended tx
  · intro k row' found
    obtain ⟨row, before, rfl⟩ := lookup found
    refine ⟨row, before, ?_⟩
    rcases @Row.commit_cases _ _ row tx with ⟨_, -, result⟩ | ⟨unchanged, result⟩
    · rw [result]
      exact .inl ⟨rfl, rfl⟩
    · exact .inr ⟨unchanged, result⟩
  · intro k k' first second found found' holds holds'
    obtain ⟨row, before, rfl⟩ := lookup found
    obtain ⟨row', before', rfl⟩ := lookup found'
    rcases held holds with claims | ⟨-, holds, unchanged⟩ <;>
      rcases held holds' with claims' | ⟨-, holds', unchanged'⟩
    · exact consistent.oneClaims before before' claims claims'
    · obtain ⟨_, locked⟩ := consistent.retires before' before holds' claims
      exact absurd locked (not_changed unchanged')
    · obtain ⟨_, locked⟩ := consistent.retires before before' holds claims'
      exact absurd locked (not_changed unchanged)
    · exact consistent.oneHolds before before' holds holds'
  · intro k k' first row' writer found before' unchanged' holds claims
    obtain ⟨row, before, rfl⟩ := lookup found
    rcases held holds with claims' | ⟨result, holds, -⟩
    · -- the row came into the index by this commit, so nothing else claimed it
      cases consistent.oneClaims before before' claims' claims
      cases before.symm.trans before'
      obtain ⟨_, changed, -⟩ := claims'
      exact absurd changed (not_changed unchanged')
    · rw [result]
      exact consistent.retires before before' holds claims

/-- **A rollback keeps the table consistent.** -/
theorem rollback (consistent : Consistent rules table) :
    Consistent rules (table.filterMap (fun row => row.rollback tx) fun _ _ => rollback_key) := by
  have lookup : ∀ {k row'}, (table.filterMap (fun row => row.rollback tx)
      fun _ _ => rollback_key).find? k = some row' →
      ∃ row, table.find? k = some row ∧ row'.committed = row.committed ∧
        ((∃ old status, row.committed = some old ∧ row.change = some (tx, status) ∧
          row'.change = none) ∨ (row.changeBy tx = none ∧ row' = row)) := by
    intro k row' found
    rw [find?_filterMap, bind_eq_some_iff] at found
    obtain ⟨row, before, kept⟩ := found
    exact ⟨row, before, rollback_cases kept⟩
  apply consistent.ended tx
  · intro k row' found
    obtain ⟨row, before, same, ⟨old, _, committed, -, gone⟩ | kept⟩ := lookup found
    · exact ⟨row, before, .inl ⟨by simp [same, committed], gone⟩⟩
    · exact ⟨row, before, .inr kept⟩
  · intro k k' first second found found' holds holds'
    obtain ⟨row, before, same, -⟩ := lookup found
    obtain ⟨row', before', same', -⟩ := lookup found'
    rw [Holds, same] at holds
    rw [Holds, same'] at holds'
    exact consistent.oneHolds before before' holds holds'
  · intro k k' first row' writer found before' unchanged' holds claims
    obtain ⟨row, before, same, rest⟩ := lookup found
    rw [Holds, same] at holds
    obtain ⟨status, locked⟩ := consistent.retires before before' holds claims
    rcases rest with ⟨_, _, -, changed, -⟩ | ⟨-, rfl⟩
    · -- the lock would be the one that is rolled back, and the claim with it
      cases changed.symm.trans locked
      obtain ⟨_, claimed, -⟩ := claims
      exact absurd claimed (not_changed unchanged')
    · exact ⟨status, locked⟩

end Consistent

/-! ## Statements -/

namespace Database

variable {rules : Rules S} (db : Database κ rules)

def status (key : κ) : Option S := (db.table.find? key).bind committed

variable (tx : Nat)

def changeOf (key : κ) : Option S := (db.table.find? key).bind fun row => row.changeBy tx

def hasHistory : Bool := db.table.rows.any fun row => row.committed.isSome

def holder : Option κ := (db.table.rows.find? fun row => row.committed.any rules.exclusive).map key

def begin : Database κ rules := { db with nextTx := db.nextTx + 1 }

def insert (key : κ) (status : S) (exclusive : rules.exclusive status = true) :
    Outcome (Database κ rules) :=
  if unblocked : ∀ row ∈ db.table.rows, row.blocks rules tx key = false then
    if unclashed : ∀ row ∈ db.table.rows, row.clashes rules tx key = false then
      match inserted : db.table.insert? ⟨key, none, some (tx, status)⟩ with
      | none => .refused
      | some table => .done { db with
          table
          consistent := db.consistent.insert unblocked unclashed exclusive inserted }
    else .refused
  else .waits

/-- The update of a row to a status outside the index, if its status then is one of
those allowed. A transaction that has changed the row before does not update it. -/
def update (key : κ) (allowed : S → Bool) (status : S)
    (legal : ∀ old, allowed old = true → rules.moves old status = true)
    (leaves : rules.exclusive status = false) : Outcome (Database κ rules) :=
  match found : db.table.find? key with
  | none => .refused
  | some row =>
    match unlocked : row.change with
    | some (writer, _) => if writer = tx then .refused else .waits
    | none =>
      match committed : row.committed with
      | none => .refused
      | some old =>
        if allows : allowed old = true then
          .done { db with
            table := db.table.modify key (fun row => { row with change := some (tx, status) })
              fun _ same => same
            consistent := db.consistent.update found unlocked committed (legal old allows) leaves }
        else .refused

def commit : Database κ rules where
  table := db.table.filterMap (fun row => some (row.commit tx)) fun _ _ same =>
    Option.some.inj same ▸ commit_key
  nextTx := db.nextTx
  consistent := db.consistent.commit

def rollback : Database κ rules where
  table := db.table.filterMap (fun row => row.rollback tx) fun _ _ => rollback_key
  nextTx := db.nextTx
  consistent := db.consistent.rollback

/-! ## What statements do -/

variable {db} {stored : Database κ rules} {tx other : Nat} {key k : κ} {new old : S}

theorem status_eq_some_iff :
    db.status key = some old ↔ ∃ row, db.table.find? key = some row ∧ row.committed = some old :=
  bind_eq_some_iff

theorem changeOf_eq_some_iff : db.changeOf tx key = some new ↔
    ∃ row, db.table.find? key = some row ∧ row.change = some (tx, new) := by
  simp only [changeOf, bind_eq_some_iff, changeBy_eq_some_iff]

theorem hasHistory_eq_false_iff : db.hasHistory = false ↔ ∀ key, db.status key = none := by
  rw [hasHistory, List.any_eq_false]
  constructor
  · intro none key
    cases found : db.table.find? key with
    | none => rw [status, found, bind_none]
    | some row =>
      rw [status, found, bind_some]
      simpa using none row (find?_eq_some_iff.mp found).1
  · intro none row listed
    have found := none row.key
    rw [status, find?_eq_some_iff.mpr ⟨listed, rfl⟩, bind_some] at found
    simp [found]

/-- **One exclusive row is committed at most.** -/
theorem status_unique (holds : db.status key = some old) (exclusive : rules.exclusive old)
    (holds' : db.status k = some new) (exclusive' : rules.exclusive new) : key = k := by
  obtain ⟨row, found, committed⟩ := status_eq_some_iff.mp holds
  obtain ⟨row', found', committed'⟩ := status_eq_some_iff.mp holds'
  exact db.consistent.oneHolds found found' ⟨old, committed, exclusive⟩
    ⟨new, committed', exclusive'⟩

theorem moves_of_changeOf (committed : db.status key = some old)
    (changed : db.changeOf tx key = some new) : rules.moves old new := by
  obtain ⟨row, found, committed⟩ := status_eq_some_iff.mp committed
  obtain ⟨row', found', changed⟩ := changeOf_eq_some_iff.mp changed
  cases Option.some.inj (found.symm.trans found')
  exact (db.consistent.forward found committed changed).1

theorem exclusive_of_changeOf (uncommitted : db.status key = none)
    (changed : db.changeOf tx key = some new) : rules.exclusive new := by
  obtain ⟨row, found, changed⟩ := changeOf_eq_some_iff.mp changed
  rw [status, found, bind_some] at uncommitted
  obtain ⟨writer, written, claimed, exclusive⟩ := db.consistent.inserted found uncommitted
  cases changed.symm.trans claimed
  exact exclusive

/-- One open transaction claims the index at most. -/
theorem changeOf_unique {new' : S} (claims : db.changeOf tx key = some new)
    (exclusive : rules.exclusive new) (claims' : db.changeOf other k = some new')
    (exclusive' : rules.exclusive new') : tx = other := by
  obtain ⟨row, found, changed⟩ := changeOf_eq_some_iff.mp claims
  obtain ⟨row', found', changed'⟩ := changeOf_eq_some_iff.mp claims'
  cases db.consistent.oneClaims found found' ⟨new, changed, exclusive⟩ ⟨new', changed', exclusive'⟩
  cases Option.some.inj (found.symm.trans found')
  cases changed.symm.trans changed'
  rfl

/-- What a statement that is done has done: one change more of its transaction. -/
structure Written (db : Database κ rules) (tx : Nat) (key : κ) (new : S)
    (stored : Database κ rules) : Prop where
  status : ∀ k, stored.status k = db.status k
  changeOf : ∀ other k, stored.changeOf other k =
    if k = key ∧ other = tx then some new else db.changeOf other k
  nextTx : stored.nextTx = db.nextTx

/-- A row that holds the index when an insert is done is one that its transaction has
changed. -/
theorem insert_done {exclusive : rules.exclusive new}
    (done : db.insert tx key new exclusive = .done stored) :
    Written db tx key new stored ∧ ∀ k old, db.status k = some old → rules.exclusive old →
      ∃ changed, db.changeOf tx k = some changed := by
  unfold insert at done
  split at done
  case isFalse => cases done
  case isTrue unblocked =>
    split at done
    case isFalse => cases done
    case isTrue unclashed =>
      split at done
      case h_1 => cases done
      case h_2 table inserted =>
        cases done
        have absent : db.table.find? key = none :=
          find?_eq_none_iff.mpr (mem_rows_insert? inserted).1
        refine ⟨⟨?_, ?_, rfl⟩, ?_⟩
        · intro k
          rw [status, status, find?_insert? inserted]
          split
          case isTrue same => rw [same, absent, bind_some, bind_none]
          case isFalse => rfl
        · intro other k
          rw [changeOf, changeOf, find?_insert? inserted]
          by_cases same : k = key
          · rw [if_pos same, same, absent]
            simp [changeBy, eq_comm]
          · rw [if_neg same, if_neg fun both => same both.1]
        · intro k old committed exclusive
          obtain ⟨row, found, committed⟩ := status_eq_some_iff.mp committed
          have listed := (find?_eq_some_iff.mp found).1
          obtain ⟨changed, locked⟩ := Consistent.change_of_free (unblocked row listed)
            (unclashed row listed) ⟨old, committed, exclusive⟩
          exact ⟨changed, changeOf_eq_some_iff.mpr ⟨row, found, locked⟩⟩

theorem update_done {allowed : S → Bool}
    {legal : ∀ old, allowed old → rules.moves old new}
    {leaves : rules.exclusive new = false}
    (done : db.update tx key allowed new legal leaves = .done stored) :
    Written db tx key new stored ∧ ∃ old, db.status key = some old ∧ allowed old := by
  unfold update at done
  split at done
  case h_1 => cases done
  case h_2 row found =>
    split at done
    case h_1 => split at done <;> cases done
    case h_2 unlocked =>
      split at done
      case h_1 => cases done
      case h_2 old committed =>
        split at done
        case isFalse => cases done
        case isTrue allows =>
          cases done
          refine ⟨⟨?_, ?_, rfl⟩, old, status_eq_some_iff.mpr ⟨row, found, committed⟩, allows⟩
          · intro k
            rw [status, status, find?_modify]
            split
            case isTrue same => rw [same, found, map_some, bind_some, bind_some]
            case isFalse => rfl
          · intro other k
            rw [changeOf, changeOf, find?_modify]
            by_cases same : k = key
            · rw [if_pos same, same, found]
              simp [changeBy, unlocked, eq_comm]
            · rw [if_neg same, if_neg fun both => same both.1]

/-! ## What the end of a transaction does -/

theorem status_commit : (db.commit tx).status key = (db.changeOf tx key).or (db.status key) := by
  rw [status, commit, find?_filterMap, changeOf, status]
  cases db.table.find? key with
  | none => rfl
  | some row =>
    simp only [bind_some, Row.commit]
    cases row.changeBy tx <;> rfl

theorem status_rollback : (db.rollback tx).status key = db.status key := by
  rw [status, rollback, find?_filterMap, status]
  cases db.table.find? key with
  | none => rfl
  | some row =>
    simp only [bind_some, Row.rollback]
    cases row.changeBy tx with
    | none => rfl
    | some => cases row.committed <;> rfl

theorem changeOf_commit :
    (db.commit tx).changeOf other key = if other = tx then none else db.changeOf other key := by
  rw [changeOf, commit, find?_filterMap, changeOf]
  cases db.table.find? key with
  | none => simp
  | some row => exact changeBy_commit

theorem changeOf_rollback :
    (db.rollback tx).changeOf other key = if other = tx then none else db.changeOf other key := by
  rw [changeOf, rollback, find?_filterMap, changeOf]
  cases db.table.find? key with
  | none => simp
  | some row => exact changeBy_rollback

end Database
end ShieldNet.ReadCommitted
