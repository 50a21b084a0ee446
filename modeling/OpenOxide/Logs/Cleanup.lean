import OpenOxide.Deployment.Types
import OpenOxide.Relational.Page

/-!
# Cleaning up old logs

`cleanup_logs_before` removes the logs of old deployments.  It looks at one page of
the list, the two hundred deployments that were started last, and takes the time of
creation for the age of a deployment that has not finished.  So logs of finished
deployments beyond the page stay, and the log of an old deployment that is still
waiting or running goes.
-/

namespace OpenOxide.Logs

open Deployment Relational

/-- The columns of `deployments` that the clean-up reads. -/
structure LogRow where
  id : Int
  status : DeploymentStatus
  logPath : String
  createdAt : Int
  startedAt : Option Int
  finishedAt : Option Int

/-- The rows of the table; `id` is its primary key. -/
structure LogTable where
  rows : List LogRow
  keyed : (rows.map LogRow.id).Nodup

namespace LogRow

/-- `COALESCE(started_at, created_at)`. -/
def startTime (row : LogRow) : Int :=
  row.startedAt.getD row.createdAt

/-- `ORDER BY COALESCE(started_at, created_at) DESC, id DESC`. -/
def notAfter (first second : LogRow) : Prop :=
  second.startTime < first.startTime ∨
    second.startTime = first.startTime ∧ second.id ≤ first.id

instance : DecidableRel notAfter := fun first second =>
  inferInstanceAs (Decidable (second.startTime < first.startTime ∨
    second.startTime = first.startTime ∧ second.id ≤ first.id))

instance : Std.Total notAfter where
  total first second := by
    unfold notAfter
    omega

instance : IsTrans LogRow notAfter where
  trans first second third before after := by
    unfold notAfter at *
    omega

/-- `finished_at.unwrap_or(created_at)`. -/
def age (row : LogRow) : Int :=
  row.finishedAt.getD row.createdAt

/-- The deployment has come to its end before the cutoff. -/
def finishedBefore (row : LogRow) (cutoff : Int) : Bool :=
  row.status.terminal && row.finishedAt.any fun time => decide (time < cutoff)

end LogRow

/-- Which paths name a file. -/
abbrev Files := String → Bool

/-- `list` without filters and with the offset 0. -/
def list (limit : Int) (rows : List LogRow) : List LogRow :=
  page LogRow.notAfter (max 1 (min limit 200)).toNat rows

/-- The loop of `cleanup_logs_before`: the files that are left, and the number of
those removed. -/
def removeLogs (cutoff : Int) : List LogRow → Files → Files × Nat
  | [], files => (files, 0)
  | row :: rows, files =>
    if row.age < cutoff ∧ files row.logPath = true then
      let (left, removed) :=
        removeLogs cutoff rows (Function.update files row.logPath false)
      (left, removed + 1)
    else removeLogs cutoff rows files

def cleanupLogsBefore (cutoff : Int) (rows : List LogRow) (files : Files) :
    Files × Nat :=
  removeLogs cutoff (list 200 rows) files

/-- The logs that go are those of the deployments that finished before the
cutoff, and the logs of waiting and running deployments stay. -/
structure CleansExactly (cutoff : Int) (rows : List LogRow)
    (before after : Files) : Prop where
  removed : ∀ row ∈ rows, before row.logPath = true →
    (after row.logPath = false ↔ row.finishedBefore cutoff = true)
  others : ∀ path, (∀ row ∈ rows, row.logPath ≠ path) →
    after path = before path
  unfinished : ∀ row ∈ rows, row.status.active = true →
    after row.logPath = before row.logPath

/-- How many deployments were started later. -/
def LogTable.rank (table : LogTable) (row : LogRow) : Nat :=
  Relational.rank LogRow.notAfter table.rows row

/-- What the clean-up needs of a table: a log that is due belongs to one of the
two hundred deployments started last, and whatever is old among those has come to
its end, as has every deployment that shares its log. -/
structure Tidy (cutoff : Int) (table : LogTable) (files : Files) : Prop where
  reached : ∀ row ∈ table.rows, files row.logPath = true →
    row.finishedBefore cutoff = true →
      ∃ other ∈ table.rows, other.logPath = row.logPath ∧
        table.rank other < 200 ∧ other.age < cutoff
  ended : ∀ other ∈ table.rows, table.rank other < 200 →
    other.age < cutoff → files other.logPath = true →
      ∀ row ∈ table.rows, row.logPath = other.logPath →
        row.finishedBefore cutoff = true

theorem removeLogs_files (cutoff : Int) (rows : List LogRow) (files : Files)
    (path : String) :
    (removeLogs cutoff rows files).1 path = true ↔
      files path = true ∧
        ∀ row ∈ rows, row.logPath = path → ¬ row.age < cutoff := by
  induction rows generalizing files with
  | nil => simp [removeLogs]
  | cons row rows induction =>
    rw [removeLogs]
    split
    · rename_i due
      rw [induction]
      by_cases own : path = row.logPath
      · subst own
        simp [due.1]
      · rw [Function.update_of_ne own]
        simp [Ne.symm own]
    · rename_i kept
      rw [induction]
      constructor
      · rintro ⟨present, others⟩
        refine ⟨present, ?_⟩
        intro other member same old
        rcases List.mem_cons.mp member with rfl | later
        · exact kept ⟨old, same ▸ present⟩
        · exact others other later same old
      · rintro ⟨present, all⟩
        exact ⟨present, fun other later =>
          all other (List.mem_cons_of_mem _ later)⟩

theorem mem_list_iff (table : LogTable) (row : LogRow) :
    row ∈ list 200 table.rows ↔ row ∈ table.rows ∧ table.rank row < 200 := by
  have distinct : table.rows.Pairwise fun first second : LogRow =>
      ¬ (first.notAfter second ∧ second.notAfter first) := by
    refine (List.pairwise_map.mp table.keyed).imp ?_
    intro first second different both
    unfold LogRow.notAfter at both
    omega
  exact mem_page_iff LogRow.notAfter distinct 200 row

theorem cleanup_removes_iff (table : LogTable) (files : Files) (cutoff : Int)
    {path : String} (present : files path = true) :
    (cleanupLogsBefore cutoff table.rows files).1 path = false ↔
      ∃ other ∈ table.rows, other.logPath = path ∧ table.rank other < 200 ∧
        other.age < cutoff := by
  rw [← Bool.not_eq_true, cleanupLogsBefore, removeLogs_files]
  constructor
  · intro removed
    by_contra none
    refine removed ⟨present, ?_⟩
    intro row listed same old
    obtain ⟨member, low⟩ := (mem_list_iff table row).mp listed
    exact none ⟨row, member, same, low, old⟩
  · rintro ⟨other, member, same, low, old⟩ kept
    exact kept.2 other ((mem_list_iff table other).mpr ⟨member, low⟩) same old

theorem not_finished_of_active {row : LogRow} {cutoff : Int}
    (active : row.status.active = true) :
    row.finishedBefore cutoff = false := by
  have unfinished : row.status.terminal = false := by
    revert active
    cases row.status <;> simp [DeploymentStatus.active,
      DeploymentStatus.terminal]
  rw [LogRow.finishedBefore, unfinished, Bool.false_and]

/-- The clean-up is exact on tidy tables, and on no others. -/
theorem cleanup_exact_iff (cutoff : Int) (table : LogTable) (files : Files) :
    CleansExactly cutoff table.rows files
        (cleanupLogsBefore cutoff table.rows files).1 ↔
      Tidy cutoff table files := by
  constructor
  · intro exact
    constructor
    · intro row member present finished
      exact (cleanup_removes_iff table files cutoff present).mp
        ((exact.removed row member present).mpr finished)
    · intro other member low old present row rowMember same
      have gone := (cleanup_removes_iff table files cutoff present).mpr
        ⟨other, member, rfl, low, old⟩
      rw [← same] at present gone
      exact (exact.removed row rowMember present).mp gone
  · intro tidy
    have removed : ∀ row ∈ table.rows, files row.logPath = true →
        ((cleanupLogsBefore cutoff table.rows files).1 row.logPath = false ↔
          row.finishedBefore cutoff = true) := by
      intro row member present
      rw [cleanup_removes_iff table files cutoff present]
      constructor
      · rintro ⟨other, otherMember, same, low, old⟩
        rw [← same] at present
        exact tidy.ended other otherMember low old present row member same.symm
      · exact tidy.reached row member present
    have stays : ∀ path, (files path = true →
        (cleanupLogsBefore cutoff table.rows files).1 path ≠ false) →
        (cleanupLogsBefore cutoff table.rows files).1 path = files path := by
      intro path kept
      cases present : files path with
      | false =>
        rw [← Bool.not_eq_true, cleanupLogsBefore, removeLogs_files, present]
        simp
      | true => exact (Bool.not_eq_false _).mp (kept present)
    refine ⟨removed, ?_, ?_⟩
    · intro path foreign
      refine stays path fun present gone => ?_
      obtain ⟨other, member, same, _⟩ :=
        (cleanup_removes_iff table files cutoff present).mp gone
      exact foreign other member same
    · intro row member active
      refine stays row.logPath fun present gone => ?_
      have finished := (removed row member present).mp gone
      rw [not_finished_of_active active] at finished
      cases finished

/-- A deployment that was started long ago and still runs. -/
def longRunning : LogRow where
  id := 1
  status := .running
  logPath := "/var/lib/openoxide/logs/deployments/1.log"
  createdAt := 0
  startedAt := some 0
  finishedAt := none

/-- The log of a running deployment is removed. -/
theorem cleanup_removes_running_log :
    longRunning.status = .running ∧
      (cleanupLogsBefore 100 [longRunning] fun _ => true).1
        longRunning.logPath = false := by
  decide +kernel

end OpenOxide.Logs
