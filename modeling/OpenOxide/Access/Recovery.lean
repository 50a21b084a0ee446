import OpenOxide.Concurrency.Calls

/-!
# Recovery codes

The hashes of a user's recovery codes are one column, the JSON text of a list.
A verification reads it, takes the hash of its code out and writes the rest back
if the column still is what it has read.  A regeneration overwrites the column.
-/

namespace OpenOxide.Access

open Concurrency

/-- The column, the hashes that were accepted and those that were replaced. -/
structure RecoveryCodes where
  backupCodes : List String
  accepted : List String
  replaced : List String

/-- The statements on the column of one user. -/
inductive RecoveryEvent where
  /-- The last statement of `consume_recovery_code`, some time after the column
  was read. -/
  | consume (read : List String) (codeHash : String)
  | replace (codes : List String)

def RecoveryCodes.step (row : RecoveryCodes) : RecoveryEvent → RecoveryCodes
  | .consume read codeHash =>
    if codeHash ∈ read ∧ row.backupCodes = read then
      { row with
        backupCodes := read.erase codeHash
        accepted := codeHash :: row.accepted }
    else row
  | .replace codes =>
    { row with
      backupCodes := codes, replaced := row.backupCodes ++ row.replaced }

/-- Every hash that the column has had so far. -/
def RecoveryCodes.hashes (row : RecoveryCodes) : List String :=
  row.backupCodes ++ (row.accepted ++ row.replaced)

/-- New codes have hashes of their own. -/
def newHashes (row : RecoveryCodes) : RecoveryEvent → Prop
  | .consume .. => True
  | .replace codes => (codes ++ row.hashes).Nodup

theorem RecoveryCodes.nodup_step {row : RecoveryCodes} {event : RecoveryEvent}
    (distinct : row.hashes.Nodup) (fresh : newHashes row event) :
    (row.step event).hashes.Nodup := by
  cases event with
  | consume read codeHash =>
    rw [step]
    split
    · rename_i taken
      obtain ⟨member, rfl⟩ := taken
      have moved := (List.perm_cons_erase member).append_right
        (row.accepted ++ row.replaced)
      exact (moved.trans List.perm_middle.symm).nodup_iff.mp distinct
    · exact distinct
  | replace codes =>
    have moved : (row.hashes).Perm
        (row.accepted ++ (row.backupCodes ++ row.replaced)) :=
      List.perm_append_comm_assoc _ _ _
    exact (moved.append_left codes).nodup_iff.mp fresh

/-- No code is accepted twice, and none that was replaced is accepted after
that. -/
theorem recovery_codes_single_use {codes : List String}
    {events : List RecoveryEvent} (distinct : codes.Nodup)
    (meets : AllMeet RecoveryCodes.step newHashes ⟨codes, [], []⟩ events) :
    let row := serveAll RecoveryCodes.step ⟨codes, [], []⟩ events
    (row.accepted ++ row.replaced).Nodup := by
  have kept := meets.invariant (fun row => row.hashes.Nodup)
    (by simpa [RecoveryCodes.hashes] using distinct)
    fun _ _ distinct fresh => RecoveryCodes.nodup_step distinct fresh
  exact (List.nodup_append.mp kept).2.1

/-- Of two verifications with one code the second fails, and so does one that
has read the column before a regeneration. -/
theorem recovery_codes_single_use_race :
    let row := serveAll RecoveryCodes.step ⟨["a", "b"], [], []⟩
      [.consume ["a", "b"] "a", .consume ["a", "b"] "a", .replace ["c"],
        .consume ["b"] "b"]
    row.accepted = ["a"] ∧ (row.accepted ++ row.replaced).Nodup :=
  ⟨by decide, recovery_codes_single_use (by decide)
    ⟨trivial, trivial, by unfold newHashes; decide, trivial, trivial⟩⟩

end OpenOxide.Access
