import OpenOxide.Deployment.Rows

/-!
# The line of queued deployments

A deployment has its place in the line of its server from the day it is inserted:
the statements change neither its server nor its creation time, and what is
inserted later stands behind it.  `Lined` says of a list of entries that it still
shows everything that stands in front of one of them, apart from the servers that
have been turned away; the snapshot a dispatch pass works on is such a list, and it
stays one while other tasks change the table (`Lined.ages`) and while the pass
takes entries from its head (`Lined.pop`).
-/

namespace OpenOxide.Deployment

open Concurrency

namespace Database

theorem earlier_total (first second : DeploymentRow) :
    earlier first second ∨ earlier second first := by
  unfold earlier
  omega

instance : Std.Total earlier := ⟨earlier_total⟩

instance : IsTrans DeploymentRow earlier :=
  ⟨fun _ _ _ before after => by
    unfold earlier at *
    omega⟩

end Database

/-- The columns that decide on the place of a row in the line. -/
def DeploymentRow.place (row : DeploymentRow) : Int × Int × ServerKey :=
  (row.id, row.createdAt, row.serverId)

theorem rewrite_place (query : Query) (row : DeploymentRow) :
    (query.rewrite row).place = row.place := by
  unfold Query.rewrite
  split
  · split <;> rfl
  · rfl

variable {row : DeploymentRow}

theorem id_of_place {other : DeploymentRow}
    (same : row.place = other.place) : row.id = other.id :=
  congrArg Prod.fst same

theorem serverId_of_place {other : DeploymentRow}
    (same : row.place = other.place) : row.serverId = other.serverId :=
  congrArg (fun place => place.2.2) same

theorem earlier_of_place {first second other : DeploymentRow}
    (firstSame : row.place = first.place)
    (secondSame : other.place = second.place) :
    Database.earlier row other ↔ Database.earlier first second := by
  have firstTime : row.createdAt = first.createdAt :=
    congrArg (fun place => place.2.1) firstSame
  have secondTime : other.createdAt = second.createdAt :=
    congrArg (fun place => place.2.1) secondSame
  unfold Database.earlier
  rw [firstTime, secondTime, id_of_place firstSame, id_of_place secondSame]

/-- No row comes from the future. -/
def Stamped (database : Database) : Prop :=
  ∀ row ∈ database.deployments, row.createdAt ≤ database.now

/-- What a step of anybody does to the line: rows keep their places, nothing
goes back to it, and new rows come at its end. -/
structure Ages (before after : Database) : Prop where
  keeps : ∀ row ∈ before.deployments, ∃ kept ∈ after.deployments,
    kept.place = row.place
  stems : ∀ row ∈ after.deployments,
    (∃ old ∈ before.deployments, row.place = old.place ∧
      (row.status = .queued → old.status = .queued)) ∨
    row.id = before.nextId ∧ row.createdAt = before.now
  now : before.now ≤ after.now

theorem Ages.refl (database : Database) : Ages database database where
  keeps row member := ⟨row, member, rfl⟩
  stems row member := .inl ⟨row, member, rfl, fun queued => queued⟩
  now := Int.le_refl _

variable {before after : Database}

theorem Stamped.ages (stamped : Stamped before)
    (ages : Ages before after) : Stamped after := by
  intro row member
  have passed := ages.now
  rcases ages.stems row member with ⟨old, present, same, _⟩ | ⟨_, fresh⟩
  · have time : row.createdAt = old.createdAt :=
      congrArg (fun place => place.2.1) same
    have bound := stamped old present
    omega
  · omega

theorem earlier_new {database : Database} (ids : Ids database)
    (stamped : Stamped database) {new : DeploymentRow}
    (member : row ∈ database.deployments) (id : new.id = database.nextId)
    (created : new.createdAt = database.now) :
    Database.earlier row new := by
  have bound := ids.bound row member
  have time := stamped row member
  unfold Database.earlier
  omega

section Steps

variable {config : Config} {schema : Schema} {view next : PanelView}
  {role : Role} {op : Op} {input : Input} {answer : op.Answer}

theorem ages_execute {query : Query} {answer : query.Answer}
    (allowed : harmless (.sql query) = true ∨ Move role (.sql query))
    (succeeded : before.execute schema query = .ok (after, answer)) :
    Ages before after := by
  have rewrites := rewrites_execute allowed succeeded
  refine ⟨?_, ?_, Int.le_of_eq (Database.execute_ok succeeded).now.symm⟩
  · intro row member
    refine ⟨query.rewrite row, ?_, rewrite_place query row⟩
    rw [rewrites.rows]
    exact List.mem_append_left _ (List.mem_map_of_mem member)
  · intro row member
    rw [rewrites.rows] at member
    rcases List.mem_append.mp member with kept | new
    · obtain ⟨old, present, rfl⟩ := List.mem_map.mp kept
      refine .inl ⟨old, present, rewrite_place query old, ?_⟩
      intro queued
      rcases rewrites.status old present with same | becomes
      · rw [← same]
        exact queued
      · exact absurd queued becomes.ne_queued
    · rcases rewrites.new with none | ⟨fresh, phase, _, _, one⟩
      · rw [none] at new
        cases new
      · rw [one] at new
        rw [List.mem_singleton.mp new]
        exact .inr ⟨rfl, rfl⟩

theorem Acts.ages (acts : Acts config schema view next role op input answer) :
    Ages view.state.database next.state.database := by
  rw [← acts.state]
  cases op with
  | sql query =>
    exact Database.attempt_induction (Ages view.state.database) (.refl _)
      fun _ _ => ages_execute acts.allowed
  | _ => exact .refl _

theorem ages_signal (signal : Signal) (panel : Panel) :
    Ages panel.database (panel.signal signal).database := by
  cases signal with
  | clock =>
    refine ⟨(Ages.refl panel.database).keeps,
      (Ages.refl panel.database).stems, ?_⟩
    change panel.database.now ≤ panel.database.now + 1
    omega
  | interval => exact .refl _

end Steps

/-- What a dispatch pass has left of its snapshot: the entries in their order,
and in front of each of them everything that is still queued on its server, if
the server has not been turned away. -/
structure Lined (database : Database) (Away : ServerKey → Prop)
    (entries : List (Int × ServerKey)) : Prop where
  known : ∀ entry ∈ entries, ∃ row ∈ database.deployments,
    row.id = entry.1 ∧ row.serverId = entry.2
  sorted : entries.Pairwise fun first second =>
    ∀ row ∈ database.deployments, ∀ other ∈ database.deployments,
      row.id = first.1 → other.id = second.1 → Database.earlier row other
  present : ∀ row ∈ database.deployments, row.status = .queued →
    ∀ target ∈ database.deployments, (target.id, row.serverId) ∈ entries →
      Database.earlier row target →
        (row.id, row.serverId) ∈ entries ∨ Away row.serverId

namespace Lined

variable {database : Database} {Away : ServerKey → Prop}
  {entries : List (Int × ServerKey)}

theorem nil (database : Database) (Away : ServerKey → Prop) :
    Lined database Away [] :=
  ⟨by simp, .nil, by simp⟩

/-- The answer of `get_queued_deployments_grouped`. -/
theorem snapshot (ids : Ids database) (Away : ServerKey → Prop) :
    Lined database Away (database.read .queuedDeploymentsGrouped) := by
  have member : ∀ row, row ∈ database.queued.insertionSort Database.earlier ↔
      row ∈ database.deployments ∧ row.status = .queued := by
    intro row
    simp [Database.queued]
  constructor
  · intro entry found
    obtain ⟨row, listed, rfl⟩ := List.mem_map.mp found
    exact ⟨row, ((member row).mp listed).1, rfl, rfl⟩
  · change List.Pairwise _ (List.map _ _)
    rw [List.pairwise_map]
    refine (List.pairwise_insertionSort Database.earlier
      database.queued).imp_of_mem ?_
    intro first second firstListed secondListed before row present other
      otherPresent firstId secondId
    rw [ids.eq present ((member first).mp firstListed).1 firstId,
      ids.eq otherPresent ((member second).mp secondListed).1 secondId]
    exact before
  · intro row present queued target _ _ _
    exact .inl (List.mem_map.mpr ⟨row, (member row).mpr ⟨present, queued⟩, rfl⟩)

/-- The line while the table changes. -/
theorem ages {AwayAfter : ServerKey → Prop}
    (lined : Lined database Away entries) (ids : Ids database)
    (stamped : Stamped database) (aged : Ages database after)
    (still : ∀ server, Away server → AwayAfter server) :
    Lined after AwayAfter entries := by
  have origin : ∀ entry ∈ entries, ∀ row ∈ after.deployments,
      row.id = entry.1 → ∃ old ∈ database.deployments,
        row.place = old.place := by
    intro entry listed row present same
    rcases aged.stems row present with ⟨old, oldPresent, place, _⟩ | ⟨new, _⟩
    · exact ⟨old, oldPresent, place⟩
    · obtain ⟨first, firstPresent, id, _⟩ := lined.known entry listed
      have bound := ids.bound first firstPresent
      omega
  constructor
  · intro entry listed
    obtain ⟨row, present, id, server⟩ := lined.known entry listed
    obtain ⟨kept, keptPresent, place⟩ := aged.keeps row present
    exact ⟨kept, keptPresent, (id_of_place place).trans id,
      (serverId_of_place place).trans server⟩
  · refine lined.sorted.imp_of_mem ?_
    intro first second firstListed secondListed before row present other
      otherPresent firstId secondId
    obtain ⟨old, oldPresent, place⟩ :=
      origin first firstListed row present firstId
    obtain ⟨oldOther, oldOtherPresent, otherPlace⟩ :=
      origin second secondListed other otherPresent secondId
    rw [earlier_of_place place otherPlace]
    exact before old oldPresent oldOther oldOtherPresent
      ((id_of_place place).symm.trans firstId)
      ((id_of_place otherPlace).symm.trans secondId)
  · intro row present queued target targetPresent listed before
    obtain ⟨oldTarget, oldTargetPresent, targetPlace⟩ :=
      origin _ listed target targetPresent rfl
    rcases aged.stems row present with
      ⟨old, oldPresent, place, waiting⟩ | ⟨new, created⟩
    · rw [earlier_of_place place targetPlace] at before
      rw [id_of_place targetPlace, serverId_of_place place] at listed
      rw [id_of_place place, serverId_of_place place]
      exact (lined.present old oldPresent (waiting queued) oldTarget
        oldTargetPresent listed before).imp_right (still _)
    · have behind := earlier_new ids stamped oldTargetPresent new created
      have ahead : Database.earlier row oldTarget :=
        (earlier_of_place rfl targetPlace).mp before
      unfold Database.earlier at behind ahead
      have bound := ids.bound oldTarget oldTargetPresent
      omega

theorem pop {entry : Int × ServerKey}
    (lined : Lined database Away (entry :: entries))
    (served : Away entry.2 ∨ ∀ row ∈ database.deployments, row.id = entry.1 →
      row.status ≠ .queued) :
    Lined database Away entries := by
  refine ⟨fun other listed => lined.known other (.tail _ listed),
    lined.sorted.tail, ?_⟩
  intro row present queued target targetPresent listed before
  rcases lined.present row present queued target targetPresent
      (.tail _ listed) before with found | away
  · rcases List.mem_cons.mp found with rfl | later
    · rcases served with away | gone
      · exact .inr away
      · exact absurd queued (gone row present rfl)
    · exact .inl later
  · exact .inr away

/-- Nothing that is queued stands in front of the head, unless its server has
been turned away. -/
theorem first (ids : Ids database) {target : DeploymentRow}
    {server : ServerKey}
    (lined : Lined database Away ((target.id, server) :: entries))
    (targetPresent : target ∈ database.deployments) (free : ¬ Away server)
    (present : row ∈ database.deployments)
    (queued : row.status = .queued) (same : row.serverId = server) :
    Database.earlier target row := by
  rcases Database.earlier_total target row with before | after
  · exact before
  · have listed : (target.id, row.serverId) ∈ (target.id, server) :: entries := by
      rw [same]
      exact .head _
    rcases lined.present row present queued target targetPresent listed
        after with found | away
    · rcases List.mem_cons.mp found with head | later
      · rw [ids.eq present targetPresent (congrArg Prod.fst head)]
        exact .inr ⟨rfl, Int.le_refl _⟩
      · exact (List.pairwise_cons.mp lined.sorted).1 _ later target
          targetPresent row present rfl rfl
    · rw [same] at away
      exact absurd away free

end Lined

end OpenOxide.Deployment
