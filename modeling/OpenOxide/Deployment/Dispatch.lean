import OpenOxide.Deployment.Steps

/-!
# One dispatcher, bounded workers

Two invariants of every run, whatever calls arrive, whatever fails, and
across restarts.  `Control`: at most one task is the dispatcher or is about
to start it.  `Permits`: the permits that a semaphore has left and those
that tasks hold add up to the limit, and the slots assign to each server one
semaphore.
-/

namespace OpenOxide.Deployment

open Concurrency

variable {role : Role} {server : ServerKey}

namespace Role

def recovering : Role → Bool
  | .boot .recovering => true
  | _ => false

def dispatching : Role → Bool
  | .dispatcher .closed => false
  | .dispatcher _ => true
  | _ => false

/-- The claim of a worker that is live: claimed, and not yet finished. -/
def claim? : Role → Option DeploymentClaim
  | .dispatcher (.claimed claim _ _) => some claim
  | .worker _ .released => none
  | .worker work _ => some work.claim
  | _ => none

def live (role : Role) : Bool :=
  role.claim?.isSome

/-- The server and the semaphore of a permit that the task holds. -/
def held : Role → Option (ServerKey × Nat)
  | .dispatcher (.holding server semaphore) => some (server, semaphore)
  | .dispatcher (.claimed _ server semaphore) => some (server, semaphore)
  | .worker _ .released => none
  | .worker work _ => some (work.server, work.semaphore)
  | _ => none

/-- The slot a task has looked up, with or without a permit of it. -/
def slot : Role → Option (ServerKey × Nat)
  | .dispatcher (.offered server semaphore) => some (server, semaphore)
  | role => role.held

def holds (semaphore : Nat) (role : Role) : Bool :=
  role.held.map Prod.snd == some semaphore

/-- The role of a live worker for the server. -/
def liveFor (server : ServerKey) (role : Role) : Bool :=
  role.live && role.held.map Prod.fst == some server

/-- The slot a dispatcher found empty. -/
def vacancy : Role → Option ServerKey
  | .dispatcher (.missing server) => some server
  | _ => none

end Role

theorem blind_recovering : Blind Role.recovering :=
  {}

theorem blind_dispatching : Blind Role.dispatching :=
  {}

theorem blind_live : Blind Role.live :=
  {}

theorem blind_holds (semaphore : Nat) : Blind (Role.holds semaphore) :=
  {}

theorem blind_slot : Blind Role.slot :=
  {}

theorem blind_vacancy : Blind Role.vacancy :=
  {}

theorem ended_cases (hasEnded : ended role = true) :
    role.recovering = false ∧ role.dispatching = false ∧
      role.claim? = none ∧ role.held = none ∧ role.slot = none ∧
      role.vacancy = none := by
  unfold ended at hasEnded
  split at hasEnded <;> simp_all [Role.recovering, Role.dispatching, Role.claim?,
    Role.held, Role.slot, Role.vacancy]

/-- At most one task is the dispatcher or is about to start it; there is
none before the queue has been started, and nobody works during recovery. -/
structure Control (memory : Memory) (labels : List Role) : Prop where
  single : labels.countP Role.recovering + labels.countP Role.dispatching ≤ 1
  unstarted : memory.started = false →
    labels.countP Role.recovering = 0 ∧ labels.countP Role.dispatching = 0 ∧
      labels.countP Role.live = 0
  recovery : labels.countP Role.recovering = 0 ∨ labels.countP Role.live = 0

theorem control_empty (memory : Memory) : Control memory [] :=
  ⟨by simp, fun _ => by simp, by simp⟩

variable {left : List Role}

theorem Control.of_counts {memory later : Memory} {labels : List Role}
    (control : Control memory labels)
    (started : later.started = memory.started)
    (leaders : left.countP Role.recovering + left.countP Role.dispatching =
      labels.countP Role.recovering + labels.countP Role.dispatching)
    (fewer : left.countP Role.recovering ≤ labels.countP Role.recovering)
    (work : left.countP Role.live ≤ labels.countP Role.live ∨
      1 ≤ left.countP Role.dispatching) :
    Control later left := by
  obtain ⟨single, unstarted, recovery⟩ := control
  refine ⟨by omega, ?_, by omega⟩
  intro notStarted
  rw [started] at notStarted
  have none := unstarted notStarted
  omega

theorem call_fresh (call : Call) :
    call.role.recovering = false ∧ call.role.dispatching = false ∧
      call.role.claim? = none ∧ call.role.slot = none ∧
      call.role.held = none ∧ call.role.vacancy = none := by
  cases call <;> exact ⟨rfl, rfl, rfl, rfl, rfl, rfl⟩

/-- What a move does to the numbers that `Control` compares: only the start
of the queue creates a leader, and only a dispatcher creates work. -/
theorem Move.profile {op : Op} (move : Move role op)
    (central : role.aside = false) (later : op ≠ .memory .swapStarted)
    (answer : op.Answer) :
    (advance role op answer).recovering.toNat +
          (advance role op answer).dispatching.toNat +
          (op.born.countP Role.recovering + op.born.countP Role.dispatching) =
        role.recovering.toNat + role.dispatching.toNat ∧
      (advance role op answer).recovering.toNat +
          op.born.countP Role.recovering ≤
        role.recovering.toNat ∧
      ((advance role op answer).live.toNat + op.born.countP Role.live ≤
          role.live.toNat ∨
        role.dispatching = true ∧
          (advance role op answer).dispatching = true) := by
  cases move with
  | swapStarted => exact absurd rfl later
  | launch => exact ⟨rfl, Nat.zero_le _, Or.inl (Nat.le_refl _)⟩
  | slotGet | tryAcquire =>
    cases answer <;> exact ⟨rfl, Nat.le_refl _, Or.inr ⟨rfl, rfl⟩⟩
  | claim =>
    rcases answer with _ | _ | _ <;>
      exact ⟨rfl, Nat.le_refl _, Or.inr ⟨rfl, rfl⟩⟩
  | release worker finished =>
    rcases finished with rfl | rfl | rfl <;>
      exact ⟨rfl, Nat.le_refl _, Or.inl (Nat.zero_le _)⟩
  | _ =>
    first
      | exact ⟨rfl, Nat.le_refl _, Or.inl (Nat.le_refl _)⟩
      | cases central

section Steps

variable {config : Config} {schema : Schema} {guard : PanelGuard}
  {view next : PanelView} {op : Op} {input : Input}
  {answer : op.Answer}

theorem Move.started (move : Move role op) (later : op ≠ .memory .swapStarted)
    (input : Input) (panel : Panel) :
    (Panel.exec config schema op input panel).1.memory.started =
      panel.memory.started := by
  cases move with
  | swapStarted => exact absurd rfl later
  | tryAcquire server semaphore =>
    simp only [Panel.exec, Memory.perform]
    split <;> rfl
  | _ => rfl

/-- The first call to start the queue becomes its leader; the later ones
end. -/
theorem Control.swap {memory : Memory} {labels : List Role}
    (control : Control memory labels)
    (turns : Turns (.boot .fresh)
      (advance (.boot .fresh) (.memory .swapStarted) memory.started) []
      labels left) :
    Control { memory with started := true } left := by
  have recoverers := Replaced.countP turns Role.recovering
    (fun hasEnded => (ended_cases hasEnded).1)
  have dispatchers := Replaced.countP turns Role.dispatching
    (fun hasEnded => (ended_cases hasEnded).2.1)
  have workers := Replaced.countP turns Role.live
    (fun hasEnded => by simp [Role.live, (ended_cases hasEnded).2.2.1])
  obtain ⟨single, unstarted, recovery⟩ := control
  simp only [advance, List.countP_nil] at recoverers dispatchers workers
  cases already : memory.started with
  | true =>
    simp only [already, cond_true, Role.recovering, Role.dispatching,
      Role.live, Role.claim?, Option.isSome_none, Bool.toNat_false]
      at recoverers dispatchers workers
    exact ⟨by omega, nofun, by omega⟩
  | false =>
    have none := unstarted already
    simp only [already, cond_false, Role.recovering, Role.dispatching,
      Role.live, Role.claim?, Option.isSome_none, Bool.toNat_false,
      Bool.toNat_true] at recoverers dispatchers workers
    exact ⟨by omega, nofun, by omega⟩

theorem Control.acts (control : Control view.state.memory view.labels)
    (acts : Acts config schema view next role op input answer) :
    Control next.state.memory next.labels := by
  have state := acts.state
  rcases remote_or_central acts.allowed with remote | ⟨central, move⟩
  · have same := @exec_remote config schema _ _ remote input view.state
    rw [state] at same
    have recoverers := blind_recovering.countP rfl
      (fun role hasEnded => (ended_cases hasEnded).1) remote acts.turns
    have dispatchers := blind_dispatching.countP rfl
      (fun role hasEnded => (ended_cases hasEnded).2.1) remote acts.turns
    have workers := blind_live.countP rfl
      (fun role hasEnded => by simp [Role.live, (ended_cases hasEnded).2.2.1])
      remote acts.turns
    exact control.of_counts same.started (by omega) (by omega) (by omega)
  · by_cases starting : op = .memory .swapStarted
    · subst starting
      cases move
      obtain rfl : view.state.memory.started = answer := acts.answered
      rw [← state]
      exact control.swap acts.turns
    · have profile := move.profile central starting answer
      have recoverers := Replaced.countP acts.turns Role.recovering
        (fun hasEnded => (ended_cases hasEnded).1)
      have dispatchers := Replaced.countP acts.turns Role.dispatching
        (fun hasEnded => (ended_cases hasEnded).2.1)
      have workers := Replaced.countP acts.turns Role.live
        (fun hasEnded => by simp [Role.live, (ended_cases hasEnded).2.2.1])
      have started := @Move.started _ config schema _ move starting input
        view.state
      rw [state] at started
      refine control.of_counts started (by omega) (by omega) ?_
      rcases profile.2.2 with fewer | ⟨leads, still⟩
      · exact Or.inl (by omega)
      · have acting : 1 ≤ view.labels.countP Role.dispatching :=
          List.countP_pos_iff.mpr ⟨role, acts.turns.label_mem, leads⟩
        exact Or.inr (by omega)

theorem Control.step (control : Control view.state.memory view.labels)
    (step : View.Step (machine config schema) guard view next) :
    Control next.state.memory next.labels := by
  cases happens step with
  | acts role op input answer acts permitted => exact control.acts acts
  | panics worker phase inside turns state history permitted =>
    have working : Role.live (.worker worker phase) = true := by
      rcases inside with rfl | rfl | rfl <;> rfl
    have recoverers := Replaced.countP turns Role.recovering (fun _ => rfl)
    have dispatchers := Replaced.countP turns Role.dispatching (fun _ => rfl)
    have workers := Replaced.countP turns Role.live nofun
    rw [working] at workers
    simp only [Role.recovering, Role.dispatching, Role.live, Role.claim?,
      List.countP_nil, Option.isSome_some, Bool.toNat_false,
      Bool.toNat_true] at recoverers dispatchers workers
    exact control.of_counts (by rw [state]) (by omega) (by omega) (by omega)
  | arrives call left joined labels state history permitted =>
    obtain ⟨notRecovering, notDispatching, unclaimed, _⟩ := call_fresh call
    have notLive : call.role.live = false := by
      simp [Role.live, unclaimed]
    have recoverers := countP_arrives view.labels notRecovering joined
    have dispatchers := countP_arrives view.labels notDispatching joined
    have workers := countP_arrives view.labels notLive joined
    rw [labels, state]
    exact control.of_counts rfl (by omega) (by omega) (by omega)
  | signalled signal labels state history =>
    rw [labels, state]
    cases signal <;>
      exact control.of_counts rfl rfl (Nat.le_refl _) (Or.inl (Nat.le_refl _))
  | restarts labels state history permitted =>
    rw [labels]
    exact control_empty _

end Steps

/-- The permits of every semaphore are accounted for, and each server has
one semaphore: the one its dispatcher and its workers know. -/
structure Permits (config : Config) (memory : Memory) (labels : List Role) :
    Prop where
  bounded : ∀ server semaphore, memory.slots server = some semaphore →
    semaphore < memory.nextSemaphore
  injective : ∀ server other semaphore,
    memory.slots server = some semaphore →
    memory.slots other = some semaphore → server = other
  known : ∀ role ∈ labels, ∀ server semaphore,
    role.slot = some (server, semaphore) →
    memory.slots server = some semaphore
  vacant : ∀ role ∈ labels, ∀ server, role.vacancy = some server →
    memory.slots server = none
  balanced : ∀ server semaphore, memory.slots server = some semaphore →
    memory.available semaphore + labels.countP (Role.holds semaphore) =
      config.perServerLimit

namespace Role

theorem slot_of_held {semaphore : Nat}
    (held : role.held = some (server, semaphore)) :
    role.slot = some (server, semaphore) := by
  unfold slot
  split
  · cases held
  · exact held

theorem holds_iff {semaphore : Nat} : role.holds semaphore = true ↔
      ∃ server, role.held = some (server, semaphore) := by
  cases held : role.held with
  | none => simp [holds, held]
  | some pair => simp [holds, held, Prod.ext_iff]

theorem held_of_liveFor (live : role.liveFor server = true) :
    ∃ semaphore, role.held = some (server, semaphore) := by
  cases held : role.held with
  | none => simp [liveFor, held] at live
  | some pair =>
    obtain ⟨place, semaphore⟩ := pair
    simp only [liveFor, held, Option.map_some, Bool.and_eq_true,
      beq_iff_eq, Option.some.injEq] at live
    exact ⟨semaphore, by rw [live.2]⟩

end Role

section Permits

variable {config : Config} {schema : Schema} {guard : PanelGuard}
  {view next : PanelView} {op : Op} {input : Input}
  {answer : op.Answer}

theorem dropPermit_passes {memory : Memory} {reached : Role}
    {semaphore : Nat}
    (held : role.held = some (server, semaphore))
    (dropped : reached.held = none) (other : Nat) :
    (memory.perform config (.dropPermit semaphore)).1.available other +
        (reached.holds other).toNat + [].countP (Role.holds other) =
      memory.available other + (role.holds other).toNat := by
  by_cases same : other = semaphore
  · subst same
    simp [Memory.perform, Role.holds, held, dropped]
  · simp [Memory.perform, Role.holds, held, dropped, same, Ne.symm same]

theorem permits_fresh (config : Config) : Permits config Memory.fresh [] := by
  constructor <;> simp [Memory.fresh]

namespace Permits

variable {memory later : Memory} {labels left : List Role} {reached : Role}
  {born : List Role}

section

variable (permits : Permits config memory labels)

include permits

/-- A step that leaves the slots alone and passes each permit on, or gives
it back to its semaphore, or takes it from there. -/
theorem passOn (turns : Turns role reached born labels left)
    (slots : later.slots = memory.slots)
    (nextSemaphore : later.nextSemaphore = memory.nextSemaphore)
    (known : ∀ member, member = reached ∨ member ∈ born →
      ∀ server semaphore, member.slot = some (server, semaphore) →
        memory.slots server = some semaphore)
    (vacant : ∀ member, member = reached ∨ member ∈ born →
      ∀ server, member.vacancy = some server → memory.slots server = none)
    (passed : ∀ semaphore, later.available semaphore +
        (reached.holds semaphore).toNat +
        born.countP (Role.holds semaphore) =
      memory.available semaphore + (role.holds semaphore).toNat) :
    Permits config later left := by
  constructor
  · rw [slots, nextSemaphore]
    exact permits.bounded
  · rw [slots]
    exact permits.injective
  · rw [slots]
    intro member membership
    rcases turns.mem membership with old | new
    · exact permits.known member old
    · exact known member new
  · rw [slots]
    intro member membership
    rcases turns.mem membership with old | new
    · exact permits.vacant member old
    · exact vacant member new
  · intro server semaphore slot
    rw [slots] at slot
    have before := permits.balanced server semaphore slot
    have counted := Replaced.countP turns (Role.holds semaphore)
      fun hasEnded => by simp [Role.holds, (ended_cases hasEnded).2.2.2.1]
    have moved := passed semaphore
    omega

/-- The dispatcher creates the semaphore of a server that has none. -/
theorem slotInsert (single : left.countP Role.dispatching ≤ 1)
    (turns : Turns (.dispatcher (.missing server))
      (.dispatcher (.offered server memory.nextSemaphore)) [] labels left) :
    Permits config (memory.perform config (.slotInsert server)).1 left := by
  have empty : memory.slots server = none :=
    permits.vacant _ turns.label_mem server rfl
  have unheld : left.countP (Role.holds memory.nextSemaphore) = 0 := by
    rw [List.countP_eq_zero]
    intro member membership holding
    obtain ⟨place, held⟩ := Role.holds_iff.mp holding
    rcases turns.mem membership with old | rfl | new
    · have slot := permits.known member old place _ (Role.slot_of_held held)
      exact Nat.lt_irrefl _ (permits.bounded place _ slot)
    · cases held
    · cases new
  constructor
  · intro place semaphore slot
    simp only [Memory.perform, Function.update_apply] at slot ⊢
    split at slot
    · cases slot
      exact Nat.lt_succ_self _
    · exact Nat.lt_succ_of_lt (permits.bounded place semaphore slot)
  · intro place other semaphore slot otherSlot
    simp only [Memory.perform, Function.update_apply] at slot otherSlot
    split at slot <;> split at otherSlot
    · simp_all
    · cases slot
      exact absurd (permits.bounded other _ otherSlot) (Nat.lt_irrefl _)
    · cases otherSlot
      exact absurd (permits.bounded place _ slot) (Nat.lt_irrefl _)
    · exact permits.injective place other semaphore slot otherSlot
  · intro member membership place semaphore slot
    simp only [Memory.perform, Function.update_apply]
    rcases turns.mem membership with old | rfl | new
    · have known := permits.known member old place semaphore slot
      have other : place ≠ server := by
        rintro rfl
        rw [empty] at known
        cases known
      rw [if_neg other]
      exact known
    · cases slot
      exact if_pos rfl
    · cases new
  · intro member membership place vacancy
    have leads : member.dispatching = true := by
      unfold Role.vacancy at vacancy
      split at vacancy
      · rfl
      · cases vacancy
    have different :
        member ≠ .dispatcher (.offered server memory.nextSemaphore) := by
      rintro rfl
      cases vacancy
    have two := two_le_countP membership
      (turns.reached_mem Bool.false_ne_true) different leads rfl
    omega
  · intro place semaphore slot
    simp only [Memory.perform, Function.update_apply] at slot ⊢
    split at slot
    · cases slot
      rw [if_pos rfl, unheld, Nat.add_zero]
    · have bound := permits.bounded place semaphore slot
      have counted := Replaced.countP turns (Role.holds semaphore)
        (fun _ => rfl)
      have before := permits.balanced place semaphore slot
      rw [if_neg (Nat.ne_of_lt bound)]
      simp [Role.holds, Role.held] at counted
      omega

/-- A step that touches no semaphore and reaches roles that know nothing
new. -/
theorem idle (turns : Turns role reached born labels left)
    (same : later.slots = memory.slots ∧
      later.nextSemaphore = memory.nextSemaphore ∧
      later.available = memory.available)
    (known : ∀ member, member = reached ∨ member ∈ born →
      member.slot = none ∨ member.slot = role.slot)
    (vacant : ∀ member, member = reached ∨ member ∈ born →
      member.vacancy = none ∨ member.vacancy = role.vacancy)
    (passed : ∀ semaphore, (reached.holds semaphore).toNat +
        born.countP (Role.holds semaphore) = (role.holds semaphore).toNat) :
    Permits config later left := by
  obtain ⟨slots, nextSemaphore, available⟩ := same
  apply permits.passOn turns slots nextSemaphore
  · intro member new server semaphore slot
    rcases known member new with none | same
    · rw [none] at slot
      cases slot
    · rw [same] at slot
      exact permits.known role turns.label_mem server semaphore slot
  · intro member new server vacancy
    rcases vacant member new with none | same
    · rw [none] at vacancy
      cases vacancy
    · rw [same] at vacancy
      exact permits.vacant role turns.label_mem server vacancy
  · intro semaphore
    have moved := passed semaphore
    rw [available]
    omega

theorem remote (same : SameControl memory later) (remote : Remote role op)
    (turns : Turns role (advance role op answer) op.born labels left) :
    Permits config later left := by
  apply permits.idle turns ⟨same.slots, same.nextSemaphore, same.available⟩
  · rintro member (rfl | child)
    · exact .inr (blind_slot.advance remote answer)
    · exact .inl (blind_slot.aside member (born_remote remote child))
  · rintro member (rfl | child)
    · exact .inr (blind_vacancy.advance remote answer)
    · exact .inl (blind_vacancy.aside member (born_remote remote child))
  · intro semaphore
    have newborn : op.born.countP (Role.holds semaphore) = 0 := by
      rw [List.countP_eq_zero]
      intro child member
      rw [(blind_holds semaphore).aside child (born_remote remote member)]
      simp [Role.holds, Role.held]
    rw [(blind_holds semaphore).advance remote answer, newborn, Nat.add_zero]

end

theorem onlyReached {property : Role → Prop} (holds : property reached) :
    ∀ member, member = reached ∨ member ∈ ([] : List Role) →
      property member := by
  rintro member (rfl | child)
  · exact holds
  · cases child

theorem reachedAndBorn {property : Role → Prop} {child : Role}
    (holds : property reached) (born : property child) :
    ∀ member, member = reached ∨ member ∈ [child] → property member := by
  rintro member (rfl | member)
  · exact holds
  · rwa [List.mem_singleton.mp member]

theorem acts (permits : Permits config view.state.memory view.labels)
    (control : Control next.state.memory next.labels)
    (acts : Acts config schema view next role op input answer) :
    Permits config next.state.memory next.labels := by
  have state := acts.state
  have turns := acts.turns
  rcases remote_or_central acts.allowed with remote | ⟨central, move⟩
  · have same := @exec_remote config schema _ _ remote input view.state
    rw [state] at same
    exact permits.remote same remote turns
  · rw [← state]
    cases move with
    | slotInsert server =>
      obtain rfl : view.state.memory.nextSemaphore = answer := acts.answered
      have single := control.single
      exact permits.slotInsert (by omega) turns
    | slotGet server =>
      obtain rfl : view.state.memory.slots server = answer := acts.answered
      cases found : view.state.memory.slots server with
      | none | some =>
        rw [found] at turns
        apply permits.passOn turns rfl rfl
        · exact onlyReached fun _ _ slot => by cases slot <;> exact found
        · exact onlyReached fun _ vacancy => by
            cases vacancy <;> exact found
        · exact fun _ => rfl
    | tryAcquire server semaphore =>
      have answered := acts.answered
      simp only [Panel.exec, Memory.perform] at answered ⊢
      cases left : view.state.memory.available semaphore with
      | zero =>
        simp only [left] at answered ⊢
        subst answered
        exact permits.idle turns ⟨rfl, rfl, rfl⟩ (onlyReached (.inl rfl))
          (onlyReached (.inl rfl)) fun _ => rfl
      | succ fewer =>
        simp only [left] at answered ⊢
        subst answered
        refine permits.passOn turns (by rfl) (by rfl)
          (onlyReached fun place other slot =>
            permits.known _ turns.label_mem place other slot)
          (onlyReached fun _ vacancy => by cases vacancy) ?_
        intro other
        by_cases same : other = semaphore
        · subst same
          simp [Op.born, advance, Role.holds, Role.held, left]
        · simp [Op.born, advance, Role.holds, Role.held, same, Ne.symm same]
    | giveBack server semaphore =>
      exact permits.passOn turns rfl rfl
        (onlyReached fun _ _ slot => by cases slot)
        (onlyReached fun _ vacancy => by cases vacancy)
        (@dropPermit_passes _ _ config _ _ _ rfl rfl)
    | @release work phase finished =>
      rcases finished with rfl | rfl | rfl <;>
        exact permits.passOn turns rfl rfl
          (onlyReached fun _ _ slot => by cases slot)
          (onlyReached fun _ vacancy => by cases vacancy)
          (@dropPermit_passes _ _ config _ _ _ rfl rfl)
    | claim =>
      rcases answer with _ | _ | claim <;>
        exact permits.idle turns ⟨rfl, rfl, rfl⟩ (onlyReached (.inr rfl))
          (onlyReached (.inl rfl)) fun _ => rfl
    | hand claim server semaphore =>
      apply permits.idle turns ⟨rfl, rfl, rfl⟩
        (reachedAndBorn (.inl rfl) (.inr rfl))
        (reachedAndBorn (.inl rfl) (.inl rfl))
      intro other
      change 0 + [Role.dispatcher (.claimed claim server semaphore)].countP
        (Role.holds other) = _
      simp only [List.countP_cons, List.countP_nil]
      cases Role.holds other (.dispatcher (.claimed claim server semaphore))
        <;> rfl
    | launch | loop =>
      exact permits.idle turns ⟨rfl, rfl, rfl⟩
        (reachedAndBorn (.inl rfl) (.inl rfl))
        (reachedAndBorn (.inl rfl) (.inl rfl)) fun _ => rfl
    | swapStarted | recoverDeployments | recoverStatuses | wake =>
      exact permits.idle turns ⟨rfl, rfl, rfl⟩ (onlyReached (.inl rfl))
        (onlyReached (.inl rfl)) fun _ => rfl
    | executed | finalize | panicFinalize =>
      exact permits.idle turns ⟨rfl, rfl, rfl⟩ (onlyReached (.inr rfl))
        (onlyReached (.inl rfl)) fun _ => rfl
    | _ => cases central

theorem step (permits : Permits config view.state.memory view.labels)
    (control : Control view.state.memory view.labels)
    (step : View.Step (machine config schema) guard view next) :
    Permits config next.state.memory next.labels := by
  have controlNext := control.step step
  cases happens step with
  | acts role op input answer acts permitted =>
    exact permits.acts controlNext acts
  | panics work phase inside turns state history permitted =>
    rw [state]
    rcases inside with rfl | rfl | rfl <;>
      exact permits.idle turns (by exact ⟨rfl, rfl, rfl⟩)
        (onlyReached (.inr rfl)) (onlyReached (.inl rfl)) fun _ => rfl
  | arrives call left joined labels state history permitted =>
    obtain ⟨_, _, _, noSlot, unheld, noVacancy⟩ := call_fresh call
    rw [labels, state]
    constructor
    · exact permits.bounded
    · exact permits.injective
    · intro member membership server semaphore slot
      rcases mem_arrives joined membership with old | rfl
      · exact permits.known member old server semaphore slot
      · rw [noSlot] at slot
        cases slot
    · intro member membership server vacancy
      rcases mem_arrives joined membership with old | rfl
      · exact permits.vacant member old server vacancy
      · rw [noVacancy] at vacancy
        cases vacancy
    · intro server semaphore slot
      have foreign : call.role.holds semaphore = false := by
        simp [Role.holds, unheld]
      rw [countP_arrives view.labels foreign joined]
      exact permits.balanced server semaphore slot
  | signalled signal labels state history =>
    rw [labels, state]
    cases signal <;> exact ⟨permits.bounded, permits.injective,
      permits.known, permits.vacant, permits.balanced⟩
  | restarts labels state history permitted =>
    rw [labels, state]
    exact permits_fresh config

/-- No server has more live workers than its semaphore has permits. -/
theorem live_le (permits : Permits config memory labels) (server : ServerKey) :
    labels.countP (Role.liveFor server) ≤ config.perServerLimit := by
  by_cases idle : labels.countP (Role.liveFor server) = 0
  · omega
  · obtain ⟨first, member, live⟩ :=
      List.countP_pos_iff.mp (Nat.pos_of_ne_zero idle)
    obtain ⟨semaphore, held⟩ := Role.held_of_liveFor live
    have slot := permits.known first member server semaphore
      (Role.slot_of_held held)
    have balance := permits.balanced server semaphore slot
    have covered : labels.countP (Role.liveFor server) ≤
        labels.countP (Role.holds semaphore) := by
      apply List.countP_mono_left
      intro other otherMember otherLive
      obtain ⟨otherSemaphore, otherHeld⟩ := Role.held_of_liveFor otherLive
      have otherSlot := permits.known other otherMember server otherSemaphore
        (Role.slot_of_held otherHeld)
      rw [slot] at otherSlot
      cases otherSlot
      exact Role.holds_iff.mpr ⟨server, otherHeld⟩
    omega

end Permits

end Permits

end OpenOxide.Deployment
