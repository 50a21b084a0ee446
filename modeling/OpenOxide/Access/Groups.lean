import OpenOxide.Access.Signup
import OpenOxide.Concurrency.Calls

/-!
# The group service

The calls of `PermissionGroupService`, with their checks in the order of the
source and their error texts.  The service changes the tables only in the last
statements of a call, which cannot fail once the first of them has succeeded, so
a call that fails leaves the tables as they were.

`Effect` says once what a call that succeeds has checked and what it does to the
tables.  The invariants of the following modules are case analyses of it.
-/

namespace OpenOxide.Access

open Relational

/-- What the service answers. -/
inductive PermissionGroupError where
  | invalid (message : String)
  | escalation (message : String)
  | notFound
  | database (error : DbError)
deriving DecidableEq

/-- `UserPolicyEntryDto`. -/
structure UserPolicyEntry where
  policyId : Int
  effect : String

/-- The digest of a token and the hash of a password come from outside. -/
structure GroupWorld where
  sha256 : String → String
  hashPassword : String → Except AuthError String

def GroupWorld.hashToken (world : GroupWorld) (token : String) : String :=
  world.sha256 (Text.trim token)

/-- A world in which a token is its own digest. -/
def openWorld : GroupWorld where
  sha256 token := token
  hashPassword _ := .ok "hash"

def ensure (condition : Bool) (error : PermissionGroupError) :
    Except PermissionGroupError Unit :=
  if condition then .ok () else .error error

theorem ensure_eq_ok {condition : Bool} {error : PermissionGroupError}
    {value : Unit} : ensure condition error = .ok value ↔ condition = true := by
  cases condition <;> simp [ensure]

/-- An update reports whether it has hit a row. -/
def ensureHit (updated : Bool × Directory) (error : PermissionGroupError) :
    Except PermissionGroupError Directory :=
  if updated.1 then .ok updated.2 else .error error

variable {next : Directory}

theorem ensureHit_eq_ok {updated : Bool × Directory}
    {error : PermissionGroupError} :
    ensureHit updated error = .ok next ↔
      updated.1 = true ∧ updated.2 = next := by
  cases hit : updated.1 <;> simp [ensureHit, hit]

/-- An address as it is stored. -/
def normalizedEmail (text : String) : Except PermissionGroupError String := do
  let email := Text.asciiLower (Text.trim text)
  ensure (email.toList.contains '@') (.invalid "invalid email")
  pure email

/-- A role by its text, in any case. -/
def requestedRole (text : String) : Except PermissionGroupError MemberRole :=
  match [MemberRole.admin, .member].find? fun role =>
      role.asStr == Text.asciiUpper text with
  | some role => .ok role
  | none => .error (.invalid "role must be ADMIN or MEMBER")

def PolicyEffect.asStr : PolicyEffect → String
  | .grant => "GRANT"
  | .deny => "DENY"

def PolicyEffect.ofText (text : String) : Option PolicyEffect :=
  [PolicyEffect.grant, .deny].find? fun effect =>
    effect.asStr == Text.asciiUpper text

namespace Directory

variable (directory : Directory)

/-- A membership has no role other than `ADMIN` and `MEMBER`, so the spelling
`OWNER` that the source also accepts never occurs. -/
def actorIsPrivileged (actorId organizationId : Int) : Bool :=
  directory.isPlatformOwner actorId ||
    directory.role actorId organizationId == some .admin

/-- An action that the actor does not have. -/
def missingDelegatedAction (actorPermissions requested : List String) :
    Option String :=
  requested.find? fun action => !actorPermissions.contains action

/-- Nobody gives what they do not have. -/
def ensureSubset (actorId organizationId : Int)
    (requested : List String) : Except PermissionGroupError Unit :=
  if directory.actorIsPrivileged actorId organizationId then
    .ok ()
  else
    match missingDelegatedAction
        (directory.effectiveActions actorId organizationId) requested with
    | some action => .error (.escalation action)
    | none => .ok ()

/-- Only members can be managed by members. -/
def ensureManageableTarget
    (actorId userId organizationId : Int) : Except PermissionGroupError Unit :=
  ensure (directory.actorIsPrivileged actorId organizationId ||
    directory.role userId organizationId == some .member)
    (.escalation "cannot manage an admin or non-member")

/-- The policy of an action. -/
def policyIdOf (action : String) : Except PermissionGroupError Int :=
  match directory.policies.find? fun policy => policy.action == action with
  | some policy => .ok policy.id
  | none => .error (.invalid ("unknown action: " ++ action))

/-- The policies that may be given. -/
def validatedPolicyIds (actorId organizationId : Int)
    (requested : List String) : Except PermissionGroupError (List Int) := do
  directory.ensureSubset actorId organizationId requested
  requested.mapM directory.policyIdOf

/-- An entry of the body of `replace_user_policies`, with the action that the
entry is about. -/
def parsedPolicy (entry : UserPolicyEntry) :
    Except PermissionGroupError ((Int × PolicyEffect) × String) :=
  match PolicyEffect.ofText entry.effect with
  | none => .error (.invalid ("invalid effect: " ++ entry.effect))
  | some effect =>
    match directory.policies.find? fun policy =>
        policy.id == entry.policyId with
    | none => .error (.invalid
        ("unknown policy id: " ++ toString entry.policyId))
    | some policy => .ok ((entry.policyId, effect), policy.action)

end Directory

namespace PermissionGroupService

variable (world : GroupWorld) (directory : Directory)

/-- The open invitations; old ones are removed. -/
def listInvites (now organizationId : Int) :
    List OrganizationInvite × Directory :=
  let purged := directory.purgeExpired now
  (purged.invites.filter fun invite =>
    invite.organizationId == organizationId && invite.status == .pending,
    purged)

/-- The token is the text of the random bytes, when there are any. -/
def createInvite (now actorId organizationId : Int) (email role : String)
    (groupId : Int) (random : Option String) :
    Except PermissionGroupError (String × Directory) := do
  let email ← normalizedEmail email
  let role ← requestedRole role
  ensure (role != .admin || directory.actorIsPrivileged actorId organizationId)
    (.escalation "only admins can invite another admin")
  directory.ensureSubset actorId organizationId (directory.groupActions groupId)
  match random with
  | none => .error (.invalid "could not generate invite token")
  | some token => do
      let created ← (directory.createInvite email role (world.hashToken token)
        groupId organizationId actorId (now + 7 * 86400)).mapError .database
      pure (token, created)

/-- Only an invitation of the organization. -/
def cancelInvite (organizationId inviteId : Int) :
    Except PermissionGroupError Directory :=
  match (directory.inviteById inviteId).filter fun invite =>
      invite.organizationId == organizationId with
  | none => .error .notFound
  | some invite => do
      ensure (invite.status == .pending) .notFound
      ensureHit (directory.setStatus inviteId .rejected) .notFound

/-- The invited user becomes a member. -/
def acceptInvite (now userId : Int) (token : String) :
    Except PermissionGroupError Directory :=
  match directory.findPendingByToken now (world.hashToken token) with
  | none => .error .notFound
  | some invite =>
    match directory.userById userId with
    | none => .error .notFound
    | some user => do
        ensure (user.email.map Text.asciiLower == some invite.email)
          (.escalation "invite email does not match authenticated user")
        ensure (directory.role userId invite.organizationId).isNone
          (.invalid "user is already an organization member")
        let joined ← (directory.addMemberWithGroup invite.role userId
          invite.organizationId invite.groupId).mapError .database
        pure (joined.setStatus invite.id .accepted).2

/-- The user of an email, who is created when there is none. -/
def existingOrNewUser (email : String) (password : Option String) :
    Except PermissionGroupError (Int × Directory) :=
  match directory.userByEmail email with
  | some user => .ok (user.id, directory)
  | none => do
      let hash ← (world.hashPassword (password.getD "ChangeMe123!")).mapError
        fun _ => .invalid "failed to hash password"
      let created ← (directory.insertUser (some email) none none "" hash
        "member" 1).mapError .database
      pure (created.1.id, created.2)

/-- A user is created if there is none. -/
def addMember (actorId organizationId : Int) (email : String)
    (password : Option String) (role : String) :
    Except PermissionGroupError Directory := do
  ensure (directory.actorIsPrivileged actorId organizationId)
    (.escalation "only organization admins can add members")
  let email ← normalizedEmail email
  let role ← requestedRole role
  let known ← existingOrNewUser world directory email password
  ensure (known.2.role known.1 organizationId).isNone
    (.invalid "user is already a member of this organization")
  (known.2.addMemberWithGroup role known.1 organizationId 1).mapError .database

/-- No administrator demotes themselves. -/
def updateMemberRole (actorId organizationId userId : Int) (role : String) :
    Except PermissionGroupError Directory := do
  ensure (directory.actorIsPrivileged actorId organizationId)
    (.escalation "only organization admins can change roles")
  let role ← requestedRole role
  ensure (userId != actorId || role == .admin)
    (.invalid "you cannot demote yourself")
  ensureHit (directory.updateRole userId organizationId role) .notFound

/-- No administrator removes themselves. -/
def removeMember (actorId organizationId userId : Int) :
    Except PermissionGroupError Directory := do
  ensure (directory.actorIsPrivileged actorId organizationId)
    (.escalation "only organization admins can remove members")
  ensure (userId != actorId) (.invalid "you cannot remove yourself")
  ensureHit (directory.removeMember userId organizationId) .notFound

/-- A group with policies that may be given. -/
def createGroup (actorId organizationId : Int) (name : String)
    (actions : List String) :
    Except PermissionGroupError (Int × Directory) := do
  let policyIds ← directory.validatedPolicyIds actorId organizationId actions
  (directory.createGroup organizationId (Text.trim name)
    policyIds).mapError .database

/-- The policies of a group are replaced. -/
def updateGroup (actorId organizationId groupId : Int) (name : String)
    (actions : List String) : Except PermissionGroupError Directory := do
  let policyIds ← directory.validatedPolicyIds actorId organizationId actions
  let updated ← (directory.updateGroup organizationId groupId
    (Text.trim name) policyIds).mapError .database
  ensureHit updated .notFound

def deleteGroup (organizationId groupId : Int) :
    Except PermissionGroupError Directory := do
  let deleted ← (directory.deleteGroup organizationId groupId).mapError
    .database
  ensureHit deleted
    (.invalid "group is protected, missing, or still assigned to members")

/-- A group that may be given. -/
def assignGroup (actorId organizationId userId groupId : Int) :
    Except PermissionGroupError Directory := do
  directory.ensureManageableTarget actorId userId organizationId
  directory.ensureSubset actorId organizationId (directory.groupActions groupId)
  ensureHit (directory.assignGroup organizationId userId groupId) .notFound

/-- The overrides of a user are replaced. -/
def replaceUserPolicies (actorId organizationId userId : Int)
    (policies : List UserPolicyEntry) :
    Except PermissionGroupError Directory := do
  directory.ensureManageableTarget actorId userId organizationId
  let parsed ← policies.mapM directory.parsedPolicy
  directory.ensureSubset actorId organizationId (parsed.map Prod.snd)
  let replaced ← (directory.replaceUserPolicies organizationId userId
    (parsed.map Prod.fst)).mapError .database
  ensureHit replaced .notFound

end PermissionGroupService

/-- The calls of the service that write. -/
inductive GroupCall where
  | createGroup (actorId organizationId : Int) (name : String)
      (actions : List String)
  | updateGroup (actorId organizationId groupId : Int) (name : String)
      (actions : List String)
  | deleteGroup (actorId organizationId groupId : Int)
  | assignGroup (actorId organizationId userId groupId : Int)
  | replaceUserPolicies (actorId organizationId userId : Int)
      (policies : List UserPolicyEntry)
  | createInvite (actorId organizationId : Int) (email role : String)
      (groupId : Int) (random : Option String)
  | cancelInvite (actorId organizationId inviteId : Int)
  | acceptInvite (userId : Int) (token : String)
  | listInvites (actorId organizationId : Int)
  | addMember (actorId organizationId : Int) (email : String)
      (password : Option String) (role : String)
  | updateMemberRole (actorId organizationId userId : Int) (role : String)
  | removeMember (actorId organizationId userId : Int)

/-- A call and the time at which it is made. -/
structure GroupRequest where
  now : Int
  call : GroupCall

/-- The service of a call. -/
def GroupRequest.perform (world : GroupWorld) (directory : Directory)
    (request : GroupRequest) : Except PermissionGroupError Directory :=
  match request.call with
  | .createGroup actorId organizationId name actions =>
    (PermissionGroupService.createGroup directory actorId organizationId name
      actions).map Prod.snd
  | .updateGroup actorId organizationId groupId name actions =>
    PermissionGroupService.updateGroup directory actorId organizationId
      groupId name actions
  | .deleteGroup _ organizationId groupId =>
    PermissionGroupService.deleteGroup directory organizationId groupId
  | .assignGroup actorId organizationId userId groupId =>
    PermissionGroupService.assignGroup directory actorId organizationId userId
      groupId
  | .replaceUserPolicies actorId organizationId userId policies =>
    PermissionGroupService.replaceUserPolicies directory actorId
      organizationId userId policies
  | .createInvite actorId organizationId email role groupId random =>
    (PermissionGroupService.createInvite world directory request.now actorId
      organizationId email role groupId random).map Prod.snd
  | .cancelInvite _ organizationId inviteId =>
    PermissionGroupService.cancelInvite directory organizationId inviteId
  | .acceptInvite userId token =>
    PermissionGroupService.acceptInvite world directory request.now userId
      token
  | .listInvites _ organizationId =>
    .ok (PermissionGroupService.listInvites directory request.now
      organizationId).2
  | .addMember actorId organizationId email password role =>
    PermissionGroupService.addMember world directory actorId organizationId
      email password role
  | .updateMemberRole actorId organizationId userId role =>
    PermissionGroupService.updateMemberRole directory actorId organizationId
      userId role
  | .removeMember actorId organizationId userId =>
    PermissionGroupService.removeMember directory actorId organizationId
      userId

/-- The tables after a call. -/
def serveGroups (world : GroupWorld) (directory : Directory)
    (request : GroupRequest) : Directory :=
  (request.perform world directory).toOption.getD directory

variable {actorId organizationId groupId userId : Int} {directory : Directory}

namespace Directory

/-- The actor may pass the action on. -/
def Delegates (directory : Directory) (actorId organizationId : Int)
    (action : String) : Prop :=
  directory.actorIsPrivileged actorId organizationId = true ∨
    action ∈ directory.effectiveActions actorId organizationId

theorem ensureSubset_eq_ok {requested : List String} {value : Unit} :
    directory.ensureSubset actorId organizationId requested = .ok value ↔
      ∀ action ∈ requested, directory.Delegates actorId organizationId
        action := by
  unfold ensureSubset missingDelegatedAction Delegates
  cases directory.actorIsPrivileged actorId organizationId with
  | true => simp
  | false =>
    simp only [Bool.false_eq_true, if_false, false_or]
    split
    · rename_i action found
      have missing := List.find?_some found
      simp only [Bool.not_eq_true', List.contains_eq_mem,
        decide_eq_false_iff_not] at missing
      simp only [reduceCtorEq, false_iff]
      intro held
      exact missing (held action (List.mem_of_find?_eq_some found))
    · rename_i none
      simpa using none

theorem insertGroupPolicies_ok {policyIds : List Int}
    (inserted : directory.insertGroupPolicies groupId policyIds = .ok next) :
    { directory with
      groupPolicies := directory.groupPolicies ++
        policyIds.map (GroupPolicy.mk groupId) } = next := by
  induction policyIds generalizing directory with
  | nil =>
    simpa [insertGroupPolicies] using inserted
  | cons policyId policyIds ih =>
    simp only [insertGroupPolicies, bind_eq_ok, require_eq_ok, exists_const]
      at inserted
    simpa using ih inserted.2.2

theorem insertUserPolicies_ok {entries : List (Int × PolicyEffect)}
    (inserted : directory.insertUserPolicies organizationId userId entries =
      .ok next) :
    { directory with
      userPolicies := directory.userPolicies ++ entries.map fun entry =>
        ⟨userId, organizationId, entry.1, entry.2⟩ } = next := by
  induction entries generalizing directory with
  | nil =>
    simpa [insertUserPolicies] using inserted
  | cons entry entries ih =>
    simp only [insertUserPolicies, bind_eq_ok, require_eq_ok, exists_const]
      at inserted
    simpa using ih inserted.2.2

end Directory

/-- What a call that succeeds has checked, and the tables that it leaves. -/
inductive Effect (world : GroupWorld) (directory : Directory) (now : Int) :
    GroupCall → Directory → Prop where
  | createGroup {actorId organizationId : Int} {name : String}
      {actions : List String} {policyIds : List Int}
      (delegated : ∀ action ∈ actions,
        directory.Delegates actorId organizationId action)
      (resolved : actions.mapM directory.policyIdOf = .ok policyIds) :
      Effect world directory now
        (.createGroup actorId organizationId name actions)
        { directory with
          groups := directory.groups ++
            [⟨directory.nextGroup, Text.trim name, false,
              some organizationId⟩]
          nextGroup := directory.nextGroup + 1
          groupPolicies := directory.groupPolicies ++
            policyIds.map (GroupPolicy.mk directory.nextGroup) }
  | updateGroup {actorId organizationId groupId : Int} {name : String}
      {actions : List String} {policyIds : List Int}
      (delegated : ∀ action ∈ actions,
        directory.Delegates actorId organizationId action)
      (resolved : actions.mapM directory.policyIdOf = .ok policyIds)
      (own : directory.groups.any
        (Directory.isOwnGroup organizationId groupId) = true) :
      Effect world directory now
        (.updateGroup actorId organizationId groupId name actions)
        { directory with
          groups := updateWhere (Directory.isOwnGroup organizationId groupId)
            (fun group => { group with name := Text.trim name })
            directory.groups
          groupPolicies := (directory.groupPolicies.filter fun entry =>
            entry.groupId != groupId) ++
              policyIds.map (GroupPolicy.mk groupId) }
  | deleteGroup {actorId organizationId groupId : Int} :
      Effect world directory now
        (.deleteGroup actorId organizationId groupId)
        { directory with
          groups := directory.groups.filter fun group =>
            !Directory.isOwnGroup organizationId groupId group
          members := updateWhere (fun member => member.groupId == some groupId)
            (fun member => { member with groupId := none }) directory.members
          invites := directory.invites.filter fun invite =>
            invite.groupId != groupId }
  | assignGroup {actorId organizationId userId groupId : Int}
      (delegated : ∀ action ∈ directory.groupActions groupId,
        directory.Delegates actorId organizationId action)
      (valid : directory.validGroup organizationId groupId = true) :
      Effect world directory now
        (.assignGroup actorId organizationId userId groupId)
        { directory with
          members := updateWhere (Directory.isMember userId organizationId)
            (fun member => { member with groupId := some groupId })
            directory.members }
  | replaceUserPolicies {actorId organizationId userId : Int}
      {policies : List UserPolicyEntry}
      {parsed : List ((Int × PolicyEffect) × String)}
      (resolved : policies.mapM directory.parsedPolicy = .ok parsed)
      (delegated : ∀ action ∈ parsed.map Prod.snd,
        directory.Delegates actorId organizationId action) :
      Effect world directory now
        (.replaceUserPolicies actorId organizationId userId policies)
        { directory with
          userPolicies := (directory.userPolicies.filter fun entry =>
            !(entry.userId == userId && entry.orgId == organizationId)) ++
              (parsed.map Prod.fst).map fun entry =>
                ⟨userId, organizationId, entry.1, entry.2⟩ }
  | createInvite {actorId organizationId : Int} {email text : String}
      {groupId : Int} {token address : String} {role : MemberRole}
      (administered : role = .admin →
        directory.actorIsPrivileged actorId organizationId = true)
      (delegated : ∀ action ∈ directory.groupActions groupId,
        directory.Delegates actorId organizationId action)
      (existing : directory.hasGroup groupId = true) :
      Effect world directory now
        (.createInvite actorId organizationId email text groupId (some token))
        { directory with
          invites := directory.invites ++
            [⟨directory.nextInvite, address, role, .pending,
              world.hashToken token, groupId, organizationId, actorId,
              now + 7 * 86400⟩]
          nextInvite := directory.nextInvite + 1 }
  | cancelInvite {actorId organizationId inviteId : Int} :
      Effect world directory now
        (.cancelInvite actorId organizationId inviteId)
        (directory.setStatus inviteId .rejected).2
  | acceptInvite {userId : Int} {token : String} {invite : OrganizationInvite}
      (found : directory.findPendingByToken now (world.hashToken token) =
        some invite)
      (outside : ∀ member ∈ directory.members,
        Directory.isMember userId invite.organizationId member = false)
      (existing : directory.hasGroup invite.groupId = true) :
      Effect world directory now (.acceptInvite userId token)
        { directory with
          members := directory.members ++
            [⟨directory.nextMember, invite.role, userId,
              invite.organizationId, some invite.groupId⟩]
          nextMember := directory.nextMember + 1
          invites := updateWhere (Directory.isPending invite.id)
            (fun invite => { invite with status := .accepted })
            directory.invites }
  | listInvites {actorId organizationId : Int} :
      Effect world directory now (.listInvites actorId organizationId)
        (directory.purgeExpired now)
  | addMember {actorId organizationId userId : Int} {email text : String}
      {password : Option String} {role : MemberRole}
      (privileged :
        directory.actorIsPrivileged actorId organizationId = true)
      (existing : directory.hasGroup 1 = true) :
      Effect world directory now
        (.addMember actorId organizationId email password text)
        { directory with
          members := directory.members ++
            [⟨directory.nextMember, role, userId, organizationId, some 1⟩]
          nextMember := directory.nextMember + 1 }
  | updateMemberRole {actorId organizationId userId : Int} {text : String}
      {role : MemberRole}
      (privileged :
        directory.actorIsPrivileged actorId organizationId = true) :
      Effect world directory now
        (.updateMemberRole actorId organizationId userId text)
        (directory.updateRole userId organizationId role).2
  | removeMember {actorId organizationId userId : Int}
      (privileged :
        directory.actorIsPrivileged actorId organizationId = true) :
      Effect world directory now (.removeMember actorId organizationId userId)
        (directory.removeMember userId organizationId).2

section

open PermissionGroupService

variable {world : GroupWorld} {now : Int}

theorem effect_createGroup {name : String} {actions : List String}
    {created : Int × Directory}
    (succeeded : createGroup directory actorId
      organizationId name actions = .ok created) :
    Effect world directory now
      (.createGroup actorId organizationId name actions) created.2 := by
  simp only [createGroup,
    Directory.validatedPolicyIds, Directory.createGroup, bind_eq_ok,
    mapError_eq_ok, require_eq_ok, exists_const, pure, Except.pure,
    Except.ok.injEq] at succeeded
  obtain ⟨policyIds, ⟨_, subset, resolved⟩, _, _, inserted, stored, rfl⟩ :=
    succeeded
  have written := Directory.insertGroupPolicies_ok stored
  rw [← written]
  exact .createGroup (Directory.ensureSubset_eq_ok.mp subset) resolved

theorem effect_updateGroup {name : String} {actions : List String}
    (succeeded : updateGroup directory actorId
      organizationId groupId name actions = .ok next) :
    Effect world directory now
      (.updateGroup actorId organizationId groupId name actions) next := by
  simp only [updateGroup,
    Directory.validatedPolicyIds, bind_eq_ok, mapError_eq_ok, ensureHit_eq_ok]
    at succeeded
  obtain ⟨policyIds, ⟨_, subset, resolved⟩, updated, stored, hit, rfl⟩ :=
    succeeded
  unfold Directory.updateGroup at stored
  split at stored
  · rename_i own
    simp only [bind_eq_ok, require_eq_ok, exists_const, pure, Except.pure,
      Except.ok.injEq] at stored
    obtain ⟨_, inserted, written, rfl⟩ := stored
    rw [← Directory.insertGroupPolicies_ok written]
    exact .updateGroup (Directory.ensureSubset_eq_ok.mp subset) resolved own
  · cases stored
    cases hit

theorem effect_deleteGroup
    (succeeded : deleteGroup directory organizationId
      groupId = .ok next) :
    Effect world directory now
      (.deleteGroup actorId organizationId groupId) next := by
  simp only [deleteGroup, bind_eq_ok, mapError_eq_ok,
    ensureHit_eq_ok] at succeeded
  obtain ⟨deleted, stored, hit, rfl⟩ := succeeded
  unfold Directory.deleteGroup at stored
  split at stored
  · cases stored
    cases hit
  · split at stored
    · simp only [bind_eq_ok, require_eq_ok, exists_const, pure, Except.pure,
        Except.ok.injEq] at stored
      obtain ⟨_, _, rfl⟩ := stored
      exact .deleteGroup
    · cases stored
      cases hit

theorem effect_assignGroup
    (succeeded : assignGroup directory actorId
      organizationId userId groupId = .ok next) :
    Effect world directory now
      (.assignGroup actorId organizationId userId groupId) next := by
  simp only [assignGroup, bind_eq_ok, ensureHit_eq_ok] at succeeded
  obtain ⟨_, _, _, subset, hit, rfl⟩ := succeeded
  unfold Directory.assignGroup at hit ⊢
  split at hit
  · rename_i valid
    rw [if_pos valid]
    exact .assignGroup (Directory.ensureSubset_eq_ok.mp subset) valid
  · cases hit

theorem effect_replaceUserPolicies {policies : List UserPolicyEntry}
    (succeeded : replaceUserPolicies directory actorId
      organizationId userId policies = .ok next) :
    Effect world directory now
      (.replaceUserPolicies actorId organizationId userId policies) next := by
  simp only [replaceUserPolicies, bind_eq_ok,
    mapError_eq_ok, ensureHit_eq_ok] at succeeded
  obtain ⟨_, _, parsed, resolved, _, subset, replaced, stored, hit, rfl⟩ :=
    succeeded
  unfold Directory.replaceUserPolicies at stored
  split at stored
  · simp only [bind_eq_ok, pure, Except.pure, Except.ok.injEq] at stored
    obtain ⟨inserted, written, rfl⟩ := stored
    rw [← Directory.insertUserPolicies_ok written]
    exact .replaceUserPolicies resolved (Directory.ensureSubset_eq_ok.mp subset)
  · cases stored
    cases hit

theorem effect_createInvite {email text : String} {random : Option String}
    {created : String × Directory}
    (succeeded : createInvite world directory now actorId
      organizationId email text groupId random = .ok created) :
    Effect world directory now
      (.createInvite actorId organizationId email text groupId random)
      created.2 := by
  simp only [createInvite, bind_eq_ok, ensure_eq_ok]
    at succeeded
  obtain ⟨address, _, role, _, _, administered, _, subset, rest⟩ := succeeded
  cases random with
  | none => cases rest
  | some token =>
    simp only [Directory.createInvite, bind_eq_ok, mapError_eq_ok,
      require_eq_ok, exists_const, pure, Except.pure, Except.ok.injEq]
      at rest
    obtain ⟨_, ⟨_, existing, _, _, rfl⟩, rfl⟩ := rest
    apply Effect.createInvite _ (Directory.ensureSubset_eq_ok.mp subset)
      existing
    intro admin
    simpa [admin] using administered

theorem effect_acceptInvite {token : String}
    (succeeded : acceptInvite world directory now userId
      token = .ok next) :
    Effect world directory now (.acceptInvite userId token) next := by
  unfold acceptInvite at succeeded
  split at succeeded
  · cases succeeded
  · rename_i invite found
    split at succeeded
    · cases succeeded
    · simp only [bind_eq_ok, ensure_eq_ok, mapError_eq_ok, pure, Except.pure,
        Except.ok.injEq] at succeeded
      obtain ⟨_, _, _, _, joined, added, rfl⟩ := succeeded
      obtain ⟨outside, _, _, existing, rfl⟩ := insertMember_eq_ok.mp added
      exact .acceptInvite found outside existing

theorem effect_addMember {email text : String} {password : Option String}
    (succeeded : addMember world directory actorId
      organizationId email password text = .ok next) :
    Effect world directory now
      (.addMember actorId organizationId email password text) next := by
  simp only [addMember, bind_eq_ok, ensure_eq_ok, mapError_eq_ok] at succeeded
  obtain ⟨_, privileged, address, _, role, _, known, looked, _, _, added⟩ :=
    succeeded
  unfold existingOrNewUser at looked
  split at looked
  · cases looked
    obtain ⟨_, _, _, existing, rfl⟩ := insertMember_eq_ok.mp added
    exact .addMember privileged existing
  · simp only [bind_eq_ok, mapError_eq_ok] at looked
    obtain ⟨_, _, created, inserted, _⟩ := looked
    simp only [Directory.insertUser, bind_eq_ok] at inserted
    obtain ⟨_, _, failed⟩ := inserted
    cases failed

/-- Every call that succeeds has its effect. -/
theorem Effect.of_perform {request : GroupRequest}
    (succeeded : request.perform world directory = .ok next) :
    Effect world directory request.now request.call next := by
  obtain ⟨now, call⟩ := request
  cases call with
  | createGroup =>
    simp only [GroupRequest.perform, map_eq_ok] at succeeded
    obtain ⟨created, done, rfl⟩ := succeeded
    exact effect_createGroup done
  | updateGroup => exact effect_updateGroup succeeded
  | deleteGroup => exact effect_deleteGroup succeeded
  | assignGroup => exact effect_assignGroup succeeded
  | replaceUserPolicies => exact effect_replaceUserPolicies succeeded
  | createInvite =>
    simp only [GroupRequest.perform, map_eq_ok] at succeeded
    obtain ⟨created, done, rfl⟩ := succeeded
    exact effect_createInvite done
  | cancelInvite =>
    simp only [GroupRequest.perform, PermissionGroupService.cancelInvite]
      at succeeded
    split at succeeded
    · cases succeeded
    · simp only [bind_eq_ok, ensure_eq_ok, ensureHit_eq_ok] at succeeded
      obtain ⟨_, _, _, rfl⟩ := succeeded
      exact .cancelInvite
  | acceptInvite => exact effect_acceptInvite succeeded
  | listInvites =>
    cases succeeded
    exact .listInvites
  | addMember => exact effect_addMember succeeded
  | updateMemberRole =>
    simp only [GroupRequest.perform,
      PermissionGroupService.updateMemberRole, bind_eq_ok, ensure_eq_ok,
      ensureHit_eq_ok] at succeeded
    obtain ⟨_, privileged, role, _, _, _, _, rfl⟩ := succeeded
    exact .updateMemberRole privileged
  | removeMember =>
    simp only [GroupRequest.perform, PermissionGroupService.removeMember,
      bind_eq_ok, ensure_eq_ok, ensureHit_eq_ok] at succeeded
    obtain ⟨_, privileged, _, _, _, rfl⟩ := succeeded
    exact .removeMember privileged

end

theorem serveGroups_keeps {world : GroupWorld}
    {request : GroupRequest} {Holds : Directory → Prop}
    (holds : Holds directory)
    (kept : ∀ next, Effect world directory request.now request.call next →
      Holds next) :
    Holds (serveGroups world directory request) := by
  unfold serveGroups
  cases outcome : request.perform world directory with
  | error failure => exact holds
  | ok next => exact kept next (Effect.of_perform outcome)

end OpenOxide.Access
