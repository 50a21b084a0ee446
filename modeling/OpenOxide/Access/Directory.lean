import OpenOxide.Relational.Table
import OpenOxide.Text.Strings

/-!
# Users, organizations and permissions

The tables that decide who may do what, and the statements of the repositories
on them.  A statement that violates a constraint of the migrations fails and
changes nothing.  Identifiers come from counters that are never turned back, as
with `AUTOINCREMENT`.

Left out are the columns that no permission depends on: time stamps of creation
and update, profile texts and the audit log.
-/

namespace OpenOxide.Access

open Relational

/-- The values of `users.role` that its `CHECK` constraint accepts. -/
inductive UserRole where
  | owner
  | admin
  | member
deriving DecidableEq

def UserRole.asStr : UserRole → String
  | .owner => "OWNER"
  | .admin => "ADMIN"
  | .member => "MEMBER"

def UserRole.ofColumn (text : String) : Option UserRole :=
  [UserRole.owner, .admin, .member].find? fun role => role.asStr == text

/-- The values of `organization_members.role` and `organization_invites.role`. -/
inductive MemberRole where
  | admin
  | member
deriving DecidableEq

def MemberRole.asStr : MemberRole → String
  | .admin => "ADMIN"
  | .member => "MEMBER"

/-- What a policy does with its action. -/
inductive PolicyEffect where
  | grant
  | deny
deriving DecidableEq

/-- `organization_invites.status`. -/
inductive InviteStatus where
  | pending
  | accepted
  | rejected
deriving DecidableEq

structure User where
  id : Int
  email : Option String
  firstName : Option String
  lastName : Option String
  avatar : String
  password : String
  role : Option UserRole
  groupId : Int
deriving DecidableEq

structure Organization where
  id : Int
  name : String
  logo : Option String
  slug : String
  ownerId : Int
deriving DecidableEq

structure Member where
  id : Int
  role : MemberRole
  userId : Int
  organizationId : Int
  groupId : Option Int
deriving DecidableEq

structure Group where
  id : Int
  name : String
  isSystem : Bool
  organizationId : Option Int
deriving DecidableEq

structure Policy where
  id : Int
  action : String
deriving DecidableEq

structure GroupPolicy where
  groupId : Int
  policyId : Int
deriving DecidableEq

structure UserPolicy where
  userId : Int
  orgId : Int
  policyId : Int
  effect : PolicyEffect
deriving DecidableEq

structure OrganizationInvite where
  id : Int
  email : String
  role : MemberRole
  status : InviteStatus
  token : String
  groupId : Int
  organizationId : Int
  invitedBy : Int
  expiredAt : Int
deriving DecidableEq

/-- The tables and the counters of their identifiers. -/
structure Directory where
  users : List User
  nextUser : Int
  organizations : List Organization
  nextOrganization : Int
  members : List Member
  nextMember : Int
  groups : List Group
  nextGroup : Int
  policies : List Policy
  groupPolicies : List GroupPolicy
  userPolicies : List UserPolicy
  invites : List OrganizationInvite
  nextInvite : Int
deriving DecidableEq

/-- How a statement fails. -/
inductive DbError where
  | uniqueViolation (column : String)
  | checkViolation (constraint : String)
  | foreignKeyViolation
  | rowNotFound
  | unavailable
deriving DecidableEq

/-- The errors of `AuthService`, up to those of email verification. -/
inductive AuthError where
  | invalidCredentials
  | invalidToken
  | twoFactorRequired
  | invalidSecondFactor
  | invalidResetToken
  | invalidOperation (message : String)
  | database (error : DbError)
  | internal

/-- The counters are ahead of their tables. -/
structure Directory.Ids (directory : Directory) : Prop where
  users : ∀ user ∈ directory.users, user.id < directory.nextUser
  organizations : ∀ organization ∈ directory.organizations,
    organization.id < directory.nextOrganization
  members : ∀ member ∈ directory.members,
    member.userId < directory.nextUser ∧
      member.organizationId < directory.nextOrganization
  groups : ∀ group ∈ directory.groups, group.id < directory.nextGroup
  invites : ∀ invite ∈ directory.invites, invite.id < directory.nextInvite

variable {ε α β : Type} {first : Except ε α}

theorem bind_eq_ok {next : α → Except ε β} {result : β} :
    (first >>= next) = .ok result ↔
      ∃ value, first = .ok value ∧ next value = .ok result := by
  cases first <;> simp [bind, Except.bind]

theorem map_eq_ok {change : α → β} {result : β} :
    first.map change = .ok result ↔
      ∃ value, first = .ok value ∧ change value = result := by
  cases first <;> simp [Except.map]

theorem mapError_eq_ok {φ : Type} {wrap : ε → φ}
    {value : α} : first.mapError wrap = .ok value ↔ first = .ok value := by
  cases first <;> simp [Except.mapError]

/-- When every element of a list is mapped successfully, the images are those of
the elements. -/
theorem mapM_ok_mem {change : α → Except ε β} {sources : List α}
    {targets : List β} (mapped : sources.mapM change = .ok targets) :
    (∀ target ∈ targets, ∃ source ∈ sources, change source = .ok target) ∧
      ∀ source ∈ sources, ∃ target ∈ targets, change source = .ok target := by
  induction sources generalizing targets with
  | nil =>
    cases mapped
    simp
  | cons source sources ih =>
    simp only [List.mapM_cons, bind_eq_ok, pure, Except.pure,
      Except.ok.injEq] at mapped
    obtain ⟨target, first, rest, later, rfl⟩ := mapped
    obtain ⟨sound, complete⟩ := ih later
    constructor
    · intro image present
      rcases List.mem_cons.mp present with rfl | further
      · exact ⟨source, List.mem_cons_self, first⟩
      · obtain ⟨other, member, same⟩ := sound image further
        exact ⟨other, List.mem_cons_of_mem _ member, same⟩
    · intro other present
      rcases List.mem_cons.mp present with rfl | further
      · exact ⟨target, List.mem_cons_self, first⟩
      · obtain ⟨image, member, same⟩ := complete other further
        exact ⟨image, List.mem_cons_of_mem _ member, same⟩

def require (condition : Bool) (error : DbError) : Except DbError Unit :=
  if condition then .ok () else .error error

theorem require_eq_ok {condition : Bool} {error : DbError} {value : Unit} :
    require condition error = .ok value ↔ condition = true := by
  cases condition <;> simp [require]

namespace Directory

variable (directory : Directory)

def hasUser (id : Int) : Bool :=
  directory.users.any fun user => user.id == id

def hasOrganization (id : Int) : Bool :=
  directory.organizations.any fun organization => organization.id == id

def hasGroup (id : Int) : Bool :=
  directory.groups.any fun group => group.id == id

/-- `UserRepository::get_by_id`. -/
def userById (id : Int) : Option User :=
  directory.users.find? fun user => user.id == id

/-- `UserRepository::get_by_email`. -/
def userByEmail (email : String) : Option User :=
  directory.users.find? fun user => user.email == some email

def isMember (userId organizationId : Int) (member : Member) : Bool :=
  member.userId == userId && member.organizationId == organizationId

/-- `OrganizationMemberRepository::role`. -/
def role (userId organizationId : Int) : Option MemberRole :=
  (directory.members.find? (isMember userId organizationId)).map Member.role

/-- `OrganizationMemberRepository::first_organization_id`; the rows stand in
the order of their identifiers. -/
def firstOrganizationId (userId : Int) : Option Int :=
  (directory.members.find? fun member => member.userId == userId).map
    Member.organizationId

/-- The actions that a join with `policy` finds. -/
def policyActions (policyId : Int) : List String :=
  (directory.policies.filter fun policy => policy.id == policyId).map
    Policy.action

/-- `PermissionGroupRepository::group_actions`. -/
def groupActions (groupId : Int) : List String :=
  (directory.groupPolicies.filter fun entry => entry.groupId == groupId).flatMap
    fun entry => directory.policyActions entry.policyId

/-- The overrides of a user in an organization with one effect. -/
def overrides (userId organizationId : Int)
    (effect : PolicyEffect) : List String :=
  (directory.userPolicies.filter fun entry => entry.userId == userId &&
    entry.orgId == organizationId && entry.effect == effect).flatMap
    fun entry => directory.policyActions entry.policyId

/-- The actions of the groups that a user has in an organization. -/
def memberActions (userId organizationId : Int) : List String :=
  (directory.members.filter (isMember userId organizationId)).flatMap
    fun member => (member.groupId.map directory.groupActions).getD []

/-- `PermissionGroupRepository::effective_actions`, up to the order of the
rows.  `GroupRepository::get_user_final_permissions` is the same query. -/
def effectiveActions (userId organizationId : Int) : List String :=
  let denied := directory.overrides userId organizationId .deny
  ((directory.memberActions userId organizationId ++
    directory.overrides userId organizationId .grant).filter
      fun action => !denied.contains action).eraseDups

/-- `GroupRepository::create_owner_group_if_not_exists`. -/
def createOwnerGroupIfNotExists : Int × Directory :=
  match directory.groups.find? fun group => group.name == "owner" with
  | some group => (group.id, directory)
  | none =>
    (directory.nextGroup,
      { directory with
        groups := directory.groups ++
          [⟨directory.nextGroup, "owner", false, none⟩]
        nextGroup := directory.nextGroup + 1 })

/-- `UserRepository::create` and the insertion of an owner: the role is a text
until the `CHECK` constraint has accepted it. -/
def insertUser (email firstName lastName :
    Option String) (avatar password role : String) (groupId : Int) :
    Except DbError (User × Directory) := do
  require (email.isNone ||
    directory.users.all fun user => user.email != email)
    (.uniqueViolation "users.email")
  match UserRole.ofColumn role with
  | none => throw (.checkViolation "role_check")
  | some role => do
      require (directory.hasGroup groupId) .foreignKeyViolation
      let user : User :=
        { id := directory.nextUser, email, firstName, lastName, avatar,
          password, role := some role, groupId }
      pure (user, { directory with
        users := directory.users ++ [user]
        nextUser := directory.nextUser + 1 })

/-- `UserRepository::create_owner_and_return`. -/
def createOwnerAndReturn (email : String)
    (firstName lastName : Option String) (avatar password : String)
    (groupId : Int) : Except DbError (User × Directory) :=
  directory.insertUser (some email) firstName lastName avatar password "OWNER"
    groupId

/-- `OrganizationRepository::create_in_transaction`.  SQLite looks at the younger
index first. -/
def createOrganization (name : String)
    (logo : Option String) (slug : String) (ownerId : Int) :
    Except DbError (Organization × Directory) := do
  require (directory.organizations.all fun organization =>
    organization.slug != slug) (.uniqueViolation "organization.slug")
  require (directory.organizations.all fun organization =>
    organization.name != name) (.uniqueViolation "organization.name")
  require (directory.hasUser ownerId) .foreignKeyViolation
  let organization : Organization :=
    { id := directory.nextOrganization, name, logo, slug, ownerId }
  pure (organization, { directory with
    organizations := directory.organizations ++ [organization]
    nextOrganization := directory.nextOrganization + 1 })

/-- The insertion into `organization_members` that the three `add_member`
methods share; the transaction of a signup leaves the group empty. -/
def insertMember (role : MemberRole)
    (userId organizationId : Int) (groupId : Option Int) :
    Except DbError Directory := do
  require (!directory.members.any (isMember userId organizationId))
    (.uniqueViolation "organization_members.user_id, organization_id")
  require (directory.hasUser userId) .foreignKeyViolation
  require (directory.hasOrganization organizationId) .foreignKeyViolation
  require (groupId.all directory.hasGroup) .foreignKeyViolation
  pure { directory with
    members := directory.members ++
      [{ id := directory.nextMember, role, userId, organizationId, groupId }]
    nextMember := directory.nextMember + 1 }

def addMemberInTransaction (role : MemberRole)
    (userId organizationId : Int) : Except DbError Directory :=
  directory.insertMember role userId organizationId none

def addMemberWithGroup (role : MemberRole)
    (userId organizationId groupId : Int) : Except DbError Directory :=
  directory.insertMember role userId organizationId (some groupId)

/-- `OrganizationMemberRepository::update_role`. -/
def updateRole (userId organizationId : Int)
    (role : MemberRole) : Bool × Directory :=
  (directory.members.any (isMember userId organizationId),
    { directory with
      members := updateWhere (isMember userId organizationId)
        (fun member => { member with role }) directory.members })

/-- `OrganizationMemberRepository::remove_member`. -/
def removeMember (userId organizationId : Int) : Bool × Directory :=
  (directory.members.any (isMember userId organizationId),
    { directory with
      members := directory.members.filter fun member =>
        !isMember userId organizationId member })

/-- The insertions into `group_policy`, whose pairs are unique. -/
def insertGroupPolicies (directory : Directory) (groupId : Int) :
    List Int → Except DbError Directory
  | [] => .ok directory
  | policyId :: policyIds => do
      require (!directory.groupPolicies.contains ⟨groupId, policyId⟩)
        (.uniqueViolation "group_policy.group_id, policy_id")
      require (directory.policies.any fun policy => policy.id == policyId)
        .foreignKeyViolation
      insertGroupPolicies
        { directory with
          groupPolicies := directory.groupPolicies ++ [⟨groupId, policyId⟩] }
        groupId policyIds

/-- `PermissionGroupRepository::create_group`. -/
def createGroup (organizationId : Int) (name : String)
    (policyIds : List Int) : Except DbError (Int × Directory) := do
  require (directory.groups.all fun group => group.name != name)
    (.uniqueViolation "groups.name")
  require (directory.hasOrganization organizationId) .foreignKeyViolation
  let groupId := directory.nextGroup
  let created ← insertGroupPolicies
    { directory with
      groups := directory.groups ++
        [⟨groupId, name, false, some organizationId⟩]
      nextGroup := groupId + 1 }
    groupId policyIds
  pure (groupId, created)

/-- A group that the organization may edit. -/
def isOwnGroup (organizationId groupId : Int) (group : Group) : Bool :=
  group.id == groupId && group.organizationId == some organizationId &&
    !group.isSystem

/-- `PermissionGroupRepository::update_group`. -/
def updateGroup (organizationId groupId : Int)
    (name : String) (policyIds : List Int) :
    Except DbError (Bool × Directory) := do
  if directory.groups.any (isOwnGroup organizationId groupId) then
    require (directory.groups.all fun group =>
      isOwnGroup organizationId groupId group || group.name != name)
      (.uniqueViolation "groups.name")
    let updated ← insertGroupPolicies
      { directory with
        groups := updateWhere (isOwnGroup organizationId groupId)
          (fun group => { group with name }) directory.groups
        groupPolicies := directory.groupPolicies.filter fun entry =>
          entry.groupId != groupId }
      groupId policyIds
    pure (true, updated)
  else
    pure (false, directory)

/-- `PermissionGroupRepository::delete_group`.  Rows of `group_policy` and
`users` hold a group back; memberships lose it and invitations go with it. -/
def deleteGroup (organizationId groupId : Int) :
    Except DbError (Bool × Directory) := do
  if directory.members.any fun member =>
      member.organizationId == organizationId &&
        member.groupId == some groupId then
    pure (false, directory)
  else if directory.groups.any (isOwnGroup organizationId groupId) then
    require (directory.groupPolicies.all fun entry =>
      entry.groupId != groupId) .foreignKeyViolation
    require (directory.users.all fun user => user.groupId != groupId)
      .foreignKeyViolation
    pure (true, { directory with
      groups := directory.groups.filter fun group =>
        !isOwnGroup organizationId groupId group
      members := updateWhere (fun member => member.groupId == some groupId)
        (fun member => { member with groupId := none }) directory.members
      invites := directory.invites.filter fun invite =>
        invite.groupId != groupId })
  else
    pure (false, directory)

/-- The group is global or belongs to the organization. -/
def validGroup (organizationId groupId : Int) : Bool :=
  directory.groups.any fun group => group.id == groupId &&
    (group.organizationId == none ||
      group.organizationId == some organizationId)

/-- `PermissionGroupRepository::assign_group`. -/
def assignGroup (organizationId userId groupId : Int) : Bool × Directory :=
  if directory.validGroup organizationId groupId then
    (directory.members.any (isMember userId organizationId),
      { directory with
        members := updateWhere (isMember userId organizationId)
          (fun member => { member with groupId := some groupId })
          directory.members })
  else
    (false, directory)

/-- The insertions into `user_policy`, whose keys are unique. -/
def insertUserPolicies (directory : Directory) (organizationId userId : Int) :
    List (Int × PolicyEffect) → Except DbError Directory
  | [] => .ok directory
  | (policyId, effect) :: entries => do
      require (!directory.userPolicies.any fun entry =>
        entry.userId == userId && entry.orgId == organizationId &&
          entry.policyId == policyId)
        (.uniqueViolation "user_policy.user_id, org_id, policy_id")
      require (directory.policies.any fun policy => policy.id == policyId)
        .foreignKeyViolation
      insertUserPolicies
        { directory with
          userPolicies := directory.userPolicies ++
            [⟨userId, organizationId, policyId, effect⟩] }
        organizationId userId entries

/-- `PermissionGroupRepository::replace_user_policies`. -/
def replaceUserPolicies (organizationId userId : Int)
    (entries : List (Int × PolicyEffect)) :
    Except DbError (Bool × Directory) := do
  if directory.members.any (isMember userId organizationId) then
    let replaced ← insertUserPolicies
      { directory with
        userPolicies := directory.userPolicies.filter fun entry =>
          !(entry.userId == userId && entry.orgId == organizationId) }
      organizationId userId entries
    pure (true, replaced)
  else
    pure (false, directory)

/-- `OrganizationInviteRepository::create`. -/
def createInvite (email : String) (role : MemberRole)
    (token : String) (groupId organizationId invitedBy expiredAt : Int) :
    Except DbError Directory := do
  require (directory.invites.all fun invite => invite.token != token)
    (.uniqueViolation "organization_invites.token")
  require (directory.hasGroup groupId) .foreignKeyViolation
  require (directory.hasOrganization organizationId) .foreignKeyViolation
  require (directory.hasUser invitedBy) .foreignKeyViolation
  pure { directory with
    invites := directory.invites ++
      [{ id := directory.nextInvite, email, role, status := .pending, token,
         groupId, organizationId, invitedBy, expiredAt }]
    nextInvite := directory.nextInvite + 1 }

/-- `OrganizationInviteRepository::find_pending_by_token`. -/
def findPendingByToken (now : Int)
    (tokenHash : String) : Option OrganizationInvite :=
  directory.invites.find? fun invite => invite.token == tokenHash &&
    invite.status == .pending && decide (now < invite.expiredAt)

def inviteById (id : Int) : Option OrganizationInvite :=
  directory.invites.find? fun invite => invite.id == id

def isPending (id : Int) (invite : OrganizationInvite) : Bool :=
  invite.id == id && invite.status == .pending

/-- `OrganizationInviteRepository::set_status`. -/
def setStatus (id : Int) (status : InviteStatus) : Bool × Directory :=
  (directory.invites.any (isPending id),
    { directory with
      invites := updateWhere (isPending id)
        (fun invite => { invite with status }) directory.invites })

/-- `OrganizationInviteRepository::purge_expired`. -/
def purgeExpired (now : Int) : Directory :=
  { directory with
    invites := updateWhere
      (fun invite => invite.status == .pending &&
        decide (invite.expiredAt ≤ now))
      (fun invite => { invite with status := .rejected }) directory.invites }

end Directory

theorem insertMember_eq_ok {directory next : Directory} {role : MemberRole}
    {userId organizationId : Int} {groupId : Option Int} :
    directory.insertMember role userId organizationId groupId = .ok next ↔
      (∀ member ∈ directory.members,
          Directory.isMember userId organizationId member = false) ∧
        directory.hasUser userId = true ∧
        directory.hasOrganization organizationId = true ∧
        groupId.all directory.hasGroup = true ∧
        { directory with
          members := directory.members ++
            [⟨directory.nextMember, role, userId, organizationId, groupId⟩]
          nextMember := directory.nextMember + 1 } = next := by
  unfold Directory.insertMember
  simp only [bind_eq_ok, require_eq_ok, pure, Except.pure, Except.ok.injEq,
    exists_const, Bool.not_eq_true', List.any_eq_false, Bool.not_eq_true]

end OpenOxide.Access
