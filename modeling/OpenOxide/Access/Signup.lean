import OpenOxide.Access.Directory

/-!
# The permission check and the signup

`check_permission` asks three layers: the role of the user row, the role of the
membership, and the effective actions of the member.  A user row with the role
`OWNER` is a platform owner, for whom every check succeeds.

The transaction of a signup inserts exactly such a row, whoever signs up and
whatever the tables already hold.
-/

namespace OpenOxide.Access

/-- A resource and an operation; the action is their joined names. -/
structure PolicyAction where
  resource : String
  operation : String

def PolicyAction.asStr (action : PolicyAction) : String :=
  action.resource ++ ":" ++ action.operation

namespace Directory

def isPlatformOwner (directory : Directory) (userId : Int) : Bool :=
  ((directory.userById userId).bind User.role).any fun role => role == .owner

def checkPermission (directory : Directory) (userId organizationId : Int)
    (action : PolicyAction) : Bool :=
  if directory.isPlatformOwner userId then
    true
  else
    match directory.role userId organizationId with
    | none => false
    | some .admin => true
    | some .member =>
      (directory.effectiveActions userId organizationId).any
        fun permission => permission == action.asStr

end Directory

structure SignupDto where
  email : String
  password : String
  firstName : Option String
  lastName : Option String
  avatar : Option String

/-- What the signup gets from outside the tables: the hash of the password and
the token pair, each of which can fail, and Unicode lower-casing. -/
structure SignupWorld where
  hashPassword : String → Except AuthError String
  storeTokenPair : Except AuthError Unit
  toLowercase : String → String

/-- The user and the organization that a signup has created. -/
structure SignedUp where
  userId : Int
  organizationId : Int

namespace SignupDto

variable (input : SignupDto)

def normalizedEmail (world : SignupWorld) : String :=
  world.toLowercase (Text.trim input.email)

def nameOrDefault : String :=
  input.firstName.getD "Default"

def organizationName : String :=
  input.nameOrDefault ++ "'s Organization"

def organizationSlug (world : SignupWorld) : String :=
  world.toLowercase input.nameOrDefault ++ "-organization"

end SignupDto

/-- `AuthService::signup`: one transaction, of which nothing is left when a part
fails. -/
def signup (world : SignupWorld) (input : SignupDto) (directory : Directory) :
    Except AuthError (SignedUp × Directory) := do
  let password ← world.hashPassword input.password
  let grouped := directory.createOwnerGroupIfNotExists
  let owned ← (grouped.2.createOwnerAndReturn (input.normalizedEmail world)
    input.firstName input.lastName (input.avatar.getD "") password
    grouped.1).mapError .database
  let founded ← (owned.2.createOrganization input.organizationName none
    (input.organizationSlug world) owned.1.id).mapError .database
  let joined ← (founded.2.addMemberInTransaction .admin owned.1.id
    founded.1.id).mapError .database
  world.storeTokenPair
  pure (⟨owned.1.id, founded.1.id⟩, joined)

/-- What a signup needs: its password can be hashed and its tokens stored, and
the email, the name and the slug are free. -/
structure SignupAccepted (world : SignupWorld) (input : SignupDto)
    (directory : Directory) : Prop where
  hashed : ∃ password, world.hashPassword input.password = .ok password
  email : ∀ user ∈ directory.users,
    user.email ≠ some (input.normalizedEmail world)
  name : ∀ organization ∈ directory.organizations,
    organization.name ≠ input.organizationName
  slug : ∀ organization ∈ directory.organizations,
    organization.slug ≠ input.organizationSlug world
  stored : world.storeTokenPair = .ok ()

namespace Directory

theorem createOwnerGroup_users (directory : Directory) :
    let grouped := directory.createOwnerGroupIfNotExists.2
    grouped.users = directory.users ∧ grouped.nextUser = directory.nextUser ∧
      grouped.organizations = directory.organizations ∧
      grouped.nextOrganization = directory.nextOrganization ∧
      grouped.members = directory.members := by
  unfold createOwnerGroupIfNotExists
  split <;> simp

end Directory

/-- The row that a signup inserts. -/
def ownerRow (directory : Directory) (email : String)
    (firstName lastName : Option String) (avatar password : String)
    (groupId : Int) : User :=
  { id := directory.nextUser, email := some email, firstName, lastName, avatar,
    password, role := some .owner, groupId }

variable {directory : Directory} {world : SignupWorld} {input : SignupDto}

theorem createOwner_eq_ok {result : User × Directory} {email : String}
    {firstName lastName : Option String} {avatar password : String}
    {groupId : Int} :
    directory.createOwnerAndReturn email firstName lastName avatar password
        groupId = .ok result ↔
      (∀ other ∈ directory.users, other.email ≠ some email) ∧
        directory.hasGroup groupId = true ∧
        (ownerRow directory email firstName lastName avatar password groupId,
          { directory with
            users := directory.users ++ [ownerRow directory email firstName
              lastName avatar password groupId]
            nextUser := directory.nextUser + 1 }) = result := by
  have parsed : UserRole.ofColumn "OWNER" = some .owner := by decide
  unfold Directory.createOwnerAndReturn Directory.insertUser
  simp only [parsed, bind_eq_ok, require_eq_ok, pure, Except.pure,
    Except.ok.injEq, exists_const, Option.isNone_some, Bool.false_or,
    List.all_eq_true, bne_iff_ne, ownerRow]

theorem createOrganization_eq_ok {result : Organization × Directory}
    {name slug : String} {logo : Option String} {ownerId : Int} :
    directory.createOrganization name logo slug ownerId = .ok result ↔
      (∀ other ∈ directory.organizations, other.slug ≠ slug) ∧
        (∀ other ∈ directory.organizations, other.name ≠ name) ∧
        directory.hasUser ownerId = true ∧
        (⟨directory.nextOrganization, name, logo, slug, ownerId⟩,
          { directory with
            organizations := directory.organizations ++
              [⟨directory.nextOrganization, name, logo, slug, ownerId⟩]
            nextOrganization := directory.nextOrganization + 1 }) =
          result := by
  unfold Directory.createOrganization
  simp only [bind_eq_ok, require_eq_ok, pure, Except.pure, Except.ok.injEq,
    exists_const, List.all_eq_true, bne_iff_ne]

/-- What a signup leaves behind: a new owner and a new organization. -/
structure SignedUpAs (world : SignupWorld) (input : SignupDto)
    (directory : Directory) (result : SignedUp) (next : Directory) :
    Prop where
  user : result.userId = directory.nextUser
  organization : result.organizationId = directory.nextOrganization
  users : ∃ owner : User, owner.id = directory.nextUser ∧
    owner.role = some .owner ∧ next.users = directory.users ++ [owner]
  organizations : ∃ founded : Organization,
    founded.id = directory.nextOrganization ∧
      next.organizations = directory.organizations ++ [founded]

theorem signup_ok {next : Directory} {result : SignedUp}
    (succeeded : signup world input directory = .ok (result, next)) :
    SignupAccepted world input directory ∧
      SignedUpAs world input directory result next := by
  obtain ⟨users, nextUser, organizations, nextOrganization, _⟩ :=
    directory.createOwnerGroup_users
  simp only [signup, bind_eq_ok, mapError_eq_ok] at succeeded
  obtain ⟨password, hashed, owned, created, founded, formed, joined, added,
    _, stored, result⟩ := succeeded
  obtain ⟨email, _, rfl⟩ := createOwner_eq_ok.mp created
  obtain ⟨slug, name, _, rfl⟩ := createOrganization_eq_ok.mp formed
  obtain ⟨_, _, _, _, rfl⟩ := insertMember_eq_ok.mp added
  obtain ⟨rfl, rfl⟩ := result
  refine ⟨⟨⟨password, hashed⟩, ?_, ?_, ?_, stored⟩, ⟨?_, ?_, ?_, ?_⟩⟩
  · rwa [users] at email
  · rwa [organizations] at name
  · rwa [organizations] at slug
  · exact nextUser
  · exact nextOrganization
  · exact ⟨_, nextUser, rfl, by rw [users]⟩
  · exact ⟨_, nextOrganization, by rw [organizations]⟩

theorem signup_succeeds (ids : directory.Ids)
    (accepted : SignupAccepted world input directory) :
    ∃ result, signup world input directory = .ok result := by
  obtain ⟨users, nextUser, organizations, nextOrganization, members⟩ :=
    directory.createOwnerGroup_users
  obtain ⟨⟨password, hashed⟩, email, name, slug, stored⟩ := accepted
  simp only [signup, bind_eq_ok, mapError_eq_ok]
  refine ⟨_, password, hashed, _, createOwner_eq_ok.mpr ⟨?_, ?_, rfl⟩,
    _, createOrganization_eq_ok.mpr ⟨?_, ?_, ?_, rfl⟩,
    _, insertMember_eq_ok.mpr ⟨?_, ?_, ?_, rfl, rfl⟩, (), stored, rfl⟩
  · rwa [users]
  · unfold Directory.createOwnerGroupIfNotExists
    split
    · rename_i group found
      exact List.any_eq_true.mpr
        ⟨group, List.mem_of_find?_eq_some found, by simp⟩
    · simp [Directory.hasGroup]
  · rwa [organizations]
  · rwa [organizations]
  · simp [Directory.hasUser, ownerRow]
  · intro member present
    rw [members] at present
    have before := (ids.members member present).1
    have other : member.userId ≠ directory.nextUser := Int.ne_of_lt before
    simp [Directory.isMember, ownerRow, nextUser, other]
  · simp [Directory.hasUser, ownerRow]
  · simp [Directory.hasOrganization]

theorem signedUp_owner {next : Directory} {result : SignedUp}
    (ids : directory.Ids)
    (signedUp : SignedUpAs world input directory result next) :
    next.isPlatformOwner result.userId = true := by
  obtain ⟨owner, own, role, users⟩ := signedUp.users
  have older : directory.users.find? (fun user =>
      user.id == directory.nextUser) = none := by
    apply List.find?_eq_none.mpr
    intro user member same
    have before := ids.users user member
    rw [beq_iff_eq.mp same] at before
    exact Int.lt_irrefl _ before
  simp [Directory.isPlatformOwner, Directory.userById, signedUp.user, users,
    List.find?_append, older, own, role]

/-- A signup grants its user nothing in the organizations of others exactly
when it is refused. -/
theorem signup_grants_nothing_iff (world : SignupWorld) (input : SignupDto)
    {directory : Directory} (ids : directory.Ids)
    (populated : directory.organizations ≠ []) :
    (∀ result next, signup world input directory = .ok (result, next) →
        ∀ organization ∈ next.organizations,
          organization.id ≠ result.organizationId →
            ∀ action, next.checkPermission result.userId organization.id
              action = false) ↔
      ¬ SignupAccepted world input directory := by
  constructor
  · intro nothing accepted
    obtain ⟨⟨result, next⟩, succeeded⟩ := signup_succeeds ids accepted
    have signedUp := (signup_ok succeeded).2
    obtain ⟨founded, _, organizations⟩ := signedUp.organizations
    obtain ⟨other, present⟩ := List.exists_mem_of_ne_nil _ populated
    have kept : other ∈ next.organizations := by
      rw [organizations]
      exact List.mem_append_left _ present
    have different : other.id ≠ result.organizationId := by
      rw [signedUp.organization]
      exact Int.ne_of_lt (ids.organizations other present)
    have denied := nothing result next succeeded other kept different
      ⟨"project", "delete"⟩
    simp [Directory.checkPermission, signedUp_owner ids signedUp] at denied
  · intro refused result next succeeded
    exact absurd (signup_ok succeeded).1 refused

/-- A panel with one user, who founded one organization. -/
def firstTenant : Directory where
  users := [⟨1, some "ann@example.org", some "Ann", none, "", "hash",
    some .owner, 1⟩]
  nextUser := 2
  organizations := [⟨1, "Ann's Organization", none, "ann-organization", 1⟩]
  nextOrganization := 2
  members := [⟨1, .admin, 1, 1, none⟩]
  nextMember := 2
  groups := [⟨1, "owner", false, none⟩]
  nextGroup := 2
  policies := [⟨1, "project:read"⟩, ⟨2, "project:delete"⟩, ⟨3, "app:deploy"⟩]
  groupPolicies := []
  userPolicies := []
  invites := []
  nextInvite := 1

theorem ids_firstTenant : firstTenant.Ids :=
  ⟨by decide, by decide, by decide, by decide, by decide⟩

/-- A world in which hashing and storing succeed and texts are ASCII. -/
def plainWorld : SignupWorld where
  hashPassword _ := .ok "hash"
  storeTokenPair := .ok ()
  toLowercase := Text.asciiLower

def takenEmail : SignupDto where
  email := "ann@example.org"
  password := "password"
  firstName := some "Ann"
  lastName := none
  avatar := none

def stranger : SignupDto where
  email := "eve@example.org"
  password := "password"
  firstName := some "Eve"
  lastName := none
  avatar := none

theorem signup_grants_nothing_taken :
    firstTenant.Ids ∧ firstTenant.organizations ≠ [] ∧
      ∀ result next,
        signup plainWorld takenEmail firstTenant = .ok (result, next) →
          ∀ organization ∈ next.organizations,
            organization.id ≠ result.organizationId →
              ∀ action, next.checkPermission result.userId organization.id
                action = false := by
  refine ⟨ids_firstTenant, by decide, ?_⟩
  apply (signup_grants_nothing_iff plainWorld takenEmail ids_firstTenant
    (by decide)).mpr
  intro accepted
  exact accepted.email _ (List.mem_singleton.mpr rfl) (by decide +kernel)

/-- A stranger signs up and may delete the projects of the first tenant. -/
theorem stranger_owns_platform :
    (signup plainWorld stranger firstTenant).toOption.any (fun signedUp =>
      signedUp.1.organizationId == 2 &&
        signedUp.2.organizations.any (fun organization =>
          organization.id == 1) &&
        signedUp.2.checkPermission signedUp.1.userId 1
          ⟨"project", "delete"⟩) = true := by
  decide +kernel

end OpenOxide.Access
