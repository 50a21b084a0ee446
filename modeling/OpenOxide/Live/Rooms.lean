import Mathlib
import OpenOxide.Concurrency.Calls
import OpenOxide.Text.Fields
import OpenOxide.Text.Json

/-!
# Live rooms

A socket subscribes to an endpoint with arguments and joins a room, whose name is
a text.  The rooms of an endpoint that needs an identity are scoped: their name
begins with `user:` and the identifier of the user.  An endpoint that is not
registered is public, whatever it is called, and its room is the name of the
endpoint followed by the arguments.

Room names decode uniquely (`scopedRoom_injective`, `public_eq_scoped`), so a
scoped room is joined in two ways only: as the user it belongs to, or through an
unregistered endpoint that is called like the beginning of the room's name.
-/

namespace OpenOxide.Live

open Concurrency Text

structure LiveIdentity where
  userId : Int
  organizationId : Option Int
deriving DecidableEq

/-- An endpoint that needs an identity, with the resource and the operation of
its permission if it has one. -/
structure LiveAccessDescriptor where
  endpoint : String
  permission : Option (String × String)

structure LiveSubscriptionRequest where
  endpoint : String
  args : Json

abbrev LiveAuthenticator := String → Except String LiveIdentity

abbrev LiveAuthorizer := LiveIdentity → String → String → Except String Bool

/-- The identity in the extensions of the socket, and the rooms it is in. -/
structure LiveSocket where
  identity : Option LiveIdentity
  rooms : List String
deriving DecidableEq

/-- A lookup in `ACCESS_ENDPOINTS`, in which the last descriptor of an endpoint
counts. -/
def accessEndpoint (registry : List LiveAccessDescriptor) (endpoint : String) :
    Option (Option (String × String)) :=
  (registry.reverse.find? fun descriptor =>
    descriptor.endpoint == endpoint).map LiveAccessDescriptor.permission

/-- The function `scoped` of the source. -/
def scopedRoom (identity : Option LiveIdentity) (endpoint : String)
    (args : Json) : String :=
  match identity with
  | some identity =>
    "user:" ++ toString identity.userId ++ ":" ++ endpoint ++ ":" ++
      args.render
  | none => endpoint ++ ":" ++ args.render

/-- The room of a publisher that has been given a user. -/
def publishedRoom (userId : Int) (endpoint : String) (args : Json) : String :=
  scopedRoom (some ⟨userId, none⟩) endpoint args

/-- A new socket, or nothing if it is disconnected at once. -/
def authenticate (authenticator : Option LiveAuthenticator)
    (token : Option String) : Option LiveSocket :=
  match authenticator with
  | none => some ⟨none, []⟩
  | some authenticator =>
    match token with
    | none => none
    | some token =>
      match authenticator token with
      | .ok identity => some ⟨some identity, []⟩
      | .error _ => none

/-- The authorizer accepts the permission of the endpoint, if it has one. -/
def authorized (authorizer : Option LiveAuthorizer) (identity : LiveIdentity) :
    Option (String × String) → Bool
  | none => true
  | some (resource, operation) =>
    match authorizer with
    | none => false
    | some authorizer =>
      match authorizer identity resource operation with
      | .ok accepted => accepted
      | .error _ => false

/-- The room that the handler of `live:subscribe` joins. -/
def subscribedRoom (registry : List LiveAccessDescriptor)
    (authorizer : Option LiveAuthorizer) (request : LiveSubscriptionRequest)
    (identity : Option LiveIdentity) : Option String :=
  match accessEndpoint registry request.endpoint with
  | none => some (scopedRoom none request.endpoint request.args)
  | some permission =>
    match identity with
    | none => none
    | some identity =>
      if authorized authorizer identity permission then
        some (scopedRoom (some identity) request.endpoint request.args)
      else none

/-- A message of the client.  The authorizer of a subscription is the one that
is set when the message is handled. -/
inductive LiveMessage where
  | subscribe (authorizer : Option LiveAuthorizer)
      (request : LiveSubscriptionRequest)
  | unsubscribe (request : LiveSubscriptionRequest)

def handle (registry : List LiveAccessDescriptor) (socket : LiveSocket) :
    LiveMessage → LiveSocket
  | .subscribe authorizer request =>
    match subscribedRoom registry authorizer request socket.identity with
    | none => socket
    | some room => { socket with rooms := socket.rooms ++ [room] }
  | .unsubscribe request =>
    let identity :=
      if (accessEndpoint registry request.endpoint).isSome then
        socket.identity
      else none
    let left := scopedRoom identity request.endpoint request.args
    { socket with rooms := socket.rooms.filter fun room => room != left }

/-- The public name whose rooms are those of the endpoint for the user. -/
def scopedName (userId : Int) (endpoint : String) : String :=
  "user:" ++ toString userId ++ ":" ++ endpoint

theorem scopedName_injective {first second : Int} {one two : String}
    (same : scopedName first one = scopedName second two) :
    first = second ∧ one = two := by
  have plain : ∀ number : Int, ':' ∉ (toString number).toList := by
    intro number member
    rcases digit_of_mem_integer member with digit | sign
    · cases digit
    · cases sign
  have letters := congrArg String.toList same
  simp only [scopedName, String.toList_append, List.append_assoc] at letters
  obtain ⟨numbers, names⟩ := split_at_separator (plain first) (plain second)
    (List.append_cancel_left letters)
  exact ⟨toString_int_injective numbers, String.toList_inj.mp names⟩

variable {first second room : String} {one two : Json} {userId : Int}
  {registry : List LiveAccessDescriptor} {socket : LiveSocket}
  {permission : Option (String × String)}

theorem name_unique
    (same : first ++ ":" ++ one.render = second ++ ":" ++ two.render) :
    first = second := by
  have letters := congrArg String.toList same
  simp only [String.toList_append, List.append_assoc, Json.render,
    String.toList_ofList] at letters
  exact String.toList_inj.mp (Json.split_unique letters).1

theorem scopedRoom_injective {identity : LiveIdentity}
    (same : scopedRoom (some identity) first one =
      publishedRoom userId second two) :
    identity.userId = userId ∧ first = second :=
  scopedName_injective (name_unique same)

theorem public_eq_scoped
    (same : scopedRoom none first one = publishedRoom userId second two) :
    first = scopedName userId second :=
  name_unique same

theorem handle_identity (registry : List LiveAccessDescriptor)
    (socket : LiveSocket) (message : LiveMessage) :
    (handle registry socket message).identity = socket.identity := by
  cases message with
  | subscribe authorizer request =>
    simp only [handle]
    split <;> rfl
  | unsubscribe request => rfl

/-- A message of the sequence subscribes to the room. -/
def Joins (registry : List LiveAccessDescriptor) (identity : Option LiveIdentity)
    (messages : List LiveMessage) (room : String) : Prop :=
  ∃ authorizer request, .subscribe authorizer request ∈ messages ∧
    subscribedRoom registry authorizer request identity = some room

theorem mem_handle {message : LiveMessage}
    (member : room ∈ (handle registry socket message).rooms) :
    room ∈ socket.rooms ∨ Joins registry socket.identity [message] room := by
  cases message with
  | subscribe authorizer request =>
    simp only [handle] at member
    split at member
    · exact .inl member
    · rename_i joined found
      rcases List.mem_append.mp member with old | new
      · exact .inl old
      · right
        rw [List.mem_singleton.mp new]
        exact ⟨authorizer, request, List.mem_singleton_self _, found⟩
  | unsubscribe request => exact .inl (List.mem_of_mem_filter member)

theorem mem_serveAll {messages : List LiveMessage}
    (member : room ∈ (serveAll (handle registry) socket messages).rooms) :
    room ∈ socket.rooms ∨ Joins registry socket.identity messages room := by
  induction messages generalizing socket with
  | nil => exact .inl member
  | cons message messages induction =>
    rcases induction member with before | ⟨authorizer, request, later, found⟩
    · rcases mem_handle before with old | ⟨authorizer, request, now, found⟩
      · exact .inl old
      · have first := List.mem_singleton.mp now
        exact .inr ⟨authorizer, request, by simp [first], found⟩
    · rw [handle_identity] at found
      exact .inr ⟨authorizer, request, List.mem_cons_of_mem _ later, found⟩

/-- No unregistered endpoint is asked for under a name that a registered endpoint
has for some user. -/
def LiveMessage.Unscoped (registry : List LiveAccessDescriptor) :
    LiveMessage → Prop
  | .subscribe _ request =>
    accessEndpoint registry request.endpoint = none →
      ∀ descriptor ∈ registry, ∀ userId,
        request.endpoint ≠ scopedName userId descriptor.endpoint
  | .unsubscribe _ => True

theorem mem_of_accessEndpoint {endpoint : String}
    (registered : accessEndpoint registry endpoint = some permission) :
    ∃ descriptor ∈ registry, descriptor.endpoint = endpoint := by
  obtain ⟨descriptor, found, _⟩ := Option.map_eq_some_iff.mp registered
  have named := List.find?_some found
  refine ⟨descriptor, ?_, beq_iff_eq.mp named⟩
  exact List.mem_reverse.mp (List.mem_of_find?_eq_some found)

variable {authorizer : Option LiveAuthorizer}
  {request : LiveSubscriptionRequest} {identity : Option LiveIdentity}

theorem subscribedRoom_registered
    (registered : accessEndpoint registry request.endpoint = some permission)
    (joined : subscribedRoom registry authorizer request identity = some room) :
    ∃ own, identity = some own ∧ authorized authorizer own permission = true ∧
      scopedRoom (some own) request.endpoint request.args = room := by
  simp only [subscribedRoom, registered] at joined
  cases identity with
  | none => cases joined
  | some own =>
    by_cases accepted : authorized authorizer own permission = true
    · simp only [if_pos accepted, Option.some.injEq] at joined
      exact ⟨own, rfl, accepted, joined⟩
    · simp only [if_neg accepted] at joined
      cases joined

/-- One subscription: the room of a user is joined as that user. -/
theorem subscribedRoom_private {endpoint : String} {args : Json}
    (unscoped : (LiveMessage.subscribe authorizer request).Unscoped registry)
    (registered : accessEndpoint registry endpoint = some permission)
    (joined : subscribedRoom registry authorizer request identity =
      some (publishedRoom userId endpoint args)) :
    request.endpoint = endpoint ∧ ∃ own, identity = some own ∧
      own.userId = userId ∧ authorized authorizer own permission = true := by
  cases access : accessEndpoint registry request.endpoint with
  | none =>
    simp only [subscribedRoom, access, Option.some.injEq] at joined
    obtain ⟨descriptor, member, named⟩ := mem_of_accessEndpoint registered
    have same := public_eq_scoped joined
    rw [← named] at same
    exact absurd same (unscoped access descriptor member userId)
  | some asked =>
    obtain ⟨own, authenticated, accepted, room⟩ :=
      subscribedRoom_registered access joined
    obtain ⟨user, same⟩ := scopedRoom_injective room
    rw [same, registered] at access
    cases access
    exact ⟨same, own, authenticated, user, accepted⟩

theorem authenticate_eq_some {authenticator : Option LiveAuthenticator}
    {token : Option String}
    (connected : authenticate authenticator token = some socket) :
    socket.rooms = [] ∧ ∀ own, socket.identity = some own →
      ∃ check text, authenticator = some check ∧ token = some text ∧
        check text = .ok own := by
  cases authenticator with
  | none =>
    cases connected
    exact ⟨rfl, fun own absent => nomatch absent⟩
  | some check =>
    cases token with
    | none => cases connected
    | some text =>
      simp only [authenticate] at connected
      split at connected
      · rename_i identity checked
        cases connected
        refine ⟨rfl, ?_⟩
        intro own same
        cases same
        exact ⟨check, text, rfl, rfl, checked⟩
      · cases connected

/-- A socket that asks for no unregistered endpoint under a scoped name is in a
room of a registered endpoint for a user only if its token is that user's and the
authorizer has accepted the permission of the endpoint for them. -/
theorem live_rooms_private {registry : List LiveAccessDescriptor}
    {authenticator : Option LiveAuthenticator} {token : Option String}
    {socket : LiveSocket} {messages : List LiveMessage} {userId : Int}
    {endpoint : String} {args : Json} {permission : Option (String × String)}
    (connected : authenticate authenticator token = some socket)
    (unscoped : ∀ message ∈ messages, message.Unscoped registry)
    (registered : accessEndpoint registry endpoint = some permission)
    (joined : publishedRoom userId endpoint args ∈
      (serveAll (handle registry) socket messages).rooms) :
    ∃ own check text, authenticator = some check ∧ token = some text ∧
      check text = .ok own ∧ own.userId = userId ∧
      ∃ authorizer request, .subscribe authorizer request ∈ messages ∧
        request.endpoint = endpoint ∧
        authorized authorizer own permission = true := by
  obtain ⟨empty, authenticated⟩ := authenticate_eq_some connected
  rcases mem_serveAll joined with old | ⟨authorizer, request, member, found⟩
  · rw [empty] at old
    cases old
  · obtain ⟨same, own, identity, user, accepted⟩ :=
      subscribedRoom_private (unscoped _ member) registered found
    obtain ⟨check, text, set, given, checked⟩ := authenticated own identity
    exact ⟨own, check, text, set, given, checked, user, authorizer, request,
      member, same, accepted⟩

/-- The projects of organization 1. -/
def projectsRequest : LiveSubscriptionRequest where
  endpoint := "ProjectController::list_by_organization"
  args := .array (.cons (.number ⟨['1'], by simp [isNumberLetter]⟩) .nil)

/-- The registry of a panel with one endpoint that needs a permission. -/
def projectRegistry : List LiveAccessDescriptor :=
  [⟨"ProjectController::list_by_organization", some ("Project", "CanRead")⟩]

def trustsToken : LiveAuthenticator := fun token =>
  if token = "five" then .ok ⟨5, some 1⟩
  else if token = "two" then .ok ⟨2, some 1⟩
  else .error "invalid token"

def acceptsFive : LiveAuthorizer := fun identity _ _ =>
  .ok (identity.userId == 5)

theorem live_rooms_private_five :
    publishedRoom 5 projectsRequest.endpoint projectsRequest.args ∈
      (serveAll (handle projectRegistry) ⟨some ⟨5, some 1⟩, []⟩
        [.subscribe (some acceptsFive) projectsRequest]).rooms ∧
    ∃ own check text, some trustsToken = some check ∧
      some "five" = some text ∧ check text = .ok own ∧ own.userId = 5 ∧
      ∃ authorizer request,
        LiveMessage.subscribe authorizer request ∈
          [LiveMessage.subscribe (some acceptsFive) projectsRequest] ∧
        request.endpoint = projectsRequest.endpoint ∧
        authorized authorizer own (some ("Project", "CanRead")) = true := by
  have joined : publishedRoom 5 projectsRequest.endpoint projectsRequest.args ∈
      (serveAll (handle projectRegistry) ⟨some ⟨5, some 1⟩, []⟩
        [.subscribe (some acceptsFive) projectsRequest]).rooms := by
    decide +kernel
  refine ⟨joined, ?_⟩
  apply live_rooms_private rfl ?_ rfl joined
  intro message member
  rw [List.mem_singleton.mp member]
  intro unregistered
  cases unregistered

/-- User 2 is in the room of user 5 for an endpoint that only user 5 may use. -/
theorem scoped_name_joins_other_user :
    ∃ socket, authenticate (some trustsToken) (some "two") = some socket ∧
      socket.identity = some ⟨2, some 1⟩ ∧
      authorized (some acceptsFive) ⟨2, some 1⟩ (some ("Project", "CanRead")) =
        false ∧
      publishedRoom 5 projectsRequest.endpoint projectsRequest.args ∈
        (serveAll (handle projectRegistry) socket
          [.subscribe (some acceptsFive) { projectsRequest with endpoint :=
            "user:5:ProjectController::list_by_organization" }]).rooms := by
  refine ⟨⟨some ⟨2, some 1⟩, []⟩, by decide +kernel, rfl, rfl, ?_⟩
  exact List.mem_append_right _ (List.mem_singleton_self _)

end OpenOxide.Live
