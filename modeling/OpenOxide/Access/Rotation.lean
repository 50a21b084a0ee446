import Mathlib.Logic.Relation
import OpenOxide.Access.Sessions

/-!
# Single use of refresh tokens and finality of revocations

`refresh` asks whether its token is active and replaces it later, in a
transaction that does not ask again.  Between the two another refresh may use
the token, or a revocation may take it away.

Both guarantees hold in the runs in which the token is still off the blacklist
when the transaction starts.  Two facts carry them: rows only ever get
blacklisted and keep their user and session (`Ages`), and a new row belongs to
the user and the session of the token it replaces (`Lineage`).
-/

namespace OpenOxide.Access

open Relational Concurrency

/-- A row of the token is off the blacklist. -/
def AuthStore.unrevoked (jti : Nat) (store : AuthStore) : Bool :=
  store.tokens.any fun row => row.jti == jti && !row.isBlacklist

def replacesUnrevoked (store : AuthStore) : AuthOp → Bool
  | .rotate jti _ _ => store.unrevoked jti
  | _ => true

/-- Runs in which no refresh replaces a token that has been revoked or replaced
since it was checked. -/
def stillActive : AuthGuard where
  op view _ op _ := replacesUnrevoked view.state op = true
  unwind _ _ := True
  arrive _ _ := True
  restart := True

instance : stillActive.Checkable where
  op view _ op _ :=
    inferInstanceAs (Decidable (replacesUnrevoked view.state op = true))

/-- Identifiers are unique and older than the counter, and signed claims name
the user of their row. -/
structure AuthStore.Sane (store : AuthStore) : Prop where
  distinct : (store.tokens.map JwtToken.jti).Nodup
  fresh : ∀ row ∈ store.tokens, row.jti < store.nextUuid
  signedFresh : ∀ claims ∈ store.signed, claims.jti < store.nextUuid
  agree : ∀ claims ∈ store.signed, ∀ row ∈ store.tokens,
    row.jti = claims.jti → row.userId = claims.userId

/-- The later version of a row. -/
structure SameToken (old row : JwtToken) : Prop where
  jti : row.jti = old.jti
  userId : row.userId = old.userId
  sessionId : row.sessionId = old.sessionId
  blacklist : old.isBlacklist = true → row.isBlacklist = true

/-- Old rows stay, possibly blacklisted, and no new row has an old
identifier. -/
structure Ages (before after : AuthStore) : Prop where
  counter : before.nextUuid ≤ after.nextUuid
  signed : ∀ claims ∈ before.signed, claims ∈ after.signed
  older : ∀ row ∈ after.tokens, row.jti < before.nextUuid →
    ∃ old ∈ before.tokens, SameToken old row
  kept : ∀ old ∈ before.tokens, ∃ row ∈ after.tokens, SameToken old row

theorem SameToken.refl (row : JwtToken) : SameToken row row :=
  ⟨rfl, rfl, rfl, id⟩

variable {second first : JwtToken}

theorem SameToken.trans {third : JwtToken}
    (earlier : SameToken first second) (later : SameToken second third) :
    SameToken first third where
  jti := later.jti.trans earlier.jti
  userId := later.userId.trans earlier.userId
  sessionId := later.sessionId.trans earlier.sessionId
  blacklist listed := later.blacklist (earlier.blacklist listed)

variable {before after : AuthStore} {config : JwtConfig}
  {jti parent child : Nat} {op : AuthOp} {input : AuthInput}
  {history : List AuthEntry} {userId : Int} {view next : AuthView}

theorem Ages.of_tokens (tokens : after.tokens = before.tokens)
    (signed : after.signed = before.signed)
    (counter : before.nextUuid ≤ after.nextUuid) : Ages before after where
  counter := counter
  signed _ member := signed ▸ member
  older row member _ := ⟨row, tokens ▸ member, .refl row⟩
  kept row member := ⟨row, tokens ▸ member, .refl row⟩

theorem Ages.trans {first second third : AuthStore} (earlier : Ages first second)
    (later : Ages second third) : Ages first third where
  counter := Nat.le_trans earlier.counter later.counter
  signed claims member := later.signed claims (earlier.signed claims member)
  older row member old := by
    obtain ⟨middle, present, same⟩ := later.older row member
      (Nat.lt_of_lt_of_le old earlier.counter)
    obtain ⟨source, stored, before⟩ := earlier.older middle present
      (same.jti ▸ old)
    exact ⟨source, stored, before.trans same⟩
  kept row member := by
    obtain ⟨middle, present, same⟩ := earlier.kept row member
    obtain ⟨last, stored, after⟩ := later.kept middle present
    exact ⟨last, stored, same.trans after⟩

variable {sessionId : Nat}

namespace AuthStore

variable {store : AuthStore}

theorem mem_blacklistWhere {hits : JwtToken → Bool} {row : JwtToken} :
    row ∈ (store.blacklistWhere hits).tokens ↔
      ∃ old ∈ store.tokens,
        (if hits old then { old with isBlacklist := true } else old) = row :=
  mem_updateWhere

theorem sameToken_blacklist (hits : JwtToken → Bool) (old : JwtToken) :
    SameToken old
      (if hits old then { old with isBlacklist := true } else old) := by
  split
  · exact ⟨rfl, rfl, rfl, fun _ => rfl⟩
  · exact .refl old

theorem ages_blacklistWhere (hits : JwtToken → Bool) :
    Ages store (store.blacklistWhere hits) where
  counter := Nat.le_refl _
  signed _ member := member
  older row member _ := by
    obtain ⟨old, present, rfl⟩ := mem_blacklistWhere.mp member
    exact ⟨old, present, sameToken_blacklist hits old⟩
  kept old member :=
    ⟨_, mem_blacklistWhere.mpr ⟨old, member, rfl⟩,
      sameToken_blacklist hits old⟩

theorem sane_blacklistWhere (sane : store.Sane) (hits : JwtToken → Bool) :
    (store.blacklistWhere hits).Sane where
  distinct := by
    have same : (store.blacklistWhere hits).tokens.map JwtToken.jti =
        store.tokens.map JwtToken.jti := by
      apply map_updateWhere
      intro row
      rfl
    rw [same]
    exact sane.distinct
  fresh row member := by
    obtain ⟨old, present, rfl⟩ := mem_blacklistWhere.mp member
    rw [(sameToken_blacklist hits old).jti]
    exact sane.fresh old present
  signedFresh := sane.signedFresh
  agree claims member row stored same := by
    obtain ⟨old, present, rfl⟩ := mem_blacklistWhere.mp stored
    rw [(sameToken_blacklist hits old).jti] at same
    rw [(sameToken_blacklist hits old).userId]
    exact sane.agree claims member old present same

theorem mem_storeTokenPair {now userId : Int} {row : JwtToken} :
    row ∈ (store.storeTokenPair config now userId sessionId).1.tokens ↔
      row ∈ store.tokens ∨
        row = rowOf sessionId (store.nextPair config now userId).accessToken ∨
        row = rowOf sessionId
          (store.nextPair config now userId).refreshToken := by
  simp [storeTokenPair]

theorem ages_storeTokenPair (config : JwtConfig) (now userId : Int)
    (sessionId : Nat) :
    Ages store (store.storeTokenPair config now userId sessionId).1 where
  counter := Nat.le_add_right _ _
  signed claims member := List.mem_append_left _ member
  older row member old := by
    rcases mem_storeTokenPair.mp member with present | rfl | rfl
    · exact ⟨row, present, .refl row⟩
    · exact absurd old (Nat.lt_irrefl _)
    · exact absurd old (Nat.not_lt_of_lt (Nat.lt_succ_self _))
  kept row member := ⟨row, mem_storeTokenPair.mpr (.inl member), .refl row⟩

theorem sane_storeTokenPair (sane : store.Sane) (config : JwtConfig)
    (now userId : Int) (sessionId : Nat) :
    (store.storeTokenPair config now userId sessionId).1.Sane := by
  have older : ∀ row ∈ store.tokens, row.jti ≠ store.nextUuid ∧
      row.jti ≠ store.nextUuid + 1 := by
    intro row member
    have before := sane.fresh row member
    constructor <;> omega
  refine ⟨?_, ?_, ?_, ?_⟩
  · simp only [storeTokenPair, List.map_append, List.map_cons, List.map_nil,
      nextPair, rowOf]
    apply List.nodup_append.mpr
    refine ⟨sane.distinct, by simp, ?_⟩
    intro jti old new fresh same
    obtain ⟨row, member, rfl⟩ := List.mem_map.mp old
    obtain ⟨first, second⟩ := older row member
    simp only [List.mem_cons, List.not_mem_nil, or_false] at fresh
    omega
  · intro row member
    change row.jti < store.nextUuid + 2
    rcases mem_storeTokenPair.mp member with present | rfl | rfl
    · have before := sane.fresh row present
      omega
    · simp [rowOf, nextPair]
    · simp [rowOf, nextPair]
  · intro claims member
    change claims.jti < store.nextUuid + 2
    simp only [storeTokenPair, List.mem_append, List.mem_cons,
      List.not_mem_nil, or_false] at member
    rcases member with old | rfl | rfl
    · have before := sane.signedFresh claims old
      omega
    · simp [nextPair]
    · simp [nextPair]
  · intro claims member row stored same
    simp only [storeTokenPair, List.mem_append, List.mem_cons,
      List.not_mem_nil, or_false] at member
    rcases mem_storeTokenPair.mp stored with present | rfl | rfl
    · obtain ⟨first, second⟩ := older row present
      rcases member with old | rfl | rfl
      · exact sane.agree claims old row present same
      · exact absurd same first
      · exact absurd same second
    all_goals
      rcases member with old | rfl | rfl
      · have before := sane.signedFresh claims old
        simp only [rowOf, nextPair] at same
        omega
      · rfl
      · rfl

end AuthStore

variable {store : AuthStore}

/-- Every operation lets the rows age and keeps the tables sane. -/
theorem authExec_ages (config : JwtConfig) (op : AuthOp) (input : AuthInput)
    (sane : store.Sane) :
    Ages store (authExec config op input store).1 ∧
      (authExec config op input store).1.Sane := by
  have same : Ages store store ∧ store.Sane :=
    ⟨.of_tokens rfl rfl (Nat.le_refl _), sane⟩
  have attempted : ∀ {α : Type} (result : AuthStore × α),
      Ages store result.1 ∧ result.1.Sane →
        Ages store (input.attempt store result).1 ∧
          (input.attempt store result).1.Sane := by
    intro α result changed
    unfold AuthInput.attempt
    split
    · exact same
    · exact changed
  have blacklisted : ∀ hits, Ages store (store.blacklistWhere hits) ∧
      (store.blacklistWhere hits).Sane :=
    fun hits => ⟨AuthStore.ages_blacklistWhere hits,
      AuthStore.sane_blacklistWhere sane hits⟩
  cases op with
  | validateRefreshToken token => exact same
  | isTokenActive | sessionIdForJti | userById | userByEmail | verifyPassword
  | verifySecondFactor | hashPassword =>
    exact attempted _ same
  | newUuid =>
    refine ⟨.of_tokens rfl rfl (Nat.le_succ _), ⟨sane.distinct, ?_, ?_,
      sane.agree⟩⟩
    · intro row member
      exact Nat.lt_succ_of_lt (sane.fresh row member)
    · intro claims member
      exact Nat.lt_succ_of_lt (sane.signedFresh claims member)
  | rotate jti userId sessionId =>
    obtain ⟨ages, stillSane⟩ := blacklisted fun row => row.jti == jti
    exact attempted _
      ⟨ages.trans (AuthStore.ages_storeTokenPair config _ _ _),
        AuthStore.sane_storeTokenPair stillSane config _ _ _⟩
  | issueTokenPair userId sessionId =>
    exact attempted _
      ⟨AuthStore.ages_storeTokenPair config _ _ _,
        AuthStore.sane_storeTokenPair sane config _ _ _⟩
  | blacklistAllByUser | revokeSession => exact attempted _ (blacklisted _)
  | completeReset tokenHash password =>
    apply attempted
    unfold AuthStore.completeReset
    split
    · exact same
    · rename_i reset found
      obtain ⟨ages, stillSane⟩ := blacklisted fun row =>
        row.userId == reset.userId && !row.isBlacklist
      exact ⟨⟨ages.counter, ages.signed, ages.older, ages.kept⟩,
        ⟨stillSane.distinct, stillSane.fresh, stillSane.signedFresh,
          stillSane.agree⟩⟩
  | returns token outcome => exact same

theorem Ages.revoked (ages : Ages before after) (old : jti < before.nextUuid)
    (revoked : ∀ row ∈ before.tokens, row.jti = jti → row.isBlacklist = true) :
    ∀ row ∈ after.tokens, row.jti = jti → row.isBlacklist = true := by
  intro row member same
  obtain ⟨source, present, version⟩ := ages.older row member (same ▸ old)
  exact version.blacklist (revoked source present (version.jti.symm.trans same))

/-- The session is the one of the token's row, if that has any. -/
def AuthStore.sessionFits (store : AuthStore) (token : Claims)
    (sessionId : Option Nat) : Prop :=
  ∀ row ∈ store.tokens, row.jti = token.jti →
    row.sessionId = none ∨ row.sessionId = sessionId

/-- What the answers so far have established. -/
def AuthStage.Knows (store : AuthStore) : AuthStage → Prop
  | .validated token => token ∈ store.signed
  | .checked token => token ∈ store.signed
  | .unlocated token => token ∈ store.signed ∧ store.sessionFits token none
  | .located token sessionId =>
    token ∈ store.signed ∧ store.sessionFits token (some sessionId)
  | .subject token sessionId userId =>
    token ∈ store.signed ∧ store.sessionFits token (some sessionId) ∧
      userId = token.userId
  | _ => True

theorem Ages.sessionFits (ages : Ages before after) {token : Claims}
    (old : token.jti < before.nextUuid) {sessionId : Option Nat}
    (fits : before.sessionFits token sessionId) :
    after.sessionFits token sessionId := by
  intro row member same
  obtain ⟨source, present, version⟩ := ages.older row member (same ▸ old)
  rw [version.sessionId]
  exact fits source present (version.jti.symm.trans same)

variable {stage : AuthStage}

theorem Ages.knows (ages : Ages before after) (sane : before.Sane)
    (knows : stage.Knows before) :
    stage.Knows after := by
  cases stage with
  | validated token | checked token => exact ages.signed token knows
  | unlocated token | located token sessionId =>
    exact ⟨ages.signed token knows.1,
      ages.sessionFits (sane.signedFresh token knows.1) knows.2⟩
  | subject token sessionId userId =>
    exact ⟨ages.signed token knows.1,
      ages.sessionFits (sane.signedFresh token knows.1) knows.2.1,
      knows.2.2⟩
  | refreshing | rotated | failed | plain | ended => trivial

theorem AuthStore.Sane.eq_of_jti (sane : store.Sane)
    (firstMember : first ∈ store.tokens)
    (secondMember : second ∈ store.tokens) (same : first.jti = second.jti) :
    first = second :=
  List.inj_on_of_nodup_map sane.distinct firstMember secondMember same

theorem AuthStore.Sane.sessionFits (sane : store.Sane) (token : Claims) :
    store.sessionFits token (store.sessionIdForJti token.jti) := by
  intro row member same
  right
  unfold AuthStore.sessionIdForJti
  cases found : store.tokens.find? (fun row => row.jti == token.jti) with
  | none =>
    have missed := List.find?_eq_none.mp found row member
    simp [same] at missed
  | some other =>
    have named := List.find?_some found
    have equal := sane.eq_of_jti member (List.mem_of_find?_eq_some found)
      (same.trans (beq_iff_eq.mp named).symm)
    rw [equal]
    rfl

/-- A step of a refresh teaches it what its next stage knows. -/
theorem knows_advance (sane : store.Sane)
    (allowed : stage.Allows op) (knows : stage.Knows store) :
    (stage.advance op (authExec config op input store).2).Knows
      (authExec config op input store).1 := by
  cases allowed with
  | validate token =>
    simp only [authExec]
    split
    · rename_i valid
      simp only [AuthStore.validateRefreshToken, Bool.and_eq_true,
        List.contains_eq_mem, decide_eq_true_eq] at valid
      exact valid.1.1
    · trivial
  | check token =>
    simp only [authExec, AuthInput.attempt]
    split
    · trivial
    · cases store.isTokenActive input.now token.jti with
      | true => exact knows
      | false => trivial
  | locate token =>
    have fits := sane.sessionFits token
    simp only [authExec, AuthInput.attempt]
    split
    · trivial
    · cases located : store.sessionIdForJti token.jti with
      | some | none => exact ⟨knows, located ▸ fits⟩
  | begin token =>
    refine ⟨knows.1, ?_⟩
    intro row member same
    left
    rcases knows.2 row member same with none | none
    · exact none
    · exact none
  | find token sessionId =>
    simp only [authExec, AuthInput.attempt]
    split
    · trivial
    · cases found : store.accounts.find?
          (fun account => account.id == token.userId) with
      | none => trivial
      | some account =>
        have named := List.find?_some found
        exact ⟨knows.1, knows.2, beq_iff_eq.mp named⟩
  | rotate token sessionId userId =>
    simp only [authExec, AuthInput.attempt]
    split <;> trivial
  | succeed token pair => trivial
  | fail token failure => trivial
  | plain op plain =>
    trivial

/-- The child token came into being when the parent was replaced. -/
def Replaces (history : List AuthEntry) (parent child : Nat) : Prop :=
  ∃ stage userId sessionId pair,
    (⟨stage, .rotate parent userId sessionId, .ok pair⟩ : AuthEntry) ∈ history ∧
      (child = pair.accessToken.jti ∨ child = pair.refreshToken.jti)

/-- Through any chain of refreshes. -/
def DerivedFrom (history : List AuthEntry) : Nat → Nat → Prop :=
  Relation.ReflTransGen (Replaces history)

/-- Same user, and same session if there was one. -/
def Inherits (parent child : JwtToken) : Prop :=
  child.userId = parent.userId ∧
    (parent.sessionId = none ∨ child.sessionId = parent.sessionId)

theorem Inherits.trans {third : JwtToken}
    (earlier : Inherits first second) (later : Inherits second third) :
    Inherits first third := by
  refine ⟨later.1.trans earlier.1, ?_⟩
  rcases earlier.2 with none | same
  · exact .inl none
  · rw [← same]
    exact later.2

structure Lineage (store : AuthStore) (history : List AuthEntry) : Prop where
  parent : ∀ parent child, Replaces history parent child →
    ∃ row ∈ store.tokens, row.jti = parent
  child : ∀ parent child, Replaces history parent child →
    child < store.nextUuid
  inherits : ∀ parent child, Replaces history parent child →
    ∀ old ∈ store.tokens, old.jti = parent →
      ∀ new ∈ store.tokens, new.jti = child → Inherits old new

theorem replaces_cons {entry : AuthEntry}
    (replaces : Replaces (entry :: history) parent child) :
    Replaces history parent child ∨
      ∃ stage userId sessionId pair,
        entry = ⟨stage, .rotate parent userId sessionId, .ok pair⟩ ∧
          (child = pair.accessToken.jti ∨ child = pair.refreshToken.jti) := by
  obtain ⟨stage, userId, sessionId, pair, member, which⟩ := replaces
  rcases List.mem_cons.mp member with same | old
  · exact .inr ⟨stage, userId, sessionId, pair, same.symm, which⟩
  · exact .inl ⟨stage, userId, sessionId, pair, old, which⟩

theorem Lineage.ages (lineage : Lineage before history)
    (ages : Ages before after)
    (sane : before.Sane) : Lineage after history where
  parent parent child replaces := by
    obtain ⟨row, member, same⟩ := lineage.parent parent child replaces
    obtain ⟨later, present, version⟩ := ages.kept row member
    exact ⟨later, present, version.jti.trans same⟩
  child parent child replaces :=
    Nat.lt_of_lt_of_le (lineage.child parent child replaces) ages.counter
  inherits parent child replaces old stored isParent new present isChild := by
    obtain ⟨row, member, named⟩ := lineage.parent parent child replaces
    have parentOld : old.jti < before.nextUuid := by
      rw [isParent, ← named]
      exact sane.fresh row member
    have childOld : new.jti < before.nextUuid :=
      isChild ▸ lineage.child parent child replaces
    obtain ⟨oldSource, oldMember, oldVersion⟩ :=
      ages.older old stored parentOld
    obtain ⟨newSource, newMember, newVersion⟩ :=
      ages.older new present childOld
    have before := lineage.inherits parent child replaces oldSource oldMember
      (oldVersion.jti.symm.trans isParent) newSource newMember
      (newVersion.jti.symm.trans isChild)
    unfold Inherits at before ⊢
    rw [oldVersion.userId, oldVersion.sessionId, newVersion.userId,
      newVersion.sessionId]
    exact before

theorem Lineage.derived (lineage : Lineage store history)
    (sane : store.Sane) {root : JwtToken} (present : root ∈ store.tokens)
    (derived : DerivedFrom history root.jti jti) :
    jti < store.nextUuid ∧
      ∀ row ∈ store.tokens, row.jti = jti → Inherits root row := by
  induction derived with
  | refl =>
    refine ⟨sane.fresh root present, ?_⟩
    intro row member same
    rw [sane.eq_of_jti member present same]
    exact ⟨rfl, .inr rfl⟩
  | tail earlier replaces induction =>
    refine ⟨lineage.child _ _ replaces, ?_⟩
    intro row member same
    obtain ⟨middle, stored, named⟩ := lineage.parent _ _ replaces
    exact (induction.2 middle stored named).trans
      (lineage.inherits _ _ replaces middle stored named row member same)

structure Coherent (view : AuthView) : Prop where
  sane : view.state.Sane
  knows : ∀ stage ∈ view.labels, stage.Knows view.state
  lineage : Lineage view.state view.history

theorem rotate_ok {jti : Nat} {pair : TokenPair}
    (rotates : authExec config (.rotate jti userId sessionId) input store =
      (after, .ok pair)) :
    pair = store.nextPair config input.now userId ∧
      after = ((store.blacklistByJti jti).storeTokenPair config input.now
        userId sessionId).1 := by
  simp only [authExec, AuthInput.attempt] at rotates
  split at rotates
  · cases rotates
  · cases rotates
    exact ⟨rfl, rfl⟩

theorem unrevoked_iff : store.unrevoked jti = true ↔
      ∃ row ∈ store.tokens, row.jti = jti ∧ row.isBlacklist = false := by
  simp [AuthStore.unrevoked]

/-- The new pair belongs to the user and the session of the token it
replaces. -/
theorem lineage_rotate {token : Claims}
    (sane : store.Sane) (lineage : Lineage store history)
    (knows : (AuthStage.subject token sessionId userId).Knows store)
    (active : store.unrevoked token.jti = true)
    {answer : (AuthOp.rotate token.jti userId sessionId).Ret}
    (rotates : authExec config (.rotate token.jti userId sessionId) input
      store = (after, answer)) :
    Lineage after
      (⟨stage, .rotate token.jti userId sessionId, answer⟩ :: history) := by
  obtain ⟨ages, saneAfter⟩ := authExec_ages config
    (.rotate token.jti userId sessionId) input sane
  rw [rotates] at ages saneAfter
  have aged := lineage.ages ages sane
  obtain ⟨issued, fits, user⟩ := knows
  have cases : ∀ parent child, Replaces
      (⟨stage, .rotate token.jti userId sessionId, answer⟩ :: history) parent
        child → Replaces history parent child ∨
      parent = token.jti ∧ ∃ pair, answer = .ok pair ∧
        (child = pair.accessToken.jti ∨ child = pair.refreshToken.jti) := by
    intro parent child replaces
    rcases replaces_cons replaces with old | ⟨_, _, _, pair, same, which⟩
    · exact .inl old
    · rw [Entry.mk.injEq] at same
      obtain ⟨_, sameOp, sameAnswer⟩ := same
      cases sameOp
      exact .inr ⟨rfl, pair, eq_of_heq sameAnswer, which⟩
  constructor
  · intro parent child replaces
    rcases cases parent child replaces with old | ⟨rfl, _⟩
    · exact aged.parent parent child old
    · obtain ⟨row, member, same, _⟩ := unrevoked_iff.mp active
      obtain ⟨later, present, version⟩ := ages.kept row member
      exact ⟨later, present, version.jti.trans same⟩
  · intro parent child replaces
    rcases cases parent child replaces with old | ⟨_, pair, rfl, which⟩
    · exact aged.child parent child old
    · obtain ⟨rfl, rfl⟩ := rotate_ok rotates
      change child < store.nextUuid + 2
      rcases which with rfl | rfl
      · simp [AuthStore.nextPair]
      · simp [AuthStore.nextPair]
  · intro parent child replaces old stored isParent new present isChild
    rcases cases parent child replaces with older | ⟨rfl, pair, rfl, which⟩
    · exact aged.inherits parent child older old stored isParent new present
        isChild
    · obtain ⟨rfl, rfl⟩ := rotate_ok rotates
      have parentOld := sane.signedFresh token issued
      obtain ⟨source, member, version⟩ := ages.older old stored
        (isParent ▸ parentOld)
      have sourceJti := version.jti.symm.trans isParent
      have fresh : store.nextUuid ≤ new.jti := by
        rcases which with rfl | rfl
        · exact Nat.le_of_eq isChild.symm
        · rw [isChild]
          exact Nat.le_succ _
      have made : new.userId = userId ∧ new.sessionId = some sessionId := by
        rcases AuthStore.mem_storeTokenPair.mp present with kept | rfl | rfl
        · have sane := AuthStore.sane_blacklistWhere sane
            fun row => row.jti == token.jti
          exact absurd (sane.fresh new kept) (Nat.not_lt.mpr fresh)
        · exact ⟨rfl, rfl⟩
        · exact ⟨rfl, rfl⟩
      unfold Inherits
      rw [made.1, made.2, version.userId, version.sessionId, user,
        sane.agree token issued source member sourceJti]
      refine ⟨rfl, ?_⟩
      rcases fits source member sourceJti with none | same
      · exact .inl none
      · exact .inr same.symm

theorem replaces_of_other {answer : op.Ret}
    (other : ∀ jti userId sessionId, op ≠ .rotate jti userId sessionId)
    (replaces : Replaces (⟨stage, op, answer⟩ :: history) parent child) :
    Replaces history parent child := by
  rcases replaces_cons replaces with old | ⟨_, userId, sessionId, _, same, _⟩
  · exact old
  · rw [Entry.mk.injEq] at same
    exact absurd same.2.1 (other parent userId sessionId)

theorem coherent_step (coherent : Coherent view)
    (step : View.Step (authMachine config) stillActive view next) :
    Coherent next := by
  cases step with
  | @op labels stage op input replaced allowed ready meets =>
    obtain ⟨ages, sane⟩ := authExec_ages config op input coherent.sane
    have acting := coherent.knows stage replaced.label_mem
    refine ⟨sane, ?_, ?_⟩
    · intro other member
      rcases replaced.mem member with old | rfl | spawned
      · exact ages.knows coherent.sane (coherent.knows other old)
      · exact knows_advance coherent.sane allowed acting
      · cases spawned
    · by_cases rotates : ∃ jti userId sessionId,
          op = .rotate jti userId sessionId
      · obtain ⟨jti, userId, sessionId, rfl⟩ := rotates
        cases allowed with
        | rotate token =>
          exact lineage_rotate coherent.sane coherent.lineage acting meets rfl
        | plain op plain => cases plain
      · have aged := coherent.lineage.ages ages coherent.sane
        have other : ∀ jti userId sessionId,
            op ≠ .rotate jti userId sessionId := by
          intro jti userId sessionId same
          exact rotates ⟨jti, userId, sessionId, same⟩
        constructor
        · intro parent child replaces
          exact aged.parent parent child (replaces_of_other other replaces)
        · intro parent child replaces
          exact aged.child parent child (replaces_of_other other replaces)
        · intro parent child replaces
          exact aged.inherits parent child (replaces_of_other other replaces)
  | unwind replaced handled meets => cases handled
  | @arrive left call meets shape =>
    refine ⟨coherent.sane, ?_, coherent.lineage⟩
    intro stage member
    rcases mem_arrives (shape.imp_right And.left) member with old | rfl
    · exact coherent.knows stage old
    · cases call <;> trivial
  | signal signal => exact signal.elim
  | restart meets => exact ⟨coherent.sane, by simp, coherent.lineage⟩

/-- A process that has just started on sane tables. -/
structure Started (pool : AuthPool) : Prop where
  idle : pool.tasks = []
  clean : pool.history = []
  sane : pool.state.Sane

variable {pool : AuthPool}

theorem Started.coherent (started : Started pool) : Coherent pool.view := by
  refine ⟨started.sane, ?_, ?_⟩
  · intro stage member
    simp [Pool.view, started.idle] at member
  · have nothing : ∀ parent child,
        ¬ Replaces pool.view.history parent child := by
      rintro parent child ⟨_, _, _, _, member, _⟩
      simp [Pool.view, started.clean] at member
    constructor
    all_goals
      intro parent child replaces
      exact absurd replaces (nothing parent child)

variable {events : List (Event AuthInput AuthCall Empty)}

theorem Started.reaches {start : AuthPool} (started : Started start)
    (run : Pool.Run (authMachine config) stillActive start events pool) :
    View.Reaches (authMachine config) stillActive start.view pool.view ∧
      ∀ task ∈ pool.tasks, (authMachine config).TaskFollows task := by
  apply run.reaches (authMachine_sound config)
  intro task member
  rw [started.idle] at member
  cases member

theorem Started.run_coherent {start : AuthPool} (started : Started start)
    (run : Pool.Run (authMachine config) stillActive start events pool) :
    Coherent pool.view :=
  (started.reaches run).1.invariant Coherent started.coherent
    fun _ _ => coherent_step

/-- In every run the tables stay sane, no token is deleted or changes hands, and
a token on the blacklist stays there. -/
theorem tokens_age {guard : AuthGuard} {start : AuthPool}
    (idle : start.tasks = []) (sane : start.state.Sane)
    (run : Pool.Run (authMachine config) guard start events pool) :
    pool.state.Sane ∧ Ages start.state pool.state := by
  have reached := (run.reaches (authMachine_sound config) (by simp [idle])).1
  apply reached.invariant fun view =>
    view.state.Sane ∧ Ages start.state view.state
  · exact ⟨sane, .of_tokens rfl rfl (Nat.le_refl _)⟩
  · rintro view next ⟨sane, ages⟩ step
    cases step with
    | @op labels stage op input =>
      obtain ⟨later, saneAfter⟩ := authExec_ages config op input sane
      exact ⟨saneAfter, ages.trans later⟩
    | signal signal => exact signal.elim
    | _ => exact ⟨sane, ages⟩

/-- A call has returned a new pair for the token. -/
def returnsPair (jti : Nat) (entry : AuthEntry) : Bool :=
  match entry.op with
  | .returns token (.ok _) => token.jti == jti
  | _ => false

/-- A call is about to return a new pair for the token. -/
def AuthStage.holdsPair (jti : Nat) : AuthStage → Bool
  | .rotated token => token.jti == jti
  | _ => false

/-- The calls that have got a new pair for the token. -/
def winners (jti : Nat) (view : AuthView) : Nat :=
  view.history.countP (returnsPair jti) +
    view.labels.countP (AuthStage.holdsPair jti)

/-- At most one call has got a new pair, and then the token is blacklisted. -/
def SingleUse (view : AuthView) : Prop :=
  ∀ jti, winners jti view = 0 ∨
    winners jti view = 1 ∧ jti < view.state.nextUuid ∧
      ∀ row ∈ view.state.tokens, row.jti = jti → row.isBlacklist = true

/-- One step makes a winner only by replacing the token. -/
theorem holdsPair_advance {answer : op.Ret}
    (allowed : stage.Allows op) (jti : Nat) :
    (returnsPair jti ⟨stage, op, answer⟩).toNat +
        ((stage.advance op answer).holdsPair jti).toNat =
        (stage.holdsPair jti).toNat ∨
      (∃ userId sessionId, op = .rotate jti userId sessionId) ∧
        (returnsPair jti ⟨stage, op, answer⟩).toNat +
          ((stage.advance op answer).holdsPair jti).toNat =
          (stage.holdsPair jti).toNat + 1 := by
  cases allowed with
  | validate token => cases answer <;> exact .inl rfl
  | check token =>
    rcases answer with failure | active
    · exact .inl rfl
    · cases active <;> exact .inl rfl
  | locate token =>
    rcases answer with failure | located
    · exact .inl rfl
    · cases located <;> exact .inl rfl
  | begin | succeed | fail =>
    exact .inl rfl
  | find token sessionId =>
    rcases answer with failure | found
    · exact .inl rfl
    · cases found <;> exact .inl rfl
  | rotate token sessionId userId =>
    cases answer with
    | error failure => exact .inl rfl
    | ok pair =>
      by_cases same : token.jti = jti
      · right
        subst same
        exact ⟨⟨userId, sessionId, rfl⟩,
          by simp [returnsPair, AuthStage.advance, AuthStage.holdsPair]⟩
      · left
        simp [returnsPair, AuthStage.advance, AuthStage.holdsPair, same]
  | plain op plain =>
    left
    cases op <;> first | rfl | cases plain

theorem rotate_blacklists {jti : Nat}
    {pair : TokenPair} (old : jti < store.nextUuid)
    (rotates : authExec config (.rotate jti userId sessionId) input store =
      (after, .ok pair)) :
    ∀ row ∈ after.tokens, row.jti = jti → row.isBlacklist = true := by
  rw [(rotate_ok rotates).2]
  intro row member same
  obtain ⟨source, present, version⟩ := (AuthStore.ages_storeTokenPair config _
    _ _).older row member (same ▸ old)
  apply version.blacklist
  obtain ⟨first, _, rfl⟩ := AuthStore.mem_blacklistWhere.mp present
  have named := version.jti.symm.trans same
  by_cases hit : (first.jti == jti) = true
  · rw [if_pos hit]
  · rw [if_neg hit] at named
    exact absurd (beq_iff_eq.mpr named) hit

/-- The calls that have got a pair, before and after an operation. -/
theorem winners_op {labels : List AuthStage}
    (replaced : Replaced (authMachine config).ended stage
      (stage.advance op (authExec config op input view.state).2) [] view.labels
      labels) (jti : Nat) :
    winners jti
        { state := (authExec config op input view.state).1
          labels
          history := ⟨stage, op, (authExec config op input view.state).2⟩ ::
            view.history } + (stage.holdsPair jti).toNat =
      winners jti view +
        ((returnsPair jti ⟨stage, op,
            (authExec config op input view.state).2⟩).toNat +
          ((stage.advance op (authExec config op input
            view.state).2).holdsPair jti).toNat) := by
  have counted := replaced.countP (AuthStage.holdsPair jti) (by
    rintro (plain | ended)
    · rw [plain]
      rfl
    · rw [ended]
      rfl)
  rw [List.countP_nil, Nat.add_zero] at counted
  have value : ∀ flag : Bool, flag.toNat = if flag = true then 1 else 0 := by
    intro flag
    cases flag <;> rfl
  simp only [winners, List.countP_cons, ← value]
  omega

theorem singleUse_step (coherent : Coherent view) (single : SingleUse view)
    (step : View.Step (authMachine config) stillActive view next) :
    SingleUse next := by
  cases step with
  | @op labels stage op input replaced allowed ready meets =>
    obtain ⟨ages, _⟩ := authExec_ages config op input coherent.sane
    intro jti
    have total := winners_op replaced jti
    rcases @holdsPair_advance op stage
        (authExec config op input view.state).2 allowed jti with
      kept | ⟨⟨userId, sessionId, rfl⟩, gained⟩
    · rw [kept] at total
      have same := Nat.add_right_cancel total
      rcases single jti with none | ⟨one, old, revoked⟩
      · exact .inl (same.trans none)
      · exact .inr ⟨same.trans one, Nat.lt_of_lt_of_le old ages.counter,
          ages.revoked old revoked⟩
    · obtain ⟨row, member, named, listed⟩ := unrevoked_iff.mp meets
      have before : winners jti view = 0 := by
        rcases single jti with none | ⟨_, _, revoked⟩
        · exact none
        · rw [revoked row member named] at listed
          cases listed
      have old : jti < view.state.nextUuid :=
        named ▸ coherent.sane.fresh row member
      rw [gained, before, Nat.zero_add, Nat.add_comm _ 1] at total
      have one := Nat.add_right_cancel total
      refine .inr ⟨one, Nat.lt_of_lt_of_le old ages.counter, ?_⟩
      cases outcome : (authExec config (.rotate jti userId sessionId) input
          view.state).2 with
      | ok pair => exact rotate_blacklists old (Prod.ext rfl outcome)
      | error failure =>
        cases allowed with
        | rotate token =>
          rw [outcome] at gained
          cases gained
        | plain op plain => cases plain
  | unwind replaced handled meets => cases handled
  | @arrive left call meets shape =>
    intro jti
    have nobody : left.countP (AuthStage.holdsPair jti) = 0 := by
      rcases shape with rfl | ⟨rfl, _⟩
      · cases call <;> rfl
      · rfl
    have same : winners jti { view with labels := view.labels ++ left } =
        winners jti view := by
      simp only [winners, List.countP_append, nobody, Nat.add_zero]
    rw [same]
    exact single jti
  | signal signal => exact signal.elim
  | restart meets =>
    intro jti
    have fewer : winners jti { view with
        state := (authMachine config).restart view.state, labels := [] } ≤
          winners jti view := by
      simp [winners]
    rcases single jti with none | ⟨one, old, revoked⟩
    · exact .inl (Nat.le_zero.mp (none ▸ fewer))
    · rcases Nat.le_one_iff_eq_zero_or_eq_one.mp (one ▸ fewer) with
        none | still
      · exact .inl none
      · exact .inr ⟨still, old, revoked⟩

/-- In every run in which tokens are still active when they are replaced, at
most one refresh returns a new pair for each token. -/
theorem refresh_single_use (config : JwtConfig) {start pool : AuthPool}
    {events : List (Event AuthInput AuthCall Empty)} (started : Started start)
    (run : Pool.Run (authMachine config) stillActive start events pool)
    (token : Claims) : pool.history.countP (returnsPair token.jti) ≤ 1 := by
  have both : Coherent pool.view ∧ SingleUse pool.view := by
    apply (started.reaches run).1.invariant
      (fun view => Coherent view ∧ SingleUse view)
    · refine ⟨started.coherent, ?_⟩
      intro jti
      left
      simp [winners, Pool.view, started.idle, started.clean]
    · rintro view next ⟨coherent, single⟩ step
      exact ⟨coherent_step coherent step,
        singleUse_step coherent single step⟩
  have total : winners token.jti pool.view ≤ 1 := by
    rcases both.2 token.jti with none | ⟨one, _⟩
    · exact Nat.le_of_lt (none ▸ Nat.zero_lt_one)
    · exact Nat.le_of_eq one
  exact Nat.le_trans (Nat.le_add_right _ _) total

/-- One user with one session, whose refresh token is the second of its pair. -/
def oneSession : AuthStore where
  accounts := [⟨1, some "ann@example.org", "hash"⟩]
  tokens := [⟨0, 1, false, 100, some 10, .access⟩,
    ⟨1, 1, false, 1000, some 10, .refresh⟩]
  resets := []
  signed := [⟨1, 0, .access, 100⟩, ⟨1, 1, .refresh, 1000⟩]
  nextUuid := 20

def sessionToken : Claims := ⟨1, 1, .refresh, 1000⟩

def sessionPool : AuthPool := ⟨oneSession, [], []⟩

def shortLived : JwtConfig := ⟨100, 1000, false⟩

theorem started_sessionPool : Started sessionPool :=
  ⟨rfl, rfl, by decide, by decide, by decide, by decide⟩

/-- The operation of a task succeeds. -/
def goes (index : Nat) : Event AuthInput AuthCall Empty :=
  .run index ⟨0, none, ""⟩

/-- A refresh that runs to its end. -/
def refreshAlone : List (Event AuthInput AuthCall Empty) :=
  .arrive (.refresh sessionToken) :: List.replicate 6 (goes 0)

/-- Any run. -/
def unguarded : AuthGuard where
  op _ _ _ _ := True
  unwind _ _ := True
  arrive _ _ := True
  restart := True

instance : unguarded.Checkable where
  op _ _ _ _ := .isTrue trivial

theorem refresh_single_use_alone :
    ∃ pool, Started sessionPool ∧
      Pool.Run (authMachine shortLived) stillActive sessionPool
        (refreshAlone ++ [.arrive (.refresh sessionToken), goes 0, goes 0,
          goes 0]) pool ∧
      pool.history.countP (returnsPair sessionToken.jti) ≤ 1 := by
  simp only [exists_and_left]
  refine ⟨started_sessionPool,
    Pool.Run.exists_checked (fun _ => True) (by decide +kernel) ?_⟩
  intro pool run _
  exact refresh_single_use shortLived started_sessionPool run sessionToken

theorem tokens_age_refresh :
    ∃ pool, Pool.Run (authMachine shortLived) unguarded sessionPool refreshAlone
        pool ∧ pool.state.Sane ∧ Ages oneSession pool.state :=
  Pool.Run.exists_checked (fun _ => True) (by decide +kernel)
    fun _ run _ => tokens_age rfl started_sessionPool.sane run

/-- Two refreshes check the token before either has replaced it, and both return
a new pair. -/
theorem refresh_used_twice :
    ∃ events pool, Started sessionPool ∧
      Pool.Run (authMachine shortLived) unguarded sessionPool events pool ∧
      pool.history.countP (returnsPair sessionToken.jti) = 2 := by
  simp only [exists_and_left]
  refine ⟨started_sessionPool, [.arrive (.refresh sessionToken),
    .arrive (.refresh sessionToken)] ++ List.replicate 4 (goes 0) ++
      List.replicate 4 (goes 1) ++ List.replicate 4 (goes 0), ?_⟩
  exact Pool.Run.exists_checked _ (by decide +kernel) fun _ _ twice => twice

/-- The operation completes and takes the row away, now or before. -/
def revokes (input : AuthInput) (store : AuthStore) :
    AuthOp → JwtToken → Bool
  | .blacklistAllByUser userId, row =>
    input.fault.isNone && row.userId == userId
  | .revokeSession userId sessionId, row =>
    input.fault.isNone && AuthStore.isOfSession userId sessionId row
  | .completeReset tokenHash _, row =>
    input.fault.isNone &&
      (store.resets.find? (AuthStore.usableReset input.now tokenHash)).any
        fun reset => row.userId == reset.userId
  | _, _ => false

theorem revokes_inherits {parent child : JwtToken}
    (inherits : Inherits parent child)
    (revoked : revokes input store op parent = true) :
    revokes input store op child = true := by
  obtain ⟨user, session⟩ := inherits
  cases op with
  | blacklistAllByUser | completeReset =>
    simpa [revokes, user] using revoked
  | revokeSession userId sessionId =>
    simp only [revokes, AuthStore.isOfSession, Bool.and_eq_true,
      beq_iff_eq] at revoked ⊢
    rcases session with none | same
    · rw [none] at revoked
      cases revoked.2.2
    · rw [user, same]
      exact revoked
  | _ => cases revoked

theorem blacklistWhere_covers {store : AuthStore} {own : JwtToken → Bool}
    {row : JwtToken}
    (member : row ∈ (store.blacklistWhere fun row =>
      own row && !row.isBlacklist).tokens)
    (covered : ∀ old ∈ store.tokens, old.jti = row.jti → own old = true) :
    row.isBlacklist = true := by
  obtain ⟨old, present, rfl⟩ := AuthStore.mem_blacklistWhere.mp member
  have owned := covered old present (by split <;> rfl)
  cases listed : old.isBlacklist <;> simp [owned, listed]

/-- After a revocation every row it is about is blacklisted. -/
theorem revokes_blacklists (revoked : ∀ row ∈ store.tokens, row.jti = jti →
      revokes input store op row = true)
    (acts : ∃ row, revokes input store op row = true) :
    ∀ row ∈ (authExec config op input store).1.tokens, row.jti = jti →
      row.isBlacklist = true := by
  intro row member same
  obtain ⟨covered, act⟩ := acts
  cases op with
  | blacklistAllByUser userId =>
    simp only [revokes, Bool.and_eq_true, Option.isNone_iff_eq_none]
      at revoked act
    simp only [authExec, AuthInput.attempt, act.1] at member
    exact @blacklistWhere_covers store (fun row => row.userId == userId) row
      member fun old present named =>
        (revoked old present (named.trans same)).2
  | revokeSession userId sessionId =>
    simp only [revokes, Bool.and_eq_true, Option.isNone_iff_eq_none]
      at revoked act
    simp only [authExec, AuthInput.attempt, act.1] at member
    exact blacklistWhere_covers member fun old present named =>
      (revoked old present (named.trans same)).2
  | completeReset tokenHash password =>
    simp only [revokes, Bool.and_eq_true, Option.isNone_iff_eq_none]
      at revoked act
    simp only [authExec, AuthInput.attempt, act.1, AuthStore.completeReset]
      at member
    cases found : store.resets.find?
        (AuthStore.usableReset input.now tokenHash) with
    | none => simp [found] at act
    | some reset =>
      simp only [found] at member
      refine @blacklistWhere_covers store
        (fun row => row.userId == reset.userId) row member ?_
      intro old present named
      have owned := (revoked old present (named.trans same)).2
      simpa only [found, Option.any_some] using owned
  | _ => cases act

/-- Every token derived from one of the roots is blacklisted. -/
def Extinct (Root : Nat → Prop) (view : AuthView) : Prop :=
  ∀ root, Root root → ∀ jti, DerivedFrom view.history root jti →
    jti < view.state.nextUuid ∧
      ∀ row ∈ view.state.tokens, row.jti = jti → row.isBlacklist = true

theorem extinct_step {Root : Nat → Prop} (coherent : Coherent view)
    (extinct : Extinct Root view)
    (step : View.Step (authMachine config) stillActive view next) :
    Extinct Root next := by
  cases step with
  | @op labels stage op input replaced allowed ready meets =>
    obtain ⟨ages, _⟩ := authExec_ages config op input coherent.sane
    intro root isRoot jti derived
    have before : DerivedFrom view.history root jti := by
      induction derived with
      | refl => exact .refl
      | @tail parent child earlier replaces induction =>
        rcases replaces_cons replaces with old | ⟨_, userId, sessionId, _,
          same, _⟩
        · exact induction.tail old
        · rw [Entry.mk.injEq] at same
          have rotates := same.2.1
          subst rotates
          obtain ⟨row, member, named, listed⟩ := unrevoked_iff.mp meets
          have dead := (extinct root isRoot parent induction).2 row member
            named
          rw [dead] at listed
          cases listed
    obtain ⟨old, revoked⟩ := extinct root isRoot jti before
    exact ⟨Nat.lt_of_lt_of_le old ages.counter, ages.revoked old revoked⟩
  | unwind replaced handled meets => cases handled
  | arrive | restart =>
    exact extinct
  | signal signal => exact signal.elim

/-- Once a revocation has completed, no token that is derived through any chain
of refreshes from a row it took away is active, then or later, in every run in
which tokens are still active when they are replaced. -/
theorem revocation_final (config : JwtConfig)
    {start before after later : AuthPool}
    {past future : List (Event AuthInput AuthCall Empty)} {index : Nat}
    {input : AuthInput} {stage : AuthStage} {op : AuthOp}
    {rest : op.Ret → AuthProgram Unit} (started : Started start)
    (run : Pool.Run (authMachine config) stillActive start past before)
    (acting : before.tasks[index]? = some ⟨stage, .call op rest⟩)
    (stepped : before.step? (authMachine config) (.run index input) =
      some after)
    (continued : Pool.Run (authMachine config) stillActive after future later)
    {row : JwtToken} (present : row ∈ before.state.tokens)
    (revoked : revokes input before.state op row = true) {jti : Nat}
    (derived : DerivedFrom later.history row.jti jti) (now : Int) :
    later.state.isTokenActive now jti = false := by
  obtain ⟨_, follow⟩ := started.reaches run
  have coherent := started.run_coherent run
  obtain ⟨_, _, shape⟩ := Pool.run_view acting
    (follow _ (List.mem_of_getElem? acting)) stepped
  have other : ∀ jti userId sessionId, op ≠ .rotate jti userId sessionId := by
    intro jti userId sessionId same
    subst same
    cases revoked
  have meets : before.Meets stillActive
      (.run index input : Event AuthInput AuthCall Empty) := by
    intro otherStage otherOp otherRest found
    rw [acting] at found
    cases found
    cases op with
    | rotate => cases revoked
    | _ => rfl
  have full := run.snoc meets stepped
  have coherentAfter := started.run_coherent full
  have extinct : Extinct (fun root => root = row.jti) after.view := by
    intro root same jti derived
    subst same
    have earlier : DerivedFrom before.view.history row.jti jti := by
      rw [shape] at derived
      exact Relation.ReflTransGen.mono
        (fun _ _ replaces => replaces_of_other other replaces) _ _ derived
    obtain ⟨old, inherits⟩ := coherent.lineage.derived coherent.sane present
      earlier
    rw [shape]
    refine ⟨Nat.lt_of_lt_of_le old
      (authExec_ages config op input coherent.sane).1.counter, ?_⟩
    apply revokes_blacklists _ ⟨row, revoked⟩
    intro child member named
    exact revokes_inherits (inherits child member named) revoked
  have reached := continued.reaches (authMachine_sound config)
    (started.reaches full).2
  have both : Coherent later.view ∧
      Extinct (fun root => root = row.jti) later.view := by
    apply reached.1.invariant (fun view => Coherent view ∧
      Extinct (fun root => root = row.jti) view) ⟨coherentAfter, extinct⟩
    rintro view next ⟨coherent, extinct⟩ step
    exact ⟨coherent_step coherent step, extinct_step coherent extinct step⟩
  have dead := (both.2 row.jti rfl jti derived).2
  apply Bool.eq_false_iff.mpr
  intro active
  obtain ⟨token, member, fits⟩ := List.any_eq_true.mp active
  simp only [Bool.and_eq_true, beq_iff_eq, Bool.not_eq_true'] at fits
  rw [dead token member fits.1.1] at fits
  cases fits.1.2

/-- The entry records that the child came with the replacement of the parent. -/
def replacesBy (parent child : Nat) (entry : AuthEntry) : Bool :=
  match entry with
  | ⟨_, .rotate jti _ _, .ok pair⟩ =>
    jti == parent && (child == pair.accessToken.jti ||
      child == pair.refreshToken.jti)
  | _ => false

theorem derived_of_any (found : history.any (replacesBy parent child) = true) :
    DerivedFrom history parent child := by
  obtain ⟨entry, member, fits⟩ := List.any_eq_true.mp found
  unfold replacesBy at fits
  split at fits
  · simp only [Bool.and_eq_true, Bool.or_eq_true, beq_iff_eq] at fits
    obtain ⟨rfl, which⟩ := fits
    exact .single ⟨_, _, _, _, member, which⟩
  · cases fits

/-- The task is about to log the user out everywhere. -/
def logsOut (userId : Int) (task : AuthTask) : Bool :=
  match task with
  | ⟨_, .call (.blacklistAllByUser other) _⟩ => other == userId
  | _ => false

theorem logsOut_eq {task : AuthTask} (logs : logsOut userId task = true) :
    ∃ stage rest, task = ⟨stage, .call (.blacklistAllByUser userId) rest⟩ := by
  unfold logsOut at logs
  split at logs
  · rw [beq_iff_eq] at logs
    subst logs
    exact ⟨_, _, rfl⟩
  · cases logs

def sessionRow : JwtToken := ⟨1, 1, false, 1000, some 10, .refresh⟩

/-- The user refreshes, logs out everywhere and tries the new token. -/
theorem revocation_final_logout :
    ∃ before after later, ∃ past future : List (Event AuthInput AuthCall Empty),
      Pool.Run (authMachine shortLived) stillActive sessionPool past before ∧
      before.step? (authMachine shortLived) (goes 0) = some after ∧
      Pool.Run (authMachine shortLived) stillActive after future later ∧
      DerivedFrom later.history 1 21 ∧
      later.state.isTokenActive 0 21 = false := by
  have found : (sessionPool.run? (authMachine shortLived) stillActive
      (refreshAlone ++ [.arrive (.logoutAll 1)])).any (fun before =>
        before.tasks[0]?.any (logsOut 1) &&
          (before.state.tokens.any fun row => row.jti == 1 && row.userId == 1) &&
          (before.step? (authMachine shortLived) (goes 0)).any fun after =>
            (after.run? (authMachine shortLived) stillActive
              [.arrive (.refresh ⟨1, 21, .refresh, 1000⟩), goes 0, goes 0,
                goes 0]).any fun later =>
                  later.history.any (replacesBy 1 21)) = true := by
    decide +kernel
  obtain ⟨before, run, checked⟩ := Pool.Run.exists_of_any found
  simp only [Bool.and_eq_true] at checked
  obtain ⟨⟨logs, rows⟩, steps⟩ := checked
  obtain ⟨task, acting, logs⟩ := (Option.any_eq_true _ _).mp logs
  obtain ⟨stage, rest, rfl⟩ := logsOut_eq logs
  obtain ⟨row, present, named⟩ := List.any_eq_true.mp rows
  simp only [Bool.and_eq_true, beq_iff_eq] at named
  obtain ⟨after, stepped, continues⟩ := (Option.any_eq_true _ _).mp steps
  obtain ⟨later, continued, replaced⟩ := Pool.Run.exists_of_any continues
  have derived := derived_of_any replaced
  refine ⟨before, after, later, _, _, run, stepped, continued, derived, ?_⟩
  apply revocation_final shortLived started_sessionPool run acting stepped
    continued present _ (named.1 ▸ derived)
  simp [revokes, named.2]

/-- A refresh checks its token, the user logs out everywhere, and the refresh
ends with a new pair that is active. -/
theorem refresh_survives_logout :
    ∃ before after later, ∃ past future : List (Event AuthInput AuthCall Empty),
      Pool.Run (authMachine shortLived) unguarded sessionPool past before ∧
      sessionRow ∈ before.state.tokens ∧
      (∃ stage rest, before.tasks[1]? =
        some ⟨stage, .call (.blacklistAllByUser 1) rest⟩) ∧
      before.step? (authMachine shortLived) (goes 1) = some after ∧
      Pool.Run (authMachine shortLived) unguarded after future later ∧
      DerivedFrom later.history sessionRow.jti 21 ∧
      later.state.isTokenActive 0 21 = true := by
  have found : (sessionPool.run? (authMachine shortLived) unguarded
      (.arrive (.refresh sessionToken) :: List.replicate 4 (goes 0) ++
        [.arrive (.logoutAll 1)])).any (fun before =>
        before.tasks[1]?.any (logsOut 1) &&
          before.state.tokens.contains sessionRow &&
          (before.step? (authMachine shortLived) (goes 1)).any fun after =>
            (after.run? (authMachine shortLived) unguarded [goes 0]).any
              fun later => later.history.any (replacesBy 1 21) &&
                later.state.isTokenActive 0 21) = true := by
    decide +kernel
  obtain ⟨before, run, checked⟩ := Pool.Run.exists_of_any found
  simp only [Bool.and_eq_true] at checked
  obtain ⟨⟨logs, present⟩, steps⟩ := checked
  obtain ⟨task, acting, logs⟩ := (Option.any_eq_true _ _).mp logs
  obtain ⟨stage, rest, rfl⟩ := logsOut_eq logs
  obtain ⟨after, stepped, continues⟩ := (Option.any_eq_true _ _).mp steps
  obtain ⟨later, continued, good⟩ := Pool.Run.exists_of_any continues
  rw [Bool.and_eq_true] at good
  exact ⟨before, after, later, _, _, run, List.contains_iff_mem.mp present,
    ⟨stage, rest, acting⟩, stepped, continued, derived_of_any good.1, good.2⟩

end OpenOxide.Access
