import BandBPools.Auth.Session
import BandBPools.Credential.Text

/-!
# Sign-in flows

A sign-in is a block on the work queue that sends a request, exchanges the
tokens of the response where they are about to expire, looks up the account
and, in the decorated callback, makes the new user the current one.  Other
blocks run in between, so a flow is a stage that is advanced by one input at a
time.

The callbacks that guests and new accounts are signed in with do not look at
the error of the exchange and the look-up.
-/

namespace BandBPools.Auth

open BandBPools.Credential

/-! ## Requests and responses -/

/-- The calls of `FIRAuth` that the app signs in with. -/
inductive Method where
  | signInAnonymously
  | createUser (email password : Text)
  | signInWithEmail (email password : Text)
  | signInWithCredential
deriving DecidableEq

/-- Whether the callback given to `completeSignInWithAccessToken:` drops its
error. -/
def Method.dropsError : Method → Bool
  | .signInAnonymously | .createUser _ _ => true
  | .signInWithEmail _ _ | .signInWithCredential => false

/-- What `FIRSignUpNewUserResponse`, `FIRVerifyPasswordResponse` and
`FIRVerifyAssertionResponse` have in common. -/
structure TokenResponse where
  IDToken : Option String
  approximateExpirationDate : Option Int
  refreshToken : Option String
deriving DecidableEq, Repr

/-- `FIRVerifyAssertionResponse` -/
structure FIRVerifyAssertionResponse extends TokenResponse where
  needConfirmation : Bool
  providerID : Option String
deriving DecidableEq, Repr

/-- `FIRSecureTokenResponse`; a response without an access token is an
error. -/
structure FIRSecureTokenResponse where
  accessToken : String
  nonempty : accessToken ≠ ""
  approximateExpirationDate : Int
  refreshToken : Option String
deriving DecidableEq

/-- How far a flow has come. -/
inductive Stage where
  | queued
  | requesting
  | fetching (tokenService : FIRSecureTokenService)
  | refreshing (tokenService : FIRSecureTokenService)
  | lookingUp (tokenService : FIRSecureTokenService)
deriving DecidableEq, Repr

/-- What a flow waits for: its turn on the queue, or an answer. -/
inductive Input where
  | run
  | tokens (reply : Except FIRAuthErrorCode TokenResponse)
  | assertion (reply : Except FIRAuthErrorCode FIRVerifyAssertionResponse)
  | fetch (now : Int)
  | secureToken (reply : Except FIRAuthErrorCode FIRSecureTokenResponse)
  | accountInfo
      (reply : Except FIRAuthErrorCode FIRGetAccountInfoResponseUser)

/-- The answer is an error of the exchange or the look-up. -/
def Input.lookUpFails : Input → Bool
  | .secureToken (.error _) | .accountInfo (.error _) => true
  | _ => false

/-- An account that is looked up has an ID. -/
def Input.Identified : Input → Prop
  | .accountInfo (.ok response) => response.localID ≠ none
  | _ => True

instance : DecidablePred Input.Identified
  | .accountInfo (.ok response) =>
      inferInstanceAs (Decidable (response.localID ≠ none))
  | .accountInfo (.error _) | .run | .tokens _ | .assertion _ | .fetch _
  | .secureToken _ => inferInstanceAs (Decidable True)

/-- `FIRAuthDataResult`, whose user may be missing. -/
structure FIRAuthDataResult where
  user : Option UserObject
deriving DecidableEq

/-- A flow goes on to another stage or calls back. -/
inductive Outcome where
  | goesOn (stage : Stage)
  | callsBack (result : Except FIRAuthErrorCode FIRAuthDataResult)

/-- What a flow does at one input. -/
abbrev Progress := Outcome × FIRAuth × List Notification

/-! ## Tokens -/

namespace FIRSecureTokenService

/-- `kFiveMinutes` -/
def kFiveMinutes : Int := 5 * 60

/-- `hasValidAccessToken` -/
def hasValidAccessToken (now : Int) (self : FIRSecureTokenService) : Bool :=
  self.accessToken.isSome &&
    self.accessTokenExpirationDate.any fun date => date - now > kFiveMinutes

/-- The end of `requestAccessToken:`: the new tokens, and whether there are
any. -/
def receive (response : FIRSecureTokenResponse)
    (self : FIRSecureTokenService) : Bool × FIRSecureTokenService :=
  let newAccess := self.accessToken ≠ some response.accessToken
  let newRefresh := response.refreshToken.any fun refreshToken =>
    refreshToken ≠ "" && self.refreshToken ≠ some refreshToken
  (newAccess || newRefresh,
    { accessToken :=
        if newAccess then some response.accessToken else self.accessToken
      accessTokenExpirationDate :=
        if newAccess then some response.approximateExpirationDate
        else self.accessTokenExpirationDate
      refreshToken :=
        if newRefresh then response.refreshToken else self.refreshToken })

end FIRSecureTokenService

/-! ## Callbacks -/

namespace FIRAuth

/-- `signInFlowAuthDataResultCallbackByDecoratingCallback:` -/
def decorated (refusals : Refusals)
    (authResult : Except FIRAuthErrorCode FIRAuthDataResult)
    (self : FIRAuth) : Progress :=
  match authResult with
  | .error error => (.callsBack (.error error), self, [])
  | .ok authResult =>
      match self.updateCurrentUser refusals authResult.user false true with
      | (.error _, self, posted) =>
          (.callsBack (.error .keychainError), self, posted)
      | (.ok (), self, posted) => (.callsBack (.ok authResult), self, posted)

/-- The callback that each method gives to `completeSignInWithAccessToken:`,
called with a user or an error. -/
def retrieved (refusals : Refusals) (method : Method)
    (user : Except FIRAuthErrorCode UserObject) (self : FIRAuth) :
    Progress :=
  match user with
  | .ok user => self.decorated refusals (.ok ⟨some user⟩)
  | .error error =>
      if method.dropsError then
        self.decorated refusals (.ok ⟨none⟩)
      else
        self.decorated refusals (.error error)

/-- `FIRUser.signOutIfTokenIsInvalidWithError:` of a user that has no ID
yet. -/
def signOutIfTokenIsInvalidWithError (refusals : Refusals)
    (error : FIRAuthErrorCode) (self : FIRAuth) :
    FIRAuth × List Notification :=
  match error with
  | .userNotFound | .userDisabled | .invalidUserToken | .userTokenExpired =>
      (self.signOutByForceWithUserID refusals none).2
  | _ => (self, [])

/-! ## Stages -/

/-- The block that a method dispatches to the work queue.  Some of them call
back at once. -/
def begin (refusals : Refusals) (method : Method) (self : FIRAuth) :
    Progress :=
  match method with
  | .signInAnonymously =>
      if self.currentUser.any fun current => current.user.anonymous then
        self.decorated refusals (.ok ⟨self.currentUser⟩)
      else
        (.goesOn .requesting, self, [])
  | .createUser email password =>
      if password.isEmpty then
        self.decorated refusals (.error .weakPassword)
      else if email.isEmpty then
        self.decorated refusals (.error .missingEmail)
      else
        (.goesOn .requesting, self, [])
  | .signInWithEmail _ password =>
      if password.isEmpty then
        self.decorated refusals (.error .wrongPassword)
      else
        (.goesOn .requesting, self, [])
  | .signInWithCredential => (.goesOn .requesting, self, [])

/-- `completeSignInWithAccessToken:…` and the start of
`FIRUser.retrieveUserWithAuth:…` -/
def completeSignIn (response : TokenResponse) (self : FIRAuth) : Progress :=
  (.goesOn (.fetching
    { accessToken := response.IDToken
      accessTokenExpirationDate := response.approximateExpirationDate
      refreshToken := response.refreshToken }), self, [])

/-- The callback of `signUpNewUser:` and of `verifyPassword:` -/
def tokensReplied (refusals : Refusals)
    (reply : Except FIRAuthErrorCode TokenResponse) (self : FIRAuth) :
    Progress :=
  match reply with
  | .error error => self.decorated refusals (.error error)
  | .ok response => self.completeSignIn response

/-- The callback of `verifyAssertion:` -/
def assertionReplied (refusals : Refusals)
    (reply : Except FIRAuthErrorCode FIRVerifyAssertionResponse)
    (self : FIRAuth) : Progress :=
  match reply with
  | .error error => self.decorated refusals (.error error)
  | .ok response =>
      if response.needConfirmation then
        self.decorated refusals
          (.error .accountExistsWithDifferentCredential)
      else if response.providerID.all fun providerID => providerID = "" then
        self.decorated refusals (.error .internalError)
      else
        self.completeSignIn response.toTokenResponse

/-- The task of `fetchAccessTokenForcingRefresh:`, which is not forced. -/
def fetchAccessToken (now : Int) (tokenService : FIRSecureTokenService)
    (self : FIRAuth) : Progress :=
  if tokenService.hasValidAccessToken now then
    (.goesOn (.lookingUp tokenService), self, [])
  else
    (.goesOn (.refreshing tokenService), self, [])

/-- The callback of `secureToken:` and of `internalGetTokenWithCallback:`.  A
user object that is not in the session yet gets the next number. -/
def secureTokenReplied (refusals : Refusals) (method : Method)
    (tokenService : FIRSecureTokenService)
    (reply : Except FIRAuthErrorCode FIRSecureTokenResponse)
    (self : FIRAuth) : Progress :=
  match reply with
  | .error error =>
      let signedOut := self.signOutIfTokenIsInvalidWithError refusals error
      let ended := signedOut.1.retrieved refusals method (.error error)
      (ended.1, ended.2.1, signedOut.2 ++ ended.2.2)
  | .ok response =>
      let received := tokenService.receive response
      let updated := if received.1 then
          self.updateKeychainWithUser refusals
            ⟨self.nextObject, .initWithTokenService self.APIKey received.2⟩
        else
          (.ok (), self, [])
      match updated with
      | (.ok (), self, posted) =>
          (.goesOn (.lookingUp received.2), self, posted)
      | (.error _, self, posted) =>
          let ended := self.retrieved refusals method (.error .keychainError)
          (ended.1, ended.2.1, posted ++ ended.2.2)

/-- The user that `retrieveUserWithAuth:…` hands over. -/
def newUser (method : Method) (tokenService : FIRSecureTokenService)
    (response : FIRGetAccountInfoResponseUser) (self : FIRAuth) : FIRUser :=
  { (FIRUser.initWithTokenService self.APIKey
      tokenService).updateWithGetAccountInfoResponse response with
    anonymous := method = .signInAnonymously }

/-- The callback of `getAccountInfo:` -/
def accountInfoReplied (refusals : Refusals) (method : Method)
    (tokenService : FIRSecureTokenService)
    (reply : Except FIRAuthErrorCode FIRGetAccountInfoResponseUser)
    (self : FIRAuth) : Progress :=
  match reply with
  | .error error => self.retrieved refusals method (.error error)
  | .ok response =>
      retrieved refusals method
        (.ok ⟨self.nextObject, self.newUser method tokenService response⟩)
        { self with nextObject := self.nextObject + 1 }

/-- Advance a flow by the input that its stage waits for. -/
def advance (refusals : Refusals) (method : Method) (stage : Stage)
    (input : Input) (self : FIRAuth) : Option Progress :=
  match stage, input with
  | .queued, .run => some (self.begin refusals method)
  | .requesting, .tokens reply =>
      if method = .signInWithCredential then none
      else some (self.tokensReplied refusals reply)
  | .requesting, .assertion reply =>
      if method = .signInWithCredential then
        some (self.assertionReplied refusals reply)
      else none
  | .fetching tokenService, .fetch now =>
      some (self.fetchAccessToken now tokenService)
  | .refreshing tokenService, .secureToken reply =>
      some (self.secureTokenReplied refusals method tokenService reply)
  | .lookingUp tokenService, .accountInfo reply =>
      some (self.accountInfoReplied refusals method tokenService reply)
  | _, _ => none

/-! ## What an input can do -/

/-- The session that an input is handled in: the answer to a token exchange
may sign the user out first. -/
def purged (refusals : Refusals) (input : Input) (self : FIRAuth) :
    FIRAuth × List Notification :=
  match input with
  | .secureToken (.error error) =>
      self.signOutIfTokenIsInvalidWithError refusals error
  | _ => (self, [])

/-- Every way a flow can be advanced. -/
inductive Advanced (refusals : Refusals) (method : Method) (input : Input)
    (self : FIRAuth) : Progress → Prop where
  | moves (stage : Stage) :
      Advanced refusals method input self (.goesOn stage, self, [])
  | refused (error : FIRAuthErrorCode) :
      Advanced refusals method input self
        (.callsBack (.error error), self.purged refusals input)
  | unsaved :
      Advanced refusals method input self
        (.callsBack (.error .keychainError),
          { self with nextObject := self.nextObject + 1 }, [])
  | reuses {current : UserObject} (guest : method = .signInAnonymously)
      (start : input = .run) (found : self.currentUser = some current) :
      Advanced refusals method input self
        (.callsBack (.ok ⟨some current⟩), self.told,
          self.possiblyPostAuthStateChangeNotification.2)
  | signsIn {tokenService : FIRSecureTokenService}
      {response : FIRGetAccountInfoResponseUser} {next : FIRAuth}
      {posted : List Notification}
      (lookedUp : input = .accountInfo (.ok response))
      (updated : Updated refusals
        (some ⟨self.nextObject, self.newUser method tokenService response⟩)
        false { self with nextObject := self.nextObject + 1 } (.ok ())
        next posted) :
      Advanced refusals method input self
        (.callsBack (.ok ⟨some ⟨self.nextObject,
          self.newUser method tokenService response⟩⟩), next, posted)
  | hollow {next : FIRAuth} {posted : List Notification}
      (drops : method.dropsError = true)
      (failed : input.lookUpFails = true)
      (updated : Updated refusals none false (self.purged refusals input).1
        (.ok ()) next posted) :
      Advanced refusals method input self
        (.callsBack (.ok ⟨none⟩), next,
          (self.purged refusals input).2 ++ posted)

section Inversion

variable {self : FIRAuth} {refusals : Refusals} {method : Method}

/-- A decorated callback without an error makes the user the current one, or
reports that the keychain failed. -/
theorem decorated_ok (refusals : Refusals) (authResult : FIRAuthDataResult)
    (self : FIRAuth) :
    self.decorated refusals (.ok authResult) =
        (.callsBack (.error .keychainError), self, []) ∨
      ∃ next posted,
        Updated refusals authResult.user false self (.ok ()) next posted ∧
          self.decorated refusals (.ok authResult) =
            (.callsBack (.ok authResult), next, posted) := by
  have updated :=
    updateCurrentUser_updated refusals authResult.user false self
  rw [decorated]
  generalize self.updateCurrentUser refusals authResult.user false true =
    outcome at updated ⊢
  rcases outcome with ⟨result, next, posted⟩
  cases result with
  | ok done => exact .inr ⟨next, posted, updated, rfl⟩
  | error error =>
      cases updated with
      | forced error byForce => cases byForce
      | failed error gentle => exact .inl rfl

/-- A callback without a user and without an error signs out whoever is
signed in. -/
theorem decorated_none (allowed : refusals.delete = none) (self : FIRAuth) :
    ∃ next posted, Updated refusals none false self (.ok ()) next posted ∧
      self.decorated refusals (.ok ⟨none⟩) =
        (.callsBack (.ok ⟨none⟩), next, posted) := by
  rcases decorated_ok refusals ⟨none⟩ self with unsaved | made
  · have succeeds := updateCurrentUser_none_of_allowed allowed false self
    rw [decorated] at unsaved
    generalize self.updateCurrentUser refusals none false true = outcome
      at succeeds unsaved
    rcases outcome with ⟨result, next, posted⟩
    cases succeeds
    cases unsaved
  · exact made

theorem advanced_retrieved_error (input : Input)
    (failed : input.lookUpFails = true) (error : FIRAuthErrorCode) :
    Advanced refusals method input self
      (((self.purged refusals input).1.retrieved refusals method
          (.error error)).1,
        ((self.purged refusals input).1.retrieved refusals method
          (.error error)).2.1,
        (self.purged refusals input).2 ++
          ((self.purged refusals input).1.retrieved refusals method
            (.error error)).2.2) := by
  cases drops : method.dropsError with
  | false =>
      simp only [retrieved, drops, Bool.false_eq_true, if_false, decorated,
        List.append_nil]
      exact .refused error
  | true =>
      simp only [retrieved, drops, if_true]
      rcases decorated_ok refusals ⟨none⟩ (self.purged refusals input).1 with
        unsaved | ⟨next, posted, updated, done⟩
      · rw [unsaved, List.append_nil]
        exact .refused .keychainError
      · rw [done]
        exact .hollow drops failed updated

theorem advanced_begin :
    Advanced refusals method .run self (self.begin refusals method) := by
  cases method with
  | signInAnonymously =>
      rw [begin]
      split
      · next anonymous =>
          cases found : self.currentUser with
          | none => simp [found] at anonymous
          | some current =>
              rcases decorated_ok refusals ⟨self.currentUser⟩ self with
                unsaved | ⟨next, posted, updated, done⟩
              · rw [← found, unsaved]
                exact .refused .keychainError
              · rw [← found, done]
                cases updated with
                | same same =>
                    simp only [found]
                    exact .reuses rfl rfl found
                | stored changed stored => exact absurd rfl changed
      · exact .moves .requesting
  | createUser email password =>
      rw [begin]
      split
      · exact .refused .weakPassword
      · split
        · exact .refused .missingEmail
        · exact .moves .requesting
  | signInWithEmail email password =>
      rw [begin]
      split
      · exact .refused .wrongPassword
      · exact .moves .requesting
  | signInWithCredential => exact .moves .requesting

theorem advanced_tokensReplied
    (reply : Except FIRAuthErrorCode TokenResponse) :
    Advanced refusals method (.tokens reply) self
      (self.tokensReplied refusals reply) := by
  cases reply with
  | error error => exact .refused error
  | ok response => exact .moves _

theorem advanced_assertionReplied
    (reply : Except FIRAuthErrorCode FIRVerifyAssertionResponse) :
    Advanced refusals method (.assertion reply) self
      (self.assertionReplied refusals reply) := by
  cases reply with
  | error error => exact .refused error
  | ok response =>
      simp only [assertionReplied]
      split
      · exact .refused .accountExistsWithDifferentCredential
      · split
        · exact .refused .internalError
        · exact .moves _

theorem advanced_secureTokenReplied (settled : Settled self)
    (tokenService : FIRSecureTokenService)
    (reply : Except FIRAuthErrorCode FIRSecureTokenResponse) :
    Advanced refusals method (.secureToken reply) self
      (self.secureTokenReplied refusals method tokenService reply) := by
  cases reply with
  | error error =>
      exact advanced_retrieved_error (.secureToken (.error error)) rfl error
  | ok response =>
      have new := updateKeychainWithUser_of_new settled refusals
        ⟨self.nextObject, .initWithTokenService self.APIKey
          (tokenService.receive response).2⟩ rfl
      simp only [secureTokenReplied, new, ite_self]
      exact .moves _

theorem advanced_accountInfoReplied (tokenService : FIRSecureTokenService)
    (reply : Except FIRAuthErrorCode FIRGetAccountInfoResponseUser) :
    Advanced refusals method (.accountInfo reply) self
      (self.accountInfoReplied refusals method tokenService reply) := by
  cases reply with
  | error error =>
      exact advanced_retrieved_error (.accountInfo (.error error)) rfl error
  | ok response =>
      rw [accountInfoReplied, retrieved]
      rcases decorated_ok refusals
          ⟨some ⟨self.nextObject,
            self.newUser method tokenService response⟩⟩
          { self with nextObject := self.nextObject + 1 } with
        unsaved | ⟨next, posted, updated, done⟩
      · rw [unsaved]
        exact .unsaved
      · rw [done]
        exact .signsIn rfl updated

/-- Every step of a flow is one of the listed ones. -/
theorem advance_advanced (settled : Settled self) {stage : Stage}
    {input : Input} {progress : Progress}
    (taken : self.advance refusals method stage input = some progress) :
    Advanced refusals method input self progress := by
  unfold advance at taken
  split at taken
  · cases taken
    exact advanced_begin
  · next reply =>
      split at taken
      · cases taken
      · cases taken
        exact advanced_tokensReplied reply
  · next reply =>
      split at taken
      · cases taken
        exact advanced_assertionReplied reply
      · cases taken
  · cases taken
    rw [fetchAccessToken]
    split <;> exact .moves _
  · next tokenService reply =>
      cases taken
      exact advanced_secureTokenReplied settled tokenService reply
  · next tokenService reply =>
      cases taken
      exact advanced_accountInfoReplied tokenService reply
  · cases taken

end Inversion

/-! ## What every flow keeps -/

section Invariants

variable {self next : FIRAuth} {refusals : Refusals} {method : Method}
variable {input : Input}

/-- Users read from the keychain and users that were looked up with an ID
have one. -/
def Named (session : FIRAuth) : Prop :=
  session.currentUser ≠ none → session.currentUserID ≠ none

theorem Named.signOut (named : Named self) :
    Named (self.signOut refusals).2.1 := by
  rcases signOut_cases refusals self with ⟨error, failed⟩ | ⟨-, signedOut⟩
  · rw [failed]
    exact named
  · exact fun signedIn => absurd signedOut signedIn

theorem newUser_restored (method : Method)
    (tokenService : FIRSecureTokenService)
    (response : FIRGetAccountInfoResponseUser) :
    (self.newUser method tokenService response).restored self.APIKey =
      (self.newUser method tokenService response).archived? :=
  FIRUser.restored_eq_archived?
    (by simp [newUser, FIRUser.updateWithGetAccountInfoResponse]) rfl

/-- The answer to a token exchange leaves the session alone, or signs out a
user without an ID. -/
theorem purged_cases (refusals : Refusals) (input : Input) (self : FIRAuth) :
    self.purged refusals input = (self, []) ∨
      self.purged refusals input =
        (self.signOutByForceWithUserID refusals none).2 := by
  unfold FIRAuth.purged signOutIfTokenIsInvalidWithError
  split
  · split
    all_goals first
      | exact .inl rfl
      | exact .inr rfl
  · exact .inl rfl

theorem Settled.purged (settled : Settled self) :
    Settled (self.purged refusals input).1 := by
  rcases purged_cases refusals input self with same | signedOut
  · rw [same]
    exact settled
  · rw [signedOut]
    exact settled.signOutByForce

theorem Kept.purged (kept : Kept self)
    (allowed : refusals.deleteLegacy = none) :
    Kept (self.purged refusals input).1 := by
  rcases purged_cases refusals input self with same | signedOut
  · rw [same]
    exact kept
  · rw [signedOut]
    exact kept.signOutByForce allowed

/-- Observers are told of a user that an answer signs out. -/
theorem Settled.purged_tells (settled : Settled self) :
    self.purged refusals input = (self, []) ∨
      (self.purged refusals input).1.currentUser = none ∧
        Tells self (self.purged refusals input).2
          (self.purged refusals input).1 := by
  rcases purged_cases refusals input self with same | signedOut
  · exact .inl same
  · rw [signedOut]
    by_cases unnamed : self.currentUserID = none
    · have updated := updateCurrentUser_updated refusals none true self
      rw [signOutByForce_of_unnamed unnamed]
      exact .inr ⟨updated.currentUser_of_none (fun other => nomatch other),
        updated.tells settled⟩
    · rw [signOutByForce_of_named unnamed]
      exact .inl rfl

/-- No token exchange signs out a user that has an ID. -/
theorem purged_of_named (settled : Settled self) (named : Named self) :
    self.purged refusals input = (self, []) := by
  rcases purged_cases refusals input self with same | signedOut
  · exact same
  · rw [signedOut]
    by_cases unnamed : self.currentUserID = none
    · have signedOut : self.currentUser = none := by
        by_contra signedIn
        exact named signedIn unnamed
      rw [signOutByForce_of_unnamed unnamed, updateCurrentUser, signedOut,
        if_pos rfl]
      exact Prod.ext (by rw [posting_fst, told, ← settled.notified])
        (posting_eq_nil settled.notified)
    · rw [signOutByForce_of_named unnamed]

theorem Settled.numberedNext (settled : Settled self) :
    Settled { self with nextObject := self.nextObject + 1 } :=
  ⟨settled.notified, fun current found =>
    Nat.lt_succ_of_lt (settled.numbered current found)⟩

/-- Every step of a flow leaves the observers informed. -/
theorem Advanced.settled {progress : Progress}
    (advanced : Advanced refusals method input self progress)
    (settled : Settled self) : Settled progress.2.1 := by
  cases advanced with
  | moves stage => exact settled
  | refused error => exact settled.purged
  | unsaved => exact settled.numberedNext
  | reuses guest start found => exact ⟨rfl, settled.numbered⟩
  | signsIn lookedUp updated =>
      apply updated.settled settled.numberedNext
      rintro _ ⟨⟩
      exact Nat.lt_succ_self self.nextObject
  | hollow drops failed updated =>
      exact updated.settled settled.purged fun _ other => nomatch other

/-- Observers are told of every step of a flow. -/
theorem Advanced.tells {progress : Progress}
    (advanced : Advanced refusals method input self progress)
    (settled : Settled self) : Tells self progress.2.2 progress.2.1 := by
  cases advanced with
  | moves stage => exact .refl self
  | refused error =>
      rcases settled.purged_tells with same | ⟨-, tells⟩
      · rw [same]
        exact .refl self
      · exact tells
  | unsaved => exact ⟨rfl, by simp [currentToken]⟩
  | reuses guest start found => exact posting_tells settled.notified
  | signsIn lookedUp updated =>
      have tells := updated.tells settled.numberedNext
      exact ⟨tells.heard, tells.posted⟩
  | @hollow next posted drops failed updated =>
      rcases settled.purged_tells with same | ⟨signedOut, tells⟩
      · rw [same] at updated ⊢
        exact updated.tells settled
      · -- nobody is left to be signed out by the second update
        have again := updated.tells settled.purged
        have gone := updated.currentUser_of_none fun _ => rfl
        have unchanged : next.currentToken =
            (self.purged refusals input).1.currentToken := by
          rw [currentToken, currentToken, gone, signedOut]
        have silent := again.posted.mpr unchanged
        have shown : next.shownToken =
            (self.purged refusals input).1.shownToken := by
          rw [shownToken, shownToken, unchanged]
        subst silent
        simp only [List.append_nil]
        exact ⟨tells.heard.trans shown.symm, unchanged ▸ tells.posted⟩

/-- Users that a flow signs in have an ID, if the accounts have. -/
theorem Advanced.named {progress : Progress}
    (advanced : Advanced refusals method input self progress)
    (settled : Settled self) (named : Named self)
    (identified : input.Identified) : Named progress.2.1 := by
  cases advanced with
  | moves stage => exact named
  | refused error =>
      rw [purged_of_named settled named]
      exact named
  | unsaved => exact named
  | reuses guest start found => exact named
  | @signsIn tokenService response next posted lookedUp updated =>
      intro _
      have current := updated.currentUser_of_new fun current found =>
        Nat.ne_of_lt (settled.numbered current found)
      subst lookedUp
      show next.currentUserID ≠ none
      rw [currentUserID, current]
      exact identified
  | hollow drops failed updated =>
      intro signedIn
      exact absurd (updated.currentUser_of_none fun _ => rfl) signedIn

/-- Every step of a flow leaves the current user in the keychain. -/
theorem Advanced.kept {progress : Progress}
    (advanced : Advanced refusals method input self progress)
    (kept : Kept self) (allowed : refusals.deleteLegacy = none) :
    Kept progress.2.1 := by
  cases advanced with
  | moves stage => exact kept
  | refused error => exact kept.purged allowed
  | unsaved => exact ⟨kept.sound, kept.saved⟩
  | reuses guest start found => exact ⟨kept.sound, kept.saved⟩
  | signsIn lookedUp updated =>
      apply updated.kept ⟨kept.sound, kept.saved⟩ allowed
      · rintro _ ⟨⟩
        exact newUser_restored _ _ _
      · intro other
        cases other
  | hollow drops failed updated =>
      exact updated.kept (kept.purged allowed) allowed
        (fun _ other => nomatch other) fun other => nomatch other

/-- A flow that calls back without an error leaves the user of its result
signed in, and that is nobody just when the error of the exchange or the
look-up has been dropped. -/
theorem Advanced.success {result : FIRAuthDataResult}
    {posted : List Notification}
    (advanced : Advanced refusals method input self
      (.callsBack (.ok result), next, posted))
    (settled : Settled self) :
    next.currentUser = result.user ∧
      (result.user = none ↔
        method.dropsError = true ∧ input.lookUpFails = true) := by
  cases advanced with
  | reuses guest start found =>
      refine ⟨found, ?_⟩
      simp [start, Input.lookUpFails]
  | signsIn lookedUp updated =>
      refine ⟨updated.currentUser_of_new ?_, ?_⟩
      · intro current found
        exact Nat.ne_of_lt (settled.numbered current found)
      · simp [lookedUp, Input.lookUpFails]
  | hollow drops failed updated =>
      exact ⟨updated.currentUser_of_none fun _ => rfl,
        by simp [drops, failed]⟩

/-- A flow that calls back with an error leaves the user and the keychain as
they were and tells nobody. -/
theorem Advanced.failure {error : FIRAuthErrorCode}
    {posted : List Notification}
    (advanced : Advanced refusals method input self
      (.callsBack (.error error), next, posted))
    (settled : Settled self) (named : Named self) :
    next.currentUser = self.currentUser ∧ next.keychain = self.keychain ∧
      posted = [] := by
  generalize outcome : (Outcome.callsBack (.error error), next, posted) =
    progress at advanced
  cases advanced with
  | refused other =>
      rw [purged_of_named settled named] at outcome
      cases outcome
      exact ⟨rfl, rfl, rfl⟩
  | unsaved =>
      cases outcome
      exact ⟨rfl, rfl, rfl⟩
  | _ => cases outcome

end Invariants

end FIRAuth

end BandBPools.Auth
