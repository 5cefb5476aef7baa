import BandBPools.Auth.Keychain
import BandBPools.Auth.User

/-!
# The current user and its copy in the keychain

`FIRAuth` keeps the current user in memory and an archive of it in the
keychain.  Every change of the user is written to the keychain first, and the
observers of the session are told when the ID token has changed.

User objects are compared by identity, so each has a number.
-/

namespace BandBPools.Auth

open BandBPools.Archive

/-! ## The session -/

/-- A `FIRUser` object. -/
structure UserObject where
  object : Nat
  user : FIRUser
deriving DecidableEq

/-- What is stored in the keychain: a user archived under a key. -/
abbrev ArchivedUser := Coder (Coder Value)

/-- The codes of the errors that the embedded code makes or looks for. -/
inductive FIRAuthErrorCode where
  | userDisabled
  | wrongPassword
  | userNotFound
  | accountExistsWithDifferentCredential
  | invalidUserToken
  | userTokenExpired
  | weakPassword
  | missingEmail
  | keychainError
  | internalError
  | other (code : Int)
deriving DecidableEq, Repr

/-- The number of an error code. -/
def FIRAuthErrorCode.code : FIRAuthErrorCode → Int
  | .userDisabled => 17005
  | .wrongPassword => 17009
  | .userNotFound => 17011
  | .accountExistsWithDifferentCredential => 17012
  | .invalidUserToken => 17017
  | .userTokenExpired => 17021
  | .weakPassword => 17026
  | .missingEmail => 17034
  | .keychainError => 17995
  | .internalError => 17999
  | .other code => code

/-- `FIRAuthStateDidChangeInternalNotification`, which has a token only when
it is not empty. -/
structure Notification where
  token : Option String
  uid : Option String
deriving DecidableEq, Repr

/-- `FIRAuth`, with the number of the next user object. -/
structure FIRAuth where
  firebaseAppName : String
  APIKey : String
  currentUser : Option UserObject
  keychain : FIRAuthKeychain ArchivedUser
  lastNotifiedUserToken : Option String
  nextObject : Nat

namespace FIRAuth

/-- The key that `kUserKey` gives for an app, which is never empty. -/
def kUserKey (appName : String) : Key where
  name := appName ++ "_firebase_user"
  nonempty := by simp

/-- The key of the app's user. -/
def userKey (self : FIRAuth) : Key :=
  kUserKey self.firebaseAppName

/-- `_currentUser.rawAccessToken` -/
def currentToken (self : FIRAuth) : Option String :=
  self.currentUser.bind fun current => current.user.rawAccessToken

/-- `_currentUser.uid` -/
def currentUserID (self : FIRAuth) : Option String :=
  self.currentUser.bind fun current => current.user.userID

/-- `possiblyPostAuthStateChangeNotification`.  Tokens are never refreshed
automatically, because nothing in the app asks for one. -/
def possiblyPostAuthStateChangeNotification (self : FIRAuth) :
    FIRAuth × List Notification :=
  if self.lastNotifiedUserToken = self.currentToken then
    (self, [])
  else
    ({ self with lastNotifiedUserToken := self.currentToken },
      [⟨self.currentToken.filter fun token => token ≠ "",
        self.currentUserID⟩])

/-- `saveUser:error:` -/
def saveUser (refusals : Refusals) (user : Option UserObject)
    (self : FIRAuth) : Except KeychainError Unit × FIRAuth :=
  let saved := match user with
    | none => self.keychain.removeDataForKey refusals self.userKey
    | some saved =>
        self.keychain.setData refusals
          [(self.userKey.name,
            some (saved.user.encodeWithCoder self.APIKey))]
          self.userKey
  (saved.1, { self with keychain := saved.2 })

/-- The user in what `getUser:error:` has read. -/
def unarchive (userKey : String) (data : ArchivedUser) : Option FIRUser :=
  (decodeObject userKey data).bind FIRUser.initWithCoder

/-- `updateCurrentUser:byForce:savingToDisk:error:` -/
def updateCurrentUser (refusals : Refusals) (user : Option UserObject)
    (force saveToDisk : Bool) (self : FIRAuth) :
    Except KeychainError Unit × FIRAuth × List Notification :=
  if user.map UserObject.object =
      self.currentUser.map UserObject.object then
    (.ok (), self.possiblyPostAuthStateChangeNotification)
  else
    let saved := if saveToDisk then self.saveUser refusals user
      else (.ok (), self)
    match saved with
    | (.ok (), self) =>
        (.ok (), possiblyPostAuthStateChangeNotification
          { self with currentUser := user })
    | (.error error, self) =>
        if force then
          (.error error, possiblyPostAuthStateChangeNotification
            { self with currentUser := user })
        else
          (.error error, self, [])

/-- `signOut:` -/
def signOut (refusals : Refusals) (self : FIRAuth) :
    Except KeychainError Unit × FIRAuth × List Notification :=
  if self.currentUser.isNone then
    (.ok (), self, [])
  else
    self.updateCurrentUser refusals none false true

/-- `signOutByForceWithUserID:error:` -/
def signOutByForceWithUserID (refusals : Refusals)
    (userID : Option String) (self : FIRAuth) :
    Except KeychainError Unit × FIRAuth × List Notification :=
  if self.currentUserID ≠ userID then
    (.ok (), self, [])
  else
    self.updateCurrentUser refusals none true true

/-- `updateKeychainWithUser:error:` -/
def updateKeychainWithUser (refusals : Refusals) (user : UserObject)
    (self : FIRAuth) :
    Except KeychainError Unit × FIRAuth × List Notification :=
  if some user.object ≠ self.currentUser.map UserObject.object then
    (.ok (), self, [])
  else
    match self.saveUser refusals (some user) with
    | (.ok (), self) =>
        (.ok (), self.possiblyPostAuthStateChangeNotification)
    | (.error error, self) => (.error error, self, [])

/-- `initWithAPIKey:appName:` on the work queue of a new process; a keychain
that cannot be read leaves nobody signed in. -/
def initWithAPIKey (refusals : Refusals) (APIKey appName : String)
    (keychain : FIRAuthKeychain ArchivedUser) :
    FIRAuth × List Notification :=
  let self : FIRAuth :=
    { firebaseAppName := appName
      APIKey := APIKey
      currentUser := none
      keychain := keychain
      lastNotifiedUserToken := none
      nextObject := 0 }
  match keychain.dataForKey refusals self.userKey with
  | (.error _, keychain) => ({ self with keychain := keychain }, [])
  | (.ok data, keychain) =>
      let user := (data.bind (unarchive self.userKey.name)).map fun user =>
        { object := 0, user := user : UserObject }
      let updated := updateCurrentUser refusals user false false
        { self with keychain := keychain, nextObject := 1 }
      ({ updated.2.1 with
          lastNotifiedUserToken := user.bind fun saved =>
            saved.user.rawAccessToken },
        updated.2.2)

/-! ## What is saved -/

/-- The user that the keychain would give back to the next process. -/
def savedUser (self : FIRAuth) : Option FIRUser :=
  (self.keychain.stored? self.userKey.name).bind
    (unarchive self.userKey.name)

/-- The current user, if it survives being archived. -/
def lastingUser (self : FIRAuth) : Option FIRUser :=
  self.currentUser.bind fun current => current.user.archived?

/-- The storage of the session is sound for its only key. -/
def SoundStorage (self : FIRAuth) : Prop :=
  self.keychain.Sound {self.userKey.name}

/-- The keychain holds the current user. -/
structure Kept (session : FIRAuth) : Prop where
  sound : session.SoundStorage
  saved : session.savedUser = session.lastingUser

/-- The session has told its observers of its ID token, and its numbers are
not given out again. -/
structure Settled (session : FIRAuth) : Prop where
  notified : session.lastNotifiedUserToken = session.currentToken
  numbered : ∀ current, session.currentUser = some current →
    current.object < session.nextObject

/-- The token of the session as notifications show it. -/
def shownToken (self : FIRAuth) : Option String :=
  self.currentToken.filter fun token => token ≠ ""

/-- The token that an observer knows after some notifications. -/
def heard (known : Option String) (posted : List Notification) :
    Option String :=
  posted.foldl (fun _ notification => notification.token) known

/-- Notifications are posted just when the token changes, and an observer who
knew the token before knows it afterwards. -/
structure Tells (before : FIRAuth) (posted : List Notification)
    (after : FIRAuth) : Prop where
  heard : heard before.shownToken posted = after.shownToken
  posted : posted = [] ↔ after.currentToken = before.currentToken

@[simp]
theorem unarchive_archived (userKey APIKey : String) (user : FIRUser) :
    unarchive userKey [(userKey, some (user.encodeWithCoder APIKey))] =
      user.restored APIKey := by
  simp [unarchive, FIRUser.initWithCoder_encodeWithCoder]

/-! ## Notifications -/

/-- The session once its observers know its token. -/
def told (self : FIRAuth) : FIRAuth :=
  { self with lastNotifiedUserToken := self.currentToken }

/-- Posting records the token and changes nothing else. -/
theorem posting_fst (self : FIRAuth) :
    self.possiblyPostAuthStateChangeNotification.1 = self.told := by
  rw [possiblyPostAuthStateChangeNotification]
  split
  · next notified => rw [told, ← notified]
  · rfl

theorem Tells.refl (self : FIRAuth) : Tells self [] self :=
  ⟨rfl, by simp⟩

/-- Posting tells of every change since the observers were last told. -/
theorem posting_tells {before self : FIRAuth}
    (notified : self.lastNotifiedUserToken = before.currentToken) :
    Tells before self.possiblyPostAuthStateChangeNotification.2
      self.told := by
  rw [possiblyPostAuthStateChangeNotification]
  split
  · next same =>
      have equal : self.currentToken = before.currentToken :=
        same.symm.trans notified
      exact ⟨congrArg _ equal.symm, fun _ => equal, fun _ => rfl⟩
  · next changed =>
      refine ⟨rfl, fun none => (List.cons_ne_nil _ _ none).elim, ?_⟩
      intro equal
      exact absurd (notified.trans equal.symm) changed

/-- Nothing is posted about a token that the observers know. -/
theorem posting_eq_nil {self : FIRAuth}
    (notified : self.lastNotifiedUserToken = self.currentToken) :
    self.possiblyPostAuthStateChangeNotification.2 = [] :=
  (posting_tells notified).posted.mpr rfl

/-! ## Saving -/

section Saving

variable {self next : FIRAuth} {refusals : Refusals}
variable {user : Option UserObject}

/-- Saving a user touches nothing but the keychain. -/
theorem saveUser_frame {result : Except KeychainError Unit}
    (saved : self.saveUser refusals user = (result, next)) :
    next = { self with keychain := next.keychain } := by
  obtain ⟨-, rfl⟩ := Prod.mk.inj saved
  rfl

/-- A user that cannot be saved leaves the session as it was. -/
theorem saveUser_error {error : KeychainError}
    (saved : self.saveUser refusals user = (.error error, next)) :
    next = self := by
  cases user with
  | none =>
      obtain ⟨failed, rfl⟩ := Prod.mk.inj saved
      have same := FIRAuthKeychain.removeDataForKey_error
        (Prod.ext failed rfl)
      exact congrArg (fun keychain => { self with keychain := keychain }) same
  | some user =>
      obtain ⟨failed, rfl⟩ := Prod.mk.inj saved
      have same := FIRAuthKeychain.setData_error (Prod.ext failed rfl)
      exact congrArg (fun keychain => { self with keychain := keychain }) same

/-- A user that is saved is what the keychain gives back. -/
theorem saveUser_ok (sound : self.SoundStorage)
    (allowed : refusals.deleteLegacy = none)
    (saved : self.saveUser refusals user = (.ok (), next)) :
    next.SoundStorage ∧
      next.savedUser = user.bind fun saved =>
        saved.user.restored self.APIKey := by
  have member := Set.mem_singleton self.userKey.name
  cases user with
  | none =>
      obtain ⟨succeeded, rfl⟩ := Prod.mk.inj saved
      obtain ⟨later, erased⟩ := FIRAuthKeychain.removeDataForKey_ok
        (FIRAuthKeychain.unprefixed_singleton _) sound member allowed
        (Prod.ext succeeded rfl)
      have nothing := erased member
      rw [Function.update_self] at nothing
      refine ⟨later, ?_⟩
      show Option.bind (FIRAuthKeychain.stored? _ self.userKey.name) _ = _
      rw [nothing]
      rfl
  | some user =>
      obtain ⟨succeeded, rfl⟩ := Prod.mk.inj saved
      obtain ⟨later, written⟩ := FIRAuthKeychain.setData_ok
        (FIRAuthKeychain.unprefixed_singleton _) sound member
        (Prod.ext succeeded rfl)
      have archive := written member
      rw [Function.update_self] at archive
      refine ⟨later, ?_⟩
      show Option.bind (FIRAuthKeychain.stored? _ self.userKey.name) _ = _
      rw [archive]
      exact unarchive_archived self.userKey.name self.APIKey user.user

end Saving

/-! ## Changing the user -/

/-- What changing the user in memory and on disk can do. -/
inductive Updated (refusals : Refusals) (user : Option UserObject)
    (force : Bool) (self : FIRAuth) :
    Except KeychainError Unit → FIRAuth → List Notification → Prop where
  | same
      (same : user.map UserObject.object =
        self.currentUser.map UserObject.object) :
      Updated refusals user force self (.ok ()) self.told
        self.possiblyPostAuthStateChangeNotification.2
  | stored {saved : FIRAuth}
      (changed : user.map UserObject.object ≠
        self.currentUser.map UserObject.object)
      (stored : self.saveUser refusals user = (.ok (), saved)) :
      Updated refusals user force self (.ok ())
        { saved with currentUser := user }.told
        (possiblyPostAuthStateChangeNotification
          { saved with currentUser := user }).2
  | forced (error : KeychainError) (byForce : force = true) :
      Updated refusals user force self (.error error)
        { self with currentUser := user }.told
        (possiblyPostAuthStateChangeNotification
          { self with currentUser := user }).2
  | failed (error : KeychainError) (gentle : force = false) :
      Updated refusals user force self (.error error) self []

theorem updateCurrentUser_updated (refusals : Refusals)
    (user : Option UserObject) (force : Bool) (self : FIRAuth) :
    Updated refusals user force self
      (self.updateCurrentUser refusals user force true).1
      (self.updateCurrentUser refusals user force true).2.1
      (self.updateCurrentUser refusals user force true).2.2 := by
  by_cases same : user.map UserObject.object =
      self.currentUser.map UserObject.object
  · rw [updateCurrentUser, if_pos same, posting_fst]
    exact .same same
  · cases saved : self.saveUser refusals user with
    | mk outcome later =>
        simp only [updateCurrentUser, if_neg same, if_true, saved]
        cases outcome with
        | ok done =>
            rw [posting_fst]
            exact .stored same saved
        | error error =>
            obtain rfl := saveUser_error saved
            cases force with
            | true =>
                simp only [if_true, posting_fst]
                exact .forced error rfl
            | false => exact .failed error rfl

namespace Updated

variable {self next : FIRAuth} {refusals : Refusals}
variable {user : Option UserObject} {force : Bool}
variable {result : Except KeychainError Unit} {posted : List Notification}

theorem settled
    (updated : Updated refusals user force self result next posted)
    (settled : Settled self)
    (numbered : ∀ given, user = some given →
      given.object < self.nextObject) :
    Settled next := by
  cases updated with
  | same same => exact ⟨rfl, settled.numbered⟩
  | stored changed stored =>
      rw [saveUser_frame stored]
      exact ⟨rfl, numbered⟩
  | forced error byForce => exact ⟨rfl, numbered⟩
  | failed error gentle => exact settled

/-- The keychain holds the user through every change of it; a forced sign-out
has to be one of a user that the keychain could not hold. -/
theorem kept
    (updated : Updated refusals user force self result next posted)
    (kept : Kept self) (allowed : refusals.deleteLegacy = none)
    (lasts : ∀ given, user = some given →
      given.user.restored self.APIKey = given.user.archived?)
    (lost : force = true → user = none ∧ self.lastingUser = none) :
    Kept next := by
  cases updated with
  | same same => exact ⟨kept.sound, kept.saved⟩
  | stored changed stored =>
      obtain ⟨sound, holds⟩ := saveUser_ok kept.sound allowed stored
      refine ⟨sound, holds.trans ?_⟩
      cases user with
      | none => rfl
      | some given => exact lasts given rfl
  | forced error byForce =>
      obtain ⟨rfl, gone⟩ := lost byForce
      exact ⟨kept.sound, kept.saved.trans gone⟩
  | failed error gentle => exact kept

/-- Observers are told of every change of the user. -/
theorem tells
    (updated : Updated refusals user force self result next posted)
    (settled : Settled self) :
    Tells self posted next := by
  cases updated with
  | same same => exact posting_tells settled.notified
  | stored changed stored =>
      apply posting_tells
      rw [saveUser_frame stored]
      exact settled.notified
  | forced error byForce => exact posting_tells settled.notified
  | failed error gentle => exact .refl self

theorem currentUser_of_none
    (updated : Updated refusals none force self result next posted)
    (succeeds : force = false → result = .ok ()) :
    next.currentUser = none := by
  cases updated with
  | same same => exact Option.map_eq_none_iff.mp same.symm
  | stored changed stored => rfl
  | forced error byForce => rfl
  | failed error gentle => cases succeeds gentle

/-- A user object that is not the current one becomes it. -/
theorem currentUser_of_new {user : UserObject}
    (updated : Updated refusals (some user) false self (.ok ()) next posted)
    (new : ∀ current, self.currentUser = some current →
      current.object ≠ user.object) :
    next.currentUser = some user := by
  cases updated with
  | same same =>
      obtain ⟨current, found, equal⟩ :=
        Option.map_eq_some_iff.mp same.symm
      exact absurd equal (new current found)
  | stored changed stored => rfl

end Updated

/-! ## Signing out -/

section SigningOut

variable {self : FIRAuth} {refusals : Refusals}

/-- Without a user there is nothing to sign out. -/
theorem signOut_of_none (signedOut : self.currentUser = none) :
    self.signOut refusals = (.ok (), self, []) := by
  rw [signOut, signedOut]
  rfl

theorem signOut_of_some (signedIn : self.currentUser ≠ none) :
    self.signOut refusals =
      self.updateCurrentUser refusals none false true := by
  rw [signOut, if_neg]
  simpa using signedIn

theorem Settled.signOut (settled : Settled self) :
    Settled (self.signOut refusals).2.1 := by
  by_cases signedOut : self.currentUser = none
  · rw [signOut_of_none signedOut]
    exact settled
  · rw [signOut_of_some signedOut]
    exact (updateCurrentUser_updated refusals none false self).settled
      settled fun _ other => nomatch other

theorem Settled.signOut_tells (settled : Settled self) :
    Tells self (self.signOut refusals).2.2 (self.signOut refusals).2.1 := by
  by_cases signedOut : self.currentUser = none
  · rw [signOut_of_none signedOut]
    exact .refl self
  · rw [signOut_of_some signedOut]
    exact (updateCurrentUser_updated refusals none false self).tells settled

theorem Kept.signOut (kept : Kept self)
    (allowed : refusals.deleteLegacy = none) :
    Kept (self.signOut refusals).2.1 := by
  by_cases signedOut : self.currentUser = none
  · rw [signOut_of_none signedOut]
    exact kept
  · rw [signOut_of_some signedOut]
    exact (updateCurrentUser_updated refusals none false self).kept kept
      allowed (fun _ other => nomatch other) fun other => nomatch other

/-- A sign-out that fails changes nothing, and one that succeeds leaves
nobody signed in. -/
theorem signOut_cases (refusals : Refusals) (self : FIRAuth) :
    (∃ error, self.signOut refusals = (.error error, self, [])) ∨
      (self.signOut refusals).1 = .ok () ∧
        (self.signOut refusals).2.1.currentUser = none := by
  by_cases signedOut : self.currentUser = none
  · rw [signOut_of_none signedOut]
    exact .inr ⟨rfl, signedOut⟩
  · rw [signOut_of_some signedOut]
    have updated := updateCurrentUser_updated refusals none false self
    generalize self.updateCurrentUser refusals none false true = outcome
      at updated ⊢
    rcases outcome with ⟨result, next, posted⟩
    cases updated with
    | same same =>
        exact absurd (Option.map_eq_none_iff.mp same.symm) signedOut
    | stored changed stored => exact .inr ⟨rfl, rfl⟩
    | forced error byForce => cases byForce
    | failed error gentle => exact .inl ⟨error, rfl⟩

/-- Nobody can be made the current user unless the keychain refuses. -/
theorem updateCurrentUser_none_of_allowed
    (allowed : refusals.delete = none) (force : Bool) (self : FIRAuth) :
    (self.updateCurrentUser refusals none force true).1 = .ok () := by
  rw [updateCurrentUser]
  split
  · rfl
  · cases saved : self.saveUser refusals none with
    | mk outcome later =>
        have succeeds : outcome = .ok () :=
          (congrArg Prod.fst saved).symm.trans
            (FIRAuthKeychain.removeDataForKey_of_allowed allowed
              self.keychain self.userKey)
        simp [succeeds]

/-- A forced sign-out for a user without an ID finds nobody to sign out, or
a user that no keychain holds. -/
theorem lastingUser_of_noUserID (unnamed : self.currentUserID = none) :
    self.lastingUser = none := by
  cases current : self.currentUser with
  | none => simp [lastingUser, current]
  | some user =>
      have noID : user.user.userID = none := by
        simpa [currentUserID, current] using unnamed
      simp [lastingUser, current, FIRUser.archived?, FIRUser.Archivable,
        noID]

theorem signOutByForce_of_named (named : self.currentUserID ≠ none) :
    self.signOutByForceWithUserID refusals none = (.ok (), self, []) := by
  rw [signOutByForceWithUserID, if_pos named]

theorem signOutByForce_of_unnamed (unnamed : self.currentUserID = none) :
    self.signOutByForceWithUserID refusals none =
      self.updateCurrentUser refusals none true true := by
  rw [signOutByForceWithUserID, if_neg (not_not_intro unnamed)]

theorem Settled.signOutByForce (settled : Settled self) :
    Settled (self.signOutByForceWithUserID refusals none).2.1 := by
  by_cases unnamed : self.currentUserID = none
  · rw [signOutByForce_of_unnamed unnamed]
    exact (updateCurrentUser_updated refusals none true self).settled
      settled fun _ other => nomatch other
  · rw [signOutByForce_of_named unnamed]
    exact settled

theorem Kept.signOutByForce (kept : Kept self)
    (allowed : refusals.deleteLegacy = none) :
    Kept (self.signOutByForceWithUserID refusals none).2.1 := by
  by_cases unnamed : self.currentUserID = none
  · rw [signOutByForce_of_unnamed unnamed]
    exact (updateCurrentUser_updated refusals none true self).kept kept
      allowed (fun _ other => nomatch other)
      fun _ => ⟨rfl, lastingUser_of_noUserID unnamed⟩
  · rw [signOutByForce_of_named unnamed]
    exact kept

end SigningOut

/-- A user object that the session does not hold is not saved. -/
theorem updateKeychainWithUser_of_new {self : FIRAuth}
    (settled : Settled self) (refusals : Refusals) (user : UserObject)
    (new : user.object = self.nextObject) :
    self.updateKeychainWithUser refusals user = (.ok (), self, []) := by
  rw [updateKeychainWithUser, if_pos]
  intro same
  obtain ⟨current, found, equal⟩ := Option.map_eq_some_iff.mp same.symm
  have below := settled.numbered current found
  omega

/-! ## Starting -/

section Starting

variable {refusals : Refusals} {APIKey appName : String}
variable {keychain : FIRAuthKeychain ArchivedUser}

/-- The session of a new process before the keychain is read. -/
def unread (APIKey appName : String)
    (keychain : FIRAuthKeychain ArchivedUser) : FIRAuth where
  firebaseAppName := appName
  APIKey := APIKey
  currentUser := none
  keychain := keychain
  lastNotifiedUserToken := none
  nextObject := 0

/-- A keychain that has been read gives the session the saved user. -/
theorem initWithAPIKey_of_read {data : Option ArchivedUser}
    {later : FIRAuthKeychain ArchivedUser}
    (read : keychain.dataForKey refusals (kUserKey appName) =
      (.ok data, later)) :
    (initWithAPIKey refusals APIKey appName keychain).1 =
      { unread APIKey appName later with
        currentUser := (data.bind
          (unarchive (kUserKey appName).name)).map fun user =>
            ⟨0, user⟩
        lastNotifiedUserToken := (data.bind
          (unarchive (kUserKey appName).name)).bind
            FIRUser.rawAccessToken
        nextObject := 1 } := by
  simp only [initWithAPIKey, userKey, read]
  cases data.bind (unarchive (kUserKey appName).name) with
  | none => simp [updateCurrentUser, posting_fst, told, unread]
  | some user => simp [updateCurrentUser, posting_fst, told, unread]

/-- A keychain that cannot be read leaves nobody signed in. -/
theorem initWithAPIKey_of_unreadable {error : KeychainError}
    {later : FIRAuthKeychain ArchivedUser}
    (read : keychain.dataForKey refusals (kUserKey appName) =
      (.error error, later)) :
    (initWithAPIKey refusals APIKey appName keychain).1 =
      unread APIKey appName later := by
  simp only [initWithAPIKey, userKey, read]
  rfl

theorem initWithAPIKey_settled :
    Settled (initWithAPIKey refusals APIKey appName keychain).1 := by
  cases read : keychain.dataForKey refusals (kUserKey appName) with
  | mk result later =>
      cases result with
      | error error =>
          rw [initWithAPIKey_of_unreadable read]
          exact ⟨rfl, fun _ other => nomatch other⟩
      | ok data =>
          rw [initWithAPIKey_of_read read]
          constructor
          · show _ = (Option.map _ (data.bind _)).bind _
            cases data.bind (unarchive (kUserKey appName).name) <;>
              rfl
          · intro current found
            obtain ⟨user, -, rfl⟩ := Option.map_eq_some_iff.mp found
            exact Nat.zero_lt_one

/-- The observers of a new process are told of the token that it finds. -/
theorem initWithAPIKey_heard :
    heard none (initWithAPIKey refusals APIKey appName keychain).2 =
      (initWithAPIKey refusals APIKey appName keychain).1.shownToken := by
  cases read : keychain.dataForKey refusals (kUserKey appName) with
  | mk result later =>
      cases result with
      | error error =>
          rw [initWithAPIKey_of_unreadable read]
          simp only [initWithAPIKey, userKey, read]
          rfl
      | ok data =>
          rw [initWithAPIKey_of_read read]
          simp only [initWithAPIKey, userKey, read]
          cases data.bind (unarchive (kUserKey appName).name) with
          | none => rfl
          | some user =>
              exact
                (@posting_tells (unread APIKey appName later) _ rfl).heard

/-- A process that can read its keychain has the saved user signed in, and
the keychain still holds that user. -/
theorem initWithAPIKey_kept
    (sound : keychain.Sound {(kUserKey appName).name})
    (allowed : refusals.deleteLegacy = none)
    {data : Option ArchivedUser} {later : FIRAuthKeychain ArchivedUser}
    (read : keychain.dataForKey refusals (kUserKey appName) =
      (.ok data, later)) :
    Kept (initWithAPIKey refusals APIKey appName keychain).1 ∧
      (initWithAPIKey refusals APIKey appName keychain).1.currentUser.map
          UserObject.user =
        (keychain.stored? (kUserKey appName).name).bind
          (unarchive (kUserKey appName).name) := by
  have unprefixed :=
    FIRAuthKeychain.unprefixed_singleton (kUserKey appName).name
  have member := Set.mem_singleton (kUserKey appName).name
  obtain ⟨laterSound, same, finds⟩ := FIRAuthKeychain.dataForKey_spec
    unprefixed sound member allowed read
  have found := finds data rfl
  rw [initWithAPIKey_of_read read]
  refine ⟨⟨laterSound, ?_⟩, ?_⟩
  · show (later.stored? (kUserKey appName).name).bind
        (unarchive (kUserKey appName).name) =
      (Option.map _ (data.bind _)).bind _
    rw [same member, ← found]
    cases archived : data.bind
        (unarchive (kUserKey appName).name) with
    | none => rfl
    | some user =>
        obtain ⟨archive, -, unarchived⟩ := Option.bind_eq_some_iff.mp archived
        obtain ⟨coder, -, read⟩ := Option.bind_eq_some_iff.mp unarchived
        have archivable := FIRUser.archivable_of_initWithCoder read
        exact (if_pos archivable).symm
  · show Option.map _ (Option.map _ (data.bind _)) = _
    rw [← found]
    cases data.bind (unarchive (kUserKey appName).name) <;> rfl

end Starting

end FIRAuth

end BandBPools.Auth
