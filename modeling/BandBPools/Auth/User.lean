import BandBPools.Archive.Keyed

/-!
# Users and their archives

A `FIRUser` carries its profile and the token service that keeps its tokens.
It is archived under one key for each part.  Archives of earlier versions have
no `anonymous` part; it is then deduced from the other parts.

Dates are counted in seconds.  Of a request configuration only the API key is
kept.
-/

namespace BandBPools.Auth

open BandBPools.Archive

/-! ## The parts of a user -/

/-- `FIRSecureTokenService` -/
structure FIRSecureTokenService where
  accessToken : Option String
  accessTokenExpirationDate : Option Int
  refreshToken : Option String
deriving DecidableEq, Repr

/-- `FIRUserMetadata` -/
structure FIRUserMetadata where
  creationDate : Option Int
  lastSignInDate : Option Int
deriving DecidableEq, Repr

/-- `FIRUserInfoImpl` -/
structure FIRUserInfoImpl where
  providerID : Option String
  userID : Option String
  displayName : Option String
  photoURL : Option String
  email : Option String
  phoneNumber : Option String
deriving DecidableEq, Repr

/-- `FIRUser` -/
structure FIRUser where
  userID : Option String
  anonymous : Bool
  hasEmailPasswordCredential : Bool
  providerData : Option (Dictionary FIRUserInfoImpl)
  email : Option String
  phoneNumber : Option String
  emailVerified : Bool
  photoURL : Option String
  displayName : Option String
  metadata : Option FIRUserMetadata
  APIKey : Option String
  tokenService : FIRSecureTokenService
deriving DecidableEq

/-- `FIRUser.rawAccessToken` -/
def FIRUser.rawAccessToken (self : FIRUser) : Option String :=
  self.tokenService.accessToken

/-! ## Account information -/

/-- `FIRGetAccountInfoResponseProviderUserInfo` -/
structure FIRGetAccountInfoResponseProviderUserInfo where
  providerID : String
  displayName : Option String
  photoURL : Option String
  federatedID : Option String
  email : Option String
  phoneNumber : Option String
deriving DecidableEq, Repr

/-- `FIRGetAccountInfoResponseUser`, the one user of the response. -/
structure FIRGetAccountInfoResponseUser where
  localID : Option String
  displayName : Option String
  email : Option String
  photoURL : Option String
  creationDate : Option Int
  lastLoginDate : Option Int
  emailVerified : Bool
  providerUserInfo : List FIRGetAccountInfoResponseProviderUserInfo
  passwordHash : Option String
  phoneNumber : Option String
deriving DecidableEq, Repr

/-- `userInfoWithGetAccountInfoResponseProviderUserInfo:` -/
def FIRUserInfoImpl.ofResponse
    (providerUserInfo : FIRGetAccountInfoResponseProviderUserInfo) :
    FIRUserInfoImpl where
  providerID := some providerUserInfo.providerID
  userID := providerUserInfo.federatedID
  displayName := providerUserInfo.displayName
  photoURL := providerUserInfo.photoURL
  email := providerUserInfo.email
  phoneNumber := providerUserInfo.phoneNumber

/-- `FIRUser.initWithTokenService:`, with the request configuration that
`retrieveUserWithAuth:` sets. -/
def FIRUser.initWithTokenService (APIKey : String)
    (tokenService : FIRSecureTokenService) : FIRUser where
  userID := none
  anonymous := false
  hasEmailPasswordCredential := false
  providerData := some ∅
  email := none
  phoneNumber := none
  emailVerified := false
  photoURL := none
  displayName := none
  metadata := none
  APIKey := some APIKey
  tokenService := tokenService

/-- `FIRUser.updateWithGetAccountInfoResponse:`; a provider that is listed
again replaces its entry. -/
def FIRUser.updateWithGetAccountInfoResponse
    (response : FIRGetAccountInfoResponseUser) (self : FIRUser) : FIRUser :=
  { self with
    userID := response.localID
    email := response.email
    emailVerified := response.emailVerified
    displayName := response.displayName
    photoURL := response.photoURL
    phoneNumber := response.phoneNumber
    hasEmailPasswordCredential :=
      response.passwordHash.any fun hash => hash ≠ ""
    metadata := some ⟨response.creationDate, response.lastLoginDate⟩
    providerData := some (response.providerUserInfo.foldl
      (fun dictionary provider =>
        dictionary.insert provider.providerID (.ofResponse provider)) ∅) }

/-! ## Reading parts -/

/-- An `NSString` part. -/
def decodeString (key : String) (coder : Coder Scalar) : Option String :=
  (decodeObject key coder).bind Scalar.string?

/-- An `NSURL` part. -/
def decodeURL (key : String) (coder : Coder Scalar) : Option String :=
  (decodeObject key coder).bind Scalar.url?

/-- An `NSDate` part. -/
def decodeDate (key : String) (coder : Coder Scalar) : Option Int :=
  (decodeObject key coder).bind Scalar.date?

/-- The scalar part of a user under a key. -/
def decodeScalar (key : String) (coder : Coder Value) : Option Scalar :=
  (decodeObject key coder).bind Value.scalar?

/-- A truth value, which is false when it is missing. -/
def decodeBool (key : String) (coder : Coder Value) : Bool :=
  ((decodeScalar key coder).bind Scalar.bool?).getD false

/-- Archive a scalar part of a user. -/
def encodeScalar {Part : Type} (make : Part → Scalar)
    (part : Option Part) : Option Value :=
  part.map fun value => .scalar (make value)

/-! ## `NSSecureCoding` -/

/-- `FIRUserMetadata.encodeWithCoder:` -/
def FIRUserMetadata.encodeWithCoder (self : FIRUserMetadata) :
    Coder Scalar :=
  [("creationDate", self.creationDate.map .date),
    ("lastSignInDate", self.lastSignInDate.map .date)]

/-- `FIRUserMetadata.initWithCoder:` -/
def FIRUserMetadata.initWithCoder (aDecoder : Coder Scalar) :
    FIRUserMetadata where
  creationDate := decodeDate "creationDate" aDecoder
  lastSignInDate := decodeDate "lastSignInDate" aDecoder

/-- `FIRUserInfoImpl.encodeWithCoder:` -/
def FIRUserInfoImpl.encodeWithCoder (self : FIRUserInfoImpl) :
    Coder Scalar :=
  [("providerID", self.providerID.map .string),
    ("userID", self.userID.map .string),
    ("displayName", self.displayName.map .string),
    ("photoURL", self.photoURL.map .url),
    ("email", self.email.map .string),
    ("phoneNumber", self.phoneNumber.map .string)]

/-- `FIRUserInfoImpl.initWithCoder:` -/
def FIRUserInfoImpl.initWithCoder (aDecoder : Coder Scalar) :
    FIRUserInfoImpl where
  providerID := decodeString "providerID" aDecoder
  userID := decodeString "userID" aDecoder
  displayName := decodeString "displayName" aDecoder
  photoURL := decodeURL "photoURL" aDecoder
  email := decodeString "email" aDecoder
  phoneNumber := decodeString "phoneNumber" aDecoder

/-- `FIRSecureTokenService.encodeWithCoder:`; the API key is written for
earlier versions of the library and never read. -/
def FIRSecureTokenService.encodeWithCoder (APIKey : String)
    (self : FIRSecureTokenService) : Coder Scalar :=
  [("APIKey", some (.string APIKey)),
    ("refreshToken", self.refreshToken.map .string),
    ("accessToken", self.accessToken.map .string),
    ("accessTokenExpirationDate",
      self.accessTokenExpirationDate.map .date)]

/-- `FIRSecureTokenService.initWithCoder:` -/
def FIRSecureTokenService.initWithCoder (aDecoder : Coder Scalar) :
    Option FIRSecureTokenService :=
  (decodeString "refreshToken" aDecoder).map fun refreshToken =>
    { accessToken := decodeString "accessToken" aDecoder
      accessTokenExpirationDate :=
        decodeDate "accessTokenExpirationDate" aDecoder
      refreshToken := some refreshToken }

/-- `FIRUser.encodeWithCoder:`, with the API key of the user's `FIRAuth`. -/
def FIRUser.encodeWithCoder (APIKey : String) (self : FIRUser) :
    Coder Value :=
  [("userID", encodeScalar .string self.userID),
    ("anonymous", some (.scalar (.bool self.anonymous))),
    ("hasEmailPassword",
      some (.scalar (.bool self.hasEmailPasswordCredential))),
    ("providerData", self.providerData.map fun dictionary =>
      .dictionary (mapEntries FIRUserInfoImpl.encodeWithCoder dictionary)),
    ("email", encodeScalar .string self.email),
    ("phoneNumber", encodeScalar .string self.phoneNumber),
    ("emailVerified", some (.scalar (.bool self.emailVerified))),
    ("photoURL", encodeScalar .url self.photoURL),
    ("displayName", encodeScalar .string self.displayName),
    ("metadata", self.metadata.map fun metadata =>
      .object metadata.encodeWithCoder),
    ("APIKey", some (.scalar (.string APIKey))),
    ("tokenService",
      some (.object (self.tokenService.encodeWithCoder APIKey)))]

/-- The `_anonymous` that `initWithCoder:` sets. -/
def deducedAnonymous (hasAnonymousKey anonymous
    hasEmailPasswordCredential : Bool)
    (providerData : Option (Dictionary FIRUserInfoImpl)) : Bool :=
  if hasAnonymousKey then
    anonymous
  else
    !hasEmailPasswordCredential &&
      providerData.all fun dictionary => dictionary.entries.isEmpty

/-- `FIRUser.initWithCoder:`.  The unarchiver ignores the class that the
source asks for under `APIKey`. -/
def FIRUser.initWithCoder (aDecoder : Coder Value) : Option FIRUser :=
  let providerData :=
    ((decodeObject "providerData" aDecoder).bind Value.dictionary?).map
      (mapEntries FIRUserInfoImpl.initWithCoder)
  let tokenService :=
    ((decodeObject "tokenService" aDecoder).bind Value.object?).bind
      FIRSecureTokenService.initWithCoder
  let metadata :=
    ((decodeObject "metadata" aDecoder).bind Value.object?).map
      FIRUserMetadata.initWithCoder
  match (decodeScalar "userID" aDecoder).bind Scalar.string?,
      tokenService with
  | some userID, some tokenService =>
      some
        { userID := some userID
          anonymous := deducedAnonymous
            (containsValue "anonymous" aDecoder)
            (decodeBool "anonymous" aDecoder)
            (decodeBool "hasEmailPassword" aDecoder) providerData
          hasEmailPasswordCredential :=
            decodeBool "hasEmailPassword" aDecoder
          providerData := providerData
          email := (decodeScalar "email" aDecoder).bind Scalar.string?
          phoneNumber :=
            (decodeScalar "phoneNumber" aDecoder).bind Scalar.string?
          emailVerified := decodeBool "emailVerified" aDecoder
          photoURL := (decodeScalar "photoURL" aDecoder).bind Scalar.url?
          displayName :=
            (decodeScalar "displayName" aDecoder).bind Scalar.string?
          metadata := metadata.or (some ⟨none, none⟩)
          APIKey := (decodeScalar "APIKey" aDecoder).bind Scalar.string?
          tokenService := tokenService }
  | _, _ => none

/-! ## Round trips -/

@[simp]
theorem bind_encodeScalar {Part : Type} (make : Part → Scalar)
    (part : Option Part) :
    (encodeScalar make part).bind Value.scalar? = part.map make := by
  cases part <;> rfl

@[simp]
theorem FIRUserMetadata.initWithCoder_encodeWithCoder
    (self : FIRUserMetadata) :
    initWithCoder self.encodeWithCoder = self := by
  simp [initWithCoder, encodeWithCoder, decodeDate]

@[simp]
theorem FIRUserInfoImpl.initWithCoder_encodeWithCoder
    (self : FIRUserInfoImpl) :
    initWithCoder self.encodeWithCoder = self := by
  simp [initWithCoder, encodeWithCoder, decodeString, decodeURL]

/-- A token service without a refresh token is lost. -/
@[simp]
theorem FIRSecureTokenService.initWithCoder_encodeWithCoder
    (APIKey : String) (self : FIRSecureTokenService) :
    initWithCoder (self.encodeWithCoder APIKey) =
      self.refreshToken.map fun _ => self := by
  cases self with
  | mk accessToken accessTokenExpirationDate refreshToken =>
      cases refreshToken <;>
        simp [initWithCoder, encodeWithCoder, decodeString, decodeDate]

/-- Whether a user survives being archived. -/
def FIRUser.Archivable (self : FIRUser) : Prop :=
  self.userID ≠ none ∧ self.tokenService.refreshToken ≠ none

instance (self : FIRUser) : Decidable self.Archivable :=
  inferInstanceAs (Decidable (_ ∧ _))

/-- The user itself if it survives being archived. -/
def FIRUser.archived? (self : FIRUser) : Option FIRUser :=
  if self.Archivable then some self else none

/-- What comes back of an archived user. -/
def FIRUser.restored (APIKey : String) (self : FIRUser) : Option FIRUser :=
  if self.Archivable then
    some
      { self with
        metadata := self.metadata.or (some ⟨none, none⟩)
        APIKey := some APIKey }
  else
    none

section RoundTrip

variable (APIKey : String) (self : FIRUser)

/-- The dictionary of providers comes back entry by entry. -/
theorem FIRUser.providerData_roundTrip :
    ((decodeObject "providerData" (self.encodeWithCoder APIKey)).bind
      Value.dictionary?).map (mapEntries FIRUserInfoImpl.initWithCoder) =
      self.providerData := by
  cases found : self.providerData with
  | none => simp [encodeWithCoder, found]
  | some dictionary =>
      simp [encodeWithCoder, found, mapEntries_mapEntries
        FIRUserInfoImpl.initWithCoder_encodeWithCoder dictionary]

theorem FIRUser.metadata_roundTrip :
    ((decodeObject "metadata" (self.encodeWithCoder APIKey)).bind
      Value.object?).map FIRUserMetadata.initWithCoder = self.metadata := by
  cases found : self.metadata with
  | none => simp [encodeWithCoder, found]
  | some metadata => simp [encodeWithCoder, found]

theorem FIRUser.tokenService_roundTrip :
    ((decodeObject "tokenService" (self.encodeWithCoder APIKey)).bind
      Value.object?).bind FIRSecureTokenService.initWithCoder =
      self.tokenService.refreshToken.map fun _ => self.tokenService := by
  simp [encodeWithCoder]

/-- An archived user comes back if it has a user ID and a refresh token. -/
theorem FIRUser.initWithCoder_encodeWithCoder :
    initWithCoder (self.encodeWithCoder APIKey) = self.restored APIKey := by
  rw [initWithCoder, providerData_roundTrip, metadata_roundTrip,
    tokenService_roundTrip]
  cases self with
  | mk userID anonymous hasEmailPasswordCredential providerData email
      phoneNumber emailVerified photoURL displayName metadata savedKey
      tokenService =>
      cases userID with
      | none => simp [restored, Archivable, encodeWithCoder, decodeScalar]
      | some userID =>
          cases refreshToken : tokenService.refreshToken with
          | none => simp [restored, Archivable, refreshToken]
          | some refreshToken =>
              simp [restored, Archivable, refreshToken, encodeWithCoder,
                decodeScalar, decodeBool, deducedAnonymous]

end RoundTrip

/-- A user with metadata and the key of its `FIRAuth` comes back as it was. -/
theorem FIRUser.restored_eq_archived? {APIKey : String} {self : FIRUser}
    (metadata : self.metadata ≠ none) (key : self.APIKey = some APIKey) :
    self.restored APIKey = self.archived? := by
  rcases Option.ne_none_iff_exists'.mp metadata with ⟨metadata, found⟩
  rw [restored, archived?]
  split
  · rw [found, ← key, Option.some_or, ← found]
  · rfl

/-- A user that has been read from an archive survives another one. -/
theorem FIRUser.archivable_of_initWithCoder {archive : Coder Value}
    {user : FIRUser} (read : initWithCoder archive = some user) :
    user.Archivable := by
  rw [initWithCoder] at read
  split at read
  · next userID tokenService hasUserID hasTokenService =>
      obtain ⟨archived, -, tokens⟩ := Option.bind_eq_some_iff.mp
        hasTokenService
      obtain ⟨refreshToken, -, rfl⟩ := Option.map_eq_some_iff.mp tokens
      cases read
      simp [Archivable]
  · cases read

/-- Whatever archive a user was read from, of this version or of an earlier
one, archiving the user again and reading that archive gives the same user,
with the API key of the app. -/
theorem FIRUser.encode_stable {APIKey : String} {archive : Coder Value}
    {user : FIRUser} (read : initWithCoder archive = some user) :
    initWithCoder (user.encodeWithCoder APIKey) =
      some { user with APIKey := some APIKey } := by
  have archivable := archivable_of_initWithCoder read
  have metadata : user.metadata ≠ none := by
    rw [initWithCoder] at read
    split at read
    · cases read
      simp
    · cases read
  rcases Option.ne_none_iff_exists'.mp metadata with ⟨metadata, found⟩
  rw [initWithCoder_encodeWithCoder, restored, if_pos archivable, found,
    Option.some_or, ← found]

/-- An archive that was written before there was an `"anonymous"` key. -/
theorem FIRUser.encode_stable_old :
    ∃ archive user,
      containsValue "anonymous" archive = false ∧
        initWithCoder archive = some user ∧
        initWithCoder (user.encodeWithCoder "key") =
          some { user with APIKey := some "key" } := by
  have read : initWithCoder
      [("userID", some (.scalar (.string "guest"))),
        ("tokenService",
          some (.object [("refreshToken", some (.string "refresh"))]))] =
        some _ := rfl
  exact ⟨_, _, rfl, read, encode_stable read⟩

end BandBPools.Auth
