import BandBPools.App.Screens
import BandBPools.Bytes.PercentEscapes
import BandBPools.Facebook.TokenCache
import Mathlib.Data.Finset.Basic

/-!
# The login managers of Facebook's SDK

Every login button has a login manager, and so has every recovery of an error.
The managers share an application delegate, the current token with its cache
and one expected challenge in the keychain.  A login leaves the app for
Facebook's own app, for the browser or for an authentication session and comes
back through a URL that any app may open.

A manager calls back at most one handler.  The handlers are numbered in the
order in which the managers take them.
-/

namespace BandBPools.Facebook

open BandBPools.App (AccessToken HomeId NSError)
open BandBPools.Bytes
open BandBPools.Keychain

/-! ## Tokens and results -/

/-- `FBSDKAccessToken` -/
structure FBSDKAccessToken extends AccessToken where
  permissions : Finset Text
  declinedPermissions : Finset Text
  userID : Option String
deriving DecidableEq

/-- `FBSDKLoginManagerLoginResult`; a set that is nil is empty. -/
structure FBSDKLoginManagerLoginResult where
  token : Option FBSDKAccessToken
  isCancelled : Bool
  grantedPermissions : Finset Text
  declinedPermissions : Finset Text
  noToken : isCancelled = true → token = none
deriving DecidableEq

/-- What the app sees of a result. -/
def FBSDKLoginManagerLoginResult.shown
    (result : FBSDKLoginManagerLoginResult) :
    App.LoginManagerLoginResult where
  token := result.token.map FBSDKAccessToken.toAccessToken
  isCancelled := result.isCancelled
  noToken := by
    intro cancelled
    rw [result.noToken cancelled]
    rfl

/-- The errors of a login. -/
inductive LoginError where
  | unknown
  | badChallengeString
  | userMismatch (underlying : Option NSError)
  | appURL
  | returned (developerMessage : String) (code : Option Int)
  | graph (error : NSError)
  | session (error : NSError)
deriving DecidableEq, Repr

/-- The arguments of a handler. -/
abbrev Outcome := Except LoginError FBSDKLoginManagerLoginResult

/-- The token that comes with an outcome. -/
def Outcome.token? : Outcome → Option FBSDKAccessToken
  | .error _ => none
  | .ok result => result.token

/-- Why nothing was opened: sessions report a cancellation as an error. -/
inductive OpenError where
  | cancelled
  | other (error : LoginError)
deriving DecidableEq, Repr

/-! ## Login URLs -/

/-- The parameters of a login URL.  The user ID of the signed request and the
challenge of the state have been read, and the dates have been compared with
the present. -/
structure URLParameters where
  accessToken : Option String
  grantedScopes : Option Text
  deniedScopes : Option Text
  signedRequest : Option (Option String)
  userID : Option String
  isExpired : Bool
  challenge : Option Text
  error : Option String
  errorMessage : Option String
  errorCode : Option Int
deriving DecidableEq, Repr

/-- A URL that is opened with the app. -/
structure OpenedURL where
  scheme : String
  host : String
  parameters : URLParameters
deriving DecidableEq, Repr

/-- `FBSDKUtility.URLEncode:`, which keeps letters, digits and `-._~`. -/
def urlEncode (value : Text) : Text :=
  addPercentEscapes
    (fun byte =>
      (0x30 ≤ byte && byte ≤ 0x39) || (0x41 ≤ byte && byte ≤ 0x5A) ||
        (0x61 ≤ byte && byte ≤ 0x7A) || byte == 0x2D || byte == 0x2E ||
        byte == 0x5F || byte == 0x7E)
    value

/-- `FBSDKUtility.URLDecode:` -/
def urlDecode (value : Text) : Option Text :=
  replacingPercentEscapes (replace plus space value)

theorem urlDecode_urlEncode (value : Text) :
    urlDecode (urlEncode value) = some value := by
  apply replacingPercentEscapes_of_plus_as_space
  · decide
  · decide

/-- `FBSDKLoginCompletionParameters` -/
structure FBSDKLoginCompletionParameters where
  accessTokenString : Option String
  permissions : Finset Text
  declinedPermissions : Finset Text
  userID : Option String
  isExpired : Bool
  challenge : Option Text
  error : Option LoginError
deriving DecidableEq

/-- The permissions of a comma-separated list. -/
def scopes (list : Option Text) : Finset Text :=
  match list with
  | none | some [] => ∅
  | some list => (list.splitOn 0x2C).toFinset

/-- `NSError.fbErrorFromReturnURLParameters:` -/
def URLParameters.returnError? (parameters : URLParameters) :
    Option LoginError :=
  parameters.errorMessage.map fun message =>
    .returned (parameters.error.getD message) parameters.errorCode

/-- The user ID: `queryParamsFromLoginURL:` prefers the one that is signed,
and an empty one is replaced by it. -/
def URLParameters.user? (parameters : URLParameters) : Option String :=
  match parameters.signedRequest with
  | some (some signed) => some signed
  | some none =>
      parameters.userID.filter fun userID => userID ≠ ""
  | none => parameters.userID

/-- `FBSDKLoginURLCompleter` -/
structure FBSDKLoginURLCompleter where
  parameters : FBSDKLoginCompletionParameters
  performExplicitFallback : Bool

/-- `initWithURLParameters:appID:` -/
def FBSDKLoginURLCompleter.initWithURLParameters
    (parameters : URLParameters) : FBSDKLoginURLCompleter :=
  match parameters.accessToken.filter fun token => token ≠ "" with
  | some token =>
      { parameters :=
          { accessTokenString := some token
            permissions := scopes parameters.grantedScopes
            declinedPermissions := scopes parameters.deniedScopes
            userID := parameters.user?
            isExpired := parameters.isExpired
            challenge := parameters.challenge.bind urlDecode
            error := none }
        performExplicitFallback := false }
  | none =>
      { parameters :=
          { accessTokenString := none
            permissions := ∅
            declinedPermissions := ∅
            userID := none
            isExpired := false
            challenge := none
            error := parameters.returnError? }
        performExplicitFallback :=
          parameters.error = some "service_disabled_use_browser" ∨
            parameters.error = some "service_disabled" }

/-! ## The managers and their surroundings -/

/-- The manager of a login button, the one that is made for a URL the app is
launched with, or that of an error's recovery. -/
inductive ManagerId where
  | launched
  | button (self : HomeId)
  | recovery (number : Nat)
deriving DecidableEq, Repr

abbrev HandlerId := Nat
abbrev CallbackId := Nat

inductive FBSDKLoginManagerState where
  | idle
  | start
  | performingLogin
deriving DecidableEq, Repr

/-- `FBSDKLoginManager` -/
structure FBSDKLoginManager where
  handler : Option HandlerId
  requestedPermissions : Finset Text
  state : FBSDKLoginManagerState
  usedSFAuthSession : Bool
deriving DecidableEq

/-- `FBSDKLoginBehavior`, as far as the managers use it. -/
inductive FBSDKLoginBehavior where
  | native
  | browser
deriving DecidableEq, Repr

/-- `FBSDKApplicationDelegate`; the handler of a session belongs to the manager
that started it. -/
structure FBSDKApplicationDelegate where
  pendingURLOpen : Option ManagerId
  authenticationSession : Bool
  authenticationSessionCompletionHandler : Option ManagerId
  expectingBackground : Bool
  isRequestingSFAuthenticationSession : Bool
  active : Bool
deriving DecidableEq, Repr

/-- What the managers wait for. -/
inductive Callback where
  | openURL (self : ManagerId) (behavior : FBSDKLoginBehavior)
  | authenticationSession (self : ManagerId)
  | attemptBrowserLogIn (self : ManagerId)
  | requestMeAndPermissions (self : ManagerId)
      (parameters : FBSDKLoginCompletionParameters)
  | validateReauthentication (self : ManagerId)
      (currentToken : FBSDKAccessToken)
      (loginResult : FBSDKLoginManagerLoginResult)
deriving DecidableEq

/-- The SDK in its app, with what it keeps on the device. -/
structure FacebookSDK where
  appID : String
  bundleIdentifier : String
  managers : ManagerId → FBSDKLoginManager
  delegate : FBSDKApplicationDelegate
  accessToken : Option FBSDKAccessToken
  callbacks : AList fun _ : CallbackId => Callback
  nextCallback : CallbackId
  nextHandler : HandlerId
  items : Items StoreQuery Text
  cache : FBSDKAccessTokenCacheV4 FBSDKAccessToken

/-- A random string and the calls that are refused when a challenge is made of
it. -/
structure Attempt where
  random : Text
  refusals : StoreRefusals

/-- What is decided outside in the course of one step. -/
structure Inputs where
  isFacebookAppInstalled : Bool
  useNativeDialog : Bool
  useSafariViewController : Bool
  authURL : Bool
  first : Attempt
  second : Attempt
  tokenRefusals : StoreRefusals
  uuid : String

/-- What is observed of the managers. -/
inductive Event where
  | ignored
  | taken (handler : HandlerId)
  | dropped (handler : HandlerId)
  | completed (handler : Option HandlerId) (outcome : Outcome)
  | issued (challenge : Text)
  | authenticated (tokenString : Option String) (received : Option Text)
      (passed : Bool)
  | loggedOut
  | expired
  | failed (tokenString : Option String) (error : NSError)
  | refreshed (tokenString : Option String) (isExpired : Option Bool)
  | launched (cached : Option FBSDKAccessToken)
deriving DecidableEq

/-- The next state and what is observed on the way. -/
abbrev Turn := FacebookSDK × List Event

def silent (sdk : FacebookSDK) : Turn :=
  (sdk, [])

/-- Two pieces of work, one after the other. -/
def Turn.andThen (turn : Turn) (later : FacebookSDK → Turn) : Turn :=
  ((later turn.1).1, turn.2 ++ (later turn.1).2)

namespace FacebookSDK

/-- Change one manager. -/
def modify (self : ManagerId) (change : FBSDKLoginManager → FBSDKLoginManager)
    (sdk : FacebookSDK) : FacebookSDK :=
  { sdk with
    managers := Function.update sdk.managers self
      (change (sdk.managers self)) }

/-- Wait for a callback. -/
def await (callback : Callback) (sdk : FacebookSDK) : FacebookSDK :=
  { sdk with
    callbacks := sdk.callbacks.insert sdk.nextCallback callback
    nextCallback := sdk.nextCallback + 1 }

/-- Stop waiting for a callback. -/
def resume (id : CallbackId) (sdk : FacebookSDK) : FacebookSDK :=
  { sdk with callbacks := sdk.callbacks.erase id }

/-- The callback that is waited for under a number. -/
def at? (sdk : FacebookSDK) (id : CallbackId) : Option Callback :=
  sdk.callbacks.lookup id

end FacebookSDK

/-! ## The current token -/

namespace FBSDKAccessToken

/-- `setCurrentAccessToken:`, which does nothing if there is no token before
and after. -/
def setCurrentAccessToken (token : Option FBSDKAccessToken)
    (inputs : Inputs) (sdk : FacebookSDK) : FacebookSDK :=
  if token = none ∧ sdk.accessToken = none then
    sdk
  else
    { sdk with
      accessToken := token
      cache := sdk.cache.setAccessToken inputs.tokenRefusals inputs.uuid
        token }

end FBSDKAccessToken

/-- `FBSDKGraphRequestConnection.processResultBody`: an error that names the
current token as invalid takes it away, or lets it expire. -/
def FBSDKGraphRequestConnection.processResultBody
    (tokenString : Option String) (error : NSError) (inputs : Inputs)
    (sdk : FacebookSDK) : FacebookSDK :=
  match sdk.accessToken with
  | some token =>
      if tokenString = some token.tokenString &&
          (error.code == 190 || error.code == 102) then
        FBSDKAccessToken.setCurrentAccessToken
          (if error.subcode == 493 then
            some { token with isExpired := true }
          else
            none)
          inputs sdk
      else
        sdk
  | none => sdk

namespace FBSDKGraphRequestPiggybackManager

/-- The answers of the two requests that refresh the token. -/
structure Refresh where
  tokenString : Option String
  permissions : Option (Finset Text × Finset Text)
  isExpired : Option Bool
deriving DecidableEq

/-- `refreshedToken`: what the answers lack is taken from the current
token. -/
def refreshedToken (refresh : Refresh) (currentToken : FBSDKAccessToken) :
    FBSDKAccessToken where
  tokenString := refresh.tokenString.getD currentToken.tokenString
  isExpired := refresh.isExpired.getD currentToken.isExpired
  permissions := (refresh.permissions.map Prod.fst).getD
    currentToken.permissions
  declinedPermissions := (refresh.permissions.map Prod.snd).getD
    currentToken.declinedPermissions
  userID := currentToken.userID

/-- `expectingCallbackComplete`, when both requests have been answered and the
token is still the one that they were sent for. -/
def expectingCallbackComplete (refresh : Refresh) (inputs : Inputs)
    (sdk : FacebookSDK) : FacebookSDK :=
  match sdk.accessToken with
  | some currentToken =>
      FBSDKAccessToken.setCurrentAccessToken
        (some (refreshedToken refresh currentToken)) inputs sdk
  | none => sdk

end FBSDKGraphRequestPiggybackManager

/-! ## FBSDKApplicationDelegate -/

namespace FBSDKApplicationDelegate

def init : FBSDKApplicationDelegate where
  pendingURLOpen := none
  authenticationSession := false
  authenticationSessionCompletionHandler := none
  expectingBackground := false
  isRequestingSFAuthenticationSession := false
  active := false

/-- `openURL:sender:handler:` -/
def openURL (sender : ManagerId) (behavior : FBSDKLoginBehavior)
    (sdk : FacebookSDK) : FacebookSDK :=
  { sdk with
    delegate := { sdk.delegate with
      expectingBackground := true
      pendingURLOpen := some sender } }.await (.openURL sender behavior)

/-- `openURLWithSafariViewController:sender:fromViewController:handler:` for an
authentication URL, which starts a session. -/
def openURLWithSafariViewController (sender : ManagerId) (sdk : FacebookSDK) :
    FacebookSDK :=
  { sdk with
    delegate := { sdk.delegate with
      expectingBackground := false
      pendingURLOpen := some sender
      authenticationSessionCompletionHandler := some sender
      authenticationSession := true
      isRequestingSFAuthenticationSession := true } }.await
    (.authenticationSession sender)

/-- `applicationDidEnterBackground:` -/
def applicationDidEnterBackground (sdk : FacebookSDK) : FacebookSDK :=
  { sdk with
    delegate := { sdk.delegate with
      isRequestingSFAuthenticationSession := false
      active := false
      expectingBackground := false } }

end FBSDKApplicationDelegate

/-! ## FBSDKLoginManager -/

namespace FBSDKLoginManager

def init : FBSDKLoginManager where
  handler := none
  requestedPermissions := ∅
  state := .idle
  usedSFAuthSession := false

/-- `FBSDKExpectedChallengeKey` in the service of the managers. -/
def expectedChallengeKey (bundleIdentifier : String) : StoreQuery where
  service := "com.facebook.sdk.loginmanager." ++ bundleIdentifier
  account := "expected_login_challenge"

/-- `stringForChallenge` -/
def stringForChallenge (random : Text) : Text :=
  replace plus 0x3D random

/-- `loadExpectedChallenge`, with its plus signs replaced. -/
def loadExpectedChallenge (refusals : StoreRefusals) (sdk : FacebookSDK) :
    Option Text :=
  (FBSDKKeychainStore.dataForKey refusals
    (expectedChallengeKey sdk.bundleIdentifier) sdk.items).map
      (replace plus space)

/-- `storeExpectedChallenge:` -/
def storeExpectedChallenge (refusals : StoreRefusals)
    (challengeExpected : Option Text) (sdk : FacebookSDK) : FacebookSDK :=
  { sdk with
    items := (FBSDKKeychainStore.setData refusals challengeExpected
      (expectedChallengeKey sdk.bundleIdentifier) sdk.items).2 }

/-- `logOut` -/
def logOut (inputs : Inputs) (sdk : FacebookSDK) : Turn :=
  (FBSDKAccessToken.setCurrentAccessToken none inputs sdk, [.loggedOut])

/-- `invokeHandler:error:` -/
def invokeHandler (self : ManagerId) (outcome : Outcome)
    (sdk : FacebookSDK) : Turn :=
  (sdk.modify self fun manager =>
      { manager with state := .idle, handler := none },
    [.completed (sdk.managers self).handler outcome])

/-- The result of a login that is cancelled. -/
def cancelledResult : FBSDKLoginManagerLoginResult where
  token := none
  isCancelled := true
  grantedPermissions := ∅
  declinedPermissions := ∅
  noToken := fun _ => rfl

/-- `handleImplicitCancelOfLogIn` -/
def handleImplicitCancelOfLogIn (self : ManagerId) (sdk : FacebookSDK) :
    Turn :=
  invokeHandler self (.ok cancelledResult) sdk

/-- `validateLoginStartState`; there is no next state if the login must not
start. -/
def validateLoginStartState (self : ManagerId) (sdk : FacebookSDK) :
    Option Turn :=
  match (sdk.managers self).state with
  | .start =>
      -- a session may have been dismissed without a word
      if (sdk.managers self).usedSFAuthSession then
        some (silent sdk)
      else
        none
  | .performingLogin => some (handleImplicitCancelOfLogIn self sdk)
  | .idle =>
      some (silent (sdk.modify self fun manager =>
        { manager with state := .start }))

/-- The `completion` of `logInWithBehavior:`. -/
def completion (self : ManagerId) (didPerformLogIn : Bool)
    (error : Option OpenError) (sdk : FacebookSDK) : Turn :=
  if didPerformLogIn then
    silent (sdk.modify self fun manager =>
      { manager with state := .performingLogin })
  else
    match error with
    | some .cancelled => handleImplicitCancelOfLogIn self sdk
    | some (.other error) => invokeHandler self (.error error) sdk
    | none => invokeHandler self (.error .unknown) sdk

/-- `logInParametersWithPermissions:serverConfiguration:`, of which the
challenge is observed. -/
def logInParameters (attempt : Attempt) (sdk : FacebookSDK) : Turn :=
  (storeExpectedChallenge attempt.refusals
      (some (stringForChallenge attempt.random)) sdk,
    [.issued (stringForChallenge attempt.random)])

/-- `performBrowserLogInWithParameters:handler:` -/
def performBrowserLogIn (self : ManagerId) (inputs : Inputs)
    (sdk : FacebookSDK) : Turn :=
  if inputs.authURL then
    if inputs.useSafariViewController then
      silent (FBSDKApplicationDelegate.openURLWithSafariViewController self
        (sdk.modify self fun manager =>
          { manager with usedSFAuthSession := true }))
    else
      silent (FBSDKApplicationDelegate.openURL self .browser sdk)
  else
    completion self false (some (.other .appURL)) sdk

/-- `logInWithBehavior:` up to the behavior. -/
def startLogIn (self : ManagerId) (attempt : Attempt) (sdk : FacebookSDK) :
    Turn :=
  (logInParameters attempt sdk).andThen fun sdk =>
    silent (sdk.modify self fun manager =>
      { manager with usedSFAuthSession := false })

/-- `logInWithBehavior:`; without Facebook's app a native login goes through
the browser, and it starts again there if the dialog is not to be used. -/
def logInWithBehavior (self : ManagerId) (behavior : FBSDKLoginBehavior)
    (inputs : Inputs) (sdk : FacebookSDK) : Turn :=
  (startLogIn self inputs.first sdk).andThen fun sdk =>
    match behavior with
    | .native =>
        if inputs.isFacebookAppInstalled then
          if inputs.useNativeDialog then
            silent (FBSDKApplicationDelegate.openURL self .native sdk)
          else
            (startLogIn self inputs.second sdk).andThen
              (performBrowserLogIn self inputs)
        else
          performBrowserLogIn self inputs sdk
    | .browser => performBrowserLogIn self inputs sdk

/-- Forget the handler of a login that has not been called. -/
def dropHandler (self : ManagerId) (sdk : FacebookSDK) : Turn :=
  match (sdk.managers self).handler with
  | some handler =>
      (sdk.modify self fun manager => { manager with handler := none },
        [.dropped handler])
  | none => silent sdk

/-- Take the next handler. -/
def takeHandler (self : ManagerId) (permissions : Finset Text)
    (sdk : FacebookSDK) : Turn :=
  ({ sdk.modify self fun manager =>
        { manager with
          handler := some sdk.nextHandler
          requestedPermissions := permissions } with
      nextHandler := sdk.nextHandler + 1 },
    [.taken sdk.nextHandler])

/-- `logInWithPermissions:handler:` -/
def logInWithPermissions (self : ManagerId) (permissions : Finset Text)
    (inputs : Inputs) (sdk : FacebookSDK) : Turn :=
  ((dropHandler self sdk).andThen (takeHandler self permissions)).andThen
    (logInWithBehavior self .native inputs)

/-- `logInWithReadPermissions:fromViewController:handler:` -/
def logInWithReadPermissions (self : ManagerId) (permissions : Finset Text)
    (inputs : Inputs) (sdk : FacebookSDK) : Turn :=
  match validateLoginStartState self sdk with
  | none => (sdk, [.ignored])
  | some validated =>
      validated.andThen (logInWithPermissions self permissions inputs)

/-- `determineRecentlyGrantedPermissions:` -/
def recentlyGranted (self : ManagerId) (granted : Finset Text)
    (sdk : FacebookSDK) : Finset Text :=
  let previously := sdk.accessToken.elim ∅ FBSDKAccessToken.permissions
  let requested := (sdk.managers self).requestedPermissions
  if previously ≠ ∅ ∧ requested ≠ ∅ then granted ∩ requested else granted

/-- `recentlyDeclinedPermissions` -/
def recentlyDeclined (self : ManagerId) (declined : Finset Text)
    (sdk : FacebookSDK) : Finset Text :=
  (sdk.managers self).requestedPermissions ∩ declined

/-- The result of a login that brings a token. -/
def grantedResult (self : ManagerId) (tokenString : String)
    (parameters : FBSDKLoginCompletionParameters) (sdk : FacebookSDK) :
    FBSDKLoginManagerLoginResult where
  token := some
    { tokenString := tokenString
      isExpired := parameters.isExpired
      permissions := parameters.permissions
      declinedPermissions := parameters.declinedPermissions
      userID := parameters.userID }
  isCancelled := false
  grantedPermissions := recentlyGranted self parameters.permissions sdk
  declinedPermissions :=
    recentlyDeclined self parameters.declinedPermissions sdk
  noToken := by
    intro cancelled
    cases cancelled

/-- The result of a login that is cancelled on the way or in which nothing is
granted. -/
def fruitlessResult (self : ManagerId)
    (parameters : FBSDKLoginCompletionParameters) (sdk : FacebookSDK) :
    FBSDKLoginManagerLoginResult where
  token := none
  isCancelled := parameters.accessTokenString.isNone
  grantedPermissions := ∅
  declinedPermissions :=
    if sdk.accessToken.isSome && parameters.accessTokenString.isSome then
      recentlyDeclined self parameters.declinedPermissions sdk
    else
      ∅
  noToken := fun _ => rfl

/-- `validateReauthentication:withResult:` -/
def validateReauthentication (self : ManagerId)
    (currentToken : FBSDKAccessToken)
    (loginResult : FBSDKLoginManagerLoginResult) (sdk : FacebookSDK) :
    FacebookSDK :=
  sdk.await (.validateReauthentication self currentToken loginResult)

/-- Make the token of a result the current one and call the handler. -/
def finishLogIn (self : ManagerId) (loginResult : FBSDKLoginManagerLoginResult)
    (inputs : Inputs) (sdk : FacebookSDK) : Turn :=
  invokeHandler self (.ok loginResult)
    (if loginResult.token.isSome then
      FBSDKAccessToken.setCurrentAccessToken loginResult.token inputs sdk
    else
      sdk)

/-- Does a callback carry the challenge that is expected? -/
def challengePassed (parameters : FBSDKLoginCompletionParameters)
    (inputs : Inputs) (sdk : FacebookSDK) : Bool :=
  (loadExpectedChallenge inputs.first.refusals sdk).any fun expected =>
    parameters.challenge = some expected

/-- The error of a callback, or that of its challenge if it brings a token. -/
def authenticationError? (parameters : FBSDKLoginCompletionParameters)
    (passed : Bool) : Option LoginError :=
  parameters.error.or
    (if parameters.accessTokenString.isSome && !passed then
      some .badChallengeString
    else
      none)

/-- The end of `completeAuthentication:expectChallenge:`, after the challenge
has been checked and deleted. -/
def concludeAuthentication (self : ManagerId)
    (parameters : FBSDKLoginCompletionParameters) (passed : Bool)
    (inputs : Inputs) (sdk : FacebookSDK) : Turn :=
  match authenticationError? parameters passed with
  | some error => invokeHandler self (.error error) sdk
  | none =>
      match parameters.accessTokenString with
      | none =>
          finishLogIn self (fruitlessResult self parameters sdk) inputs sdk
      | some tokenString =>
          let loginResult := grantedResult self tokenString parameters sdk
          if loginResult.grantedPermissions = ∅ then
            finishLogIn self (fruitlessResult self parameters sdk) inputs
              sdk
          else
            match sdk.accessToken with
            | some currentToken =>
                silent (validateReauthentication self currentToken
                  loginResult sdk)
            | none => finishLogIn self loginResult inputs sdk

/-- `completeAuthentication:expectChallenge:`; the challenge is deleted in all
cases. -/
def completeAuthentication (self : ManagerId)
    (parameters : FBSDKLoginCompletionParameters) (inputs : Inputs)
    (sdk : FacebookSDK) : Turn :=
  let passed := challengePassed parameters inputs sdk
  Turn.andThen
    (storeExpectedChallenge inputs.first.refusals none sdk,
      [.authenticated parameters.accessTokenString parameters.challenge
        passed])
    (concludeAuthentication self parameters passed inputs)

/-- `FBSDKLoginURLCompleter.completeLogIn:withHandler:` -/
def completeLogIn (self : ManagerId) (completer : FBSDKLoginURLCompleter)
    (inputs : Inputs) (sdk : FacebookSDK) : Turn :=
  if completer.performExplicitFallback then
    if sdk.delegate.active then
      logInWithBehavior self .browser inputs sdk
    else
      silent (sdk.await (.attemptBrowserLogIn self))
  else if completer.parameters.accessTokenString.isSome &&
      completer.parameters.userID.isNone then
    silent (sdk.await
      (.requestMeAndPermissions self completer.parameters))
  else
    completeAuthentication self completer.parameters inputs sdk

/-- `canOpenURL:forApplication:sourceApplication:annotation:` -/
def canOpenURL (appID : String) (sourceApplication : Option String)
    (url : OpenedURL) : Bool :=
  let isFacebookURL :=
    ("fb" ++ appID).toList.isPrefixOf url.scheme.toList &&
      url.host == "authorize"
  let isExpectedSourceApplication := sourceApplication.any fun source =>
    "com.facebook".toList.isPrefixOf source.toList ||
      "com.apple".toList.isPrefixOf source.toList ||
      "com.burbn".toList.isPrefixOf source.toList
  isFacebookURL && isExpectedSourceApplication

/-- `application:openURL:sourceApplication:annotation:`; a session that is
cancelled has no URL. -/
def openURL (self : ManagerId) (url : Option OpenedURL)
    (sourceApplication : Option String) (inputs : Inputs)
    (sdk : FacebookSDK) : Turn :=
  match url.filter (canOpenURL sdk.appID sourceApplication) with
  | some url =>
      completeLogIn self
        (FBSDKLoginURLCompleter.initWithURLParameters url.parameters)
        inputs sdk
  | none =>
      if (sdk.managers self).state = .performingLogin then
        handleImplicitCancelOfLogIn self sdk
      else
        silent sdk

/-- `applicationDidBecomeActive:` -/
def applicationDidBecomeActive (self : ManagerId) (sdk : FacebookSDK) : Turn :=
  if (sdk.managers self).state = .performingLogin then
    handleImplicitCancelOfLogIn self sdk
  else
    silent sdk

end FBSDKLoginManager

/-! ## What reaches the SDK -/

namespace FBSDKApplicationDelegate

/-- Cancel the session and forget the manager that waits for a URL. -/
def close (sdk : FacebookSDK) : FacebookSDK :=
  { sdk with
    delegate := { sdk.delegate with
      authenticationSession := false
      pendingURLOpen := none } }

/-- `application:openURL:sourceApplication:annotation:` -/
def applicationOpenURL (url : Option OpenedURL)
    (sourceApplication : Option String) (inputs : Inputs)
    (sdk : FacebookSDK) : Turn :=
  match sdk.delegate.pendingURLOpen with
  | some self =>
      FBSDKLoginManager.openURL self url sourceApplication inputs
        (close sdk)
  | none => silent (close sdk)

/-- The completion handler of a session. -/
def authenticationSessionCompletion (self : ManagerId)
    (url : Option OpenedURL) (error : Option OpenError) (inputs : Inputs)
    (sdk : FacebookSDK) : Turn :=
  let answered : FacebookSDK :=
    { sdk with
      delegate := { sdk.delegate with
        isRequestingSFAuthenticationSession := false } }
  ((FBSDKLoginManager.completion self error.isNone error answered).andThen
    fun sdk =>
      if error.isNone then
        applicationOpenURL url (some "com.apple") inputs sdk
      else
        silent sdk).andThen
    fun sdk =>
      silent { sdk with
        delegate := { sdk.delegate with
          authenticationSession := false
          authenticationSessionCompletionHandler := none } }

/-- The end of `applicationDidBecomeActive:`. -/
def activate (sdk : FacebookSDK) : Turn :=
  if sdk.delegate.authenticationSession then
    silent sdk
  else
    let activated : FacebookSDK :=
      { sdk with delegate := { sdk.delegate with active := true } }
    match sdk.delegate.pendingURLOpen with
    | some self =>
        FBSDKLoginManager.applicationDidBecomeActive self activated
    | none => silent activated

/-- `applicationDidBecomeActive:`, which takes an open session for
cancelled. -/
def applicationDidBecomeActive (inputs : Inputs) (sdk : FacebookSDK) :
    Turn :=
  if sdk.delegate.expectingBackground ||
      sdk.delegate.isRequestingSFAuthenticationSession then
    silent sdk
  else
    match sdk.delegate.authenticationSessionCompletionHandler with
    | some self =>
        (authenticationSessionCompletion self none none inputs sdk).andThen
          activate
    | none => activate sdk

/-- The token that is read from the cache when a process starts, and the SDK
with that token. -/
def launch (expired : Bool) (inputs : Inputs) (sdk : FacebookSDK) : Turn :=
  let read := sdk.cache.accessToken inputs.tokenRefusals
  let cachedToken := read.1.map fun token =>
    { token with isExpired := token.isExpired || expired }
  (FBSDKAccessToken.setCurrentAccessToken cachedToken inputs
      { sdk with
        managers := fun _ => .init
        delegate := .init
        accessToken := none
        callbacks := ∅
        cache := read.2 },
    [.launched cachedToken])

/-- `application:didFinishLaunchingWithOptions:`, with the URL the app is
launched with. -/
def didFinishLaunching (launchedURL : Option (OpenedURL × String))
    (expired : Bool) (inputs : Inputs) (sdk : FacebookSDK) : Turn :=
  (launch expired inputs sdk).andThen fun sdk =>
      match launchedURL with
      | some (url, sourceApplication) =>
          FBSDKLoginManager.openURL .launched (some url)
            (some sourceApplication) inputs sdk
      | none => silent sdk

end FBSDKApplicationDelegate

namespace FBSDKLoginButton

/-- The `readPermissions` of the app's buttons. -/
def readPermissions : Finset Text :=
  {utf8 "email", utf8 "public_profile"}

/-- `_buttonPressed:`; logging out is confirmed in an action sheet, and the
delegate of the button logs out once more. -/
def buttonPressed (self : HomeId) (confirm : Bool) (inputs : Inputs)
    (sdk : FacebookSDK) : Turn :=
  if App.currentAccessTokenIsActive
      (sdk.accessToken.map FBSDKAccessToken.toAccessToken) then
    if confirm then
      (FBSDKLoginManager.logOut inputs sdk).andThen
        (FBSDKLoginManager.logOut inputs)
    else
      silent sdk
  else
    FBSDKLoginManager.logInWithReadPermissions (.button self)
      readPermissions inputs sdk

end FBSDKLoginButton

/-- `attemptRecoveryFromError:optionIndex:…` of `_FBSDKLoginRecoveryAttempter`:
the permissions of the current token are asked for once more. -/
def FBSDKLoginRecoveryAttempter.attemptRecovery
    (number recoveryOptionIndex : Nat) (inputs : Inputs)
    (sdk : FacebookSDK) : Turn :=
  let currentPermissions :=
    sdk.accessToken.elim ∅ FBSDKAccessToken.permissions
  if recoveryOptionIndex = 0 ∧ currentPermissions ≠ ∅ then
    FBSDKLoginManager.logInWithPermissions (.recovery number)
      currentPermissions inputs sdk
  else
    silent sdk

/-! ## Answers -/

/-- What a callback is called with. -/
inductive Answer where
  | opened (success : Bool)
  | session (url : Option OpenedURL) (error : Option OpenError)
  | attempt
  | meAndPermissions (id : Option String) (idError : Option NSError)
      (granted declined : Finset Text) (permissionsError : Option NSError)
  | me (id : Option String) (error : Option NSError)

/-- The completion of `FBSDKLoginRequestMeAndPermissions`. -/
def FBSDKLoginCompletionParameters.answered
    (parameters : FBSDKLoginCompletionParameters) (id : Option String)
    (idError : Option NSError) (granted declined : Finset Text)
    (permissionsError : Option NSError) : FBSDKLoginCompletionParameters :=
  { parameters with
    userID := id
    permissions := granted
    declinedPermissions := declined
    error := (permissionsError.map LoginError.graph).or
      ((idError.map LoginError.graph).or parameters.error) }

/-- The completion of `validateReauthentication:withResult:`. -/
def FBSDKLoginManager.reauthenticated (self : ManagerId)
    (currentToken : FBSDKAccessToken)
    (loginResult : FBSDKLoginManagerLoginResult) (id : Option String)
    (error : Option NSError) (inputs : Inputs) (sdk : FacebookSDK) : Turn :=
  if currentToken.userID.any fun userID => id = some userID then
    finishLogIn self loginResult inputs sdk
  else
    invokeHandler self (.error (.userMismatch error)) sdk

/-- Run a callback with its answer. -/
def Callback.run (callback : Callback) (answer : Answer) (inputs : Inputs)
    (sdk : FacebookSDK) : Option Turn :=
  match callback, answer with
  | .openURL self .native, .opened success =>
      some (if success then
        FBSDKLoginManager.completion self true none sdk
      else
        FBSDKLoginManager.logInWithBehavior self .browser inputs sdk)
  | .openURL self .browser, .opened success =>
      some (FBSDKLoginManager.completion self success none sdk)
  | .authenticationSession self, .session url error =>
      some (FBSDKApplicationDelegate.authenticationSessionCompletion self
        url error inputs sdk)
  | .attemptBrowserLogIn self, .attempt =>
      some (if sdk.delegate.active then
        FBSDKLoginManager.logInWithBehavior self .browser inputs sdk
      else
        silent (sdk.await (.attemptBrowserLogIn self)))
  | .requestMeAndPermissions self parameters,
      .meAndPermissions id idError granted declined permissionsError =>
      some (FBSDKLoginManager.completeAuthentication self
        (parameters.answered id idError granted declined permissionsError)
        inputs sdk)
  | .validateReauthentication self currentToken loginResult, .me id error =>
      some (FBSDKLoginManager.reauthenticated self currentToken loginResult
        id error inputs sdk)
  | _, _ => none

/-! ## Steps -/

/-- What happens to the SDK.  The app is launched again after its process has
ended, and a reinstallation empties the defaults.  A recovery is tapped in the
alert of an error and has a manager of its own.  A refresh that ends too late
for its token does nothing and is left out. -/
inductive Action where
  | launch (launchedURL : Option (OpenedURL × String)) (expired : Bool)
      (inputs : Inputs)
  | reinstall (inputs : Inputs)
  | buttonPressed (self : HomeId) (confirm : Bool) (inputs : Inputs)
  | openURL (url : OpenedURL) (sourceApplication : Option String)
      (inputs : Inputs)
  | didBecomeActive (inputs : Inputs)
  | didEnterBackground (inputs : Inputs)
  | answer (id : CallbackId) (answer : Answer) (inputs : Inputs)
  | logOut (inputs : Inputs)
  | graphError (tokenString : Option String) (error : NSError)
      (inputs : Inputs)
  | attemptRecovery (number recoveryOptionIndex : Nat) (inputs : Inputs)
  | tokenExpires (inputs : Inputs)
  | tokenRefreshed (refresh : FBSDKGraphRequestPiggybackManager.Refresh)
      (inputs : Inputs)

/-- The inputs of a step. -/
def Action.inputs : Action → Inputs
  | .launch _ _ inputs | .reinstall inputs | .buttonPressed _ _ inputs
  | .openURL _ _ inputs | .didBecomeActive inputs
  | .didEnterBackground inputs | .answer _ _ inputs | .logOut inputs
  | .graphError _ _ inputs | .attemptRecovery _ _ inputs
  | .tokenExpires inputs | .tokenRefreshed _ inputs => inputs

/-- The keychain after a reinstallation, without the defaults. -/
def FacebookSDK.reinstalled (sdk : FacebookSDK) : FacebookSDK :=
  { sdk with cache := { sdk.cache with defaults := none } }

/-- One step of the SDK. -/
def step : Transition.PartialStep FacebookSDK Action Event :=
    fun sdk action =>
  match action with
  | .launch launchedURL expired inputs =>
      some (FBSDKApplicationDelegate.didFinishLaunching launchedURL expired
        inputs sdk)
  | .reinstall inputs =>
      some (FBSDKApplicationDelegate.launch false inputs sdk.reinstalled)
  | .buttonPressed self confirm inputs =>
      some (FBSDKLoginButton.buttonPressed self confirm inputs sdk)
  | .openURL url sourceApplication inputs =>
      some (FBSDKApplicationDelegate.applicationOpenURL (some url)
        sourceApplication inputs sdk)
  | .didBecomeActive inputs =>
      some (FBSDKApplicationDelegate.applicationDidBecomeActive inputs sdk)
  | .didEnterBackground _ =>
      some (silent
        (FBSDKApplicationDelegate.applicationDidEnterBackground sdk))
  | .answer id answer inputs =>
      (sdk.at? id).bind fun callback =>
        callback.run answer inputs (sdk.resume id)
  | .logOut inputs => some (FBSDKLoginManager.logOut inputs sdk)
  | .graphError tokenString error inputs =>
      some (FBSDKGraphRequestConnection.processResultBody tokenString error
        inputs sdk, [.failed tokenString error])
  | .attemptRecovery number recoveryOptionIndex inputs =>
      -- a manager that has been asked for a login is not the initial one
      if sdk.managers (.recovery number) = .init then
        some (FBSDKLoginRecoveryAttempter.attemptRecovery number
          recoveryOptionIndex inputs sdk)
      else
        none
  | .tokenExpires _ =>
      some ({ sdk with
          accessToken := sdk.accessToken.map fun token =>
            { token with isExpired := true } }, [.expired])
  | .tokenRefreshed refresh inputs =>
      some (FBSDKGraphRequestPiggybackManager.expectingCallbackComplete
        refresh inputs sdk,
        [.refreshed refresh.tokenString refresh.isExpired])

/-- The SDK of an app that has been installed for the first time. -/
def installed (appID bundleIdentifier : String) : FacebookSDK where
  appID := appID
  bundleIdentifier := bundleIdentifier
  managers := fun _ => .init
  delegate := .init
  accessToken := none
  callbacks := ∅
  nextCallback := 0
  nextHandler := 0
  items := ∅
  cache := .empty bundleIdentifier

/-! ## A login -/

/-- A device with Facebook's app, whose keychain refuses nothing. -/
def Inputs.undisturbed (random : String) : Inputs where
  isFacebookAppInstalled := true
  useNativeDialog := true
  useSafariViewController := true
  authURL := true
  first := { random := utf8 random, refusals := .none }
  second := { random := utf8 random, refusals := .none }
  tokenRefusals := .none
  uuid := random

/-- The URL that Facebook's app opens when a login has succeeded. -/
def callbackURL (appID token userID : String) (random : String) :
    OpenedURL where
  scheme := "fb" ++ appID
  host := "authorize"
  parameters :=
    { accessToken := some token
      grantedScopes := some (utf8 "email,public_profile")
      deniedScopes := none
      signedRequest := none
      userID := some userID
      isExpired := false
      challenge := some (urlEncode
        (FBSDKLoginManager.stringForChallenge (utf8 random)))
      error := none
      errorMessage := none
      errorCode := none }

/-- The button is tapped and Facebook's app is opened. -/
def leaving (random : String) (callback : CallbackId) : List Action :=
  [.buttonPressed 0 false (.undisturbed random),
    .answer callback (.opened true) (.undisturbed random)]

/-- Facebook's app comes back with a token. -/
def returning (token userID random : String) : Action :=
  .openURL (callbackURL "appID" token userID random)
    (some "com.facebook.Facebook") (.undisturbed random)

end BandBPools.Facebook
