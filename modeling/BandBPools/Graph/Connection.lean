import BandBPools.Facebook.LoginManager

/-!
# Requests to Facebook's Graph

A connection sends one or more requests and calls the handler of each of them
when the response arrives.  On the way it may send a request once more, ask
the user to log in again, take the current token away, and, once a day, have
the token refreshed by requests of its own that it sends along.

Dates are seconds since 1970.  Only handlers and tokens are followed here, so
of a request just those parts are kept that decide about them.
-/

namespace BandBPools.Graph

open BandBPools.Bytes
open BandBPools.Transition

/-! ## Tokens -/

/-- `[NSDate distantFuture]` -/
def distantFuture : Int := 64092211200

/-- `[NSDate distantPast]` -/
def distantPast : Int := -62135769600

/-- The fields of an `FBSDKAccessToken`. -/
structure FBSDKAccessToken where
  tokenString : String
  permissions : Finset Text
  declinedPermissions : Finset Text
  userID : Option String
  expirationDate : Int
  refreshDate : Int
  dataAccessExpirationDate : Int
deriving DecidableEq

/-- An `FBSDKAccessToken` object. -/
structure TokenObject extends FBSDKAccessToken where
  object : Nat
deriving DecidableEq

/-- `FBSDKAccessToken.isExpired` -/
def FBSDKAccessToken.isExpired (now : Int) (self : FBSDKAccessToken) :
    Bool :=
  self.expirationDate < now

/-- What the login managers and the app see of a token. -/
def FBSDKAccessToken.seen (now : Int) (self : FBSDKAccessToken) :
    Facebook.FBSDKAccessToken where
  tokenString := self.tokenString
  isExpired := self.isExpired now
  permissions := self.permissions
  declinedPermissions := self.declinedPermissions
  userID := self.userID

/-! ## Errors and how to recover from them -/

/-- `FBSDKGraphRequestError` -/
inductive FBSDKGraphRequestError where
  | other
  | transient
  | recoverable
deriving DecidableEq, Repr

/-- `FBSDKErrorRecoveryConfiguration` -/
structure FBSDKErrorRecoveryConfiguration where
  localizedRecoveryDescription : String
  localizedRecoveryOptionDescriptions : List String
  errorCategory : FBSDKGraphRequestError
  recoveryActionName : String
deriving DecidableEq, Repr

/-- An item of the array that `parseArray:` reads: a code with the subcodes
that are meant, or none for all of them. -/
structure RecoveryItem where
  code : Int
  subcodes : List Int
deriving DecidableEq, Repr

/-- An entry of the array that `parseArray:` reads. -/
structure RecoveryEntry where
  name : String
  items : List RecoveryItem
  recovery_message : String
  recovery_options : List String
deriving DecidableEq, Repr

/-- `FBSDKErrorConfiguration`, by code and subcode; none stands for `*`. -/
structure FBSDKErrorConfiguration where
  configurationDictionary :
    List ((Option Int × Option Int) × FBSDKErrorRecoveryConfiguration)
deriving DecidableEq, Repr

namespace FBSDKErrorConfiguration

/-- The category that `parseArray:` gives to the entries of a name. -/
def category (name : String) : FBSDKGraphRequestError :=
  if name = "other" then .other
  else if name = "transient" then .transient
  else .recoverable

/-- `parseArray:`; what is parsed later comes first. -/
def parseArray (array : List RecoveryEntry)
    (self : FBSDKErrorConfiguration) : FBSDKErrorConfiguration :=
  array.foldl (fun self entry =>
    entry.items.foldl (fun self item =>
      let configuration : FBSDKErrorRecoveryConfiguration :=
        { localizedRecoveryDescription := entry.recovery_message
          localizedRecoveryOptionDescriptions := entry.recovery_options
          errorCategory := category entry.name
          recoveryActionName := entry.name }
      let subcodes := if item.subcodes.isEmpty then [none]
        else item.subcodes.map some
      { self with
        configurationDictionary := subcodes.reverse.map
            (fun subcode => ((some item.code, subcode), configuration)) ++
          self.configurationDictionary }) self) self

/-- The array that `initWithDictionary:` falls back on. -/
def fallbackArray : List RecoveryEntry :=
  [{ name := "login"
     items := [⟨102, []⟩, ⟨190, []⟩]
     recovery_message := "Please log into this app again to reconnect " ++
       "your Facebook account."
     recovery_options := ["OK", "Cancel"] },
   { name := "transient"
     items := [⟨1, []⟩, ⟨2, []⟩, ⟨4, []⟩, ⟨9, []⟩, ⟨17, []⟩, ⟨341, []⟩]
     recovery_message := "The server is temporarily busy, please try again."
     recovery_options := ["OK"] }]

/-- `initWithDictionary:` of nil -/
def initWithDictionary : FBSDKErrorConfiguration :=
  parseArray fallbackArray ⟨[]⟩

/-- `recoveryConfigurationForCode:subcode:request:`; the app has no client
token. -/
def recoveryConfigurationForCode (code subcode : Option Int)
    (self : FBSDKErrorConfiguration) :
    Option FBSDKErrorRecoveryConfiguration :=
  let dictionary := self.configurationDictionary
  (dictionary.lookup (code, subcode)).or
    ((dictionary.lookup (code, none)).or
      ((dictionary.lookup (none, subcode)).or
        (dictionary.lookup (none, none))))

end FBSDKErrorConfiguration

/-- `FBSDKErrorRecoveryAttempter` -/
inductive FBSDKErrorRecoveryAttempter where
  | temporary
  | login
deriving DecidableEq, Repr

/-- `recoveryAttempterFromConfiguration:`; a configuration that is nil is of
the category that comes first. -/
def FBSDKErrorRecoveryAttempter.recoveryAttempterFromConfiguration
    (configuration : Option FBSDKErrorRecoveryConfiguration) :
    Option FBSDKErrorRecoveryAttempter :=
  configuration.bind fun configuration =>
    match configuration.errorCategory with
    | .transient => some .temporary
    | .other => none
    | .recoverable =>
        if configuration.recoveryActionName = "login" then some .login
        else none

/-- `FBSDKError`, as far as connections make it, and the errors of
`NSURLSession`. -/
inductive FBSDKError where
  | network (code : Int)
  | unknown
  | graphRequestNonTextMimeTypeReturned
  | graphRequestProtocolMismatch
  | graphRequestGraphAPI
deriving DecidableEq, Repr

/-- `NSError`, with the parts of its `userInfo`. -/
structure NSError where
  code : FBSDKError
  graphErrorCode : Option Int
  graphErrorSubcode : Option Int
  httpStatusCode : Option Int
  category : FBSDKGraphRequestError
  developerMessage : Option String
  localizedTitle : Option String
  localizedDescription : Option String
  recoverySuggestion : Option String
  recoveryOptions : List String
  recoveryAttempter : Option FBSDKErrorRecoveryAttempter
deriving DecidableEq, Repr

/-- `fbErrorWithCode:message:`, which has no category. -/
def NSError.fbErrorWithCode (code : FBSDKError) (message : Option String) :
    NSError where
  code := code
  graphErrorCode := none
  graphErrorSubcode := none
  httpStatusCode := none
  category := .other
  developerMessage := message
  localizedTitle := none
  localizedDescription := none
  recoverySuggestion := none
  recoveryOptions := []
  recoveryAttempter := none

/-- The two codes that the app's model of an error has; a code that is missing
reads as 0. -/
def NSError.seen (self : NSError) : App.NSError where
  code := self.graphErrorCode.getD 0
  subcode := self.graphErrorSubcode.getD 0

/-! ## Responses -/

/-- The dictionary under `error` in a body. -/
structure ErrorDictionary where
  code : Option Int
  error_subcode : Option Int
  message : Option String
  error_msg : Option String
  error_reason : Option String
  error_user_title : Option String
  error_user_msg : Option String
  is_transient : Bool
  type : Option String
deriving DecidableEq, Repr

/-- A body that is a dictionary, with the entries that are read; `data` lists
permissions with their status. -/
structure Body where
  error : Option ErrorDictionary
  access_token : Option String
  expires_at : Option Int
  data_access_expiration_time : Option Int
  data : List (Text × String)
deriving DecidableEq

/-- One result; a body that is no dictionary counts as none. -/
structure Result where
  code : Option Int
  body : Option Body
deriving DecidableEq

/-- What a response parses to. -/
inductive ResponseObject where
  | dictionary (body : Body)
  | array (items : List Result)
  | other
deriving DecidableEq

/-- What the session of a connection hands over. -/
inductive Response where
  | failed (code : Int)
  | missing
  | image
  | unparsable (statusCode : Int)
  | json (statusCode : Int) (object : ResponseObject)
deriving DecidableEq

/-- `parseJSONResponse:error:statusCode:` for the given number of requests.  A
single request is answered by the whole response. -/
def parseJSONResponse (count : Nat) (statusCode : Int)
    (object : ResponseObject) : Except NSError (List Result) :=
  if count = 1 then
    match object with
    | .dictionary body => .ok [⟨some statusCode, some body⟩]
    | .array _ | .other => .ok [⟨some statusCode, none⟩]
  else
    match object with
    | .array items => .ok items
    | .dictionary body =>
        if body.error.any fun error => error.type = some "OAuthException" then
          .ok (List.replicate count ⟨some statusCode, some body⟩)
        else
          .error { NSError.fbErrorWithCode .graphRequestProtocolMismatch none
            with httpStatusCode := some statusCode }
    | .other =>
        .error { NSError.fbErrorWithCode .graphRequestProtocolMismatch none
          with httpStatusCode := some statusCode }

/-- The results or the error with which
`completeFBSDKURLSessionWithResponse:data:networkError:` completes. -/
def Response.results (count : Nat) : Response →
    Except NSError (List Result)
  | .failed code => .error (.fbErrorWithCode (.network code) none)
  | .missing =>
      .error (.fbErrorWithCode .unknown (some "Missing NSURLResponse"))
  | .image =>
      .error (.fbErrorWithCode .graphRequestNonTextMimeTypeReturned
        (some ("Response is a non-text MIME type; endpoints that return " ++
          "images and other binary data should be fetched using " ++
          "NSURLRequest and NSURLSession")))
  | .unparsable statusCode =>
      .error { NSError.fbErrorWithCode .unknown
          (some "The server returned an unexpected response.")
        with httpStatusCode := some statusCode }
  | .json statusCode object =>
      match parseJSONResponse count statusCode object with
      | .error error => .error error
      | .ok results =>
          if count ≠ results.length then
            .error (.fbErrorWithCode .graphRequestProtocolMismatch
              (some "Unexpected number of results returned from server."))
          else
            .ok results

/-- `errorFromResult:request:` -/
def errorFromResult (configuration : FBSDKErrorConfiguration)
    (result : Result) : Option NSError :=
  (result.body.bind Body.error).map fun dictionary =>
    let recovery := configuration.recoveryConfigurationForCode
      dictionary.code dictionary.error_subcode
    { code := .graphRequestGraphAPI
      graphErrorCode := dictionary.code
      graphErrorSubcode := dictionary.error_subcode
      httpStatusCode := result.code
      category :=
        if dictionary.is_transient then .transient
        else (recovery.map fun recovery => recovery.errorCategory).getD .other
      developerMessage := dictionary.message.or
        (dictionary.error_reason.or dictionary.error_msg)
      localizedTitle := dictionary.error_user_title
      localizedDescription := dictionary.error_user_msg
      recoverySuggestion := recovery.map fun recovery =>
        recovery.localizedRecoveryDescription
      recoveryOptions := (recovery.map fun recovery =>
        recovery.localizedRecoveryOptionDescriptions).getD []
      recoveryAttempter :=
        FBSDKErrorRecoveryAttempter.recoveryAttempterFromConfiguration
          recovery }

/-! ## Requests and handlers -/

/-- `FBSDKGraphRequest`, whose path, parameters and method decide about
nothing here. -/
structure FBSDKGraphRequest where
  graphPath : String
  tokenString : Option String
  version : String
  hasAttachments : Bool
  graphErrorRecoveryDisabled : Bool
  doNotInvalidateTokenOnError : Bool
deriving DecidableEq, Repr

/-- The number of a completion handler that a client has given. -/
abbrev HandlerId := Nat

/-- The number of a refresh that is sent along. -/
abbrev RefreshId := Nat

/-- A completion handler: a client's, one of the two of a refresh, the one for
the server configuration, or the block with which a connection waits for a
request that it has sent once more. -/
inductive FBSDKGraphRequestHandler where
  | client (id : HandlerId)
  | extend (refresh : RefreshId)
  | permissions (refresh : RefreshId)
  | serverConfiguration
  | retried (request : FBSDKGraphRequest)
      (completionHandler : FBSDKGraphRequestHandler)
deriving DecidableEq

/-- `FBSDKGraphRequestMetadata` -/
structure FBSDKGraphRequestMetadata where
  request : FBSDKGraphRequest
  completionHandler : FBSDKGraphRequestHandler
deriving DecidableEq

/-- `_recoveringRequestMetadata`: a request from whose error one may
recover. -/
structure RecoveringMetadata extends FBSDKGraphRequestMetadata where
  recoverable : request.graphErrorRecoveryDisabled = false
deriving DecidableEq

/-! ## The state -/

/-- The variables that the two handlers of `addRefreshPiggyback:` share. -/
structure Refresh where
  expectedToken : Nat
  permissions : Option (Finset Text × Finset Text)
  tokenString : Option String
  expirationDateNumber : Option Int
  dataAccessExpirationDateNumber : Option Int
  expectingCallbacksCount : Int
deriving DecidableEq

/-- What is waited for: the response to a connection, an answer to the alert
of a recovery, the login it asks for, or a turn of the main queue. -/
inductive Pending where
  | inFlight (requests : List FBSDKGraphRequestMetadata)
  | alert (metadata : RecoveringMetadata) (error : NSError)
      (attempter : FBSDKErrorRecoveryAttempter)
  | login (metadata : RecoveringMetadata) (error : NSError)
  | operation (body : Option Body) (error : Option NSError)
      (metadata : FBSDKGraphRequestMetadata)
deriving DecidableEq

/-- The number of something that is waited for. -/
abbrev PendingId := Nat

/-- What the connections share. -/
structure State where
  appID : String
  graphAPIVersion : String
  currentAccessToken : Option TokenObject
  nextObject : Nat
  lastRefreshTry : Int
  errorConfiguration : FBSDKErrorConfiguration
  refreshes : RefreshId → Refresh
  nextRefresh : RefreshId
  pending : AList fun _ : PendingId => Pending
  nextPending : PendingId

/-- What decides about a step from outside. -/
structure Inputs where
  now : Int
  configurationIsStale : Bool
deriving DecidableEq, Repr

/-- What can be seen of a step. -/
inductive Event where
  | sent (requests : List FBSDKGraphRequestMetadata)
  | refreshing (now : Int)
  | presented (message : String)
  | called (handler : HandlerId) (body : Option Body)
      (error : Option NSError)
deriving DecidableEq

abbrev Turn := State × List Event

/-- A turn that shows nothing. -/
def silent (state : State) : Turn :=
  (state, [])

/-- Go on after a turn. -/
def Turn.andThen (turn : Turn) (next : State → Turn) : Turn :=
  ((next turn.1).1, turn.2 ++ (next turn.1).2)

namespace State

/-- What is waited for under a number. -/
def at? (state : State) (id : PendingId) : Option Pending :=
  state.pending.lookup id

/-- Wait for something. -/
def await (pending : Pending) (state : State) : State :=
  { state with
    pending := state.pending.insert state.nextPending pending
    nextPending := state.nextPending + 1 }

/-- Something that has been waited for has come. -/
def resume (id : PendingId) (state : State) : State :=
  { state with pending := state.pending.erase id }

/-- `currentAccessToken.tokenString` -/
def currentTokenString (state : State) : Option String :=
  state.currentAccessToken.map fun token => token.tokenString

end State

/-- `+setCurrentAccessToken:` of a token object that is new, or of nil. -/
def FBSDKAccessToken.setCurrentAccessToken
    (token : Option FBSDKAccessToken) (state : State) : State :=
  { state with
    currentAccessToken := token.map fun token =>
      { token with object := state.nextObject }
    nextObject := state.nextObject + 1 }

/-! ## Requests that are sent along -/

namespace FBSDKGraphRequestPiggybackManager

/-- `FBSDKTokenRefreshThresholdSeconds` -/
def FBSDKTokenRefreshThresholdSeconds : Int := 24 * 60 * 60

/-- `FBSDKTokenRefreshRetrySeconds` -/
def FBSDKTokenRefreshRetrySeconds : Int := 60 * 60

/-- What is added to a connection, and the turn that it takes. -/
abbrev Addition := List FBSDKGraphRequestMetadata × Turn

/-- A request of the SDK's own, from which nothing is recovered. -/
def ownRequest (graphPath : String) (tokenString : Option String)
    (state : State) : FBSDKGraphRequest where
  graphPath := graphPath
  tokenString := tokenString
  version := state.graphAPIVersion
  hasAttachments := false
  graphErrorRecoveryDisabled := true
  doNotInvalidateTokenOnError := false

/-- `addRefreshPiggyback:permissionHandler:`, with a current token. -/
def addRefreshPiggyback (token : TokenObject) (state : State) :
    List FBSDKGraphRequestMetadata × State :=
  ([⟨ownRequest "oauth/access_token" (some token.tokenString) state,
      .extend state.nextRefresh⟩,
    ⟨ownRequest "me/permissions" (some token.tokenString) state,
      .permissions state.nextRefresh⟩],
    { state with
      refreshes := Function.update state.refreshes state.nextRefresh
        { expectedToken := token.object
          permissions := none
          tokenString := none
          expirationDateNumber := none
          dataAccessExpirationDateNumber := none
          expectingCallbacksCount := 2 }
      nextRefresh := state.nextRefresh + 1 })

/-- `addRefreshPiggybackIfStale:` -/
def addRefreshPiggybackIfStale (inputs : Inputs) (state : State) :
    Addition :=
  match state.currentAccessToken with
  | none => ([], silent state)
  | some token =>
      if inputs.now - state.lastRefreshTry > FBSDKTokenRefreshRetrySeconds ∧
          inputs.now - token.refreshDate >
            FBSDKTokenRefreshThresholdSeconds then
        let added := addRefreshPiggyback token state
        (added.1, { added.2 with lastRefreshTry := inputs.now },
          [.refreshing inputs.now])
      else
        ([], silent state)

/-- `addServerConfigurationPiggyback:` -/
def addServerConfigurationPiggyback (inputs : Inputs) (state : State) :
    List FBSDKGraphRequestMetadata :=
  if inputs.configurationIsStale then
    [⟨ownRequest state.appID none state, .serverConfiguration⟩]
  else
    []

/-- `addPiggybackRequests:` -/
def addPiggybackRequests (requests : List FBSDKGraphRequestMetadata)
    (inputs : Inputs) (state : State) : Addition :=
  if state.appID ≠ "" ∧ requests.all fun metadata =>
      metadata.request.version == state.graphAPIVersion &&
        !metadata.request.hasAttachments then
    let refresh := addRefreshPiggybackIfStale inputs state
    (refresh.1 ++ addServerConfigurationPiggyback inputs refresh.2.1,
      refresh.2)
  else
    ([], silent state)

/-! ## The end of a refresh -/

/-- The token that a refresh makes of the current one. -/
def refreshedToken (now : Int) (refresh : Refresh)
    (currentToken : FBSDKAccessToken) : FBSDKAccessToken where
  tokenString := refresh.tokenString.getD currentToken.tokenString
  permissions := (refresh.permissions.map Prod.fst).getD
    currentToken.permissions
  declinedPermissions := (refresh.permissions.map Prod.snd).getD
    currentToken.declinedPermissions
  userID := currentToken.userID
  expirationDate := match refresh.expirationDateNumber with
    | some number => if number > 0 then number else distantFuture
    | none => currentToken.expirationDate
  refreshDate := now
  dataAccessExpirationDate := match refresh.dataAccessExpirationDateNumber with
    | some number => if number > 0 then number else distantFuture
    | none => currentToken.dataAccessExpirationDate

/-- `expectingCallbackComplete` -/
def expectingCallbackComplete (now : Int) (id : RefreshId)
    (state : State) : State :=
  let refresh := state.refreshes id
  let count := refresh.expectingCallbacksCount - 1
  let counted : State :=
    { state with
      refreshes := Function.update state.refreshes id
        { refresh with expectingCallbacksCount := count } }
  if count = 0 then
    match state.currentAccessToken with
    | none => counted
    | some currentToken =>
        if refresh.expectedToken = currentToken.object then
          FBSDKAccessToken.setCurrentAccessToken
            (some (refreshedToken now refresh currentToken.toFBSDKAccessToken))
            counted
        else
          counted
  else
    counted

/-- The handler of the request that extends the token. -/
def extended (now : Int) (id : RefreshId) (body : Option Body)
    (state : State) : State :=
  expectingCallbackComplete now id
    { state with
      refreshes := Function.update state.refreshes id
        { state.refreshes id with
          tokenString := body.bind Body.access_token
          expirationDateNumber := body.bind Body.expires_at
          dataAccessExpirationDateNumber :=
            body.bind Body.data_access_expiration_time } }

/-- `extractPermissionsFromResponse:…`, for one status. -/
def extractPermissions (status : String) (body : Option Body) :
    Finset Text :=
  ((body.map Body.data).getD []).foldl
    (fun permissions permission =>
      if permission.2 = status then insert permission.1 permissions
      else permissions) ∅

/-- The handler of the request for the permissions. -/
def permitted (now : Int) (id : RefreshId) (body : Option Body)
    (error : Option NSError) (state : State) : State :=
  expectingCallbackComplete now id
    (if error.isNone then
      { state with
        refreshes := Function.update state.refreshes id
          { state.refreshes id with
            permissions := some (extractPermissions "granted" body,
              extractPermissions "declined" body) } }
    else
      state)

end FBSDKGraphRequestPiggybackManager

/-! ## Connections -/

namespace FBSDKGraphRequestConnection

open FBSDKGraphRequestPiggybackManager

/-- `start` -/
def start (requests : List FBSDKGraphRequestMetadata) (inputs : Inputs)
    (state : State) : Turn :=
  let added := addPiggybackRequests requests inputs state
  (added.2.1.await (.inFlight (requests ++ added.1)),
    .sent (requests ++ added.1) :: added.2.2)

/-- `_CreateExpiredAccessToken` of a token that has not expired yet -/
def createExpiredAccessToken (now : Int) (accessToken : FBSDKAccessToken) :
    FBSDKAccessToken :=
  { accessToken with
    expirationDate := now - 1
    refreshDate := now - 1
    dataAccessExpirationDate := now - 1 }

/-- The block `clearToken`; a token that has expired stays as it is. -/
def clearToken (errorSubcode : Int) (request : FBSDKGraphRequest)
    (now : Int) (state : State) : State :=
  if request.doNotInvalidateTokenOnError then
    state
  else if errorSubcode = 493 then
    match state.currentAccessToken with
    | none => state
    | some token =>
        if token.isExpired now then
          state
        else
          FBSDKAccessToken.setCurrentAccessToken
            (some (createExpiredAccessToken now token.toFBSDKAccessToken))
            state
  else
    FBSDKAccessToken.setCurrentAccessToken none state

/-- Whether a request was sent with the token that is current now. -/
def sentWithCurrentToken (request : FBSDKGraphRequest) (state : State) :
    Bool :=
  request.tokenString.isSome &&
    request.tokenString == state.currentTokenString

/-- `processResultBody:error:metadata:canNotifyDelegate:` with the block that
finishes.  A system account is long gone: renewing it fails at once, and the
block waits for a turn of the queue. -/
def processResultBody (inputs : Inputs) (body : Option Body)
    (error : Option NSError) (metadata : FBSDKGraphRequestMetadata)
    (finishAndInvokeCompletionHandler : State → Turn) (state : State) :
    Turn :=
  if sentWithCurrentToken metadata.request state then
    let errorCode := (error.bind NSError.graphErrorCode).getD 0
    let errorSubcode := (error.bind NSError.graphErrorSubcode).getD 0
    if errorCode = 190 ∨ errorCode = 102 then
      finishAndInvokeCompletionHandler
        (clearToken errorSubcode metadata.request inputs.now state)
    else if errorCode ≥ 200 ∧ errorCode < 300 then
      silent (state.await (.operation body error metadata))
    else
      finishAndInvokeCompletionHandler state
  else
    finishAndInvokeCompletionHandler state

/-- `invokeCompletionHandlerForConnection:withResults:error:` -/
def invokeCompletionHandler (inputs : Inputs) (body : Option Body)
    (error : Option NSError) : FBSDKGraphRequestHandler → State → Turn
  | .client id, state => (state, [.called id body error])
  | .extend id, state => silent (extended inputs.now id body state)
  | .permissions id, state =>
      silent (permitted inputs.now id body error state)
  | .serverConfiguration, state => silent state
  | .retried request completionHandler, state =>
      processResultBody inputs body error ⟨request, completionHandler⟩
        (invokeCompletionHandler inputs body error completionHandler) state

/-- Process a result and invoke the completion handler. -/
def process (inputs : Inputs) (body : Option Body) (error : Option NSError)
    (metadata : FBSDKGraphRequestMetadata) (state : State) : Turn :=
  processResultBody inputs body error metadata
    (invokeCompletionHandler inputs body error metadata.completionHandler)
    state

/-- The request that is sent once more, with the token that is current now;
of its flags it has only the one against another recovery. -/
def retryRequest (originalRequest : FBSDKGraphRequest) (state : State) :
    FBSDKGraphRequest where
  graphPath := originalRequest.graphPath
  tokenString := state.currentTokenString
  version := originalRequest.version
  hasAttachments := originalRequest.hasAttachments
  graphErrorRecoveryDisabled := true
  doNotInvalidateTokenOnError := false

/-- The request that is sent once more with the block that waits for it. -/
def retryMetadata (metadata : RecoveringMetadata) (state : State) :
    FBSDKGraphRequestMetadata where
  request := retryRequest metadata.request state
  completionHandler := .retried (retryRequest metadata.request state)
    metadata.completionHandler

/-- `processorDidAttemptRecovery:didRecover:error:` -/
def processorDidAttemptRecovery (inputs : Inputs) (didRecover : Bool)
    (error : Option NSError) (metadata : RecoveringMetadata)
    (state : State) : Turn :=
  if didRecover then
    start [retryMetadata metadata state] inputs state
  else
    process inputs none error metadata.toFBSDKGraphRequestMetadata state

/-- `FBSDKGraphErrorRecoveryProcessor.processError:request:delegate:`, and
whether it takes the request over. -/
def processError (inputs : Inputs) (error : NSError)
    (metadata : RecoveringMetadata) (state : State) : Bool × Turn :=
  match error.category with
  | .transient =>
      (true, processorDidAttemptRecovery inputs true none metadata state)
  | .recoverable =>
      if sentWithCurrentToken metadata.request state then
        match error.recoveryAttempter with
        | some attempter =>
            if error.recoveryOptions.isEmpty then
              (false, silent state)
            else
              (true, state.await (.alert metadata error attempter),
                [.presented (error.recoverySuggestion.getD "")])
        | none => (false, silent state)
      else
        (false, silent state)
  | .other =>
      if sentWithCurrentToken metadata.request state then
        match error.localizedDescription with
        | some message => (false, state, [.presented message])
        | none => (false, silent state)
      else
        (false, silent state)

/-- One turn of the loop of `completeWithResults:networkError:`. -/
def completeRequest (inputs : Inputs) (isSingleRequestToRecover : Bool)
    (metadata : FBSDKGraphRequestMetadata) (body : Option Body)
    (resultError : Option NSError) (state : State) : Turn :=
  match resultError with
  | none => process inputs body none metadata state
  | some error =>
      if recovers : metadata.request.graphErrorRecoveryDisabled = false ∧
          isSingleRequestToRecover then
        let processed := processError inputs error
          { metadata with recoverable := recovers.1 } state
        if processed.1 then
          processed.2
        else
          processed.2.andThen (process inputs none (some error) metadata)
      else
        process inputs none (some error) metadata state

/-- A request with its body or its error. -/
abbrev Outcome :=
  FBSDKGraphRequestMetadata × Option Body × Option NSError

/-- The body or the error of a result. -/
def outcome (configuration : FBSDKErrorConfiguration)
    (entry : FBSDKGraphRequestMetadata × Result) : Outcome :=
  match errorFromResult configuration entry.2 with
  | some error => (entry.1, none, some error)
  | none => (entry.1, entry.2.body, none)

/-- The body or the error of each request. -/
def outcomes (configuration : FBSDKErrorConfiguration)
    (requests : List FBSDKGraphRequestMetadata) (response : Response) :
    List Outcome :=
  match response.results requests.length with
  | .error networkError =>
      requests.map fun metadata => (metadata, none, some networkError)
  | .ok results => (requests.zip results).map (outcome configuration)

/-- The loop of `completeWithResults:networkError:` -/
def completeRequests (inputs : Inputs) (isSingleRequestToRecover : Bool) :
    List Outcome → State → Turn
  | [], state => silent state
  | (metadata, body, resultError) :: rest, state =>
      (completeRequest inputs isSingleRequestToRecover metadata body
        resultError state).andThen
          (completeRequests inputs isSingleRequestToRecover rest)

/-- `completeWithResults:networkError:` -/
def completeWithResults (inputs : Inputs)
    (requests : List FBSDKGraphRequestMetadata) (response : Response)
    (state : State) : Turn :=
  let recoverable := requests.countP fun metadata =>
    !metadata.request.graphErrorRecoveryDisabled
  completeRequests inputs (recoverable == 1)
    (outcomes state.errorConfiguration requests response) state

end FBSDKGraphRequestConnection

/-- `attemptRecoveryFromError:optionIndex:…` of an attempter, and what its
delegate does. -/
def FBSDKErrorRecoveryAttempter.attemptRecovery (inputs : Inputs)
    (metadata : RecoveringMetadata) (error : NSError)
    (optionIndex : Nat) (self : FBSDKErrorRecoveryAttempter)
    (state : State) : Turn :=
  match self with
  | .temporary =>
      FBSDKGraphRequestConnection.processorDidAttemptRecovery inputs true
        (some error) metadata state
  | .login =>
      if optionIndex = 0 ∧
          state.currentAccessToken.any
            (fun token => 0 < token.permissions.card) then
        silent (state.await (.login metadata error))
      else
        FBSDKGraphRequestConnection.processorDidAttemptRecovery inputs false
          (some error) metadata state

/-! ## Steps -/

/-- One step: a client starts a connection, something that is waited for
comes, or the current token and the error configuration are set from
elsewhere. -/
inductive Action where
  | start (requests : List (FBSDKGraphRequest × HandlerId))
      (inputs : Inputs)
  | respond (id : PendingId) (response : Response) (inputs : Inputs)
  | choose (id : PendingId) (optionIndex : Nat) (inputs : Inputs)
  | loginEnds (id : PendingId) (didRecover : Bool) (inputs : Inputs)
  | perform (id : PendingId) (inputs : Inputs)
  | setCurrentAccessToken (token : Option FBSDKAccessToken)
  | loadErrorConfiguration (configuration : FBSDKErrorConfiguration)

/-- The metadata of requests that a client adds. -/
def added (requests : List (FBSDKGraphRequest × HandlerId)) :
    List FBSDKGraphRequestMetadata :=
  requests.map fun request => ⟨request.1, .client request.2⟩

/-- What comes of something that has been waited for. -/
def Pending.come (pending : Pending) (id : PendingId) (action : Action)
    (state : State) : Option Turn :=
  match pending, action with
  | .inFlight requests, .respond _ response inputs =>
      some (FBSDKGraphRequestConnection.completeWithResults inputs requests
        response (state.resume id))
  | .alert metadata error attempter, .choose _ optionIndex inputs =>
      if optionIndex < error.recoveryOptions.length then
        some (attempter.attemptRecovery inputs metadata error optionIndex
          (state.resume id))
      else
        none
  | .login metadata error, .loginEnds _ didRecover inputs =>
      some (FBSDKGraphRequestConnection.processorDidAttemptRecovery inputs
        didRecover (some error) metadata (state.resume id))
  | .operation body error metadata, .perform _ inputs =>
      some (FBSDKGraphRequestConnection.invokeCompletionHandler inputs body
        error metadata.completionHandler (state.resume id))
  | _, _ => none

/-- What a step waits for. -/
def Action.pending? : Action → Option PendingId
  | .respond id _ _ | .choose id _ _ | .loginEnds id _ _ | .perform id _ =>
      some id
  | .start _ _ | .setCurrentAccessToken _ | .loadErrorConfiguration _ => none

/-- One step.  A connection without a request raises an exception, and so does
one with several requests in an app without an ID. -/
def step : PartialStep State Action Event := fun state action =>
  match action with
  | .start requests inputs =>
      if requests.isEmpty ∨ state.appID = "" ∧ 1 < requests.length then
        none
      else
        some (FBSDKGraphRequestConnection.start (added requests) inputs state)
  | .setCurrentAccessToken token =>
      some (silent (FBSDKAccessToken.setCurrentAccessToken token state))
  | .loadErrorConfiguration configuration =>
      some (silent { state with errorConfiguration := configuration })
  | action =>
      action.pending?.bind fun id =>
        (state.at? id).bind fun pending => pending.come id action state

/-- A new process that has found a token in the cache. -/
def launched (appID : String) (token : Option FBSDKAccessToken) :
    State where
  appID := appID
  graphAPIVersion := "v3.2"
  currentAccessToken := token.map fun token => { token with object := 0 }
  nextObject := 1
  lastRefreshTry := distantPast
  errorConfiguration := .initWithDictionary
  refreshes := fun _ =>
    { expectedToken := 0
      permissions := none
      tokenString := none
      expirationDateNumber := none
      dataAccessExpirationDateNumber := none
      expectingCallbacksCount := 0 }
  nextRefresh := 0
  pending := ∅
  nextPending := 0

end BandBPools.Graph
