import BandBPools.Facebook.LoginManager
import BandBPools.Tables.Total

/-!
# What a step of the login managers is made of

The functions of the SDK call each other, and one step can do several things:
a tap may cancel a login, take a new handler, store a challenge and fail at
once.  A step is taken apart here into moves, each of which changes one thing
that a login leaves behind.  What a move keeps, every step and every run keeps.
-/

namespace BandBPools.Facebook

open BandBPools.Tables
open BandBPools.Transition

/-- Counts the callback that validates a token. -/
def Callback.validations : Callback → Nat
  | .validateReauthentication _ _ _ => 1
  | _ => 0

/-- The number of validations that are waited for. -/
def FacebookSDK.validations (sdk : FacebookSDK) : Nat :=
  total Callback.validations sdk.callbacks

/-- Nothing has changed that a login leaves behind: the handlers, the tokens,
the challenge and the validations that are waited for. -/
structure Kept (before after : FacebookSDK) : Prop where
  bundleIdentifier : after.bundleIdentifier = before.bundleIdentifier
  handler : ∀ self,
    (after.managers self).handler = (before.managers self).handler
  accessToken : after.accessToken = before.accessToken
  nextHandler : after.nextHandler = before.nextHandler
  items : after.items = before.items
  cache : after.cache = before.cache
  validation : ∀ {id self currentToken loginResult},
    after.at? id =
        some (.validateReauthentication self currentToken loginResult) →
      before.at? id =
        some (.validateReauthentication self currentToken loginResult)
  validations : after.validations ≤ before.validations

/-- One move of a step that is taken from `origin`. -/
inductive Move (origin : FacebookSDK) (action : Action) :
    FacebookSDK → List Event → FacebookSDK → Prop where
  | kept {sdk next : FacebookSDK} (kept : Kept sdk next) :
      Move origin action sdk [] next
  | ignored (sdk : FacebookSDK) : Move origin action sdk [.ignored] sdk
  | dropped {sdk : FacebookSDK} {self : App.HomeId} {confirm : Bool}
      {inputs : Inputs} {handler : HandlerId}
      (pressed : action = .buttonPressed self confirm inputs)
      (performing :
        (origin.managers (.button self)).state ≠ .performingLogin)
      (held : (origin.managers (.button self)).handler = some handler)
      (still : (sdk.managers (.button self)).handler = some handler) :
      Move origin action sdk [.dropped handler]
        (sdk.modify (.button self) fun manager =>
          { manager with handler := none })
  | taken {sdk : FacebookSDK} {self : ManagerId}
      (permissions : Finset Bytes.Text)
      (free : (sdk.managers self).handler = none) :
      Move origin action sdk [.taken sdk.nextHandler]
        (FBSDKLoginManager.takeHandler self permissions sdk).1
  | issued (sdk : FacebookSDK) {attempt : Attempt}
      (given : attempt = action.inputs.first ∨
        attempt = action.inputs.second) :
      Move origin action sdk
        [.issued (FBSDKLoginManager.stringForChallenge attempt.random)]
        (FBSDKLoginManager.logInParameters attempt sdk).1
  | completed (sdk : FacebookSDK) (self : ManagerId) {outcome : Outcome}
      (tokenless : outcome.token? = none) :
      Move origin action sdk
        [.completed (sdk.managers self).handler outcome]
        (FBSDKLoginManager.invokeHandler self outcome sdk).1
  | authenticated (sdk : FacebookSDK)
      (parameters : FBSDKLoginCompletionParameters) :
      Move origin action sdk
        [.authenticated parameters.accessTokenString parameters.challenge
          (FBSDKLoginManager.challengePassed parameters action.inputs sdk)]
        (FBSDKLoginManager.storeExpectedChallenge
          action.inputs.first.refusals none sdk)
  | granted {sdk : FacebookSDK} (self : ManagerId)
      {parameters : FBSDKLoginCompletionParameters}
      {loginResult : FBSDKLoginManagerLoginResult} {token : FBSDKAccessToken}
      (passed : FBSDKLoginManager.challengePassed parameters action.inputs
        sdk = true)
      (brought : parameters.accessTokenString = some token.tokenString)
      (granted : loginResult.token = some token)
      (first : sdk.accessToken = none) :
      Move origin action sdk
        [.authenticated (some token.tokenString) parameters.challenge true,
          .completed (sdk.managers self).handler (.ok loginResult)]
        (FBSDKLoginManager.finishLogIn self loginResult action.inputs
          (FBSDKLoginManager.storeExpectedChallenge
            action.inputs.first.refusals none sdk)).1
  | validating {sdk : FacebookSDK} (self : ManagerId)
      {parameters : FBSDKLoginCompletionParameters}
      {loginResult : FBSDKLoginManagerLoginResult}
      {token currentToken : FBSDKAccessToken}
      (passed : FBSDKLoginManager.challengePassed parameters action.inputs
        sdk = true)
      (brought : parameters.accessTokenString = some token.tokenString)
      (granted : loginResult.token = some token)
      (current : sdk.accessToken = some currentToken) :
      Move origin action sdk
        [.authenticated (some token.tokenString) parameters.challenge true]
        (FBSDKLoginManager.validateReauthentication self currentToken
          loginResult
          (FBSDKLoginManager.storeExpectedChallenge
            action.inputs.first.refusals none sdk))
  | reauthenticated {id : CallbackId} {userID : String}
      {error : Option App.NSError} {inputs : Inputs} {self : ManagerId}
      {currentToken : FBSDKAccessToken}
      {loginResult : FBSDKLoginManagerLoginResult}
      (answered : action = .answer id (.me (some userID) error) inputs)
      (awaited : origin.at? id =
        some (.validateReauthentication self currentToken loginResult))
      (same : currentToken.userID = some userID) :
      Move origin action origin
        [.completed (origin.managers self).handler (.ok loginResult)]
        (FBSDKLoginManager.finishLogIn self loginResult action.inputs
          (origin.resume id)).1
  | loggedOut (sdk : FacebookSDK) :
      Move origin action sdk [.loggedOut]
        (FBSDKLoginManager.logOut action.inputs sdk).1
  | failed (sdk : FacebookSDK) (tokenString : Option String)
      (error : App.NSError) :
      Move origin action sdk [.failed tokenString error]
        (FBSDKGraphRequestConnection.processResultBody tokenString error
          action.inputs sdk)
  | expired (sdk : FacebookSDK) :
      Move origin action sdk [.expired]
        { sdk with
          accessToken := sdk.accessToken.map fun token =>
            { token with isExpired := true } }
  | refreshed (sdk : FacebookSDK)
      (refresh : FBSDKGraphRequestPiggybackManager.Refresh) :
      Move origin action sdk
        [.refreshed refresh.tokenString refresh.isExpired]
        (FBSDKGraphRequestPiggybackManager.expectingCallbackComplete refresh
          action.inputs sdk)
  | launched (sdk : FacebookSDK) (expired : Bool) :
      Move origin action sdk
        (FBSDKApplicationDelegate.launch expired action.inputs sdk).2
        (FBSDKApplicationDelegate.launch expired action.inputs sdk).1
  | reinstalled (sdk : FacebookSDK) :
      Move origin action sdk
        (FBSDKApplicationDelegate.launch false action.inputs
          sdk.reinstalled).2
        (FBSDKApplicationDelegate.launch false action.inputs
          sdk.reinstalled).1

/-! ## What the functions on the token change -/

/-- The token is changed, perhaps together with the cache, and nothing
else. -/
theorem setCurrentAccessToken_eq (token : Option FBSDKAccessToken)
    (inputs : Inputs) (sdk : FacebookSDK) :
    ∃ cache,
      FBSDKAccessToken.setCurrentAccessToken token inputs sdk =
        { sdk with accessToken := token, cache := cache } := by
  rw [FBSDKAccessToken.setCurrentAccessToken]
  split
  · next nothing =>
      refine ⟨sdk.cache, ?_⟩
      rw [nothing.1, ← nothing.2]
  · exact ⟨_, rfl⟩

theorem processResultBody_eq (tokenString : Option String)
    (error : App.NSError) (inputs : Inputs) (sdk : FacebookSDK) :
    ∃ token cache,
      FBSDKGraphRequestConnection.processResultBody tokenString error inputs
          sdk =
        { sdk with accessToken := token, cache := cache } := by
  rw [FBSDKGraphRequestConnection.processResultBody]
  split
  · split
    · exact ⟨_, setCurrentAccessToken_eq _ inputs sdk⟩
    · exact ⟨sdk.accessToken, sdk.cache, rfl⟩
  · exact ⟨sdk.accessToken, sdk.cache, rfl⟩

/-- A refresh changes the token, if there is one. -/
theorem expectingCallbackComplete_eq
    (refresh : FBSDKGraphRequestPiggybackManager.Refresh) (inputs : Inputs)
    (sdk : FacebookSDK) :
    ∃ cache,
      FBSDKGraphRequestPiggybackManager.expectingCallbackComplete refresh
          inputs sdk =
        { sdk with
          accessToken := sdk.accessToken.map
            (FBSDKGraphRequestPiggybackManager.refreshedToken refresh)
          cache := cache } := by
  rw [FBSDKGraphRequestPiggybackManager.expectingCallbackComplete]
  split
  · next currentToken current =>
      rw [current]
      exact setCurrentAccessToken_eq _ inputs sdk
  · next missing =>
      refine ⟨sdk.cache, ?_⟩
      rw [missing, Option.map_none, ← missing]

/-- A manager that has called its handler. -/
def FBSDKLoginManager.settled (manager : FBSDKLoginManager) :
    FBSDKLoginManager :=
  { manager with state := .idle, handler := none }

theorem finishLogIn_fst (self : ManagerId)
    (loginResult : FBSDKLoginManagerLoginResult) (inputs : Inputs)
    (sdk : FacebookSDK) :
    ∃ cache,
      (FBSDKLoginManager.finishLogIn self loginResult inputs sdk).1 =
        FacebookSDK.modify self FBSDKLoginManager.settled
          { sdk with
            accessToken := loginResult.token.or sdk.accessToken
            cache := cache } := by
  cases brought : loginResult.token with
  | none =>
      refine ⟨sdk.cache, ?_⟩
      rw [FBSDKLoginManager.finishLogIn, brought]
      rfl
  | some token =>
      rcases setCurrentAccessToken_eq (some token) inputs sdk with
        ⟨cache, set⟩
      refine ⟨cache, ?_⟩
      rw [FBSDKLoginManager.finishLogIn, brought, if_pos Option.isSome_some,
        set]
      rfl

theorem finishLogIn_snd (self : ManagerId)
    (loginResult : FBSDKLoginManagerLoginResult) (inputs : Inputs)
    (sdk : FacebookSDK) :
    (FBSDKLoginManager.finishLogIn self loginResult inputs sdk).2 =
      [.completed (sdk.managers self).handler (.ok loginResult)] := by
  rw [FBSDKLoginManager.finishLogIn]
  split
  · rcases setCurrentAccessToken_eq loginResult.token inputs sdk with
      ⟨cache, set⟩
    rw [set]
    rfl
  · rfl

/-- A process starts with fresh managers and waits for nothing. -/
theorem launch_eq (expired : Bool) (inputs : Inputs) (sdk : FacebookSDK) :
    ∃ cachedToken cache,
      FBSDKApplicationDelegate.launch expired inputs sdk =
        ({ sdk with
            managers := fun _ => .init
            delegate := .init
            accessToken := cachedToken
            callbacks := ∅
            cache := cache },
          [.launched cachedToken]) := by
  rw [FBSDKApplicationDelegate.launch]
  generalize (sdk.cache.accessToken inputs.tokenRefusals).1.map _ = cached
  rcases setCurrentAccessToken_eq cached inputs _ with ⟨cache, set⟩
  refine ⟨cached, cache, ?_⟩
  rw [set]

/-- A turn that is made of moves. -/
def Moves (origin : FacebookSDK) (action : Action) (sdk : FacebookSDK)
    (turn : Turn) : Prop :=
  Trace (Move origin action) sdk turn.2 turn.1

/-! ## What is kept -/

theorem Kept.refl (sdk : FacebookSDK) : Kept sdk sdk where
  bundleIdentifier := rfl
  handler := fun _ => rfl
  accessToken := rfl
  nextHandler := rfl
  items := rfl
  cache := rfl
  validation := fun awaited => awaited
  validations := Nat.le_refl _

theorem Kept.trans {first second third : FacebookSDK}
    (former : Kept first second) (latter : Kept second third) :
    Kept first third where
  bundleIdentifier := latter.bundleIdentifier.trans former.bundleIdentifier
  handler := fun self =>
    (latter.handler self).trans (former.handler self)
  accessToken := latter.accessToken.trans former.accessToken
  nextHandler := latter.nextHandler.trans former.nextHandler
  items := latter.items.trans former.items
  cache := latter.cache.trans former.cache
  validation := fun awaited => former.validation (latter.validation awaited)
  validations := latter.validations.trans former.validations

theorem kept_delegate (sdk : FacebookSDK)
    (delegate : FBSDKApplicationDelegate) :
    Kept sdk { sdk with delegate := delegate } where
  bundleIdentifier := rfl
  handler := fun _ => rfl
  accessToken := rfl
  nextHandler := rfl
  items := rfl
  cache := rfl
  validation := fun awaited => awaited
  validations := Nat.le_refl _

/-- A manager that keeps its handler. -/
theorem kept_modify (sdk : FacebookSDK) (self : ManagerId)
    {change : FBSDKLoginManager → FBSDKLoginManager}
    (keeps : ∀ manager, (change manager).handler = manager.handler) :
    Kept sdk (sdk.modify self change) where
  bundleIdentifier := rfl
  handler := by
    intro other
    by_cases same : other = self
    · subst other
      simp [FacebookSDK.modify, keeps]
    · simp [FacebookSDK.modify, same]
  accessToken := rfl
  nextHandler := rfl
  items := rfl
  cache := rfl
  validation := fun awaited => awaited
  validations := Nat.le_refl _

theorem at?_await (sdk : FacebookSDK) (callback : Callback)
    (id : CallbackId) :
    (sdk.await callback).at? id =
      if id = sdk.nextCallback then some callback else sdk.at? id := by
  rw [FacebookSDK.at?, FacebookSDK.await]
  split
  · next same =>
      subst id
      exact AList.lookup_insert sdk.callbacks
  · next other => exact AList.lookup_insert_ne other

theorem at?_resume (sdk : FacebookSDK) (id other : CallbackId) :
    (sdk.resume id).at? other =
      if other = id then none else sdk.at? other := by
  rw [FacebookSDK.at?, FacebookSDK.resume]
  split
  · next same =>
      subst other
      exact AList.lookup_erase _ _
  · next different => exact AList.lookup_erase_ne different

/-- A validation that is answered is waited for no more. -/
theorem validations_resume {sdk : FacebookSDK} {id : CallbackId}
    {self : ManagerId} {currentToken : FBSDKAccessToken}
    {loginResult : FBSDKLoginManagerLoginResult}
    (awaited : sdk.at? id =
      some (.validateReauthentication self currentToken loginResult)) :
    (sdk.resume id).validations + 1 = sdk.validations :=
  total_erase Callback.validations awaited

theorem kept_resume (sdk : FacebookSDK) (id : CallbackId) :
    Kept sdk (sdk.resume id) where
  bundleIdentifier := rfl
  handler := fun _ => rfl
  accessToken := rfl
  nextHandler := rfl
  items := rfl
  cache := rfl
  validation := by
    intro other self currentToken loginResult awaited
    rw [at?_resume] at awaited
    split at awaited
    · cases awaited
    · exact awaited
  validations := total_erase_le Callback.validations sdk.callbacks id

/-- A callback that is not a validation. -/
theorem kept_await (sdk : FacebookSDK) {callback : Callback}
    (plain : callback.validations = 0) :
    Kept sdk (sdk.await callback) where
  bundleIdentifier := rfl
  handler := fun _ => rfl
  accessToken := rfl
  nextHandler := rfl
  items := rfl
  cache := rfl
  validation := by
    intro id self currentToken loginResult awaited
    rw [at?_await] at awaited
    split at awaited
    · next same =>
        rw [Option.some.inj awaited] at plain
        cases plain
    · exact awaited
  validations := by
    have added := total_insert_le Callback.validations sdk.callbacks
      sdk.nextCallback callback
    rw [plain] at added
    exact added

theorem kept_openURL (sdk : FacebookSDK) (self : ManagerId)
    (behavior : FBSDKLoginBehavior) :
    Kept sdk (FBSDKApplicationDelegate.openURL self behavior sdk) := by
  apply (kept_delegate sdk _).trans
  exact kept_await _ rfl

theorem kept_openURLWithSafariViewController (sdk : FacebookSDK)
    (self : ManagerId) :
    Kept sdk
      (FBSDKApplicationDelegate.openURLWithSafariViewController self
        sdk) := by
  apply (kept_delegate sdk _).trans
  exact kept_await _ rfl

/-! ## What the functions are made of -/

section Functions

variable {origin : FacebookSDK} {action : Action}

theorem moves_silent {sdk next : FacebookSDK} (kept : Kept sdk next) :
    Moves origin action sdk (silent next) :=
  .single (.kept kept)

theorem Moves.andThen {sdk : FacebookSDK} {turn : Turn}
    {later : FacebookSDK → Turn} (first : Moves origin action sdk turn)
    (second : Moves origin action turn.1 (later turn.1)) :
    Moves origin action sdk (turn.andThen later) :=
  Trace.trans first second

/-- Work that starts after something has been kept. -/
theorem Moves.after {sdk middle : FacebookSDK} {turn : Turn}
    (kept : Kept sdk middle) (moves : Moves origin action middle turn) :
    Moves origin action sdk turn := by
  have first : Trace (Move origin action) sdk [] middle :=
    .single (.kept kept)
  exact first.trans moves

open FBSDKLoginManager

theorem moves_invokeHandler (sdk : FacebookSDK) (self : ManagerId)
    {outcome : Outcome} (tokenless : outcome.token? = none) :
    Moves origin action sdk (invokeHandler self outcome sdk) :=
  .single (.completed sdk self tokenless)

theorem moves_handleImplicitCancelOfLogIn (sdk : FacebookSDK)
    (self : ManagerId) :
    Moves origin action sdk (handleImplicitCancelOfLogIn self sdk) :=
  moves_invokeHandler sdk self rfl

theorem moves_completion (sdk : FacebookSDK) (self : ManagerId)
    (didPerformLogIn : Bool) (error : Option OpenError) :
    Moves origin action sdk
      (completion self didPerformLogIn error sdk) := by
  cases didPerformLogIn with
  | true => exact moves_silent (kept_modify sdk self fun _ => rfl)
  | false =>
      cases error with
      | none => exact moves_invokeHandler sdk self rfl
      | some error =>
          cases error with
          | cancelled => exact moves_handleImplicitCancelOfLogIn sdk self
          | other error => exact moves_invokeHandler sdk self rfl

theorem moves_applicationDidBecomeActive_manager (sdk : FacebookSDK)
    (self : ManagerId) :
    Moves origin action sdk
      (FBSDKLoginManager.applicationDidBecomeActive self sdk) := by
  rw [FBSDKLoginManager.applicationDidBecomeActive]
  split
  · exact moves_handleImplicitCancelOfLogIn sdk self
  · exact moves_silent (.refl sdk)

theorem moves_performBrowserLogIn (sdk : FacebookSDK) (self : ManagerId)
    (inputs : Inputs) :
    Moves origin action sdk (performBrowserLogIn self inputs sdk) := by
  rw [performBrowserLogIn]
  split
  · split
    · apply moves_silent
      apply Kept.trans (kept_modify sdk self _)
      · exact kept_openURLWithSafariViewController _ self
      · exact fun _ => rfl
    · exact moves_silent (kept_openURL sdk self .browser)
  · exact moves_completion sdk self false _

theorem moves_startLogIn (sdk : FacebookSDK) (self : ManagerId)
    {attempt : Attempt}
    (given : attempt = action.inputs.first ∨
      attempt = action.inputs.second) :
    Moves origin action sdk (startLogIn self attempt sdk) := by
  apply Moves.andThen
  · exact .single (.issued sdk given)
  · exact moves_silent (kept_modify _ self fun _ => rfl)

theorem moves_logInWithBehavior (sdk : FacebookSDK) (self : ManagerId)
    (behavior : FBSDKLoginBehavior) :
    Moves origin action sdk
      (logInWithBehavior self behavior action.inputs sdk) := by
  apply Moves.andThen (moves_startLogIn sdk self (Or.inl rfl))
  cases behavior with
  | native =>
      dsimp only
      split
      · split
        · exact moves_silent (kept_openURL _ self .native)
        · apply Moves.andThen (moves_startLogIn _ self (Or.inr rfl))
          exact moves_performBrowserLogIn _ self _
      · exact moves_performBrowserLogIn _ self _
  | browser => exact moves_performBrowserLogIn _ self _

/-- A login that starts while no handler is held. -/
theorem moves_logInWithPermissions_of_free {sdk : FacebookSDK}
    {self : ManagerId} (permissions : Finset Bytes.Text)
    (free : (sdk.managers self).handler = none) :
    Moves origin action sdk
      (logInWithPermissions self permissions action.inputs sdk) := by
  apply Moves.andThen
  · rw [dropHandler, free]
    apply Moves.andThen (moves_silent (.refl sdk))
    exact .single (.taken permissions free)
  · exact moves_logInWithBehavior _ self .native

/-- A login that starts while a handler may be held, in a step that has not
called it. -/
theorem moves_logInWithPermissions {sdk : FacebookSDK} {self : App.HomeId}
    {confirm : Bool} {inputs : Inputs} (permissions : Finset Bytes.Text)
    (pressed : action = .buttonPressed self confirm inputs)
    (performing :
      (origin.managers (.button self)).state ≠ .performingLogin)
    (same : (sdk.managers (.button self)).handler =
      (origin.managers (.button self)).handler) :
    Moves origin action sdk
      (logInWithPermissions (.button self) permissions action.inputs
        sdk) := by
  cases held : (sdk.managers (.button self)).handler with
  | none => exact moves_logInWithPermissions_of_free permissions held
  | some handler =>
      apply Moves.andThen
      · rw [dropHandler, held]
        apply Moves.andThen
        · exact .single (.dropped pressed performing (same ▸ held) held)
        · apply Trace.single
          apply Move.taken permissions
          simp [FacebookSDK.modify]
      · exact moves_logInWithBehavior _ _ .native

theorem moves_logInWithReadPermissions {self : App.HomeId} {confirm : Bool}
    {inputs : Inputs} (permissions : Finset Bytes.Text)
    (pressed : action = .buttonPressed self confirm inputs) :
    Moves origin action origin
      (logInWithReadPermissions (.button self) permissions action.inputs
        origin) := by
  rw [logInWithReadPermissions, validateLoginStartState]
  cases state : (origin.managers (.button self)).state with
  | start =>
      have performing : (origin.managers (.button self)).state ≠
          .performingLogin := by simp [state]
      dsimp only
      split
      · next refused =>
          exact .single (.ignored origin)
      · next validated started =>
          split at started
          · cases started
            apply Moves.andThen (moves_silent (.refl origin))
            exact moves_logInWithPermissions permissions pressed performing
              rfl
          · cases started
  | performingLogin =>
      apply Moves.andThen
      · exact moves_handleImplicitCancelOfLogIn origin _
      · apply moves_logInWithPermissions_of_free
        simp [handleImplicitCancelOfLogIn, invokeHandler,
          FacebookSDK.modify]
  | idle =>
      have performing : (origin.managers (.button self)).state ≠
          .performingLogin := by simp [state]
      apply Moves.andThen
      · exact moves_silent (kept_modify origin _ fun _ => rfl)
      · apply moves_logInWithPermissions permissions pressed performing
        simp [silent, FacebookSDK.modify]

theorem moves_logOut (sdk : FacebookSDK) :
    Moves origin action sdk (logOut action.inputs sdk) :=
  .single (.loggedOut sdk)

theorem moves_buttonPressed {self : App.HomeId} {confirm : Bool}
    {inputs : Inputs}
    (pressed : action = .buttonPressed self confirm inputs) :
    Moves origin action origin
      (FBSDKLoginButton.buttonPressed self confirm action.inputs
        origin) := by
  rw [FBSDKLoginButton.buttonPressed]
  split
  · split
    · exact (moves_logOut origin).andThen (moves_logOut _)
    · exact moves_silent (.refl origin)
  · exact moves_logInWithReadPermissions _ pressed

theorem moves_attemptRecovery {sdk : FacebookSDK} {number : Nat}
    (recoveryOptionIndex : Nat)
    (unused : sdk.managers (.recovery number) = .init) :
    Moves origin action sdk
      (FBSDKLoginRecoveryAttempter.attemptRecovery number recoveryOptionIndex
        action.inputs sdk) := by
  rw [FBSDKLoginRecoveryAttempter.attemptRecovery]
  split
  · apply moves_logInWithPermissions_of_free
    rw [unused]
    rfl
  · exact moves_silent (.refl sdk)

/-! ## Authentication -/

/-- How an authentication ends: without a token, with a new token, or with a
token that has to be validated because there is one already. -/
inductive Concluded (self : ManagerId)
    (parameters : FBSDKLoginCompletionParameters) (passed : Bool)
    (inputs : Inputs) (sdk : FacebookSDK) : Turn → Prop where
  | completed {outcome : Outcome} (tokenless : outcome.token? = none) :
      Concluded self parameters passed inputs sdk
        (invokeHandler self outcome sdk)
  | granted {loginResult : FBSDKLoginManagerLoginResult}
      {token : FBSDKAccessToken} (accepted : passed = true)
      (brought : parameters.accessTokenString = some token.tokenString)
      (granted : loginResult.token = some token)
      (first : sdk.accessToken = none) :
      Concluded self parameters passed inputs sdk
        (finishLogIn self loginResult inputs sdk)
  | validating {loginResult : FBSDKLoginManagerLoginResult}
      {token currentToken : FBSDKAccessToken} (accepted : passed = true)
      (brought : parameters.accessTokenString = some token.tokenString)
      (granted : loginResult.token = some token)
      (current : sdk.accessToken = some currentToken) :
      Concluded self parameters passed inputs sdk
        (silent (validateReauthentication self currentToken loginResult
          sdk))

theorem concluded_fruitless (self : ManagerId)
    (parameters : FBSDKLoginCompletionParameters) (passed : Bool)
    (inputs : Inputs) (sdk : FacebookSDK) :
    Concluded self parameters passed inputs sdk
      (finishLogIn self (fruitlessResult self parameters sdk) inputs
        sdk) := by
  rw [finishLogIn]
  exact .completed rfl

theorem concludeAuthentication_cases (self : ManagerId)
    (parameters : FBSDKLoginCompletionParameters) (passed : Bool)
    (inputs : Inputs) (sdk : FacebookSDK) :
    Concluded self parameters passed inputs sdk
      (concludeAuthentication self parameters passed inputs sdk) := by
  rw [concludeAuthentication]
  split
  · exact .completed rfl
  · next unharmed =>
      split
      · exact concluded_fruitless self parameters passed inputs sdk
      · next tokenString brought =>
          -- a token without the challenge would have been an error
          have accepted : passed = true := by
            cases passed with
            | true => rfl
            | false => simp [authenticationError?, brought] at unharmed
          dsimp only
          split
          · exact concluded_fruitless self parameters passed inputs sdk
          · split
            · next currentToken current =>
                exact .validating accepted brought rfl current
            · next first => exact .granted accepted brought rfl first

theorem moves_completeAuthentication (sdk : FacebookSDK) (self : ManagerId)
    (parameters : FBSDKLoginCompletionParameters) :
    Moves origin action sdk
      (completeAuthentication self parameters action.inputs sdk) := by
  rw [completeAuthentication]
  generalize check : challengePassed parameters action.inputs sdk = passed
  have checked : Moves origin action sdk
      (storeExpectedChallenge action.inputs.first.refusals none sdk,
        [.authenticated parameters.accessTokenString parameters.challenge
          passed]) := by
    rw [← check]
    exact .single (.authenticated sdk parameters)
  have concluded := concludeAuthentication_cases self parameters passed
    action.inputs
    (storeExpectedChallenge action.inputs.first.refusals none sdk)
  generalize ended : concludeAuthentication self parameters passed
    action.inputs
    (storeExpectedChallenge action.inputs.first.refusals none sdk) = turn
    at concluded
  dsimp only [Turn.andThen]
  rw [ended]
  cases concluded with
  | completed tokenless =>
      exact Trace.trans checked (moves_invokeHandler _ self tokenless)
  | granted accepted brought granted first =>
      rw [accepted] at check
      rw [accepted, brought, finishLogIn_snd]
      exact .single (.granted self check brought granted first)
  | validating accepted brought granted current =>
      rw [accepted] at check
      rw [accepted, brought]
      exact .single (.validating self check brought granted current)

theorem moves_completeLogIn (sdk : FacebookSDK) (self : ManagerId)
    (completer : FBSDKLoginURLCompleter) :
    Moves origin action sdk
      (completeLogIn self completer action.inputs sdk) := by
  rw [completeLogIn]
  split
  · split
    · exact moves_logInWithBehavior sdk self .browser
    · apply moves_silent
      exact kept_await _ rfl
  · split
    · apply moves_silent
      exact kept_await _ rfl
    · exact moves_completeAuthentication sdk self _

theorem moves_openURL (sdk : FacebookSDK) (self : ManagerId)
    (url : Option OpenedURL) (sourceApplication : Option String) :
    Moves origin action sdk
      (FBSDKLoginManager.openURL self url sourceApplication action.inputs
        sdk) := by
  rw [FBSDKLoginManager.openURL]
  split
  · exact moves_completeLogIn sdk self _
  · split
    · exact moves_handleImplicitCancelOfLogIn sdk self
    · exact moves_silent (.refl sdk)

/-! ## What reaches the SDK -/

theorem moves_applicationOpenURL (sdk : FacebookSDK)
    (url : Option OpenedURL) (sourceApplication : Option String) :
    Moves origin action sdk
      (FBSDKApplicationDelegate.applicationOpenURL url sourceApplication
        action.inputs sdk) := by
  rw [FBSDKApplicationDelegate.applicationOpenURL]
  split
  · next self pending =>
      apply Moves.after (kept_delegate sdk _)
      exact moves_openURL _ self url sourceApplication
  · exact moves_silent (kept_delegate sdk _)

theorem moves_authenticationSessionCompletion (sdk : FacebookSDK)
    (self : ManagerId) (url : Option OpenedURL)
    (error : Option OpenError) :
    Moves origin action sdk
      (FBSDKApplicationDelegate.authenticationSessionCompletion self url
        error action.inputs sdk) := by
  apply Moves.andThen
  · apply Moves.andThen
    · apply Moves.after (kept_delegate sdk _)
      exact moves_completion _ self _ error
    · dsimp only
      split
      · exact moves_applicationOpenURL _ url _
      · exact moves_silent (.refl _)
  · exact moves_silent (kept_delegate _ _)

theorem moves_activate (sdk : FacebookSDK) :
    Moves origin action sdk (FBSDKApplicationDelegate.activate sdk) := by
  rw [FBSDKApplicationDelegate.activate]
  split
  · exact moves_silent (.refl sdk)
  · split
    · apply Moves.after (kept_delegate sdk _)
      exact moves_applicationDidBecomeActive_manager _ _
    · exact moves_silent (kept_delegate sdk _)

theorem moves_applicationDidBecomeActive (sdk : FacebookSDK) :
    Moves origin action sdk
      (FBSDKApplicationDelegate.applicationDidBecomeActive action.inputs
        sdk) := by
  rw [FBSDKApplicationDelegate.applicationDidBecomeActive]
  split
  · exact moves_silent (.refl sdk)
  · split
    · apply Moves.andThen
      · exact moves_authenticationSessionCompletion sdk _ none none
      · exact moves_activate _
    · exact moves_activate sdk

theorem moves_didFinishLaunching (sdk : FacebookSDK)
    (launchedURL : Option (OpenedURL × String)) (expired : Bool) :
    Moves origin action sdk
      (FBSDKApplicationDelegate.didFinishLaunching launchedURL expired
        action.inputs sdk) := by
  apply Moves.andThen
  · exact .single (.launched sdk expired)
  · split
    · exact moves_openURL _ .launched _ _
    · exact moves_silent (.refl _)

/-- A callback that is waited for is run. -/
theorem moves_run {id : CallbackId} {callback : Callback} {answer : Answer}
    {inputs : Inputs} {turn : Turn}
    (answered : action = .answer id answer inputs)
    (awaited : origin.at? id = some callback)
    (ran : callback.run answer action.inputs (origin.resume id) =
      some turn) :
    Moves origin action origin turn := by
  have resumed := kept_resume origin id
  cases callback with
  | openURL self behavior =>
      cases behavior with
      | native =>
          cases answer with
          | opened success =>
              cases ran
              apply Moves.after resumed
              cases success with
              | true => exact moves_completion _ self true none
              | false => exact moves_logInWithBehavior _ self .browser
          | _ => cases ran
      | browser =>
          cases answer with
          | opened success =>
              cases ran
              exact Moves.after resumed
                (moves_completion _ self success none)
          | _ => cases ran
  | authenticationSession self =>
      cases answer with
      | session url error =>
          cases ran
          exact Moves.after resumed
            (moves_authenticationSessionCompletion _ self url error)
      | _ => cases ran
  | attemptBrowserLogIn self =>
      cases answer with
      | attempt =>
          cases ran
          apply Moves.after resumed
          split
          · exact moves_logInWithBehavior _ self .browser
          · apply moves_silent
            exact kept_await _ rfl
      | _ => cases ran
  | requestMeAndPermissions self parameters =>
      cases answer with
      | meAndPermissions userID idError granted declined permissionsError =>
          cases ran
          exact Moves.after resumed (moves_completeAuthentication _ self _)
      | _ => cases ran
  | validateReauthentication self currentToken loginResult =>
      cases answer with
      | me userID error =>
          cases ran
          rw [reauthenticated]
          split
          · next same =>
              rcases (Option.any_eq_true _ _).mp same with
                ⟨user, current, named⟩
              rw [of_decide_eq_true named] at answered
              rw [Moves, finishLogIn_snd]
              exact .single (.reauthenticated answered awaited current)
          · exact Moves.after resumed (moves_invokeHandler _ self rfl)
      | _ => cases ran

end Functions

/-- Every step is made of moves. -/
theorem moves_of_step {sdk : FacebookSDK} {action : Action} {turn : Turn}
    (taken : step sdk action = some turn) : Moves sdk action sdk turn := by
  cases action with
  | launch launchedURL expired inputs =>
      cases taken
      exact moves_didFinishLaunching sdk launchedURL expired
  | reinstall inputs =>
      cases taken
      exact .single (.reinstalled sdk)
  | buttonPressed self confirm inputs =>
      cases taken
      exact moves_buttonPressed rfl
  | openURL url sourceApplication inputs =>
      cases taken
      exact moves_applicationOpenURL sdk (some url) sourceApplication
  | didBecomeActive inputs =>
      cases taken
      exact moves_applicationDidBecomeActive sdk
  | didEnterBackground inputs =>
      cases taken
      exact moves_silent (kept_delegate sdk _)
  | answer id answer inputs =>
      rcases Option.bind_eq_some_iff.mp taken with ⟨callback, awaited, ran⟩
      exact moves_run rfl awaited ran
  | logOut inputs =>
      cases taken
      exact moves_logOut sdk
  | graphError tokenString error inputs =>
      cases taken
      exact .single (.failed sdk tokenString error)
  | attemptRecovery number recoveryOptionIndex inputs =>
      rw [step] at taken
      split at taken
      · next unused =>
          cases taken
          exact moves_attemptRecovery recoveryOptionIndex unused
      · cases taken
  | tokenExpires inputs =>
      cases taken
      exact .single (.expired sdk)
  | tokenRefreshed refresh inputs =>
      cases taken
      exact .single (.refreshed sdk refresh)

/-- A move of some step that meets a condition. -/
def AnyMove (condition : FacebookSDK → Action → Prop)
    (before : FacebookSDK) (events : List Event) (after : FacebookSDK) :
    Prop :=
  ∃ origin action, condition origin action ∧
    Move origin action before events after

/-- Every run is made of moves. -/
theorem moves_of_run {condition : FacebookSDK → Action → Prop}
    {source target : FacebookSDK} {actions : List Action}
    {events : List Event}
    (run : RunUnder step condition source actions events target) :
    Trace (AnyMove condition) source events target := by
  induction run with
  | refl => exact .refl
  | @snoc actions events middle action observed target run meets taken
      induction =>
      apply induction.trans
      exact Trace.mono
        (fun before observed after move => ⟨middle, action, meets, move⟩)
        (moves_of_step taken)

end BandBPools.Facebook
