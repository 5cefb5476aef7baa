import BandBPools.Facebook.LoginChallenge

/-!
# The current token over whole runs

The token changes with what is observed: with the results of logins, with
logouts, with Graph errors, with time, with the refreshes that are sent along
and with the cache when a process starts.  What each of them does is what the
model of the app says, which has no refreshes.

As long as nobody logs out, no login makes the token of somebody else the
current one: a token that would replace another is validated first.  What is
still validated from an earlier session is no part of this.  And after
a logout there is no token until a new login has been started, however often
the app is launched again and whatever the keychain refuses.
-/

namespace BandBPools.Facebook

open BandBPools.App (AccessToken)
open BandBPools.Transition

/-- The token that the app sees. -/
def FacebookSDK.shownToken (sdk : FacebookSDK) : Option AccessToken :=
  sdk.accessToken.map FBSDKAccessToken.toAccessToken

/-! ## The token as the app sees it -/

/-- What the model of the app makes of the token. -/
def Event.tokenAfter (token : Option AccessToken) :
    Event → Option AccessToken
  | .completed _ outcome =>
      App.FBSDKLoginManager.completeAuthentication
        (outcome.toOption.map FBSDKLoginManagerLoginResult.shown) token
  | .loggedOut => none
  | .expired => token.map fun token => { token with isExpired := true }
  | .failed tokenString error =>
      App.FBSDKGraphRequestConnection.processResultBody tokenString
        (some error) token
  | .refreshed tokenString isExpired => token.map fun token =>
      { tokenString := tokenString.getD token.tokenString
        isExpired := isExpired.getD token.isExpired }
  | .launched cached => cached.map FBSDKAccessToken.toAccessToken
  | .ignored | .taken _ | .dropped _ | .issued _ | .authenticated _ _ _ =>
      token

theorem completeAuthentication_outcome (outcome : Outcome)
    (token : Option AccessToken) :
    App.FBSDKLoginManager.completeAuthentication
        (outcome.toOption.map FBSDKLoginManagerLoginResult.shown) token =
      (outcome.token?.map FBSDKAccessToken.toAccessToken).or token := by
  cases outcome with
  | error error => rfl
  | ok loginResult => rfl

theorem shownToken_finishLogIn (self : ManagerId)
    (loginResult : FBSDKLoginManagerLoginResult) (inputs : Inputs)
    (sdk : FacebookSDK) :
    (FBSDKLoginManager.finishLogIn self loginResult inputs
        sdk).1.shownToken =
      App.FBSDKLoginManager.completeAuthentication
        (some loginResult.shown) sdk.shownToken := by
  rcases finishLogIn_fst self loginResult inputs sdk with ⟨cache, finished⟩
  rw [finished]
  change (loginResult.token.or sdk.accessToken).map _ =
    (loginResult.token.map _).or (sdk.accessToken.map _)
  cases loginResult.token with
  | none => rfl
  | some token => rfl

theorem shownToken_processResultBody (tokenString : Option String)
    (error : App.NSError) (inputs : Inputs) (sdk : FacebookSDK) :
    (FBSDKGraphRequestConnection.processResultBody tokenString error inputs
        sdk).shownToken =
      App.FBSDKGraphRequestConnection.processResultBody tokenString
        (some error) sdk.shownToken := by
  cases current : sdk.accessToken with
  | none =>
      simp [FBSDKGraphRequestConnection.processResultBody,
        App.FBSDKGraphRequestConnection.processResultBody,
        FacebookSDK.shownToken, current]
  | some token =>
      have shown : sdk.shownToken = some token.toAccessToken := by
        rw [FacebookSDK.shownToken, current]
        rfl
      rw [shown]
      simp only [FBSDKGraphRequestConnection.processResultBody,
        App.FBSDKGraphRequestConnection.processResultBody, current]
      split
      · rcases setCurrentAccessToken_eq
          (if error.subcode == 493 then some { token with isExpired := true }
          else none) inputs sdk with ⟨cache, set⟩
        rw [set, FacebookSDK.shownToken]
        split
        · rfl
        · rfl
      · exact shown

theorem shownToken_launch (expired : Bool) (inputs : Inputs)
    (sdk : FacebookSDK) (token : Option AccessToken) :
    (FBSDKApplicationDelegate.launch expired inputs sdk).1.shownToken =
      (FBSDKApplicationDelegate.launch expired inputs sdk).2.foldl
        Event.tokenAfter token := by
  rcases launch_eq expired inputs sdk with ⟨cachedToken, cache, started⟩
  rw [started]
  rfl

theorem shownToken_refreshed
    (refresh : FBSDKGraphRequestPiggybackManager.Refresh) (inputs : Inputs)
    (sdk : FacebookSDK) :
    (FBSDKGraphRequestPiggybackManager.expectingCallbackComplete refresh
        inputs sdk).shownToken =
      Event.tokenAfter sdk.shownToken
        (.refreshed refresh.tokenString refresh.isExpired) := by
  rcases expectingCallbackComplete_eq refresh inputs sdk with
    ⟨cache, refreshed⟩
  rw [refreshed]
  change (sdk.accessToken.map _).map _ = (sdk.accessToken.map _).map _
  cases sdk.accessToken with
  | none => rfl
  | some token => rfl

theorem shownToken_of_move {origin before after : FacebookSDK}
    {action : Action} {events : List Event}
    (move : Move origin action before events after) :
    after.shownToken = events.foldl Event.tokenAfter before.shownToken := by
  cases move with
  | kept kept =>
      rw [FacebookSDK.shownToken, kept.accessToken]
      rfl
  | completed _ self tokenless =>
      rw [List.foldl_cons, List.foldl_nil, Event.tokenAfter,
        completeAuthentication_outcome, tokenless]
      rfl
  | granted self passed brought granted first =>
      exact shownToken_finishLogIn self _ _ _
  | reauthenticated answered awaited same =>
      exact shownToken_finishLogIn _ _ _ _
  | loggedOut _ =>
      rcases setCurrentAccessToken_eq none action.inputs before with
        ⟨cache, set⟩
      rw [FBSDKLoginManager.logOut, set]
      rfl
  | failed _ tokenString error =>
      exact shownToken_processResultBody tokenString error _ before
  | expired _ =>
      change (before.accessToken.map _).map _ =
        (before.accessToken.map _).map _
      cases before.accessToken with
      | none => rfl
      | some token => rfl
  | refreshed _ refresh => exact shownToken_refreshed refresh _ before
  | launched _ expired => exact shownToken_launch expired _ before _
  | reinstalled _ => exact shownToken_launch false _ before.reinstalled _
  | ignored _ => rfl
  | dropped pressed performing held still => rfl
  | taken permissions free => rfl
  | issued _ given => rfl
  | authenticated _ parameters => rfl
  | validating self passed brought granted current => rfl

/-- In every run the token is the one at the start, changed by the events in
their order: by refreshes, and by the others as the model of the app says. -/
theorem token_follows_events {condition : FacebookSDK → Action → Prop}
    {source target : FacebookSDK} {actions : List Action}
    {events : List Event}
    (run : RunUnder step condition source actions events target) :
    target.shownToken =
      events.foldl Event.tokenAfter source.shownToken := by
  have trace := moves_of_run run
  clear run
  induction trace with
  | refl => rfl
  | snoc trace next induction =>
      rcases next with ⟨origin, action, -, move⟩
      rw [List.foldl_append, ← induction]
      exact shownToken_of_move move

/-- A token that expires is replaced by one that is validated, then by that of
a recovery, which is refreshed. -/
def renewed : List Action :=
  leaving "first" 0 ++
    [returning "token" "user" "first", .tokenExpires (.undisturbed "")] ++
    leaving "second" 1 ++
    [returning "again" "user" "second",
      .answer 2 (.me (some "user") none) (.undisturbed ""),
      .attemptRecovery 0 0 (.undisturbed "third"),
      .answer 3 (.opened true) (.undisturbed "third"),
      returning "recovered" "user" "third",
      .answer 4 (.me (some "user") none) (.undisturbed ""),
      .tokenRefreshed ⟨some "extended", none, none⟩ (.undisturbed "")]

theorem token_follows_events_renewed :
    ∃ events target,
      Run step (installed "appID" "bundle") renewed events target ∧
        target.shownToken = some ⟨"extended", false⟩ ∧
        target.shownToken = events.foldl Event.tokenAfter
          (installed "appID" "bundle").shownToken := by
  have passes : (exec step (fun _ _ => True) (installed "appID" "bundle")
      renewed).any (fun turn => decide
        (turn.1.shownToken = some ⟨"extended", false⟩)) = true := by
    decide
  rcases run_of_any passes with ⟨events, target, run, checked⟩
  exact ⟨events, target, run, of_decide_eq_true checked,
    token_follows_events run⟩

/-! ## A login does not change the user -/

/-- The user of a token that is validated. -/
def Callback.Names (userID : String) : Callback → Prop
  | .validateReauthentication _ _ loginResult =>
      ∀ token ∈ loginResult.token, token.userID = some userID
  | _ => True

instance (userID : String) : DecidablePred (Callback.Names userID)
  | .validateReauthentication _ _ loginResult =>
      inferInstanceAs (Decidable
        (∀ token ∈ loginResult.token, token.userID = some userID))
  | .openURL _ _ | .authenticationSession _ | .attemptBrowserLogIn _
  | .requestMeAndPermissions _ _ => inferInstanceAs (Decidable True)

/-- The Graph names the user whose ID came with the token. -/
def Honest (sdk : FacebookSDK) : Action → Prop
  | .answer id (.me (some userID) _) _ =>
      ∀ callback ∈ sdk.at? id, callback.Names userID
  | _ => True

instance (sdk : FacebookSDK) : DecidablePred (Honest sdk)
  | .answer id (.me (some userID) _) _ =>
      inferInstanceAs (Decidable
        (∀ callback ∈ sdk.at? id, callback.Names userID))
  | .answer _ (.me none _) _ | .answer _ (.opened _) _
  | .answer _ (.session _ _) _ | .answer _ .attempt _
  | .answer _ (.meAndPermissions _ _ _ _ _) _
  | .launch _ _ _ | .reinstall _ | .buttonPressed _ _ _ | .openURL _ _ _
  | .didBecomeActive _ | .didEnterBackground _ | .logOut _
  | .graphError _ _ _ | .attemptRecovery _ _ _ | .tokenExpires _
  | .tokenRefreshed _ _ =>
      inferInstanceAs (Decidable True)

/-- Events after which the token may be that of another user. -/
def Event.endsSession : Event → Bool
  | .loggedOut | .launched _ => true
  | .failed _ error => error.subcode != 493
  | _ => false

/-- There is a token of a user, and what is validated is validated against
that user. -/
structure SignedInAs (user : Option String) (sdk : FacebookSDK) : Prop where
  current : ∃ token, sdk.accessToken = some token ∧ token.userID = user
  validated : ∀ {id self currentToken loginResult},
    sdk.at? id =
        some (.validateReauthentication self currentToken loginResult) →
      currentToken.userID = user

theorem SignedInAs.of_kept {user : Option String}
    {before after : FacebookSDK} (signedIn : SignedInAs user before)
    (kept : Kept before after) : SignedInAs user after where
  current := by
    rw [kept.accessToken]
    exact signedIn.current
  validated := fun awaited => signedIn.validated (kept.validation awaited)

/-- An error with the subcode 493 lets the token expire. -/
theorem processResultBody_of_expires (tokenString : Option String)
    {error : App.NSError} (inputs : Inputs)
    (expires : error.subcode = 493) {sdk : FacebookSDK}
    {token : FBSDKAccessToken} (current : sdk.accessToken = some token) :
    ∃ later,
      (FBSDKGraphRequestConnection.processResultBody tokenString error
        inputs sdk).accessToken = some later ∧
        later.userID = token.userID := by
  simp only [FBSDKGraphRequestConnection.processResultBody, current]
  split
  · rw [expires]
    rcases setCurrentAccessToken_eq (some { token with isExpired := true })
      inputs sdk with ⟨cache, set⟩
    refine ⟨{ token with isExpired := true }, ?_, rfl⟩
    exact congrArg FacebookSDK.accessToken set
  · exact ⟨token, current, rfl⟩

theorem signedInAs_of_move {user : Option String}
    {origin before after : FacebookSDK} {action : Action}
    {events : List Event} (honest : Honest origin action)
    (move : Move origin action before events after)
    (signedIn : SignedInAs user before) :
    SignedInAs user after ∨ ∃ event ∈ events, event.endsSession = true := by
  cases move with
  | kept kept => exact Or.inl (signedIn.of_kept kept)
  | granted self passed brought granted first =>
      rcases signedIn.current with ⟨token, current, -⟩
      rw [first] at current
      cases current
  | @validating _ self parameters loginResult token currentToken passed
      brought granted current =>
      rcases signedIn.current with ⟨held, isHeld, owned⟩
      rw [current] at isHeld
      cases isHeld
      apply Or.inl
      constructor
      · exact ⟨currentToken, current, owned⟩
      · intro id manager validated result awaited
        rw [FBSDKLoginManager.validateReauthentication, at?_await]
          at awaited
        split at awaited
        · cases awaited
          exact owned
        · exact signedIn.validated awaited
  | @reauthenticated id userID error inputs self currentToken loginResult
      answered awaited same =>
      subst answered
      apply Or.inl
      have owned : currentToken.userID = user := signedIn.validated awaited
      rcases finishLogIn_fst self loginResult
        (Action.answer id (.me (some userID) error) inputs).inputs
        (origin.resume id) with ⟨cache, finished⟩
      rw [finished]
      constructor
      · change ∃ token,
          loginResult.token.or origin.accessToken = some token ∧
            token.userID = user
        cases brought : loginResult.token with
        | none => exact signedIn.current
        | some token =>
            have named : token.userID = some userID :=
              honest _ awaited token brought
            refine ⟨token, rfl, ?_⟩
            rw [named, ← same]
            exact owned
      · intro other manager validated result pending
        exact signedIn.validated ((kept_resume origin id).validation pending)
  | loggedOut _ => exact Or.inr ⟨.loggedOut, List.mem_singleton_self _, rfl⟩
  | failed _ tokenString error =>
      by_cases expires : error.subcode = 493
      · rcases processResultBody_eq tokenString error action.inputs before
          with ⟨token, cache, processed⟩
        apply Or.inl
        constructor
        · rcases signedIn.current with ⟨held, current, owned⟩
          rcases processResultBody_of_expires tokenString action.inputs
            expires current with ⟨later, kept, same⟩
          exact ⟨later, kept, same.trans owned⟩
        · rw [processed]
          exact signedIn.validated
      · exact Or.inr ⟨.failed tokenString error, List.mem_singleton_self _,
          by simp [Event.endsSession, expires]⟩
  | expired _ =>
      rcases signedIn.current with ⟨token, current, owned⟩
      apply Or.inl
      constructor
      · refine ⟨{ token with isExpired := true }, ?_, owned⟩
        change before.accessToken.map _ = _
        rw [current]
        rfl
      · exact signedIn.validated
  | refreshed _ refresh =>
      rcases signedIn.current with ⟨token, current, owned⟩
      rcases expectingCallbackComplete_eq refresh action.inputs before with
        ⟨cache, refreshed⟩
      apply Or.inl
      rw [refreshed, current]
      constructor
      · exact ⟨_, rfl, owned⟩
      · exact signedIn.validated
  | launched _ expired =>
      rcases launch_eq expired action.inputs before with
        ⟨cachedToken, cache, started⟩
      rw [started]
      exact Or.inr ⟨.launched cachedToken, List.mem_singleton_self _, rfl⟩
  | reinstalled _ =>
      rcases launch_eq false action.inputs before.reinstalled with
        ⟨cachedToken, cache, started⟩
      rw [started]
      exact Or.inr ⟨.launched cachedToken, List.mem_singleton_self _, rfl⟩
  | ignored _ => exact Or.inl signedIn
  | dropped pressed performing held still =>
      exact Or.inl ⟨signedIn.current, signedIn.validated⟩
  | taken permissions free =>
      exact Or.inl ⟨signedIn.current, signedIn.validated⟩
  | issued _ given => exact Or.inl ⟨signedIn.current, signedIn.validated⟩
  | completed _ self tokenless =>
      exact Or.inl ⟨signedIn.current, signedIn.validated⟩
  | authenticated _ parameters =>
      exact Or.inl ⟨signedIn.current, signedIn.validated⟩

theorem signedInAs_of_trace {user : Option String}
    {source target : FacebookSDK} {events : List Event}
    (trace : Trace (AnyMove Honest) source events target)
    (signedIn : SignedInAs user source) :
    SignedInAs user target ∨ ∃ event ∈ events, event.endsSession = true := by
  induction trace with
  | refl => exact Or.inl signedIn
  | snoc trace next induction =>
      rcases next with ⟨origin, action, honest, move⟩
      rcases induction with kept | ⟨event, member, ends⟩
      · rcases signedInAs_of_move honest move kept with
          kept | ⟨event, member, ends⟩
        · exact Or.inl kept
        · exact Or.inr ⟨event, List.mem_append_right _ member, ends⟩
      · exact Or.inr ⟨event, List.mem_append_left _ member, ends⟩

/-- As long as the Graph names users truly and the session of a user is not
ended by a logout, an invalid token or a new process, the current token is one
of that user: no login, on whatever button, replaces it by one of another.  At
the start nothing may be validated against another user. -/
theorem login_keeps_user {user : Option String}
    {source target : FacebookSDK} {actions : List Action}
    {events : List Event} (signedIn : SignedInAs user source)
    (run : RunUnder step Honest source actions events target)
    (lasts : ∀ event ∈ events, event.endsSession = false) :
    SignedInAs user target := by
  rcases signedInAs_of_trace (moves_of_run run) signedIn with
    kept | ⟨event, member, ends⟩
  · exact kept
  · rw [lasts event member] at ends
    cases ends

/-- A user whose token has expired. -/
def expiredUser : FacebookSDK :=
  { installed "appID" "bundle" with
    accessToken := some
      { tokenString := "token"
        isExpired := true
        permissions := ∅
        declinedPermissions := ∅
        userID := some "user" } }

/-- The user logs in again, and the Graph says who it is. -/
theorem login_keeps_user_renewed :
    ∃ events target,
      RunUnder step Honest expiredUser
          (leaving "challenge" 0 ++
            [returning "again" "user" "challenge",
              .answer 1 (.me (some "user") none) (.undisturbed "")])
          events target ∧
        SignedInAs (some "user") target := by
  have signedIn : SignedInAs (some "user") expiredUser := by
    constructor
    · exact ⟨_, rfl, rfl⟩
    · intro id self currentToken loginResult awaited
      cases awaited
  have passes : (exec step Honest expiredUser
      (leaving "challenge" 0 ++
        [returning "again" "user" "challenge",
          .answer 1 (.me (some "user") none) (.undisturbed "")])).any
        (fun turn => turn.2.all fun event => !event.endsSession) =
      true := by
    decide
  rcases run_of_any passes with ⟨events, target, run, checked⟩
  refine ⟨events, target, run, login_keeps_user signedIn run ?_⟩
  intro event member
  have lasts := List.all_eq_true.mp checked event member
  simpa using lasts

/-! ## A logout lasts -/

/-- Without a token there is no UUID in the defaults, so none comes back from
the cache. -/
def Cleared (sdk : FacebookSDK) : Prop :=
  sdk.accessToken = none → sdk.cache.defaults = none

theorem cleared_setCurrentAccessToken (token : Option FBSDKAccessToken)
    (inputs : Inputs) {sdk : FacebookSDK} (cleared : Cleared sdk) :
    Cleared (FBSDKAccessToken.setCurrentAccessToken token inputs sdk) := by
  intro gone
  rw [FBSDKAccessToken.setCurrentAccessToken] at gone ⊢
  split at gone
  · next nothing =>
      rw [if_pos nothing]
      exact cleared gone
  · next something =>
      rw [if_neg something]
      change token = none at gone
      subst token
      rfl

/-- A cache that gives no token back has been cleared. -/
theorem accessToken_none
    {cache : FBSDKAccessTokenCacheV4 FBSDKAccessToken}
    {refusals : StoreRefusals}
    (missing : (cache.accessToken refusals).1 = none) :
    (cache.accessToken refusals).2.defaults = none := by
  rw [FBSDKAccessTokenCacheV4.accessToken] at missing ⊢
  split
  · next dict found =>
      split
      · next installed =>
          rw [found] at missing
          simp [installed] at missing
      · rfl
  · rfl

theorem cleared_launch (expired : Bool) (inputs : Inputs)
    (sdk : FacebookSDK) :
    Cleared (FBSDKApplicationDelegate.launch expired inputs sdk).1 := by
  rw [FBSDKApplicationDelegate.launch]
  cases read : (sdk.cache.accessToken inputs.tokenRefusals).1 with
  | none =>
      apply cleared_setCurrentAccessToken
      intro _
      exact accessToken_none read
  | some token =>
      intro gone
      rcases setCurrentAccessToken_eq
        (some { token with isExpired := token.isExpired || expired }) inputs
        { sdk with
          managers := fun _ => .init
          delegate := .init
          accessToken := none
          callbacks := ∅
          cache := (sdk.cache.accessToken inputs.tokenRefusals).2 } with
        ⟨cache, set⟩
      have present := congrArg FacebookSDK.accessToken set
      exact absurd (gone.symm.trans present) (Option.some_ne_none _).symm

theorem cleared_finishLogIn (self : ManagerId)
    (loginResult : FBSDKLoginManagerLoginResult) (inputs : Inputs)
    {sdk : FacebookSDK} (cleared : Cleared sdk) :
    Cleared (FBSDKLoginManager.finishLogIn self loginResult inputs
      sdk).1 := by
  rw [FBSDKLoginManager.finishLogIn]
  split
  · exact cleared_setCurrentAccessToken loginResult.token inputs cleared
  · exact cleared

theorem cleared_of_move {origin before after : FacebookSDK}
    {action : Action} {events : List Event}
    (move : Move origin action before events after)
    (cleared : Cleared before) : Cleared after := by
  cases move with
  | kept kept =>
      rw [Cleared, kept.accessToken, kept.cache]
      exact cleared
  | granted self passed brought granted first =>
      exact cleared_finishLogIn self _ _ cleared
  | reauthenticated answered awaited same =>
      exact cleared_finishLogIn _ _ _ cleared
  | loggedOut _ => exact cleared_setCurrentAccessToken none _ cleared
  | failed _ tokenString error =>
      rw [FBSDKGraphRequestConnection.processResultBody]
      split
      · split
        · exact cleared_setCurrentAccessToken _ _ cleared
        · exact cleared
      · exact cleared
  | expired _ =>
      intro gone
      exact cleared (Option.map_eq_none_iff.mp gone)
  | refreshed _ refresh =>
      rw [FBSDKGraphRequestPiggybackManager.expectingCallbackComplete]
      split
      · exact cleared_setCurrentAccessToken _ _ cleared
      · exact cleared
  | launched _ expired => exact cleared_launch expired _ before
  | reinstalled _ => exact cleared_launch false _ before.reinstalled
  | ignored _ | dropped pressed performing held still
  | taken permissions free | issued _ given | completed _ self tokenless
  | authenticated _ parameters
  | validating self passed brought granted current => exact cleared

/-- The SDK of an installed app never keeps a UUID without a token. -/
theorem cleared_of_run {condition : FacebookSDK → Action → Prop}
    {appID bundleIdentifier : String} {target : FacebookSDK}
    {actions : List Action} {events : List Event}
    (run : RunUnder step condition (installed appID bundleIdentifier)
      actions events target) : Cleared target := by
  refine (moves_of_run run).invariant ?_ ?_
  · rintro before observed after cleared ⟨origin, action, -, move⟩
    exact cleared_of_move move cleared
  · intro _
    rfl

/-- There is no token, and nothing that is waited for brings one. -/
structure LoggedOut (sdk : FacebookSDK) : Prop where
  accessToken : sdk.accessToken = none
  defaults : sdk.cache.defaults = none
  challenge : sdk.challenge? = none
  validations : sdk.validations = 0

theorem loggedOut_launch {sdk : FacebookSDK} (loggedOut : LoggedOut sdk)
    (expired : Bool) (inputs : Inputs) :
    LoggedOut (FBSDKApplicationDelegate.launch expired inputs sdk).1 := by
  have missing : (sdk.cache.accessToken inputs.tokenRefusals).1 = none := by
    rcases sdk.cache.accessToken_cases inputs.tokenRefusals with
      read | ⟨read, -⟩
    · rw [read]
      exact FBSDKAccessTokenCacheV4.current?_of_cleared loggedOut.defaults
    · rw [read]
  have defaults := cleared_launch expired inputs sdk
  rw [Cleared] at defaults
  rw [FBSDKApplicationDelegate.launch, missing] at defaults ⊢
  simp only [Option.map_none, FBSDKAccessToken.setCurrentAccessToken,
    and_self, if_true, forall_const] at defaults ⊢
  constructor
  · rfl
  · exact defaults
  · exact loggedOut.challenge
  · rfl

theorem loggedOut_of_move {origin before after : FacebookSDK}
    {action : Action} {events : List Event}
    (move : Move origin action before events after)
    (loggedOut : LoggedOut before) :
    LoggedOut after ∨ ∃ challenge, .issued challenge ∈ events := by
  cases move with
  | kept kept =>
      apply Or.inl
      constructor
      · rw [kept.accessToken]
        exact loggedOut.accessToken
      · rw [kept.cache]
        exact loggedOut.defaults
      · rw [challenge?_of_kept kept]
        exact loggedOut.challenge
      · have fewer := kept.validations
        have none := loggedOut.validations
        omega
  | issued _ given => exact Or.inr ⟨_, List.mem_singleton_self _⟩
  | authenticated _ parameters =>
      exact Or.inl ⟨loggedOut.accessToken, loggedOut.defaults,
        challenge?_storeExpectedChallenge_none _ loggedOut.challenge,
        loggedOut.validations⟩
  | granted self passed brought granted first =>
      rw [challengePassed_of_none loggedOut.challenge] at passed
      cases passed
  | validating self passed brought granted current =>
      rw [challengePassed_of_none loggedOut.challenge] at passed
      cases passed
  | reauthenticated answered awaited same =>
      have waits := validations_resume awaited
      have none := loggedOut.validations
      omega
  | loggedOut _ =>
      apply Or.inl
      rw [FBSDKLoginManager.logOut, FBSDKAccessToken.setCurrentAccessToken,
        if_pos ⟨rfl, loggedOut.accessToken⟩]
      exact loggedOut
  | failed _ tokenString error =>
      apply Or.inl
      simp only [FBSDKGraphRequestConnection.processResultBody,
        loggedOut.accessToken]
      exact loggedOut
  | expired _ =>
      apply Or.inl
      refine ⟨?_, loggedOut.defaults, loggedOut.challenge,
        loggedOut.validations⟩
      rw [loggedOut.accessToken]
      rfl
  | refreshed _ refresh =>
      apply Or.inl
      simp only [FBSDKGraphRequestPiggybackManager.expectingCallbackComplete,
        loggedOut.accessToken]
      exact loggedOut
  | launched _ expired =>
      exact Or.inl (loggedOut_launch loggedOut expired _)
  | reinstalled _ =>
      apply Or.inl
      apply loggedOut_launch
      exact ⟨loggedOut.accessToken, rfl, loggedOut.challenge,
        loggedOut.validations⟩
  | ignored _ => exact Or.inl loggedOut
  | dropped pressed performing held still =>
      exact Or.inl ⟨loggedOut.accessToken, loggedOut.defaults,
        loggedOut.challenge, loggedOut.validations⟩
  | taken permissions free =>
      exact Or.inl ⟨loggedOut.accessToken, loggedOut.defaults,
        loggedOut.challenge, loggedOut.validations⟩
  | completed _ self tokenless =>
      exact Or.inl ⟨loggedOut.accessToken, loggedOut.defaults,
        loggedOut.challenge, loggedOut.validations⟩

theorem loggedOut_of_trace {condition : FacebookSDK → Action → Prop}
    {source target : FacebookSDK} {events : List Event}
    (trace : Trace (AnyMove condition) source events target)
    (loggedOut : LoggedOut source) :
    LoggedOut target ∨ ∃ challenge, .issued challenge ∈ events := by
  induction trace with
  | refl => exact Or.inl loggedOut
  | snoc trace next induction =>
      rcases next with ⟨origin, action, -, move⟩
      rcases induction with kept | ⟨challenge, issued⟩
      · rcases loggedOut_of_move move kept with kept | ⟨challenge, issued⟩
        · exact Or.inl kept
        · exact Or.inr ⟨challenge, List.mem_append_right _ issued⟩
      · exact Or.inr ⟨challenge, List.mem_append_left _ issued⟩

/-- After a logout that finds no challenge in the keychain and no validation
under way, there is no token before another login has been started, whatever
URLs are opened, however often the app is launched or installed again and
whatever the keychain refuses. -/
theorem logged_out_until_next_login
    {condition : FacebookSDK → Action → Prop}
    {appID bundleIdentifier : String} {source middle target : FacebookSDK}
    {past actions : List Action} {seen observed events : List Event}
    {inputs : Inputs}
    (reached : RunUnder step condition (installed appID bundleIdentifier)
      past seen source)
    (unchallenged : source.challenge? = none)
    (unvalidated : source.validations = 0)
    (out : step source (.logOut inputs) = some (middle, observed))
    (run : RunUnder step condition middle actions events target) :
    target.accessToken = none ∨ ∃ challenge, .issued challenge ∈ events := by
  cases out
  have loggedOut : LoggedOut (FBSDKAccessToken.setCurrentAccessToken none
      inputs source) := by
    have cleared := cleared_setCurrentAccessToken none inputs
      (cleared_of_run reached)
    rcases setCurrentAccessToken_eq none inputs source with ⟨cache, set⟩
    have gone := congrArg FacebookSDK.accessToken set
    refine ⟨gone, cleared gone, ?_, ?_⟩
    · rw [set]
      exact unchallenged
    · rw [set]
      exact unvalidated
  rcases loggedOut_of_trace (moves_of_run run) loggedOut with
    kept | issued
  · exact Or.inl kept.accessToken
  · exact Or.inr issued

/-- The app is launched again with the URL of the login before the logout. -/
theorem logged_out_until_next_login_relaunched :
    ∃ seen source middle events target,
      Run step (installed "appID" "bundle")
          (leaving "challenge" 0 ++
            [returning "token" "user" "challenge"]) seen source ∧
        step source (.logOut (.undisturbed "")) =
            some (middle, [.loggedOut]) ∧
          Run step middle
            [.launch (some (callbackURL "appID" "token" "user" "challenge",
              "com.facebook.Facebook")) false (.undisturbed "")] events
            target ∧
          (target.accessToken = none ∨
            ∃ challenge, .issued challenge ∈ events) := by
  have passes : (exec step (fun _ _ => True) (installed "appID" "bundle")
      (leaving "challenge" 0 ++
        [returning "token" "user" "challenge"])).any (fun turn => decide
          (turn.1.challenge? = none ∧ turn.1.validations = 0)) = true := by
    decide
  rcases run_of_any passes with ⟨seen, source, reached, checked⟩
  rcases of_decide_eq_true checked with ⟨unchallenged, unvalidated⟩
  generalize left : (FBSDKLoginManager.logOut (.undisturbed "") source).1 =
    middle
  have out : step source (.logOut (.undisturbed "")) =
      some (middle, [.loggedOut]) := by
    rw [← left]
    rfl
  have run : Run step middle
      [.launch (some (callbackURL "appID" "token" "user" "challenge",
        "com.facebook.Facebook")) false (.undisturbed "")] _ _ :=
    RunUnder.snoc .refl True.intro rfl
  exact ⟨seen, source, middle, _, _, reached, out, run,
    logged_out_until_next_login reached unchallenged unvalidated out run⟩

end BandBPools.Facebook
