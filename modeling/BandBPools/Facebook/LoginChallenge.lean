import BandBPools.Facebook.LoginMoves

/-!
# Every login uses its own challenge

A login sends a challenge along, keeps it in the keychain and accepts a
callback that returns it.  There is one place for it, shared by all managers,
and any callback empties it.  Where the keychain refuses nothing, a callback
passes exactly if it returns the challenge that was issued last and none has
come since; so no more tokens are granted than challenges have been issued,
and a URL that is opened twice grants nothing the second time.
-/

namespace BandBPools.Facebook

open BandBPools.Bytes
open BandBPools.Transition

/-! ## The challenge in the keychain -/

/-- The challenge that is stored. -/
def FacebookSDK.challenge? (sdk : FacebookSDK) : Option Bytes.Text :=
  FBSDKKeychainStore.stored?
    (FBSDKLoginManager.expectedChallengeKey sdk.bundleIdentifier) sdk.items

theorem challenge?_of_kept {before after : FacebookSDK}
    (kept : Kept before after) : after.challenge? = before.challenge? := by
  rw [FacebookSDK.challenge?, kept.bundleIdentifier, kept.items]
  rfl

/-- Without a challenge in the keychain no callback is accepted. -/
theorem challengePassed_of_none {sdk : FacebookSDK}
    (missing : sdk.challenge? = none)
    (parameters : FBSDKLoginCompletionParameters) (inputs : Inputs) :
    FBSDKLoginManager.challengePassed parameters inputs sdk = false := by
  rw [FBSDKLoginManager.challengePassed,
    FBSDKLoginManager.loadExpectedChallenge]
  rcases FBSDKKeychainStore.dataForKey_cases inputs.first.refusals
    (FBSDKLoginManager.expectedChallengeKey sdk.bundleIdentifier)
    sdk.items with read | ⟨-, read⟩
  · rw [read]
    rw [FacebookSDK.challenge?] at missing
    rw [missing]
    rfl
  · rw [read]
    rfl

theorem challenge?_storeExpectedChallenge_none {sdk : FacebookSDK}
    (refusals : StoreRefusals) (missing : sdk.challenge? = none) :
    (FBSDKLoginManager.storeExpectedChallenge refusals none
      sdk).challenge? = none := by
  rcases FBSDKKeychainStore.setData_none_cases refusals
    (FBSDKLoginManager.expectedChallengeKey sdk.bundleIdentifier)
    sdk.items with deleted | ⟨-, same⟩
  · exact deleted
  · rw [FacebookSDK.challenge?, FBSDKLoginManager.storeExpectedChallenge,
      same]
    exact missing

/-- The challenge that a callback has to return. -/
def FacebookSDK.expected? (sdk : FacebookSDK) : Option Text :=
  sdk.challenge?.map (replace plus space)

theorem challengePassed_of_unrefused {inputs : Inputs}
    (unrefused : inputs.first.refusals = .none)
    (parameters : FBSDKLoginCompletionParameters) (sdk : FacebookSDK) :
    FBSDKLoginManager.challengePassed parameters inputs sdk =
      sdk.expected?.any fun expected =>
        parameters.challenge = some expected := by
  rw [FBSDKLoginManager.challengePassed,
    FBSDKLoginManager.loadExpectedChallenge, unrefused]
  rcases FBSDKKeychainStore.dataForKey_cases .none
    (FBSDKLoginManager.expectedChallengeKey sdk.bundleIdentifier)
    sdk.items with read | ⟨refused, -⟩
  · rw [read]
    rfl
  · exact absurd rfl refused

theorem expected?_storeExpectedChallenge_none {refusals : StoreRefusals}
    (unrefused : refusals = .none) (sdk : FacebookSDK) :
    (FBSDKLoginManager.storeExpectedChallenge refusals none
      sdk).expected? = none := by
  rcases FBSDKKeychainStore.setData_none_cases refusals
    (FBSDKLoginManager.expectedChallengeKey sdk.bundleIdentifier)
    sdk.items with deleted | ⟨refused, -⟩
  · exact congrArg (Option.map (replace plus space)) deleted
  · exact absurd unrefused refused

/-- A challenge has no plus sign, so it is expected as it was issued. -/
theorem expected?_logInParameters {attempt : Attempt}
    (unrefused : attempt.refusals = .none) (sdk : FacebookSDK) :
    (FBSDKLoginManager.logInParameters attempt sdk).1.expected? =
      some (FBSDKLoginManager.stringForChallenge attempt.random) := by
  have plain : replace plus space
      (FBSDKLoginManager.stringForChallenge attempt.random) =
        FBSDKLoginManager.stringForChallenge attempt.random :=
    replace_of_not_mem (not_mem_replace (by decide) attempt.random)
  rcases FBSDKKeychainStore.setData_some_cases attempt.refusals
    (FBSDKLoginManager.stringForChallenge attempt.random)
    (FBSDKLoginManager.expectedChallengeKey sdk.bundleIdentifier)
    sdk.items with stored | ⟨refused, -⟩
  · have read := congrArg (Option.map (replace plus space)) stored
    rw [Option.map_some, plain] at read
    exact read
  · exact absurd unrefused refused

/-! ## One register for the challenge -/

/-- What is seen of the challenge. -/
inductive Check where
  | issued (challenge : Text)
  | checked (received : Option Text) (passed : Bool)
deriving DecidableEq, Repr

/-- The part of an event that concerns the challenge. -/
def Event.check? : Event → Option Check
  | .issued challenge => some (.issued challenge)
  | .authenticated _ received passed => some (.checked received passed)
  | _ => none

/-- A challenge is issued, or a callback is checked against the register and
empties it. -/
inductive ChallengeStep :
    Option Text → List Check → Option Text → Prop where
  | issued (register : Option Text) (challenge : Text) :
      ChallengeStep register [.issued challenge] (some challenge)
  | checked (register received : Option Text) :
      ChallengeStep register
        [.checked received (register.any fun challenge =>
          received = some challenge)] none

/-- The keychain refuses nothing. -/
def Unrefused (_ : FacebookSDK) (action : Action) : Prop :=
  action.inputs.first.refusals = .none ∧
    action.inputs.second.refusals = .none

instance (sdk : FacebookSDK) : DecidablePred (Unrefused sdk) :=
  fun action => inferInstanceAs (Decidable
    (action.inputs.first.refusals = .none ∧
      action.inputs.second.refusals = .none))

theorem expected?_finishLogIn (self : ManagerId)
    (loginResult : FBSDKLoginManagerLoginResult) (inputs : Inputs)
    (sdk : FacebookSDK) :
    (FBSDKLoginManager.finishLogIn self loginResult inputs
      sdk).1.expected? = sdk.expected? := by
  rcases finishLogIn_fst self loginResult inputs sdk with ⟨cache, finished⟩
  rw [finished]
  rfl

theorem follows_launch_challenge (sdk : FacebookSDK) (expired : Bool)
    (inputs : Inputs) :
    Trace ChallengeStep sdk.expected?
      ((FBSDKApplicationDelegate.launch expired inputs sdk).2.filterMap
        Event.check?)
      (FBSDKApplicationDelegate.launch expired inputs sdk).1.expected? := by
  rcases launch_eq expired inputs sdk with ⟨cachedToken, cache, started⟩
  rw [started]
  exact .refl

/-- A callback that passes was checked against what was expected. -/
theorem follows_passed {sdk next : FacebookSDK} {inputs : Inputs}
    {parameters : FBSDKLoginCompletionParameters}
    (unrefused : inputs.first.refusals = .none)
    (passed : FBSDKLoginManager.challengePassed parameters inputs sdk =
      true) (emptied : next.expected? = none) :
    Trace ChallengeStep sdk.expected?
      [.checked parameters.challenge true] next.expected? := by
  have checked := ChallengeStep.checked sdk.expected? parameters.challenge
  rw [← challengePassed_of_unrefused unrefused parameters sdk, passed]
    at checked
  rw [emptied]
  exact .single checked

theorem challenge_of_move {origin before after : FacebookSDK}
    {action : Action} {events : List Event}
    (unrefused : Unrefused origin action)
    (move : Move origin action before events after) :
    Trace ChallengeStep before.expected? (events.filterMap Event.check?)
      after.expected? := by
  have emptied := expected?_storeExpectedChallenge_none unrefused.1
  cases move with
  | kept kept =>
      rw [FacebookSDK.expected?, FacebookSDK.expected?,
        challenge?_of_kept kept]
      exact .refl
  | issued _ given =>
      have free : ∀ attempt, attempt = action.inputs.first ∨
          attempt = action.inputs.second → attempt.refusals = .none := by
        rintro attempt (rfl | rfl)
        · exact unrefused.1
        · exact unrefused.2
      rw [expected?_logInParameters (free _ given)]
      exact .single (.issued before.expected? _)
  | authenticated _ parameters =>
      rw [emptied before,
        challengePassed_of_unrefused unrefused.1 parameters before]
      exact .single (.checked before.expected? parameters.challenge)
  | granted self passed brought granted first =>
      apply follows_passed unrefused.1 passed
      rw [expected?_finishLogIn]
      exact emptied before
  | validating self passed brought granted current =>
      exact follows_passed unrefused.1 passed (emptied before)
  | reauthenticated answered awaited same =>
      rw [expected?_finishLogIn]
      exact .refl
  | loggedOut _ =>
      rcases setCurrentAccessToken_eq none action.inputs before with
        ⟨cache, set⟩
      rw [FBSDKLoginManager.logOut, set]
      exact .refl
  | failed _ tokenString error =>
      rcases processResultBody_eq tokenString error action.inputs before
        with ⟨token, cache, processed⟩
      rw [processed]
      exact .refl
  | refreshed _ refresh =>
      rcases expectingCallbackComplete_eq refresh action.inputs before with
        ⟨cache, refreshed⟩
      rw [refreshed]
      exact .refl
  | launched _ expired => exact follows_launch_challenge before expired _
  | reinstalled _ =>
      exact follows_launch_challenge before.reinstalled false _
  | ignored _ => exact .refl
  | dropped pressed performing held still => exact .refl
  | taken permissions free => exact .refl
  | completed _ self tokenless => exact .refl
  | expired _ => exact .refl

theorem challenge_of_run {source target : FacebookSDK}
    {actions : List Action} {events : List Event}
    (run : RunUnder step Unrefused source actions events target) :
    Trace ChallengeStep source.expected? (events.filterMap Event.check?)
      target.expected? :=
  (moves_of_run run).follow fun _ _ _ any => by
    rcases any with ⟨origin, action, unrefused, move⟩
    exact challenge_of_move unrefused move

/-- Where the keychain refuses nothing, a callback passes exactly if it
returns the challenge that was issued last, by whatever manager, and no other
callback has been checked since. -/
theorem callback_returns_last_challenge {appID bundleIdentifier : String}
    {target : FacebookSDK} {actions : List Action} {events : List Event}
    (run : RunUnder step Unrefused (installed appID bundleIdentifier)
      actions events target) :
    Trace ChallengeStep none (events.filterMap Event.check?)
      target.expected? :=
  challenge_of_run run

/-- A URL that has been accepted is opened once more in the next login. -/
def replayed : List Action :=
  leaving "first" 0 ++
    [returning "token" "user" "first", .logOut (.undisturbed "")] ++
    leaving "second" 1 ++ [returning "token" "user" "first"]

theorem callback_returns_last_challenge_once :
    ∃ events target,
      RunUnder step Unrefused (installed "appID" "bundle") replayed events
          target ∧
        .authenticated (some "token") (some (utf8 "first")) false ∈
            events ∧
          Trace ChallengeStep none (events.filterMap Event.check?)
            target.expected? := by
  have passes : (exec step Unrefused (installed "appID" "bundle")
      replayed).any (fun turn => decide
        (.authenticated (some "token") (some (utf8 "first")) false ∈
          turn.2)) = true := by
    decide
  rcases run_of_any passes with ⟨events, target, run, checked⟩
  exact ⟨events, target, run, of_decide_eq_true checked,
    callback_returns_last_challenge run⟩

/-! ## Tokens and challenges -/

namespace Event

/-- Does a login end with a token? -/
def grants : Event → Bool
  | .completed _ outcome => outcome.token?.isSome
  | _ => false

/-- Does a callback pass? -/
def passes : Event → Bool
  | .authenticated _ _ passed => passed
  | _ => false

/-- Is a challenge issued? -/
def issues : Event → Bool
  | .issued _ => true
  | _ => false

end Event

theorem validations_finishLogIn (self : ManagerId)
    (loginResult : FBSDKLoginManagerLoginResult) (inputs : Inputs)
    (sdk : FacebookSDK) :
    (FBSDKLoginManager.finishLogIn self loginResult inputs
      sdk).1.validations = sdk.validations := by
  rcases finishLogIn_fst self loginResult inputs sdk with ⟨cache, finished⟩
  rw [finished]
  rfl

theorem grants_launch (sdk : FacebookSDK) (expired : Bool)
    (inputs : Inputs) :
    (FBSDKApplicationDelegate.launch expired inputs sdk).2.countP
          Event.grants +
        (FBSDKApplicationDelegate.launch expired inputs sdk).1.validations =
      0 := by
  rcases launch_eq expired inputs sdk with ⟨cachedToken, cache, started⟩
  rw [started]
  rfl

/-- A callback that passes grants one token at most, at once or when it has
been validated. -/
theorem grants_of_move {origin before after : FacebookSDK} {action : Action}
    {events : List Event}
    (move : Move origin action before events after) :
    events.countP Event.grants + after.validations ≤
      events.countP Event.passes + before.validations := by
  cases move with
  | kept kept =>
      have fewer := kept.validations
      simpa using fewer
  | @completed _ self outcome tokenless =>
      have grants : [Event.completed (before.managers self).handler
          outcome].countP Event.grants = 0 := by
        simp [Event.grants, tokenless]
      rw [grants]
      exact Nat.le_refl _
  | @granted _ self parameters loginResult token passed brought granted
      first =>
      have grants : [Event.authenticated (some token.tokenString)
            parameters.challenge true,
          .completed (before.managers self).handler
            (.ok loginResult)].countP Event.grants = 1 := by
        simp [Event.grants, Outcome.token?, granted]
      have passes : [Event.authenticated (some token.tokenString)
            parameters.challenge true,
          .completed (before.managers self).handler
            (.ok loginResult)].countP Event.passes = 1 := rfl
      rw [grants, passes, validations_finishLogIn]
      exact Nat.le_refl _
  | @validating _ self parameters loginResult token currentToken passed
      brought granted current =>
      have more := Tables.total_insert_le Callback.validations
        before.callbacks before.nextCallback
        (.validateReauthentication self currentToken loginResult)
      have grants : [Event.authenticated (some token.tokenString)
          parameters.challenge true].countP Event.grants = 0 := by
        simp [Event.grants]
      have passes : [Event.authenticated (some token.tokenString)
          parameters.challenge true].countP Event.passes = 1 := by
        simp [Event.passes]
      rw [grants, passes, Nat.zero_add, Nat.add_comm]
      exact more
  | @reauthenticated id userID error inputs self currentToken loginResult
      answered awaited same =>
      have fewer := validations_resume awaited
      have grants := List.countP_le_length (p := Event.grants)
        (l := [.completed (origin.managers self).handler
          (.ok loginResult)])
      rw [validations_finishLogIn, ← fewer]
      exact (Nat.add_le_add_right grants _).trans
        (Nat.le_of_eq (by simp [Event.passes, Nat.add_comm]))
  | loggedOut _ =>
      rcases setCurrentAccessToken_eq none action.inputs before with
        ⟨cache, set⟩
      rw [FBSDKLoginManager.logOut, set]
      exact Nat.le_refl _
  | failed _ tokenString error =>
      rcases processResultBody_eq tokenString error action.inputs before
        with ⟨token, cache, processed⟩
      rw [processed]
      exact Nat.le_refl _
  | refreshed _ refresh =>
      rcases expectingCallbackComplete_eq refresh action.inputs before with
        ⟨cache, refreshed⟩
      rw [refreshed]
      exact Nat.le_refl _
  | launched _ expired =>
      rw [grants_launch]
      exact Nat.zero_le _
  | reinstalled _ =>
      rw [grants_launch]
      exact Nat.zero_le _
  | ignored _ => exact Nat.le_refl _
  | dropped pressed performing held still => exact Nat.le_refl _
  | taken permissions free => exact Nat.le_refl _
  | issued _ given => exact Nat.le_refl _
  | authenticated _ parameters =>
      have grants : [Event.authenticated parameters.accessTokenString
          parameters.challenge
          (FBSDKLoginManager.challengePassed parameters action.inputs
            before)].countP Event.grants = 0 := by
        simp [Event.grants]
      rw [grants]
      exact Nat.add_le_add_right (Nat.zero_le _) _
  | expired _ => exact Nat.le_refl _

theorem grants_of_trace {condition : FacebookSDK → Action → Prop}
    {source target : FacebookSDK} {events : List Event}
    (trace : Trace (AnyMove condition) source events target) :
    events.countP Event.grants + target.validations ≤
      events.countP Event.passes + source.validations := by
  induction trace with
  | refl => exact Nat.le_refl _
  | snoc trace next induction =>
      rcases next with ⟨origin, action, -, move⟩
      have moved := grants_of_move move
      rw [List.countP_append, List.countP_append]
      omega

/-- Is a check passed? -/
def Check.passes : Check → Bool
  | .issued _ => false
  | .checked _ passed => passed

/-- Does a check put a challenge into the register? -/
def Check.issues : Check → Bool
  | .issued _ => true
  | .checked _ _ => false

/-- A challenge is passed once at most. -/
theorem passes_of_step {register later : Option Text} {checks : List Check}
    (step : ChallengeStep register checks later) :
    checks.countP Check.passes + later.toList.length ≤
      checks.countP Check.issues + register.toList.length := by
  cases step with
  | issued challenge =>
      have passes : [Check.issued challenge].countP Check.passes = 0 := rfl
      have issues : [Check.issued challenge].countP Check.issues = 1 := rfl
      rw [passes, issues]
      change 0 + 1 ≤ 1 + _
      omega
  | checked received =>
      cases register with
      | none => exact Nat.le_refl 0
      | some challenge =>
          exact List.countP_le_length

theorem passes_of_trace {register later : Option Text}
    {checks : List Check} (trace : Trace ChallengeStep register checks later) :
    checks.countP Check.passes + later.toList.length ≤
      checks.countP Check.issues + register.toList.length := by
  induction trace with
  | refl => exact Nat.le_refl _
  | snoc trace next induction =>
      have passed := passes_of_step next
      rw [List.countP_append, List.countP_append]
      omega

theorem countP_passes (events : List Event) :
    (events.filterMap Event.check?).countP Check.passes =
      events.countP Event.passes := by
  rw [List.countP_filterMap]
  congr 1
  funext event
  cases event <;> rfl

theorem countP_issues (events : List Event) :
    (events.filterMap Event.check?).countP Check.issues =
      events.countP Event.issues := by
  rw [List.countP_filterMap]
  congr 1
  funext event
  cases event <;> rfl

/-- Where the keychain refuses nothing, no more tokens are granted than
challenges have been issued, those included that are still validated and the
challenge that is still expected. -/
theorem tokens_le_challenges {appID bundleIdentifier : String}
    {target : FacebookSDK} {actions : List Action} {events : List Event}
    (run : RunUnder step Unrefused (installed appID bundleIdentifier)
      actions events target) :
    events.countP Event.grants + target.validations +
        target.expected?.toList.length ≤
      events.countP Event.issues := by
  have granted := grants_of_trace (moves_of_run run)
  have passed := passes_of_trace (challenge_of_run run)
  rw [countP_passes, countP_issues] at passed
  have blank : (installed appID bundleIdentifier).validations = 0 := rfl
  have unexpected : (installed appID
      bundleIdentifier).expected?.toList.length = 0 := rfl
  omega

/-- Two challenges and one token. -/
theorem tokens_le_challenges_replayed :
    ∃ events target,
      RunUnder step Unrefused (installed "appID" "bundle") replayed events
          target ∧
        events.countP Event.issues = 2 ∧
          events.countP Event.grants + target.validations +
              target.expected?.toList.length ≤
            events.countP Event.issues := by
  have passes : (exec step Unrefused (installed "appID" "bundle")
      replayed).any (fun turn =>
        turn.2.countP Event.issues == 2) = true := by
    decide
  rcases run_of_any passes with ⟨events, target, run, checked⟩
  exact ⟨events, target, run, eq_of_beq checked, tokens_le_challenges run⟩

/-! ## An honest dialog -/

/-- What was issued last and not checked since is expected. -/
theorem expected_of_issued {register later : Option Text}
    {checks earlier : List Check} {challenge : Text}
    (trace : Trace ChallengeStep register checks later)
    (last : checks = earlier ++ [.issued challenge]) :
    later = some challenge := by
  cases trace with
  | refl => simp at last
  | snoc trace next =>
      cases next with
      | issued =>
          have same := List.append_inj_right' last rfl
          cases same
          rfl
      | checked =>
          have same := List.append_inj_right' last rfl
          cases same

/-- A URL that brings a token, the user it belongs to, permissions and a
challenge that has been sent along. -/
structure Brings (url : OpenedURL) (token userID : String)
    (challenge : Text) : Prop where
  accessToken : url.parameters.accessToken = some token
  nonempty : token ≠ ""
  user : url.parameters.user? = some userID
  scopes : Facebook.scopes url.parameters.grantedScopes ≠ ∅
  challenge : url.parameters.challenge = some (urlEncode challenge)

theorem initWithURLParameters_of_brings {url : OpenedURL}
    {token userID : String} {challenge : Text}
    (brings : Brings url token userID challenge) :
    FBSDKLoginURLCompleter.initWithURLParameters url.parameters =
      { parameters :=
          { accessTokenString := some token
            permissions := scopes url.parameters.grantedScopes
            declinedPermissions := scopes url.parameters.deniedScopes
            userID := some userID
            isExpired := url.parameters.isExpired
            challenge := some challenge
            error := none }
        performExplicitFallback := false } := by
  have present : url.parameters.accessToken.filter (fun token =>
      token ≠ "") = some token := by
    rw [brings.accessToken]
    simp [brings.nonempty]
  have decoded : url.parameters.challenge.bind urlDecode =
      some challenge := by
    rw [brings.challenge]
    exact urlDecode_urlEncode challenge
  rw [FBSDKLoginURLCompleter.initWithURLParameters, present, decoded,
    brings.user]

/-- A token that comes with the expected challenge and with permissions, when
there is none yet, is granted. -/
theorem completeAuthentication_of_expected {sdk : FacebookSDK}
    {self : ManagerId} {parameters : FBSDKLoginCompletionParameters}
    {inputs : Inputs} {token : String} {challenge : Text}
    (unrefused : inputs.first.refusals = .none)
    (expected : sdk.expected? = some challenge)
    (first : sdk.accessToken = none)
    (brought : parameters.accessTokenString = some token)
    (granted : parameters.permissions ≠ ∅)
    (returned : parameters.challenge = some challenge)
    (unharmed : parameters.error = none) :
    ∃ next loginResult,
      FBSDKLoginManager.completeAuthentication self parameters inputs sdk =
          (next,
            [.authenticated (some token) (some challenge) true,
              .completed (sdk.managers self).handler (.ok loginResult)]) ∧
        next.accessToken = loginResult.token ∧
        loginResult.token.map (fun token => token.tokenString) =
          some token := by
  have passed : FBSDKLoginManager.challengePassed parameters inputs sdk =
      true := by
    rw [challengePassed_of_unrefused unrefused, expected, returned]
    simp
  generalize emptied : FBSDKLoginManager.storeExpectedChallenge
    inputs.first.refusals none sdk = cleared
  have none : cleared.accessToken = none := by
    rw [← emptied]
    exact first
  have same : cleared.managers = sdk.managers := by
    rw [← emptied]
    rfl
  have unrestricted : FBSDKLoginManager.recentlyGranted self
      parameters.permissions cleared = parameters.permissions := by
    rw [FBSDKLoginManager.recentlyGranted, none]
    simp
  have concluded : FBSDKLoginManager.concludeAuthentication self parameters
      true inputs cleared =
        FBSDKLoginManager.finishLogIn self
          (FBSDKLoginManager.grantedResult self token parameters cleared)
          inputs cleared := by
    simp only [FBSDKLoginManager.concludeAuthentication,
      FBSDKLoginManager.authenticationError?, unharmed, brought]
    simp [FBSDKLoginManager.grantedResult, unrestricted, granted, none]
  refine ⟨(FBSDKLoginManager.finishLogIn self
      (FBSDKLoginManager.grantedResult self token parameters cleared) inputs
      cleared).1,
    FBSDKLoginManager.grantedResult self token parameters cleared,
    ?_, ?_, rfl⟩
  · rw [FBSDKLoginManager.completeAuthentication, passed, brought, returned,
      emptied]
    dsimp only [Turn.andThen]
    rw [concluded, finishLogIn_snd, same]
    rfl
  · rcases finishLogIn_fst self
      (FBSDKLoginManager.grantedResult self token parameters cleared) inputs
      cleared with ⟨cache, finished⟩
    rw [finished]
    rfl

/-- A URL that returns the expected challenge is accepted. -/
theorem openURL_of_expected {sdk : FacebookSDK} {self : ManagerId}
    {inputs : Inputs} {challenge : Text}
    (unrefused : inputs.first.refusals = .none)
    (expected : sdk.expected? = some challenge)
    (first : sdk.accessToken = none)
    {url : OpenedURL} {sourceApplication : Option String}
    (opens : FBSDKLoginManager.canOpenURL sdk.appID sourceApplication url =
      true)
    {token userID : String} (brings : Brings url token userID challenge) :
    ∃ next loginResult,
      FBSDKLoginManager.openURL self (some url) sourceApplication inputs
          sdk =
          (next,
            [.authenticated (some token) (some challenge) true,
              .completed (sdk.managers self).handler (.ok loginResult)]) ∧
        next.accessToken = loginResult.token ∧
        loginResult.token.map (fun token => token.tokenString) =
          some token := by
  have accepted : (some url).filter (FBSDKLoginManager.canOpenURL sdk.appID
      sourceApplication) = some url := by
    simp [opens]
  rw [FBSDKLoginManager.openURL, accepted]
  dsimp only
  rw [FBSDKLoginManager.completeLogIn,
    initWithURLParameters_of_brings brings, if_neg Bool.false_ne_true,
    if_neg (by simp)]
  exact completeAuthentication_of_expected unrefused expected first rfl
    brings.scopes rfl rfl

/-- Where the keychain refuses nothing, a first login whose dialog returns what
it was given to the manager that waits for it is never turned down: the URL is
accepted, the token becomes the current one and the handler is called with
it. -/
theorem honest_login_accepted {appID bundleIdentifier : String}
    {sdk : FacebookSDK} {past : List Action} {seen : List Event}
    (run : RunUnder step Unrefused (installed appID bundleIdentifier) past
      seen sdk)
    {earlier : List Check} {challenge : Text}
    (last : seen.filterMap Event.check? = earlier ++ [.issued challenge])
    {self : ManagerId} {handler : HandlerId}
    (pending : sdk.delegate.pendingURLOpen = some self)
    (held : (sdk.managers self).handler = some handler)
    (first : sdk.accessToken = none)
    {url : OpenedURL} {sourceApplication : Option String}
    (opens : FBSDKLoginManager.canOpenURL sdk.appID sourceApplication url =
      true)
    {token userID : String} (brings : Brings url token userID challenge)
    {inputs : Inputs} (unrefused : inputs.first.refusals = .none) :
    ∃ next loginResult,
      step sdk (.openURL url sourceApplication inputs) =
          some (next,
            [.authenticated (some token) (some challenge) true,
              .completed (some handler) (.ok loginResult)]) ∧
        next.accessToken = loginResult.token ∧
        loginResult.token.map (fun token => token.tokenString) =
          some token := by
  have expected := expected_of_issued (challenge_of_run run) last
  have kept : Kept sdk (FBSDKApplicationDelegate.close sdk) :=
    kept_delegate sdk _
  have expects : (FBSDKApplicationDelegate.close sdk).expected? =
      some challenge := by
    rw [FacebookSDK.expected?, challenge?_of_kept kept]
    exact expected
  have routed : step sdk (.openURL url sourceApplication inputs) =
      some (FBSDKLoginManager.openURL self (some url) sourceApplication
        inputs (FBSDKApplicationDelegate.close sdk)) := by
    simp only [step, FBSDKApplicationDelegate.applicationOpenURL, pending]
  rcases openURL_of_expected unrefused expects
    (kept.accessToken.trans first) opens brings with
    ⟨next, loginResult, opened, current, named⟩
  refine ⟨next, loginResult, ?_, current, named⟩
  rw [routed, opened, kept.handler, held]

/-- Facebook's app comes back after the first tap. -/
theorem honest_login_accepted_first :
    ∃ events sdk next loginResult,
      RunUnder step Unrefused (installed "appID" "bundle")
          (leaving "random+" 0) events sdk ∧
        step sdk (returning "token" "user" "random+") =
            some (next,
              [.authenticated (some "token") (some (utf8 "random=")) true,
                .completed (some 0) (.ok loginResult)]) ∧
          next.accessToken = loginResult.token ∧
          loginResult.token.map (fun token => token.tokenString) =
            some "token" := by
  have passes : (exec step Unrefused (installed "appID" "bundle")
      (leaving "random+" 0)).any (fun turn => decide
        (turn.2.filterMap Event.check? =
            [] ++ [.issued (utf8 "random=")] ∧
          turn.1.delegate.pendingURLOpen = some (.button 0) ∧
          (turn.1.managers (.button 0)).handler = some 0 ∧
          turn.1.accessToken = none ∧
          turn.1.appID = "appID")) = true := by
    decide
  rcases run_of_any passes with ⟨events, sdk, run, checked⟩
  rcases of_decide_eq_true checked with ⟨last, pending, held, first, app⟩
  have opens : FBSDKLoginManager.canOpenURL sdk.appID
      (some "com.facebook.Facebook")
      (callbackURL "appID" "token" "user" "random+") = true := by
    rw [app]
    decide
  have brings : Brings (callbackURL "appID" "token" "user" "random+")
      "token" "user" (utf8 "random=") := by
    constructor
    · rfl
    · decide
    · rfl
    · decide
    · decide
  have unrefused : (Inputs.undisturbed "random+").first.refusals = .none :=
    rfl
  rcases honest_login_accepted run last pending held first opens brings
    unrefused with ⟨next, loginResult, stepped, current, named⟩
  exact ⟨events, sdk, next, loginResult, run, stepped, current, named⟩

end BandBPools.Facebook
