import BandBPools.App.Screens
import BandBPools.Transition.Run

/-!
# The sign-in and navigation machine

The app takes a step when the user taps something on the top controller, when
a provider answers a request, or when the main queue runs a waiting
completion; the Facebook token may also expire by itself.  Requests are
answered and completions run in any order.  The steps of a controller that is
not on the screen, and all steps of an app that an exception has ended, are
disabled.
-/

namespace BandBPools.App

open BandBPools.Credential
open BandBPools.Transition

/-! ## Actions -/

/-- The buttons of a `HomeController`. -/
inductive HomeTap where
  | guest
  | signUp
  | logIn
deriving DecidableEq, Repr

/-- The buttons of a `LoginViewController`, and Back.  The fields are what the
user has typed by then; `confirm` answers the log-out sheet of the Facebook
button, should it come up. -/
inductive LoginTap where
  | submitSignup (fields : TextFields)
  | submitLogin (fields : TextFields)
  | facebook (confirm : Bool)
  | google
  | back

/-- What a provider sends back. -/
inductive Answer where
  | firebase (reply : Reply User)
  | facebookLogin (reply : Reply LoginManagerLoginResult)
  | graph (reply : Reply Unit)
  | googleLogin (reply : Reply GIDGoogleUser)

/-- One step of the app. -/
inductive Action where
  | home (self : HomeId) (tap : HomeTap)
  | login (self : HomeId) (tap : LoginTap)
  | logout (self : MenuId) (keychain : Option NSError)
  | reply (signIn : SignInId) (answer : Answer)
  | complete (signIn : SignInId)
  | tokenExpires

/-- The sign-in that a step belongs to, for the steps after its tap. -/
def Action.signIn? : Action → Option SignInId
  | .reply signIn _ => some signIn
  | .complete signIn => some signIn
  | _ => none

/-! ## Taps -/

def HomeController.tapped (self : HomeId) (tap : HomeTap)
    (state : State) : Turn :=
  match tap with
  | .guest => signInAnonymously self state
  | .signUp => tappedSignUpButton self state
  | .logIn => tappedLoginButton self state

/-- Back removes the top controller and reveals the one below. -/
def back (state : State) : Turn :=
  match state.stack with
  | _ :: revealed :: rest =>
      viewWillAppear revealed { state with stack := revealed :: rest }
  | _ => silent state

/-- A hidden button takes no tap. -/
def LoginViewController.tapped (self : HomeId) (tap : LoginTap)
    (state : State) : Option Turn :=
  match tap with
  | .submitSignup fields =>
      if (state.screens self).signUpButtonHidden then
        none
      else
        some (performAll self (handleSignup fields) state)
  | .submitLogin fields =>
      if (state.screens self).loginButtonHidden then
        none
      else
        some (performAll self (handleLogin fields) state)
  | .facebook confirm =>
      some (FBSDKLoginButton.buttonPressed self confirm state)
  | .google => some (silent (state.start .googleLogin))
  | .back => some (back state)

/-! ## Replies and completions -/

/-- The completion that an answer to a request puts on the main queue. -/
def Request.answered : Request → Answer → Option Completion
  | .firebase call, .firebase reply => some (.firebase call reply)
  | .facebookLogin self, .facebookLogin reply =>
      some (.facebookLogin self reply)
  | .graph self tokenString, .graph reply =>
      some (.graph self tokenString reply)
  | .googleLogin, .googleLogin reply => some (.googleLogin reply)
  | _, _ => none

/-- The user that Firebase signs in together with its reply. -/
def Completion.user? : Completion → Option User
  | .firebase _ (.success user) => some user
  | _ => none

/-- A reply arrives: Firebase sets the user first, the completion waits. -/
def enqueue (signIn : SignInId) (completion : Completion)
    (state : State) : State :=
  { state with
    currentUser := completion.user?.or state.currentUser
    pending := state.pending.insert signIn (.waiting completion) }

def replied (signIn : SignInId) (answer : Answer) (state : State) :
    Option Turn :=
  match state.at? signIn with
  | some (.inFlight request) =>
      (request.answered answer).map fun completion =>
        silent (enqueue signIn completion state)
  | _ => none

def completed (signIn : SignInId) (state : State) : Option Turn :=
  match state.at? signIn with
  | some (.waiting completion) =>
      some (completion.run signIn (state.dequeue signIn))
  | _ => none

/-! ## Steps and runs -/

/-- One step of the app. -/
def step : PartialStep State Action Event := fun state action =>
  if state.terminated then
    none
  else
    match action with
    | .home self tap =>
        if state.top? = some (.home self) then
          some (HomeController.tapped self tap state)
        else
          none
    | .login self tap =>
        if state.top? = some (.login self) then
          LoginViewController.tapped self tap state
        else
          none
    | .logout self keychain =>
        if state.top? = some (.menu self) then
          some (MenuCollectionVC.handleLogout self keychain state)
        else
          none
    | .reply signIn answer => replied signIn answer state
    | .complete signIn => completed signIn state
    | .tokenExpires =>
        some (silent { state with
          accessToken := state.accessToken.map fun token =>
            { token with isExpired := true } })

/-- An app that an exception has ended takes no step. -/
theorem running_of_step {state : State} {action : Action} {turn : Turn}
    (taken : step state action = some turn) :
    state.terminated = false := by
  cases terminated : state.terminated with
  | false => rfl
  | true => simp [step, terminated] at taken

theorem step_home
    {state : State} (running : state.terminated = false)
    {self : HomeId} (top : state.top? = some (.home self))
    (tap : HomeTap) :
    step state (.home self tap) =
      some (HomeController.tapped self tap state) := by
  simp [step, running, top]

theorem step_login
    {state : State} (running : state.terminated = false)
    {self : HomeId} (top : state.top? = some (.login self))
    (tap : LoginTap) :
    step state (.login self tap) =
      LoginViewController.tapped self tap state := by
  simp [step, running, top]

theorem step_logout
    {state : State} (running : state.terminated = false)
    {self : MenuId} (top : state.top? = some (.menu self))
    (keychain : Option NSError) :
    step state (.logout self keychain) =
      some (MenuCollectionVC.handleLogout self keychain state) := by
  simp [step, running, top]

theorem step_reply
    {state : State} (running : state.terminated = false)
    {signIn : SignInId} {request : Request} {answer : Answer}
    {completion : Completion}
    (inFlight : state.at? signIn = some (.inFlight request))
    (answers : request.answered answer = some completion) :
    step state (.reply signIn answer) =
      some (silent (enqueue signIn completion state)) := by
  simp [step, running, replied, inFlight, answers]

theorem step_complete
    {state : State} (running : state.terminated = false)
    {signIn : SignInId} {completion : Completion}
    (waiting : state.at? signIn = some (.waiting completion)) :
    step state (.complete signIn) =
      some (completion.run signIn (state.dequeue signIn)) := by
  simp [step, running, completed, waiting]

/-- One `HomeController`, not yet on the screen. -/
def State.initial (user : Option User) (token : Option AccessToken) :
    State where
  stack := [.home 0]
  currentUser := user
  accessToken := token
  pending := ∅
  loginVsSignup := 0
  screens := fun _ => .unset
  nextHome := 1
  nextMenu := 0
  nextSignIn := 0
  terminated := false

/-- The first appearance of the first `HomeController`. -/
def launch (user : Option User) (token : Option AccessToken) : Turn :=
  HomeController.viewWillAppear 0 (.initial user token)

/-- A run of the app from its launch, whose steps all meet a condition. -/
def LaunchedUnder (condition : State → Action → Prop)
    (actions : List Action) (events : List Event) (state : State) :
    Prop :=
  ∃ user token later,
    RunUnder step condition (launch user token).1 actions later state ∧
      events = (launch user token).2 ++ later

/-- A run of the app from its launch. -/
abbrev Launched (actions : List Action) (events : List Event)
    (state : State) : Prop :=
  LaunchedUnder (fun _ _ => True) actions events state

/-- A state that some run of the app reaches. -/
def Reachable (state : State) : Prop :=
  ∃ actions events, Launched actions events state

theorem reachable_launch (user : Option User)
    (token : Option AccessToken) :
    Reachable (launch user token).1 :=
  ⟨[], (launch user token).2, user, token, [], .refl,
    (List.append_nil _).symm⟩

theorem Reachable.step {state next : State} {action : Action}
    {observed : List Event} (reachable : Reachable state)
    (taken : App.step state action = some (next, observed)) :
    Reachable next := by
  rcases reachable with ⟨actions, events, user, token, later, run, rfl⟩
  exact ⟨actions ++ [action], _, user, token, later ++ observed,
    run.snoc True.intro taken, rfl⟩

/-- A list of actions that can be taken in order after the launch is a run of
the app, and what is checked at its end holds of a state it reaches. -/
theorem launched_of_any
    {condition : State → Action → Prop}
    [∀ state action, Decidable (condition state action)]
    {user : Option User} {token : Option AccessToken}
    {actions : List Action} {check : Turn → Bool}
    (passes : (exec step condition (launch user token).1 actions).any
      check = true) :
    ∃ later state,
      LaunchedUnder condition actions
          ((launch user token).2 ++ later) state ∧
        check (state, later) = true := by
  rcases (Option.any_eq_true _ _).mp passes with
    ⟨⟨state, later⟩, executed, holds⟩
  exact ⟨later, state,
    ⟨user, token, later, run_of_exec executed, rfl⟩, holds⟩

end BandBPools.App
