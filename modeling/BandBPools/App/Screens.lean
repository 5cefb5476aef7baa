import BandBPools.App.State

/-!
# Screens and their handlers

Every handler of the three view controllers and of the app delegate that
navigates or signs in is embedded as a function on the state, under the
source's name.  A push and a Back run the `viewWillAppear` of the controller
they reveal within the same turn.

Optional chaining on `navigationController` is a test of membership in the
stack, which is where a controller has one.
-/

namespace BandBPools.App

open BandBPools.Credential

/-! ## Pushing -/

/--
`UINavigationController.pushViewController(_:animated:)`.  Pushing an instance
that the stack holds already raises an exception that nobody catches.
-/
def pushViewController (site : PushSite) (controller : Controller)
    (viewWillAppear : State → Turn) (state : State) : Turn :=
  if controller ∈ state.stack then
    ({ state with terminated := true },
      [.pushed ⟨site, controller, state.stack⟩])
  else
    let appeared :=
      viewWillAppear { state with stack := controller :: state.stack }
    (appeared.1,
      .pushed ⟨site, controller, state.stack⟩ :: appeared.2)

/-- `self.navigationController?.…`, which does nothing for a controller that
is not in the stack. -/
def navigationController? (self : Controller) (call : State → Turn)
    (state : State) : Turn :=
  if self ∈ state.stack then call state else silent state

/-! ## MenuCollectionVC -/

/-- `MenuCollectionVC.viewWillAppear(_:)`, which only dresses its bar. -/
def MenuCollectionVC.viewWillAppear (state : State) : Turn :=
  silent state

/-- `MenuCollectionVC()` pushed on the spot by a `HomeController`. -/
def pushNewMenu (site : PushSite) (self : HomeId) (state : State) : Turn :=
  navigationController? (.home self)
    (pushViewController site (.menu (.fresh state.nextMenu))
      MenuCollectionVC.viewWillAppear)
    { state with nextMenu := state.nextMenu + 1 }

/-! ## HomeController -/

/-- `HomeController.viewWillAppear(_:)` -/
def HomeController.viewWillAppear (self : HomeId) (state : State) : Turn :=
  if state.currentUser.isSome then
    pushNewMenu .viewWillAppear self state
  else
    silent state

/-! ## LoginViewController -/

namespace LoginViewController

/-- `LoginViewController.handleLoginOrSignUp(num:)` -/
def handleLoginOrSignUp (num : Nat) (screen : LoginScreen) :
    LoginScreen × List Event :=
  match num with
  | 1 =>
      ({ screen with
          title := some "Sign Up"
          loginButtonHidden := true
          forgotButtonHidden := true
          userFieldHidden := false
          signUpButtonHidden := false }, [])
  | 2 =>
      ({ screen with
          title := some "Log In"
          userFieldHidden := true
          signUpButtonHidden := true
          forgotButtonHidden := false
          loginButtonHidden := false }, [])
  | _ => (screen, [.pageSetupError])

/-- `LoginViewController.viewWillAppear(_:)` -/
def viewWillAppear (self : HomeId) (state : State) : Turn :=
  let shown :=
    handleLoginOrSignUp state.loginVsSignup (state.screens self)
  ({ state with screens := Function.update state.screens self shown.1 },
    shown.2)

/-- Push the stored `menuView`. -/
def pushMenuView (site : PushSite) (self : HomeId) (state : State) :
    Turn :=
  navigationController? (.login self)
    (pushViewController site (menuView self)
      MenuCollectionVC.viewWillAppear)
    state

/-- Carry out one effect of a submit handler. -/
def perform (self : HomeId) (effect : Effect) (state : State) : Turn :=
  match effect with
  | .createUser email password =>
      silent (state.start (.firebase (.signup self email password)))
  | .signIn email password =>
      silent (state.start (.firebase (.login self email password)))
  | .present alert => (state, [.presented alert])

/-- Carry out the effects of a submit handler in order. -/
def performAll (self : HomeId) : List Effect → State → Turn
  | [], state => silent state
  | effect :: rest, state =>
      let first := perform self effect state
      let later := performAll self rest first.1
      (later.1, first.2 ++ later.2)

/-- The completion of `createUser` in `handleSignup()`.  With neither an error
nor a user, `error!` would trap. -/
def signupCompletion (self : HomeId) (user : Option User)
    (error : Option NSError) (state : State) : Turn :=
  if error.isNone && user.isSome then
    pushMenuView .handleSignup self state
  else
    match error with
    | some _ => silent state
    | none => silent { state with terminated := true }

/-- The completion of `signIn` in `handleLogin()`. -/
def loginCompletion (self : HomeId) (_user : Option User)
    (error : Option NSError) (state : State) : Turn :=
  match error with
  | some _ => silent state
  | none => pushMenuView .handleLogin self state

/-- `LoginViewController.showEmailAddress()`: the Graph request goes out with
the token there is at that time. -/
def showEmailAddress (self : HomeId) (signIn : SignInId)
    (state : State) : Turn :=
  silent (state.proceed signIn
    (.graph self (state.accessToken.map AccessToken.tokenString)))

/-- The completion of the Graph request in `showEmailAddress()`. -/
def graphCompletion (self : HomeId) (signIn : SignInId)
    (err : Option NSError) (state : State) : Turn :=
  match err with
  | some _ => silent state
  | none =>
      match state.accessToken with
      | none => silent state
      | some accessToken =>
          silent (state.proceed signIn
            (.firebase (.facebook self accessToken.tokenString)))

/-- The completion of the Firebase request in `showEmailAddress()`. -/
def facebookCompletion (self : HomeId) (_user : Option User)
    (error : Option NSError) (state : State) : Turn :=
  if error.isSome then
    silent state
  else
    pushMenuView .showEmailAddress self state

/-- `loginButton(_:didCompleteWith:error:)`: an error is printed and nothing
more. -/
def loginButtonDidComplete (self : HomeId) (signIn : SignInId)
    (_result : Option LoginManagerLoginResult) (_error : Option NSError)
    (state : State) : Turn :=
  showEmailAddress self signIn state

end LoginViewController

namespace HomeController

/-- `HomeController.segueToLoginScreen()` -/
def segueToLoginScreen (self : HomeId) (state : State) : Turn :=
  navigationController? (.home self)
    (pushViewController .segueToLoginScreen (vc self)
      (LoginViewController.viewWillAppear self))
    state

/-- `HomeController.tappedSignUpButton()` -/
def tappedSignUpButton (self : HomeId) (state : State) : Turn :=
  segueToLoginScreen self { state with loginVsSignup := 1 }

/-- `HomeController.tappedLoginButton()` -/
def tappedLoginButton (self : HomeId) (state : State) : Turn :=
  segueToLoginScreen self { state with loginVsSignup := 2 }

/-- `HomeController.signInAnonymously()` -/
def signInAnonymously (self : HomeId) (state : State) : Turn :=
  silent (state.start (.firebase (.guest self)))

/-- The completion of the request in `signInAnonymously()`. -/
def guestCompletion (self : HomeId) (_authResult : Option User)
    (error : Option NSError) (state : State) : Turn :=
  match error with
  | some _ => silent state
  | none => pushNewMenu .signInAnonymously self state

end HomeController

/-! ## AppDelegate -/

namespace AppDelegate

/-- `AppDelegate.sign(_:didSignInFor:withError:)` -/
def sign (signIn : SignInId) (user : Option GIDGoogleUser)
    (error : Option NSError) (state : State) : Turn :=
  match error with
  | some _ => silent state
  | none =>
      match user with
      | none => silent { state with terminated := true }
      | some user =>
          match user.idToken, user.accessToken with
          | some idToken, some accessToken =>
              silent (state.proceed signIn
                (.firebase (.google idToken accessToken)))
          | _, _ => silent state

/-- The completion of the Firebase request in `sign`, which only prints. -/
def googleCompletion (_authResult : Option User)
    (_error : Option NSError) (state : State) : Turn :=
  silent state

end AppDelegate

/-! ## The SDKs -/

/-- `FBSDKAccessToken.currentAccessTokenIsActive` -/
def currentAccessTokenIsActive (current : Option AccessToken) : Bool :=
  current.any fun token => !token.isExpired

/-- `FBSDKLoginManager.logOut` -/
def FBSDKLoginManager.logOut (state : State) : State :=
  { state with accessToken := none }

/-- `loginButtonDidLogOut(_:)` -/
def LoginViewController.loginButtonDidLogOut (state : State) : State :=
  FBSDKLoginManager.logOut state

/-- `FBSDKLoginButton._buttonPressed`: with an active token the button offers
to log out, otherwise it starts a login. -/
def FBSDKLoginButton.buttonPressed (self : HomeId) (confirm : Bool)
    (state : State) : Turn :=
  if currentAccessTokenIsActive state.accessToken then
    if confirm then
      silent (LoginViewController.loginButtonDidLogOut
        (FBSDKLoginManager.logOut state))
    else
      silent state
  else
    silent (state.start (.facebookLogin self))

/-- The end of `FBSDKLoginManager.completeAuthentication`: a granted token
becomes the current one before the handler runs. -/
def FBSDKLoginManager.completeAuthentication
    (result : Option LoginManagerLoginResult)
    (current : Option AccessToken) : Option AccessToken :=
  (result.bind LoginManagerLoginResult.token).or current

/-- `FBSDKGraphRequestConnection.processResultBody`: an error that names the
request's token, if it is still the current one, as invalid takes it away. -/
def FBSDKGraphRequestConnection.processResultBody
    (tokenString : Option String) (error : Option NSError)
    (current : Option AccessToken) : Option AccessToken :=
  match error, current with
  | some error, some token =>
      if tokenString = some token.tokenString &&
          (error.code == 190 || error.code == 102) then
        if error.subcode == 493 then
          some { token with isExpired := true }
        else
          none
      else
        some token
  | _, current => current

/-- `FIRAuth.signOut`: without a user there is nothing to remove from the
keychain, and with one the removal may fail. -/
def FIRAuth.signOut (keychain : Option NSError) (state : State) :
    Except NSError State :=
  match state.currentUser, keychain with
  | none, _ => .ok state
  | some _, none => .ok { state with currentUser := none }
  | some _, some error => .error error

/-- `MenuCollectionVC.handleLogout()` -/
def MenuCollectionVC.handleLogout (self : MenuId)
    (keychain : Option NSError) (state : State) : Turn :=
  match FIRAuth.signOut keychain state with
  | .ok signedOut =>
      let loggedOut := FBSDKLoginManager.logOut signedOut
      let vc := loggedOut.nextHome
      navigationController? (.menu self)
        (pushViewController .handleLogout (.home vc)
          (HomeController.viewWillAppear vc))
        { loggedOut with nextHome := vc + 1 }
  | .error _ => silent state

/-! ## Completions -/

/-- The completion that a Firebase request was sent with. -/
def FirebaseCall.completion (call : FirebaseCall) (user : Option User)
    (error : Option NSError) (state : State) : Turn :=
  match call with
  | .guest self => HomeController.guestCompletion self user error state
  | .signup self _ _ =>
      LoginViewController.signupCompletion self user error state
  | .login self _ _ =>
      LoginViewController.loginCompletion self user error state
  | .facebook self _ =>
      LoginViewController.facebookCompletion self user error state
  | .google _ _ => AppDelegate.googleCompletion user error state

/-- Run a completion of the given sign-in. -/
def Completion.run (signIn : SignInId) (completion : Completion)
    (state : State) : Turn :=
  match completion with
  | .firebase call reply =>
      call.completion reply.result? reply.error? state
  | .facebookLogin self reply =>
      LoginViewController.loginButtonDidComplete self signIn
        reply.result? reply.error?
        { state with
          accessToken := FBSDKLoginManager.completeAuthentication
            reply.result? state.accessToken }
  | .graph self tokenString reply =>
      LoginViewController.graphCompletion self signIn reply.error?
        { state with
          accessToken := FBSDKGraphRequestConnection.processResultBody
            tokenString reply.error? state.accessToken }
  | .googleLogin reply =>
      AppDelegate.sign signIn reply.result? reply.error? state

/-- `viewWillAppear(_:)` of whichever controller is revealed. -/
def viewWillAppear (controller : Controller) (state : State) : Turn :=
  match controller with
  | .home self => HomeController.viewWillAppear self state
  | .login self => LoginViewController.viewWillAppear self state
  | .menu _ => MenuCollectionVC.viewWillAppear state

end BandBPools.App
