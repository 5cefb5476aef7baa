import BandBPools.App.Reach
import BandBPools.Auth.SignIn

/-!
# The app on a device

The machine of the app takes a reply of Firebase as one step that signs the
user in.  Here the reply is what `FIRAuth` makes of the answers of its
backend: every sign-in that is with Firebase is a flow on the work queue, the
current user is the one of the session, and the keychain outlives the process.

A flow may call back without an error and without a user.  Its completion
waits apart from the others, because to the app it looks like that of a
sign-in that has succeeded.
-/

namespace BandBPools.Device

open BandBPools.Auth
open BandBPools.Transition
open BandBPools.App
  (SignInId FirebaseCall NSError User AccessToken MenuId Turn)

/-! ## The state -/

/-- The app, its session, the flows under way and the completions that wait
without a user. -/
structure State where
  app : App.State
  auth : FIRAuth
  stages : SignInId → Stage
  hollow : AList fun _ : SignInId => FirebaseCall

/-- What the app sees of a user. -/
def seen (user : UserObject) : User where
  uid := user.user.userID.getD ""
  isAnonymous := user.user.anonymous

/-- What the app sees of an error. -/
def seenError (error : FIRAuthErrorCode) : NSError :=
  ⟨error.code, 0⟩

/-- The call of `FIRAuth` that a request of the app makes. -/
def method : FirebaseCall → Method
  | .guest _ => .signInAnonymously
  | .signup _ email password => .createUser email password
  | .login _ email password => .signInWithEmail email password
  | .facebook _ _ | .google _ _ => .signInWithCredential

/-! ## Actions -/

/-- One step on the device. -/
inductive Action where
  | app (action : App.Action)
  | logout (self : MenuId) (refusals : Refusals)
  | work (signIn : SignInId) (input : Input) (refusals : Refusals)
  | completeHollow (signIn : SignInId)
  | relaunch (refusals : Refusals) (token : Option AccessToken)

/-- What can be seen of a step. -/
inductive Event where
  | app (event : App.Event)
  | posted (notification : Notification)
deriving DecidableEq, Repr

/-- What the app shows. -/
def Event.shown? : Event → Option App.Event
  | .app event => some event
  | .posted _ => none

/-- What the observers of the session hear. -/
def Event.posted? : Event → Option Notification
  | .app _ => none
  | .posted notification => some notification

/-- The steps of the app that do not go through `FIRAuth`. -/
def own : App.Action → Bool
  | .logout _ _ | .reply _ (.firebase _) => false
  | _ => true

/-! ## Steps -/

/-- A new process. -/
def launch (refusals : Refusals) (APIKey appName : String)
    (keychain : FIRAuthKeychain ArchivedUser)
    (token : Option AccessToken) : State × List Event :=
  let started := FIRAuth.initWithAPIKey refusals APIKey appName keychain
  let turn := App.launch (started.1.currentUser.map seen) token
  ({ app := turn.1
     auth := started.1
     stages := fun _ => .queued
     hollow := ∅ },
    started.2.map .posted ++ turn.2.map .app)

/-- What the app's `signOut` throws. -/
def thrown (result : Except KeychainError Unit) : Option NSError :=
  match result with
  | .ok () => none
  | .error _ => some (seenError .keychainError)

/-- Let the app see the current user of the session. -/
def look (auth : FIRAuth) (app : App.State) : App.State :=
  { app with currentUser := auth.currentUser.map seen }

/-- Carry out what a flow does. -/
def progress (signIn : SignInId) (call : FirebaseCall)
    (progress : Progress) (device : State) : State × List Event :=
  let auth := progress.2.1
  let posted := progress.2.2.map Event.posted
  match progress.1 with
  | .goesOn stage =>
      ({ device with
          app := look auth device.app
          auth := auth
          stages := Function.update device.stages signIn stage }, posted)
  | .callsBack (.error error) =>
      ({ device with
          app := look auth (App.enqueue signIn
            (.firebase call (.failure (seenError error))) device.app)
          auth := auth }, posted)
  | .callsBack (.ok ⟨some user⟩) =>
      ({ device with
          app := look auth (App.enqueue signIn
            (.firebase call (.success (seen user))) device.app)
          auth := auth }, posted)
  | .callsBack (.ok ⟨none⟩) =>
      ({ device with
          app := look auth (device.app.dequeue signIn)
          auth := auth
          hollow := device.hollow.insert signIn call }, posted)

/-- An `authResult` without a user is still an `authResult`, and the
completions look no further. -/
def present : User := ⟨"", false⟩

/-- One step on the device. -/
def step : PartialStep State Action Event := fun device action =>
  match action with
  | .app action =>
      if own action then
        (App.step device.app action).map fun turn =>
          ({ device with app := turn.1 }, turn.2.map .app)
      else
        none
  | .logout self refusals =>
      let signedOut := device.auth.signOut refusals
      (App.step device.app (.logout self (thrown signedOut.1))).map
        fun turn =>
          ({ device with app := turn.1, auth := signedOut.2.1 },
            signedOut.2.2.map .posted ++ turn.2.map .app)
  | .work signIn input refusals =>
      if device.app.terminated then
        none
      else
        match device.app.at? signIn with
        | some (.inFlight (.firebase call)) =>
            (device.auth.advance refusals (method call)
              (device.stages signIn) input).map fun made =>
                progress signIn call made device
        | _ => none
  | .completeHollow signIn =>
      if device.app.terminated then
        none
      else
        (device.hollow.lookup signIn).map fun call =>
          let turn := call.completion (some present) none device.app
          ({ device with
              app := turn.1
              hollow := device.hollow.erase signIn },
            turn.2.map .app)
  | .relaunch refusals token =>
      some (launch refusals device.auth.APIKey device.auth.firebaseAppName
        (.initWithService device.auth.keychain.service
          device.auth.keychain.items) token)

/-- The completions of sign-ins without an error do not look at the user. -/
theorem completion_ignores_user (call : FirebaseCall) (user : User)
    (app : App.State) :
    call.completion (some present) none app =
      call.completion (some user) none app := by
  cases call <;> rfl

/-- A completion that waits without a user looks like that of a sign-in that
has succeeded, whichever user that one brings. -/
theorem step_completeHollow {device : State}
    (running : device.app.terminated = false) {signIn : SignInId}
    {call : FirebaseCall} (found : device.hollow.lookup signIn = some call)
    (user : User) :
    step device (.completeHollow signIn) =
      some ({ device with
          app := (call.completion (some user) none device.app).1
          hollow := device.hollow.erase signIn },
        (call.completion (some user) none device.app).2.map .app) := by
  rw [← completion_ignores_user call user]
  simp [step, running, found]

/-- A run on a device from the first launch of the app, whose steps all meet
a condition. -/
def LaunchedUnder (condition : State → Action → Prop)
    (actions : List Action) (events : List Event) (device : State) : Prop :=
  ∃ refusals APIKey appName keychain token later,
    RunUnder step condition
        (launch refusals APIKey appName keychain token).1
        actions later device ∧
      events = (launch refusals APIKey appName keychain token).2 ++ later

/-- What holds of every new process and is kept by the steps that meet the
condition holds at the end of every run. -/
theorem LaunchedUnder.history {condition : State → Action → Prop}
    {Inv : List Event → State → Prop}
    (preserved : ∀ seen device action next observed,
      Inv seen device → condition device action →
      step device action = some (next, observed) →
      Inv (seen ++ observed) next)
    (initial : ∀ refusals APIKey appName keychain token,
      Inv (launch refusals APIKey appName keychain token).2
        (launch refusals APIKey appName keychain token).1)
    {actions : List Action} {events : List Event} {device : State}
    (launched : LaunchedUnder condition actions events device) :
    Inv events device := by
  rcases launched with
    ⟨refusals, APIKey, appName, keychain, token, later, run, rfl⟩
  have history : (fun (_ : List Action) seen =>
      Inv ((launch refusals APIKey appName keychain token).2 ++ seen))
      actions later device := by
    apply run.historyInvariant
    · intro _ seen device action next observed holds meets taken
      rw [← List.append_assoc]
      exact preserved _ device action next observed holds meets taken
    · rw [List.append_nil]
      exact initial refusals APIKey appName keychain token
  exact history

/-- The rule for facts about states alone. -/
theorem LaunchedUnder.invariant {condition : State → Action → Prop}
    {Inv : State → Prop}
    (preserved : ∀ device action next observed,
      Inv device → condition device action →
      step device action = some (next, observed) → Inv next)
    (initial : ∀ refusals APIKey appName keychain token,
      Inv (launch refusals APIKey appName keychain token).1)
    {actions : List Action} {events : List Event} {device : State}
    (launched : LaunchedUnder condition actions events device) :
    Inv device := by
  have history : (fun (_ : List Event) => Inv) events device := by
    apply launched.history
    · intro _ device action next observed
      exact preserved device action next observed
    · exact initial
  exact history

/-! ## A guest session -/

/-- The app after it has been installed. -/
def installed : State :=
  (launch .none "key" "app" (.initWithService "service" ∅) none).1

/-- The account of a guest. -/
def guestAccount : FIRGetAccountInfoResponseUser where
  localID := some "guest"
  displayName := none
  email := none
  photoURL := none
  creationDate := none
  lastLoginDate := none
  emailVerified := false
  providerUserInfo := []
  passwordHash := none
  phoneNumber := none

/-- A guest signs in and is shown the menu. -/
def guestSignIn : List Action :=
  [.app (.home 0 .guest), .work 0 .run .none,
    .work 0 (.tokens (.ok ⟨some "token", some 3600, some "refresh"⟩)) .none,
    .work 0 (.fetch 0) .none, .work 0 (.accountInfo (.ok guestAccount)) .none,
    .app (.complete 0)]

/-- What is checked of the device after the listed actions holds at the end of
a run. -/
theorem launched_of_any {condition : State → Action → Prop}
    [∀ device action, Decidable (condition device action)]
    {actions : List Action} (check : State → Bool)
    (passes : (exec step condition installed actions).any
      (fun turn => check turn.1) = true) :
    ∃ events device, LaunchedUnder condition actions events device ∧
      check device = true := by
  rcases run_of_any passes with ⟨later, device, run, checked⟩
  exact ⟨_, device, ⟨_, _, _, _, _, later, run, rfl⟩, checked⟩

end BandBPools.Device
