import BandBPools.Credential.Gate
import Mathlib.Data.List.AList

/-!
# State of the running app

The state is what the sign-in and navigation code of the app reads and
writes: the navigation stack, the signed-in user and the Facebook token of the
SDKs, the sign-ins that are under way, the global `loginVsSignup`, and the
hidden flags of every login screen.

A `HomeController` owns one `LoginViewController` and that one a
`MenuCollectionVC`, all created together, so the three instances share one
number.  Menus created on the spot are numbered by themselves.
-/

namespace BandBPools.App

open BandBPools.Credential

/-! ## Controllers -/

/-- The number of a `HomeController` and of what it owns. -/
abbrev HomeId := Nat

/-- A `MenuCollectionVC` instance. -/
inductive MenuId where
  | stored (owner : HomeId)
  | fresh (serial : Nat)
deriving DecidableEq, Repr

/-- A view controller instance. -/
inductive Controller where
  | home (id : HomeId)
  | login (owner : HomeId)
  | menu (id : MenuId)
deriving DecidableEq, Repr

/-- `HomeController.vc` -/
def HomeController.vc (self : HomeId) : Controller :=
  .login self

/-- `LoginViewController.menuView` -/
def LoginViewController.menuView (self : HomeId) : Controller :=
  .menu (.stored self)

/-- Whether a controller is a `MenuCollectionVC`. -/
@[simp]
def Controller.isMenu : Controller → Bool
  | .menu _ => true
  | _ => false

/-- Whether a controller is a `HomeController`. -/
@[simp]
def Controller.isHome : Controller → Bool
  | .home _ => true
  | _ => false

/-! ## What the SDKs hand over -/

/-- `NSError`, as far as the embedded code looks into it. -/
structure NSError where
  code : Int
  subcode : Int
deriving DecidableEq, Repr

/-- A Firebase user. -/
structure User where
  uid : String
  isAnonymous : Bool
deriving DecidableEq, Repr

/-- `FBSDKAccessToken` -/
structure AccessToken where
  tokenString : String
  isExpired : Bool
deriving DecidableEq, Repr

/-- `FBSDKLoginManagerLoginResult`: a cancelled login has no token. -/
structure LoginManagerLoginResult where
  token : Option AccessToken
  isCancelled : Bool
  noToken : isCancelled = true → token = none
deriving DecidableEq

/-- `GIDGoogleUser`, with the tokens of its `authentication`. -/
structure GIDGoogleUser where
  idToken : Option String
  accessToken : Option String
deriving DecidableEq, Repr

/-- The arguments of a completion: an error or a result, never both. -/
inductive Reply (Result : Type) where
  | failure (error : NSError)
  | success (result : Result)
deriving DecidableEq, Repr

namespace Reply

variable {Result : Type}

@[simp]
def error? : Reply Result → Option NSError
  | .failure error => some error
  | .success _ => none

@[simp]
def result? : Reply Result → Option Result
  | .failure _ => none
  | .success result => some result

end Reply

/-! ## Sign-ins under way -/

/-- The number of a sign-in, given out at the tap that starts it. -/
abbrev SignInId := Nat

/-- A Firebase request, by the code that sent it and holds its completion. -/
inductive FirebaseCall where
  | guest (self : HomeId)
  | signup (self : HomeId) (email password : Text)
  | login (self : HomeId) (email password : Text)
  | facebook (self : HomeId) (tokenString : String)
  | google (idToken accessToken : String)
deriving DecidableEq

/-- A request that a provider has not answered yet. -/
inductive Request where
  | firebase (call : FirebaseCall)
  | facebookLogin (self : HomeId)
  | graph (self : HomeId) (tokenString : Option String)
  | googleLogin
deriving DecidableEq

/-- A completion with its arguments. -/
inductive Completion where
  | firebase (call : FirebaseCall) (reply : Reply User)
  | facebookLogin (self : HomeId) (reply : Reply LoginManagerLoginResult)
  | graph (self : HomeId) (tokenString : Option String)
      (reply : Reply Unit)
  | googleLogin (reply : Reply GIDGoogleUser)
deriving DecidableEq

/-- Where a sign-in stands: with a provider or on the main queue. -/
inductive Pending where
  | inFlight (request : Request)
  | waiting (completion : Completion)
deriving DecidableEq

/-! ## Login screens -/

/-- What `handleLoginOrSignUp` sets on a `LoginViewController`. -/
structure LoginScreen where
  title : Option String
  userFieldHidden : Bool
  signUpButtonHidden : Bool
  loginButtonHidden : Bool
  forgotButtonHidden : Bool
deriving DecidableEq, Repr

/-- A `LoginViewController` on which nothing has been set yet. -/
def LoginScreen.unset : LoginScreen where
  title := none
  userFieldHidden := false
  signUpButtonHidden := false
  loginButtonHidden := false
  forgotButtonHidden := false

/-! ## The state -/

/-- The state of the app; the top of the navigation stack comes first. -/
structure State where
  stack : List Controller
  currentUser : Option User
  accessToken : Option AccessToken
  pending : AList fun _ : SignInId => Pending
  loginVsSignup : Nat
  screens : HomeId → LoginScreen
  nextHome : HomeId
  nextMenu : Nat
  nextSignIn : SignInId
  /-- An uncaught exception has ended the app. -/
  terminated : Bool

namespace State

/-- Where a sign-in stands, if it has not ended. -/
def at? (state : State) (signIn : SignInId) : Option Pending :=
  state.pending.lookup signIn

/-- The controller on the screen. -/
def top? (state : State) : Option Controller :=
  state.stack.head?

/-- No request is in flight and no completion is waiting. -/
def Quiet (state : State) : Prop :=
  ∀ signIn, state.at? signIn = none

/-- The completion of a sign-in that waits on the main queue. -/
def waiting? (state : State) (signIn : SignInId) : Option Completion :=
  match state.at? signIn with
  | some (.waiting completion) => some completion
  | _ => none

/-- Every sign-in under way is of a kind. -/
def AllPending (state : State) (kind : Pending → Prop) : Prop :=
  ∀ signIn pending, state.at? signIn = some pending → kind pending

/-- Send the first request of a new sign-in. -/
def start (request : Request) (state : State) : State :=
  { state with
    pending := state.pending.insert state.nextSignIn (.inFlight request)
    nextSignIn := state.nextSignIn + 1 }

/-- Send the next request of a sign-in. -/
def proceed (signIn : SignInId) (request : Request) (state : State) :
    State :=
  { state with
    pending := state.pending.insert signIn (.inFlight request) }

/-- Take a sign-in off the main queue. -/
def dequeue (signIn : SignInId) (state : State) : State :=
  { state with pending := state.pending.erase signIn }

theorem allPending_iff_entries
    (state : State) (kind : Pending → Prop) :
    (∀ entry ∈ state.pending.entries, kind entry.2) ↔
      state.AllPending kind := by
  constructor
  · intro all signIn pending found
    exact all _ (AList.mem_lookup_iff.mp found)
  · intro all entry member
    exact all entry.1 entry.2 (AList.mem_lookup_iff.mpr member)

instance (state : State) (kind : Pending → Prop) [DecidablePred kind] :
    Decidable (state.AllPending kind) :=
  decidable_of_iff _ (state.allPending_iff_entries kind)

theorem allPending_false_iff (state : State) :
    (state.AllPending fun _ => False) ↔ state.Quiet := by
  constructor
  · intro all signIn
    cases found : state.at? signIn with
    | none => rfl
    | some pending => exact (all signIn pending found).elim
  · intro quiet signIn pending found
    rw [quiet signIn] at found
    cases found

instance (state : State) : Decidable state.Quiet :=
  decidable_of_iff _ state.allPending_false_iff

theorem waiting?_eq_some_iff
    {state : State} {signIn : SignInId} {completion : Completion} :
    state.waiting? signIn = some completion ↔
      state.at? signIn = some (.waiting completion) := by
  unfold waiting?
  split
  · next found => simp [found]
  · next other =>
      constructor
      · intro equal
        cases equal
      · intro found
        exact absurd found (other completion)

@[simp]
theorem at?_start_self (request : Request) (state : State) :
    (state.start request).at? state.nextSignIn =
      some (.inFlight request) :=
  AList.lookup_insert _

theorem at?_start_of_ne
    {signIn : SignInId} {state : State}
    (other : signIn ≠ state.nextSignIn) (request : Request) :
    (state.start request).at? signIn = state.at? signIn :=
  AList.lookup_insert_ne other

@[simp]
theorem at?_proceed_self
    (signIn : SignInId) (request : Request) (state : State) :
    (state.proceed signIn request).at? signIn =
      some (.inFlight request) :=
  AList.lookup_insert _

theorem at?_proceed_of_ne
    {signIn other : SignInId} (distinct : other ≠ signIn)
    (request : Request) (state : State) :
    (state.proceed signIn request).at? other = state.at? other :=
  AList.lookup_insert_ne distinct

@[simp]
theorem at?_dequeue_self (signIn : SignInId) (state : State) :
    (state.dequeue signIn).at? signIn = none :=
  AList.lookup_erase _ _

theorem at?_dequeue_of_ne
    {signIn other : SignInId} (distinct : other ≠ signIn)
    (state : State) :
    (state.dequeue signIn).at? other = state.at? other :=
  AList.lookup_erase_ne distinct

end State

/-! ## What can be seen from outside -/

/-- The source line a push comes from. -/
inductive PushSite where
  | viewWillAppear
  | signInAnonymously
  | segueToLoginScreen
  | handleSignup
  | handleLogin
  | showEmailAddress
  | handleLogout
deriving DecidableEq, Repr

/-- A call of `pushViewController` and the stack it finds. -/
structure Push where
  site : PushSite
  controller : Controller
  stack : List Controller
deriving DecidableEq, Repr

/-- What a step lets the outside see. -/
inductive Event where
  | pushed (push : Push)
  | presented (alert : Alert)
  | pageSetupError
deriving DecidableEq, Repr

/-- One turn of the main queue: the state it leaves and what was seen. -/
abbrev Turn := State × List Event

/-- A turn that shows nothing. -/
def silent (state : State) : Turn :=
  (state, [])

end BandBPools.App
