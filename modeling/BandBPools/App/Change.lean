import BandBPools.App.Invariant

/-!
# What a step can change

From a state with the invariant a step makes one of twelve changes, listed
with their guards by `Change`.  Everything that is proved about runs is proved
by cases on this list; no later proof looks into the handlers again.
-/

namespace BandBPools.App

open BandBPools.Credential

/-! ## What a completion does -/

/-- The controller that presents the menu once a completion succeeds. -/
def FirebaseCall.presenter? : FirebaseCall → Option Controller
  | .guest self => some (.home self)
  | .signup self _ _ => some (.login self)
  | .login self _ _ => some (.login self)
  | .facebook self _ => some (.login self)
  | .google _ _ => none

/-- The controller from which a completion pushes the menu. -/
def Completion.presenter? : Completion → Option Controller
  | .firebase call (.success _) => call.presenter?
  | _ => none

/-- The Facebook token after a completion has run. -/
def Completion.tokenAfter (state : State) :
    Completion → Option AccessToken
  | .facebookLogin _ reply =>
      FBSDKLoginManager.completeAuthentication reply.result?
        state.accessToken
  | .graph _ tokenString reply =>
      FBSDKGraphRequestConnection.processResultBody tokenString
        reply.error? state.accessToken
  | _ => state.accessToken

/-- The request with which a completion carries its sign-in on. -/
def Completion.next? (state : State) (completion : Completion) :
    Option Request :=
  match completion with
  | .facebookLogin self _ =>
      some (.graph self ((completion.tokenAfter state).map
        AccessToken.tokenString))
  | .graph self _ (.success _) =>
      state.accessToken.map fun token =>
        .firebase (.facebook self token.tokenString)
  | .googleLogin (.success ⟨some idToken, some accessToken⟩) =>
      some (.firebase (.google idToken accessToken))
  | _ => none

/-- The state in which a completion has ended its sign-in. -/
def State.settle (signIn : SignInId) (completion : Completion)
    (state : State) : State :=
  { state.dequeue signIn with
    accessToken := completion.tokenAfter state }

/-- A completion that carries its sign-in on does nothing else. -/
theorem Completion.run_of_next
    {completion : Completion} {state : State} {request : Request}
    (next : completion.next? state = some request)
    (signIn : SignInId) :
    completion.run signIn (state.dequeue signIn) =
      silent ((state.settle signIn completion).proceed signIn
        request) := by
  cases completion with
  | firebase call reply => simp [Completion.next?] at next
  | facebookLogin self reply =>
      simp only [Completion.next?, Option.some.injEq] at next
      subst next
      rfl
  | graph self tokenString reply =>
      cases reply with
      | failure error => simp [Completion.next?] at next
      | success result =>
          simp only [Completion.next?, Option.map_eq_some_iff] at next
          rcases next with ⟨token, current, rfl⟩
          simp [Completion.run, LoginViewController.graphCompletion,
            FBSDKGraphRequestConnection.processResultBody,
            State.settle, Completion.tokenAfter, State.dequeue,
            current]
  | googleLogin reply =>
      cases reply with
      | failure error => simp [Completion.next?] at next
      | success user =>
          rcases user with ⟨idToken, accessToken⟩
          cases idToken <;> cases accessToken <;>
            simp only [Completion.next?, reduceCtorEq,
              Option.some.injEq] at next
          subst next
          rfl

/-- A completion that neither presents the menu nor carries on ends its
sign-in. -/
theorem Completion.run_of_mute
    {completion : Completion} {state : State}
    (mute : completion.presenter? = none)
    (last : completion.next? state = none) (signIn : SignInId) :
    completion.run signIn (state.dequeue signIn) =
      silent (state.settle signIn completion) := by
  cases completion with
  | firebase call reply =>
      cases reply with
      | failure error => cases call <;> rfl
      | success user =>
          cases call <;>
            simp only [Completion.presenter?, FirebaseCall.presenter?,
              reduceCtorEq] at mute
          rfl
  | facebookLogin self reply => simp [Completion.next?] at last
  | graph self tokenString reply =>
      cases reply with
      | failure error => rfl
      | success result =>
          simp only [Completion.next?, Option.map_eq_none_iff] at last
          simp [Completion.run, LoginViewController.graphCompletion,
            FBSDKGraphRequestConnection.processResultBody,
            State.settle, Completion.tokenAfter, State.dequeue, last]
  | googleLogin reply =>
      cases reply with
      | failure error => rfl
      | success user =>
          rcases user with ⟨idToken, accessToken⟩
          cases idToken <;> cases accessToken <;>
            simp only [Completion.next?, reduceCtorEq] at last <;> rfl

/-- Only a Firebase request that succeeded presents the menu. -/
theorem Completion.success_of_presenter
    {completion : Completion} {presenter : Controller}
    (presents : completion.presenter? = some presenter) :
    ∃ call user, completion = .firebase call (.success user) ∧
      call.presenter? = some presenter := by
  cases completion with
  | firebase call reply =>
      cases reply with
      | failure error => cases presents
      | success user => exact ⟨call, user, rfl, presents⟩
  | facebookLogin self reply => cases presents
  | graph self tokenString reply => cases presents
  | googleLogin reply => cases presents

/-! ## What a tap asks for -/

/-- The two modes of a login screen. -/
inductive Mode where
  | signUp
  | logIn
deriving DecidableEq, Repr

namespace Mode

/-- The value of `loginVsSignup` for a mode. -/
def num : Mode → Nat
  | signUp => 1
  | logIn => 2

/-- The button that asks for a mode. -/
def tap : Mode → HomeTap
  | signUp => .signUp
  | logIn => .logIn

/-- A login screen after it has been set up for a mode. -/
def shown (mode : Mode) (screen : LoginScreen) : LoginScreen :=
  (LoginViewController.handleLoginOrSignUp mode.num screen).1

end Mode

/-- The mode that a tap asks a home screen for. -/
def Action.mode? : Action → Option (HomeId × Mode)
  | .home self .signUp => some (self, .signUp)
  | .home self .logIn => some (self, .logIn)
  | _ => none

/-- The request that one effect of a submit handler sends. -/
def Effect.request? (self : HomeId) : Effect → Option Request
  | .createUser email password =>
      some (.firebase (.signup self email password))
  | .signIn email password =>
      some (.firebase (.login self email password))
  | .present _ => none

/-- The request that a tap sends, which starts a sign-in. -/
def Action.request? (state : State) : Action → Option Request
  | .home self .guest => some (.firebase (.guest self))
  | .login self (.submitSignup fields) =>
      (handleSignup fields).findSome? (Effect.request? self)
  | .login self (.submitLogin fields) =>
      (handleLogin fields).findSome? (Effect.request? self)
  | .login self (.facebook _) =>
      if currentAccessTokenIsActive state.accessToken then
        none
      else
        some (.facebookLogin self)
  | .login _ .google => some .googleLogin
  | _ => none

/-- Whether an action is a logout that succeeds. -/
def Action.signsOut (state : State) : Action → Bool
  | .logout _ keychain => (FIRAuth.signOut keychain state).isOk
  | _ => false

/-! ## The changes -/

/-- What a step can change, with the action that does and the push that is
seen. -/
inductive Change (state : State) :
    Action → State → List Event → Prop where
  /-- At most the Facebook token changes. -/
  | stays {action} (token : Option AccessToken) (alerts : List Alert)
      (tapped : action.signIn? = none)
      (modeless : action.mode? = none)
      (requestless : action.request? state = none)
      (failed : action.signsOut state = false) :
      Change state action { state with accessToken := token }
        (List.map .presented alerts)
  /-- A tap starts a sign-in. -/
  | starts {action request}
      (sends : action.request? state = some request)
      (shown : ∀ owner, request.owner? = some owner →
        state.top? = some (.home owner) ∨
          state.top? = some (.login owner)) :
      Change state action (state.start request) []
  /-- A home screen opens its login screen. -/
  | opens {self below} (mode : Mode)
      (top : state.stack = .home self :: below)
      (absent : .login self ∉ state.stack) :
      Change state (.home self mode.tap)
        { state with
          stack := .login self :: state.stack
          loginVsSignup := mode.num
          screens := Function.update state.screens self
            (mode.shown (state.screens self)) }
        [.pushed ⟨.segueToLoginScreen, .login self, state.stack⟩]
  /-- Back reveals a home screen that finds no user. -/
  | returns {self below}
      (top : state.stack = .login self :: .home self :: below)
      (signedOut : state.currentUser = none) :
      Change state (.login self .back)
        { state with stack := .home self :: below } []
  /-- Back reveals a home screen that finds a user. -/
  | bounces {self below}
      (top : state.stack = .login self :: .home self :: below)
      (signedIn : state.currentUser ≠ none) :
      Change state (.login self .back)
        { state with
          stack := .menu (.fresh state.nextMenu) :: .home self :: below
          nextMenu := state.nextMenu + 1 }
        [.pushed ⟨.viewWillAppear, .menu (.fresh state.nextMenu),
          .home self :: below⟩]
  /-- A logout succeeds. -/
  | logsOut {self keychain below}
      (top : state.stack = .menu self :: below)
      (succeeds : (Action.logout self keychain).signsOut state = true) :
      Change state (.logout self keychain)
        { state with
          stack := .home state.nextHome :: state.stack
          currentUser := none
          accessToken := none
          nextHome := state.nextHome + 1 }
        [.pushed ⟨.handleLogout, .home state.nextHome, state.stack⟩]
  /-- A provider answers. -/
  | replies {signIn answer request completion}
      (inFlight : state.at? signIn = some (.inFlight request))
      (answered : request.answered answer = some completion) :
      Change state (.reply signIn answer)
        (enqueue signIn completion state) []
  /-- A completion sends the next request. -/
  | proceeds {signIn completion request}
      (waiting : state.at? signIn = some (.waiting completion))
      (next : completion.next? state = some request) :
      Change state (.complete signIn)
        ((state.settle signIn completion).proceed signIn request) []
  /-- A completion ends its sign-in and presents nothing. -/
  | settles {signIn completion}
      (waiting : state.at? signIn = some (.waiting completion))
      (last : completion.next? state = none)
      (absent : ∀ presenter, completion.presenter? = some presenter →
        presenter ∉ state.stack) :
      Change state (.complete signIn)
        (state.settle signIn completion) []
  /-- The completion of a guest sign-in presents a new menu. -/
  | presents {signIn completion self}
      (waiting : state.at? signIn = some (.waiting completion))
      (presenter : completion.presenter? = some (.home self)) :
      Change state (.complete signIn)
        { state.dequeue signIn with
          stack := .menu (.fresh state.nextMenu) :: state.stack
          nextMenu := state.nextMenu + 1 }
        [.pushed ⟨.signInAnonymously, .menu (.fresh state.nextMenu),
          state.stack⟩]
  /-- A completion presents the stored menu of a login screen. -/
  | shows {signIn completion self site}
      (completed : site ≠ .handleLogout)
      (waiting : state.at? signIn = some (.waiting completion))
      (presenter : completion.presenter? = some (.login self))
      (member : .login self ∈ state.stack)
      (absent : .menu (.stored self) ∉ state.stack) :
      Change state (.complete signIn)
        { state.dequeue signIn with
          stack := .menu (.stored self) :: state.stack }
        [.pushed ⟨site, .menu (.stored self), state.stack⟩]
  /-- A completion pushes a stored menu that the stack holds already. -/
  | raises {signIn completion self site}
      (completed : site ≠ .handleLogout)
      (waiting : state.at? signIn = some (.waiting completion))
      (presenter : completion.presenter? = some (.login self))
      (member : .login self ∈ state.stack)
      (repeated : .menu (.stored self) ∈ state.stack) :
      Change state (.complete signIn)
        { state.dequeue signIn with terminated := true }
        [.pushed ⟨site, .menu (.stored self), state.stack⟩]

/-! ## Pushes -/

theorem pushViewController_of_notMem
    {controller : Controller} (state : State)
    (absent : controller ∉ state.stack)
    (site : PushSite) (viewWillAppear : State → Turn) :
    pushViewController site controller viewWillAppear state =
      ((viewWillAppear
          { state with stack := controller :: state.stack }).1,
        .pushed ⟨site, controller, state.stack⟩ ::
          (viewWillAppear
            { state with stack := controller :: state.stack }).2) :=
  if_neg absent

theorem pushViewController_of_mem
    {controller : Controller} (state : State)
    (repeated : controller ∈ state.stack)
    (site : PushSite) (viewWillAppear : State → Turn) :
    pushViewController site controller viewWillAppear state =
      ({ state with terminated := true },
        [.pushed ⟨site, controller, state.stack⟩]) :=
  if_pos repeated

theorem navigationController?_of_mem
    {self : Controller} (state : State) (member : self ∈ state.stack)
    (call : State → Turn) :
    navigationController? self call state = call state :=
  if_pos member

theorem navigationController?_of_notMem
    {self : Controller} (state : State) (absent : self ∉ state.stack)
    (call : State → Turn) :
    navigationController? self call state = silent state :=
  if_neg absent

/-- A home screen in the stack presents a new menu. -/
theorem pushNewMenu_of_mem
    {self : HomeId} (state : State)
    (member : .home self ∈ state.stack)
    (absent : .menu (.fresh state.nextMenu) ∉ state.stack)
    (site : PushSite) :
    pushNewMenu site self state =
      ({ state with
          stack := .menu (.fresh state.nextMenu) :: state.stack
          nextMenu := state.nextMenu + 1 },
        [.pushed ⟨site, .menu (.fresh state.nextMenu),
          state.stack⟩]) := by
  rw [pushNewMenu, navigationController?_of_mem
    { state with nextMenu := state.nextMenu + 1 } member]
  exact pushViewController_of_notMem
    { state with nextMenu := state.nextMenu + 1 } absent _ _

theorem HomeController.viewWillAppear_of_signedOut
    {self : HomeId} (state : State)
    (signedOut : state.currentUser = none) :
    viewWillAppear self state = silent state :=
  if_neg (by simp [signedOut])

theorem HomeController.viewWillAppear_of_signedIn
    {self : HomeId} (state : State)
    (signedIn : state.currentUser ≠ none) :
    viewWillAppear self state =
      pushNewMenu .viewWillAppear self state :=
  if_pos (Option.isSome_iff_ne_none.mpr signedIn)

/-- A sign-out that succeeds leaves no user and changes nothing else. -/
theorem FIRAuth.signOut_eq {keychain : Option NSError}
    {state left : State} (signedOut : signOut keychain state = .ok left) :
    left = { state with currentUser := none } := by
  unfold signOut at signedOut
  split at signedOut
  · next current =>
      cases signedOut
      rw [← current]
  · cases signedOut
    rfl
  · cases signedOut

/-- A logout that succeeds shows a new home screen. -/
theorem MenuCollectionVC.handleLogout_of_ok
    {self : MenuId} {keychain : Option NSError} {state left : State}
    (member : .menu self ∈ state.stack)
    (absent : .home state.nextHome ∉ state.stack)
    (signedOut : FIRAuth.signOut keychain state = .ok left) :
    handleLogout self keychain state =
      ({ state with
          stack := .home state.nextHome :: state.stack
          currentUser := none
          accessToken := none
          nextHome := state.nextHome + 1 },
        [.pushed ⟨.handleLogout, .home state.nextHome,
          state.stack⟩]) := by
  rw [handleLogout, signedOut, FIRAuth.signOut_eq signedOut]
  simp only [FBSDKLoginManager.logOut]
  rw [navigationController?_of_mem
      { state with
        currentUser := none
        accessToken := none
        nextHome := state.nextHome + 1 } member,
    pushViewController_of_notMem
      { state with
        currentUser := none
        accessToken := none
        nextHome := state.nextHome + 1 } absent,
    HomeController.viewWillAppear_of_signedOut
      { state with
        stack := .home state.nextHome :: state.stack
        currentUser := none
        accessToken := none
        nextHome := state.nextHome + 1 } rfl]
  rfl

/-- A home screen opens its login screen, which then appears. -/
theorem HomeController.segueToLoginScreen_eq
    {self : HomeId} (state : State)
    (member : .home self ∈ state.stack)
    (absent : .login self ∉ state.stack) :
    segueToLoginScreen self state =
      ((LoginViewController.viewWillAppear self
          { state with stack := .login self :: state.stack }).1,
        .pushed ⟨.segueToLoginScreen, .login self, state.stack⟩ ::
          (LoginViewController.viewWillAppear self
            { state with stack := .login self :: state.stack }).2) := by
  rw [segueToLoginScreen, navigationController?_of_mem state member]
  exact pushViewController_of_notMem state absent _ _

/-! ## Every step is a change -/

theorem LoginViewController.performAll_present
    (self : HomeId) (alerts : List Alert) (state : State) :
    performAll self (List.map .present alerts) state =
      (state, List.map .presented alerts) := by
  induction alerts with
  | nil => rfl
  | cons alert rest induction =>
      simp only [List.map_cons, performAll, perform, induction,
        List.cons_append, List.nil_append]

theorem LoginViewController.perform_of_request
    {self : HomeId} {effect : Effect} {request : Request}
    (sends : Effect.request? self effect = some request)
    (state : State) :
    perform self effect state = silent (state.start request) ∧
      request.owner? = some self := by
  cases effect with
  | createUser email password =>
      cases sends
      exact ⟨rfl, rfl⟩
  | signIn email password =>
      cases sends
      exact ⟨rfl, rfl⟩
  | present alert => cases sends

theorem Action.modeless_of_request
    {action : Action} {state : State} {request : Request}
    (sends : action.request? state = some request) :
    action.mode? = none ∧ action.signIn? = none ∧
      action.signsOut state = false := by
  cases action with
  | home self tap =>
      cases tap with
      | guest => exact ⟨rfl, rfl, rfl⟩
      | signUp => cases sends
      | logIn => cases sends
  | login self tap => exact ⟨rfl, rfl, rfl⟩
  | logout self keychain => cases sends
  | reply signIn answer => cases sends
  | complete signIn => cases sends
  | tokenExpires => cases sends

namespace Change

variable {state next : State} {action : Action} {events : List Event}

/-- The two submit buttons send the request of their effects. -/
theorem of_effects {self : HomeId} {below : List Controller}
    (tap : LoginTap) {effects : List Effect}
    (top : state.stack = .login self :: below)
    (sends : (Action.login self tap).request? state =
      effects.findSome? (Effect.request? self))
    (shape : (∃ effect request, effects = [effect] ∧
        Effect.request? self effect = some request) ∨
      ∃ alerts, effects = List.map .present alerts) :
    Change state (.login self tap)
      (LoginViewController.performAll self effects state).1
      (LoginViewController.performAll self effects state).2 := by
  rcases shape with ⟨effect, request, rfl, found⟩ | ⟨alerts, rfl⟩
  · have performed :=
      LoginViewController.perform_of_request found state
    simp only [List.findSome?_cons, found] at sends
    simp only [LoginViewController.performAll, performed.1, silent,
      List.nil_append]
    refine .starts sends fun owner owned => Or.inr ?_
    rw [performed.2, Option.some.injEq] at owned
    rw [State.top?, top, owned]
    rfl
  · rw [LoginViewController.performAll_present]
    refine .stays state.accessToken alerts rfl rfl ?_ rfl
    rw [sends, List.findSome?_eq_none_iff]
    intro effect member
    rcases List.mem_map.mp member with ⟨alert, _, rfl⟩
    rfl

/-- A tap on a home screen. -/
theorem of_home (wellFormed : WellFormed state)
    {self : HomeId} {below : List Controller} (tap : HomeTap)
    (top : state.stack = .home self :: below) :
    Change state (.home self tap)
      (HomeController.tapped self tap state).1
      (HomeController.tapped self tap state).2 := by
  have absent := wellFormed.login_notMem_of_home_top top
  have member : .home self ∈ state.stack := by
    rw [top]
    exact List.mem_cons_self
  cases tap with
  | guest =>
      refine .starts rfl fun owner owned => Or.inl ?_
      cases owned
      rw [State.top?, top]
      rfl
  | signUp =>
      rw [HomeController.tapped, HomeController.tappedSignUpButton,
        HomeController.segueToLoginScreen_eq
          { state with loginVsSignup := 1 } member absent]
      exact .opens .signUp top absent
  | logIn =>
      rw [HomeController.tapped, HomeController.tappedLoginButton,
        HomeController.segueToLoginScreen_eq
          { state with loginVsSignup := 2 } member absent]
      exact .opens .logIn top absent

/-- Back on a login screen. -/
theorem of_back (wellFormed : WellFormed state)
    {self : HomeId} {below : List Controller}
    (top : state.stack = .login self :: below) :
    Change state (.login self .back) (back state).1 (back state).2 := by
  rcases wellFormed.below_login_top top with ⟨rest, rfl⟩
  have absent :
      .menu (.fresh state.nextMenu) ∉ (.home self :: rest) :=
    fun member => wellFormed.newMenu_notMem
      (top ▸ List.mem_cons_of_mem _ member)
  have revealed : back state =
      HomeController.viewWillAppear self
        { state with stack := .home self :: rest } := by
    rw [back, top]
    rfl
  rw [revealed]
  by_cases signedOut : state.currentUser = none
  · rw [HomeController.viewWillAppear_of_signedOut
      { state with stack := .home self :: rest } signedOut]
    exact .returns top signedOut
  · rw [HomeController.viewWillAppear_of_signedIn
        { state with stack := .home self :: rest } signedOut,
      pushNewMenu_of_mem { state with stack := .home self :: rest }
        List.mem_cons_self absent]
    exact .bounces top signedOut

/-- The Facebook button. -/
theorem of_facebook {self : HomeId} {below : List Controller}
    (confirm : Bool) (top : state.stack = .login self :: below) :
    Change state (.login self (.facebook confirm))
      (FBSDKLoginButton.buttonPressed self confirm state).1
      (FBSDKLoginButton.buttonPressed self confirm state).2 := by
  cases active : currentAccessTokenIsActive state.accessToken with
  | false =>
      rw [FBSDKLoginButton.buttonPressed, if_neg (by simp [active])]
      refine .starts (by simp [Action.request?, active]) ?_
      intro owner owned
      cases owned
      rw [State.top?, top]
      exact Or.inr rfl
  | true =>
      rw [FBSDKLoginButton.buttonPressed, if_pos active]
      have requestless :
          (Action.login self (.facebook confirm)).request? state =
            none := by
        simp [Action.request?, active]
      cases confirm with
      | false =>
          exact .stays state.accessToken [] rfl rfl requestless rfl
      | true =>
          exact .stays none [] rfl rfl requestless rfl

/-- A tap on a login screen. -/
theorem of_login (wellFormed : WellFormed state)
    {self : HomeId} {below : List Controller} {tap : LoginTap}
    (top : state.stack = .login self :: below)
    (taken : LoginViewController.tapped self tap state =
      some (next, events)) :
    Change state (.login self tap) next events := by
  cases tap with
  | submitSignup fields =>
      simp only [LoginViewController.tapped, Option.ite_none_left_eq_some,
        Option.some.injEq] at taken
      have change := of_effects (.submitSignup fields) top rfl
        (by
          rcases handleSignup_effects fields with
            ⟨email, password, sent⟩ | refused
          · exact Or.inl ⟨_, _, sent, rfl⟩
          · exact Or.inr refused)
      rwa [taken.2] at change
  | submitLogin fields =>
      simp only [LoginViewController.tapped, Option.ite_none_left_eq_some,
        Option.some.injEq] at taken
      have change := of_effects (.submitLogin fields) top rfl
        (by
          rcases handleLogin_effects fields with
            ⟨email, password, sent⟩ | refused
          · exact Or.inl ⟨_, _, sent, rfl⟩
          · exact Or.inr refused)
      rwa [taken.2] at change
  | facebook confirm =>
      have change := of_facebook confirm top
      rwa [Option.some.inj taken] at change
  | google =>
      cases taken
      exact .starts rfl fun owner owned => by cases owned
  | back =>
      have change := of_back wellFormed top
      rwa [Option.some.inj taken] at change

/-- The Logout button. -/
theorem of_logout (wellFormed : WellFormed state)
    {self : MenuId} {below : List Controller}
    (keychain : Option NSError)
    (top : state.stack = .menu self :: below) :
    Change state (.logout self keychain)
      (MenuCollectionVC.handleLogout self keychain state).1
      (MenuCollectionVC.handleLogout self keychain state).2 := by
  have member : .menu self ∈ state.stack := by
    rw [top]
    exact List.mem_cons_self
  cases signedOut : FIRAuth.signOut keychain state with
  | error error =>
      rw [MenuCollectionVC.handleLogout, signedOut]
      refine .stays state.accessToken [] rfl rfl rfl ?_
      rw [Action.signsOut, signedOut]
      rfl
  | ok left =>
      rw [MenuCollectionVC.handleLogout_of_ok member
        wellFormed.newHome_notMem signedOut]
      apply Change.logsOut top
      rw [Action.signsOut, signedOut]
      rfl

/-- A completion of a guest sign-in that succeeds. -/
theorem of_guest (wellFormed : WellFormed state)
    {signIn : SignInId} {self : HomeId} {user : User}
    (waiting : state.at? signIn =
      some (.waiting (.firebase (.guest self) (.success user)))) :
    Change state (.complete signIn)
      (HomeController.guestCompletion self (some user) none
        (state.dequeue signIn)).1
      (HomeController.guestCompletion self (some user) none
        (state.dequeue signIn)).2 := by
  have member : .home self ∈ state.stack :=
    wellFormed.owners _ _ _ waiting rfl
  rw [HomeController.guestCompletion,
    pushNewMenu_of_mem (state.dequeue signIn) member
      wellFormed.newMenu_notMem]
  exact .presents waiting rfl

/-- A completion that pushes the stored menu of a login screen. -/
theorem of_menuView {signIn : SignInId} {completion : Completion}
    {self : HomeId} {site : PushSite} (completed : site ≠ .handleLogout)
    (waiting : state.at? signIn = some (.waiting completion))
    (presenter : completion.presenter? = some (.login self))
    (last : completion.next? state = none)
    (token : completion.tokenAfter state = state.accessToken) :
    Change state (.complete signIn)
      (LoginViewController.pushMenuView site self
        (state.dequeue signIn)).1
      (LoginViewController.pushMenuView site self
        (state.dequeue signIn)).2 := by
  rw [LoginViewController.pushMenuView]
  by_cases member : .login self ∈ state.stack
  · rw [navigationController?_of_mem (state.dequeue signIn) member]
    by_cases repeated : .menu (.stored self) ∈ state.stack
    · rw [LoginViewController.menuView,
        pushViewController_of_mem (state.dequeue signIn) repeated]
      exact .raises completed waiting presenter member repeated
    · rw [LoginViewController.menuView,
        pushViewController_of_notMem (state.dequeue signIn) repeated]
      exact .shows completed waiting presenter member repeated
  · rw [navigationController?_of_notMem (state.dequeue signIn) member]
    have settled : state.settle signIn completion =
        state.dequeue signIn := by
      rw [State.settle, token]
      rfl
    rw [silent, ← settled]
    refine .settles waiting last fun controller presents => ?_
    rw [presenter, Option.some.injEq] at presents
    rwa [← presents]

/-- A completion that runs. -/
theorem of_completion (wellFormed : WellFormed state)
    {signIn : SignInId} {completion : Completion}
    (waiting : state.at? signIn = some (.waiting completion)) :
    Change state (.complete signIn)
      (completion.run signIn (state.dequeue signIn)).1
      (completion.run signIn (state.dequeue signIn)).2 := by
  cases carried : completion.next? state with
  | some request =>
      rw [Completion.run_of_next carried]
      exact .proceeds waiting carried
  | none =>
      cases presents : completion.presenter? with
      | none =>
          rw [Completion.run_of_mute presents carried]
          refine .settles waiting carried fun controller other => ?_
          rw [presents] at other
          cases other
      | some presenter =>
          rcases Completion.success_of_presenter presents with
            ⟨call, user, rfl, called⟩
          cases call with
          | guest self => exact of_guest wellFormed waiting
          | signup self email password =>
              exact of_menuView (by decide) waiting rfl rfl rfl
          | login self email password =>
              exact of_menuView (by decide) waiting rfl rfl rfl
          | facebook self tokenString =>
              exact of_menuView (by decide) waiting rfl rfl rfl
          | google idToken accessToken => cases called

/-- From a state with the invariant every step is one of the changes. -/
theorem of_step (wellFormed : WellFormed state)
    (taken : step state action = some (next, events)) :
    Change state action next events := by
  have running := running_of_step taken
  unfold step at taken
  rw [if_neg (by simp [running])] at taken
  cases action with
  | home self tap =>
      simp only [Option.ite_none_right_eq_some, Option.some.injEq]
        at taken
      rcases List.head?_eq_some_iff.mp taken.1 with ⟨below, top⟩
      have change := of_home wellFormed tap top
      rwa [taken.2] at change
  | login self tap =>
      simp only [Option.ite_none_right_eq_some] at taken
      rcases List.head?_eq_some_iff.mp taken.1 with ⟨below, top⟩
      exact of_login wellFormed top taken.2
  | logout self keychain =>
      simp only [Option.ite_none_right_eq_some, Option.some.injEq]
        at taken
      rcases List.head?_eq_some_iff.mp taken.1 with ⟨below, top⟩
      have change := of_logout wellFormed keychain top
      rwa [taken.2] at change
  | reply signIn answer =>
      simp only [replied] at taken
      split at taken
      · next request inFlight =>
          rcases Option.map_eq_some_iff.mp taken with
            ⟨completion, answered, equal⟩
          cases equal
          exact .replies inFlight answered
      · cases taken
  | complete signIn =>
      simp only [completed] at taken
      split at taken
      · next completion waiting =>
          have change := of_completion wellFormed waiting
          rwa [Option.some.inj taken] at change
      · cases taken
  | tokenExpires =>
      cases taken
      exact .stays _ [] rfl rfl rfl rfl

end Change

end BandBPools.App
