import BandBPools.App.Presenting

/-!
# Logging out for good

`handleLogout()` clears the user and the Facebook token and leaves every
sign-in that is under way alone.  The Facebook chain reads the token again
before it goes to Firebase, which stops it as long as nobody logs in with
Facebook anew; the other sign-ins read nothing again.  The logout is final
exactly when no sign-in is left that can still do anything.
-/

namespace BandBPools.App

open BandBPools.Transition

/-! ## Finality -/

/-- A step of a sign-in that began before `bound` makes the user non-nil or
pushes a menu. -/
def Revives (bound : SignInId) (before : State) (action : Action)
    (after : State) (observed : List Event) : Prop :=
  (∃ signIn, action.signIn? = some signIn ∧ signIn < bound) ∧
    ((after.currentUser ≠ none ∧
        after.currentUser ≠ before.currentUser) ∨
      ∃ push, .pushed push ∈ observed ∧ push.controller.isMenu = true)

/-- No step of a run from here belongs to a sign-in that began before `bound`
and makes the user non-nil or pushes a menu. -/
def Final (bound : SignInId) (state : State) : Prop :=
  ∀ actions events before action after observed,
    Run step state actions events before →
    step before action = some (after, observed) →
    ¬ Revives bound before action after observed

/-- A sign-in that will neither send another request nor present a menu from
this stack. -/
def Pending.Inert (stack : List Controller) : Pending → Prop
  | .inFlight _ => False
  | .waiting completion =>
      completion.mayProceed = false ∧
        ∀ presenter ∈ completion.presenter?, presenter ∉ stack

instance (stack : List Controller) :
    DecidablePred (Pending.Inert stack)
  | .inFlight _ => inferInstanceAs (Decidable False)
  | .waiting _ => inferInstanceAs (Decidable (_ ∧ _))

theorem Final.step {bound : SignInId} {state next : State}
    {action : Action} {observed : List Event}
    (final : Final bound state)
    (taken : App.step state action = some (next, observed)) :
    Final bound next := by
  intro actions events before later after seen run
  have first : Run App.step state [action] observed next := by
    simpa using RunUnder.snoc .refl True.intro taken
  exact final _ _ _ _ _ _ (first.trans run)

theorem Final.not_revives {bound : SignInId} {state next : State}
    {action : Action} {observed : List Event}
    (final : Final bound state)
    (taken : App.step state action = some (next, observed)) :
    ¬ Revives bound state action next observed :=
  final _ _ _ _ _ _ .refl taken

/-! ## A logout that is final -/

/-- Every sign-in that began before `bound` only waits to end. -/
structure Quenched (bound : SignInId) (state : State) : Prop where
  began : bound ≤ state.nextSignIn
  buried : ∀ signIn pending, signIn < bound →
    state.at? signIn = some pending →
    ∃ completion, pending = .waiting completion ∧
      completion.mayProceed = false ∧
      ∀ presenter ∈ completion.presenter?,
        ∃ self, presenter = .login self ∧ Buried self state

namespace Quenched

variable {bound : SignInId} {state next : State} {action : Action}
variable {events : List Event}

theorem preserved (quenched : Quenched bound state)
    (change : Change state action next events) :
    Quenched bound next where
  began := Nat.le_trans quenched.began change.nextSignIn_le
  buried := by
    intro signIn pending old found
    cases change.origin found with
    | kept before =>
        rcases quenched.buried _ _ old before with
          ⟨completion, rfl, last, presenters⟩
        refine ⟨completion, rfl, last, fun presenter presents => ?_⟩
        rcases presenters presenter presents with ⟨self, equal, buried⟩
        exact ⟨self, equal, change.buried buried⟩
    | started sends shown new =>
        rw [new] at old
        exact absurd quenched.began (Nat.not_le_of_lt old)
    | answered replies inFlight answers user =>
        rcases quenched.buried _ _ old inFlight with ⟨_, equal, _⟩
        cases equal
    | carried completes waiting carries =>
        rcases quenched.buried _ _ old waiting with ⟨_, equal, last, _⟩
        cases equal
        rw [Completion.mayProceed_of_next carries] at last
        cases last

theorem not_revives (quenched : Quenched bound state)
    (change : Change state action next events) :
    ¬ Revives bound state action next events := by
  rintro ⟨⟨signIn, belongs, old⟩, revived⟩
  cases change with
  | stays token alerts tapped modeless requestless failed =>
      rw [tapped] at belongs
      cases belongs
  | starts sends shown =>
      rw [(Action.modeless_of_request sends).2.1] at belongs
      cases belongs
  | replies inFlight answered =>
      cases belongs
      rcases quenched.buried _ _ old inFlight with ⟨_, equal, _⟩
      cases equal
  | proceeds waiting carries =>
      cases belongs
      rcases quenched.buried _ _ old waiting with ⟨_, equal, last, _⟩
      cases equal
      rw [Completion.mayProceed_of_next carries] at last
      cases last
  | settles waiting last absent =>
      rcases revived with ⟨_, changed⟩ | ⟨push, member, _⟩
      · exact changed rfl
      · cases member
  | presents waiting presenter =>
      cases belongs
      rcases quenched.buried _ _ old waiting with
        ⟨_, equal, _, presenters⟩
      cases equal
      rcases presenters _ presenter with ⟨self, kind, _⟩
      cases kind
  | shows completed waiting presenter member absent =>
      cases belongs
      rcases quenched.buried _ _ old waiting with
        ⟨_, equal, _, presenters⟩
      cases equal
      rcases presenters _ presenter with ⟨self, kind, buried⟩
      cases kind
      exact buried.absent member
  | raises completed waiting presenter member repeated =>
      cases belongs
      rcases quenched.buried _ _ old waiting with
        ⟨_, equal, _, presenters⟩
      cases equal
      rcases presenters _ presenter with ⟨self, kind, buried⟩
      cases kind
      exact buried.absent member
  | _ => cases belongs

theorem final (wellFormed : WellFormed state)
    (quenched : Quenched bound state) : Final bound state := by
  intro actions events before action after observed run taken
  have reached : WellFormed before ∧ Quenched bound before := by
    apply RunUnder.changeInvariant _ wellFormed quenched run
    intro state action next observed _ quenched _ change
    exact quenched.preserved change
  exact reached.2.not_revives (Change.of_step reached.1 taken)

end Quenched

/-! ## What a logout must not leave behind -/

/-- The app after a logout that is final. -/
structure LoggedOut (bound : SignInId) (state : State) : Prop where
  final : Final bound state
  running : state.terminated = false
  signedOut : state.currentUser = none

namespace LoggedOut

variable {bound signIn : SignInId} {state next : State}
variable {action : Action} {observed : List Event}
variable {completion : Completion} {request : Request}

theorem step (loggedOut : LoggedOut bound state)
    (taken : App.step state action = some (next, observed))
    (running : next.terminated = state.terminated)
    (user : next.currentUser = state.currentUser) :
    LoggedOut bound next where
  final := loggedOut.final.step taken
  running := running.trans loggedOut.running
  signedOut := user.trans loggedOut.signedOut

theorem reply (loggedOut : LoggedOut bound state) {answer : Answer}
    (inFlight : state.at? signIn = some (.inFlight request))
    (answers : request.answered answer = some completion)
    (unset : completion.user? = none) :
    LoggedOut bound (enqueue signIn completion state) := by
  refine loggedOut.step
    (step_reply loggedOut.running inFlight answers) rfl ?_
  rw [enqueue, unset, Option.none_or]

theorem proceed (loggedOut : LoggedOut bound state)
    (waiting : state.at? signIn = some (.waiting completion))
    (carries : completion.next? state = some request) :
    LoggedOut bound
      ((state.settle signIn completion).proceed signIn request) := by
  have taken := step_complete loggedOut.running waiting
  rw [Completion.run_of_next carries] at taken
  exact loggedOut.step taken rfl rfl

/-- Firebase would sign a user in. -/
theorem not_firebase (loggedOut : LoggedOut bound state)
    (old : signIn < bound) {call : FirebaseCall} :
    state.at? signIn ≠ some (.inFlight (.firebase call)) := by
  intro inFlight
  have answers : Request.answered (.firebase call)
      (.firebase (.success ⟨"user", false⟩)) =
        some (.firebase call (.success ⟨"user", false⟩)) := rfl
  have taken := step_reply loggedOut.running inFlight answers
  refine loggedOut.final.not_revives taken ⟨⟨signIn, rfl, old⟩, ?_⟩
  left
  rw [loggedOut.signedOut]
  exact ⟨Option.some_ne_none _, Option.some_ne_none _⟩

/-- The Facebook chain goes on to Firebase with whatever token there is. -/
theorem not_graph_success (loggedOut : LoggedOut bound state)
    (old : signIn < bound) (token : state.accessToken ≠ none)
    {self : HomeId} {tokenString : Option String} :
    state.at? signIn ≠
      some (.waiting (.graph self tokenString (.success ()))) := by
  intro waiting
  rcases Option.ne_none_iff_exists'.mp token with ⟨current, found⟩
  have carries :
      (Completion.graph self tokenString (.success ())).next? state =
        some (.firebase (.facebook self current.tokenString)) := by
    rw [Completion.next?, found]
    rfl
  exact (loggedOut.proceed waiting carries).not_firebase old
    (State.at?_proceed_self _ _ _)

theorem not_graph_inFlight (loggedOut : LoggedOut bound state)
    (old : signIn < bound) (token : state.accessToken ≠ none)
    {self : HomeId} {tokenString : Option String} :
    state.at? signIn ≠ some (.inFlight (.graph self tokenString)) := by
  intro inFlight
  have answers : (Request.graph self tokenString).answered
      (.graph (.success ())) =
        some (.graph self tokenString (.success ())) := rfl
  exact (loggedOut.reply inFlight answers rfl).not_graph_success old token
    (AList.lookup_insert _)

/-- The Facebook login goes on to the Graph request whatever its result. -/
theorem not_facebookLogin_waiting (loggedOut : LoggedOut bound state)
    (old : signIn < bound) (token : state.accessToken ≠ none)
    {self : HomeId} {reply : Reply LoginManagerLoginResult} :
    state.at? signIn ≠ some (.waiting (.facebookLogin self reply)) := by
  intro waiting
  have kept :
      (Completion.facebookLogin self reply).tokenAfter state ≠ none := by
    rw [Completion.tokenAfter, FBSDKLoginManager.completeAuthentication]
    intro unset
    exact token (Option.or_eq_none_iff.mp unset).2
  exact (loggedOut.proceed waiting rfl).not_graph_inFlight old kept
    (State.at?_proceed_self _ _ _)

theorem not_facebookLogin_inFlight (loggedOut : LoggedOut bound state)
    (old : signIn < bound) (token : state.accessToken ≠ none)
    {self : HomeId} :
    state.at? signIn ≠ some (.inFlight (.facebookLogin self)) := by
  intro inFlight
  have answers : (Request.facebookLogin self).answered
      (.facebookLogin (.failure ⟨0, 0⟩)) =
        some (.facebookLogin self (.failure ⟨0, 0⟩)) := rfl
  exact (loggedOut.reply inFlight answers rfl).not_facebookLogin_waiting
    old token (AList.lookup_insert _)

theorem not_googleLogin_waiting (loggedOut : LoggedOut bound state)
    (old : signIn < bound) {idToken accessToken : String} :
    state.at? signIn ≠ some (.waiting (.googleLogin
      (.success ⟨some idToken, some accessToken⟩))) := by
  intro waiting
  exact (loggedOut.proceed waiting rfl).not_firebase old
    (State.at?_proceed_self _ _ _)

theorem not_googleLogin_inFlight (loggedOut : LoggedOut bound state)
    (old : signIn < bound) :
    state.at? signIn ≠ some (.inFlight .googleLogin) := by
  intro inFlight
  have answers : Request.googleLogin.answered
      (.googleLogin (.success ⟨some "id", some "access"⟩)) =
        some (.googleLogin (.success ⟨some "id", some "access"⟩)) := rfl
  exact (loggedOut.reply inFlight answers rfl).not_googleLogin_waiting old
    (AList.lookup_insert _)

/-- With a Facebook token at hand no earlier sign-in is left that could send
another request. -/
theorem ends_of_token (loggedOut : LoggedOut bound state)
    (token : state.accessToken ≠ none) (old : signIn < bound)
    {pending : Pending} (found : state.at? signIn = some pending) :
    ∃ completion, pending = .waiting completion ∧
      completion.mayProceed = false := by
  cases pending with
  | inFlight request =>
      cases request with
      | firebase call => exact absurd found (loggedOut.not_firebase old)
      | facebookLogin self =>
          exact absurd found
            (loggedOut.not_facebookLogin_inFlight old token)
      | graph self tokenString =>
          exact absurd found (loggedOut.not_graph_inFlight old token)
      | googleLogin =>
          exact absurd found (loggedOut.not_googleLogin_inFlight old)
  | waiting completion =>
      refine ⟨completion, rfl, ?_⟩
      cases completion with
      | firebase call reply => rfl
      | facebookLogin self reply =>
          exact absurd found
            (loggedOut.not_facebookLogin_waiting old token)
      | graph self tokenString reply =>
          cases reply with
          | failure error => rfl
          | success result =>
              exact absurd found
                (loggedOut.not_graph_success old token)
      | googleLogin reply =>
          cases reply with
          | failure error => rfl
          | success user =>
              rcases user with ⟨_ | idToken, _ | accessToken⟩
              · rfl
              · rfl
              · rfl
              · exact absurd found
                  (loggedOut.not_googleLogin_waiting old)

/-- From the new home screen a Facebook login can be had, which leaves the
earlier sign-ins as they are. -/
theorem exists_token (wellFormed : WellFormed state)
    (loggedOut : LoggedOut bound state)
    (began : bound ≤ state.nextSignIn)
    (token : state.accessToken = none) {self : HomeId}
    (top : state.top? = some (.home self)) :
    ∃ later, LoggedOut bound later ∧ later.accessToken ≠ none ∧
      ∀ signIn, signIn < bound → later.at? signIn = state.at? signIn := by
  rcases List.head?_eq_some_iff.mp top with ⟨below, stack⟩
  let opened : State :=
    { state with
      stack := .login self :: state.stack
      loginVsSignup := 2
      screens := Function.update state.screens self
        (Mode.logIn.shown (state.screens self)) }
  let started := opened.start (.facebookLogin self)
  let granted : LoginManagerLoginResult :=
    ⟨some ⟨"token", false⟩, false, Bool.noConfusion⟩
  let completion : Completion := .facebookLogin self (.success granted)
  let answered := enqueue state.nextSignIn completion started
  have tapped : App.step state (.home self .logIn) =
      some (opened, [.pushed ⟨.segueToLoginScreen, .login self,
        state.stack⟩]) := by
    rw [step_home loggedOut.running top, HomeController.tapped,
      HomeController.tappedLoginButton,
      HomeController.segueToLoginScreen_eq
        { state with loginVsSignup := 2 } (List.mem_of_head? top)
        (wellFormed.login_notMem_of_home_top stack)]
    rfl
  have onOpened := loggedOut.step tapped rfl rfl
  have pressed : App.step opened (.login self (.facebook false)) =
      some (silent started) := by
    have inactive :
        currentAccessTokenIsActive opened.accessToken = false := by
      show currentAccessTokenIsActive state.accessToken = false
      rw [token]
      rfl
    rw [step_login onOpened.running rfl, LoginViewController.tapped,
      FBSDKLoginButton.buttonPressed, inactive]
    rfl
  have onStarted := onOpened.step pressed rfl rfl
  have inFlight : started.at? state.nextSignIn =
      some (.inFlight (.facebookLogin self)) :=
    State.at?_start_self _ opened
  have answers : (Request.facebookLogin self).answered
      (.facebookLogin (.success granted)) = some completion := rfl
  have onAnswered := onStarted.reply inFlight answers rfl
  have waiting : answered.at? state.nextSignIn =
      some (.waiting completion) := AList.lookup_insert _
  refine ⟨_, onAnswered.proceed waiting rfl, Option.some_ne_none _, ?_⟩
  intro signIn old
  have other := Nat.ne_of_lt (Nat.lt_of_lt_of_le old began)
  rw [State.at?_proceed_of_ne other]
  calc (answered.settle state.nextSignIn completion).at? signIn
      = answered.at? signIn := State.at?_dequeue_of_ne other _
    _ = started.at? signIn := AList.lookup_insert_ne other
    _ = state.at? signIn := State.at?_start_of_ne other _

end LoggedOut

/-! ## When a logout is final -/

/--
A logout is final exactly when no request is in flight and every completion
that waits can neither send another request nor present the menu.
-/
theorem logout_final_iff
    {state next : State} {action : Action} {observed : List Event}
    (reachable : Reachable state)
    (taken : step state action = some (next, observed))
    (succeeds : action.signsOut state = true) :
    Final state.nextSignIn next ↔
      state.AllPending (Pending.Inert state.stack) := by
  have wellFormed := reachable.wellFormed
  have change := Change.of_step wellFormed taken
  have wellFormedNext := change.wellFormed wellFormed
  have running := running_of_step taken
  rcases change.eq_logOut succeeds with ⟨⟨menu, below, top⟩, equal⟩
  have buries : ∀ self, Buried self state → Buried self next :=
    fun _ buried => change.buried buried
  subst equal
  constructor
  · intro final signIn pending found
    have old := wellFormed.signIns _ _ found
    have loggedOut : LoggedOut state.nextSignIn _ :=
      ⟨final, running, rfl⟩
    rcases loggedOut.exists_token wellFormedNext (Nat.le_refl _) rfl rfl
      with ⟨later, onLater, token, same⟩
    have foundLater := (same signIn old).trans found
    rcases onLater.ends_of_token token old foundLater with
      ⟨completion, rfl, last⟩
    refine ⟨last, fun presenter presents member => ?_⟩
    rcases step_of_presenter wellFormedNext running found presents
      (List.mem_cons_of_mem _ member) with ⟨site, id, after, ran, _⟩
    exact final.not_revives ran
      ⟨⟨signIn, rfl, old⟩, Or.inr ⟨_, List.mem_singleton_self _, rfl⟩⟩
  · intro inert
    refine Quenched.final wellFormedNext ⟨Nat.le_refl _, ?_⟩
    intro signIn pending old found
    have ends := inert signIn pending found
    cases pending with
    | inFlight request => exact ends.elim
    | waiting completion =>
        refine ⟨completion, rfl, ends.1, fun presenter presents => ?_⟩
        have absent := ends.2 presenter presents
        rcases completion.presenter?_cases presents with
          ⟨self, owned, kind⟩
        have member := wellFormed.owners _ _ _ found owned
        rcases kind with rfl | rfl
        · exact absurd member absent
        · exact ⟨self, rfl, buries self
            (wellFormed.buried_of_menu_top top member absent)⟩

/-- A guest logs out while the completion of a Google sign-in that has
succeeded waits, which presents nothing. -/
theorem logout_final_of_waiting :
    ∃ state next observed, Reachable state ∧
      state.at? 0 = some (.waiting (.firebase (.google "id" "access")
        (.success ⟨"google", false⟩))) ∧
      step state (.logout (.fresh 0) none) = some (next, observed) ∧
      Final state.nextSignIn next := by
  have passes : (exec step (fun _ _ => True) (launch none none).1
      [.home 0 .logIn, .login 0 .google, .login 0 .back, .home 0 .guest,
        .reply 1 (.firebase (.success ⟨"guest", true⟩)), .complete 1,
        .reply 0 (.googleLogin (.success ⟨some "id", some "access"⟩)),
        .complete 0,
        .reply 0 (.firebase (.success ⟨"google", false⟩))]).any
        (fun turn => turn.1.terminated == false &&
          (turn.1.top? == some (.menu (.fresh 0)) &&
            (turn.1.at? 0 == some (.waiting (.firebase
                (.google "id" "access") (.success ⟨"google", false⟩))) &&
              ((Action.logout (.fresh 0) none).signsOut turn.1 &&
                decide (turn.1.AllPending
                  (Pending.Inert turn.1.stack)))))) = true := by
    decide
  rcases launched_of_any passes with ⟨later, state, launched, checked⟩
  simp only [Bool.and_eq_true, beq_iff_eq, decide_eq_true_eq] at checked
  rcases checked with ⟨running, top, waiting, succeeds, inert⟩
  have taken := step_logout running top none
  have reachable : Reachable state := ⟨_, _, launched⟩
  exact ⟨state, _, _, reachable, waiting, taken,
    (logout_final_iff reachable taken succeeds).mpr inert⟩

/-- Guest is tapped twice, and Firebase answers the second request after the
logout. -/
theorem not_every_logout_final :
    ¬ ∀ state next action observed, Reachable state →
      step state action = some (next, observed) →
      action.signsOut state = true → Final state.nextSignIn next := by
  intro law
  have passes : (exec step (fun _ _ => True) (launch none none).1
      [.home 0 .guest, .home 0 .guest,
        .reply 0 (.firebase (.success ⟨"guest", true⟩)),
        .complete 0]).any
        (fun turn => turn.1.nextSignIn == 2 &&
          ((Action.logout (.fresh 0) none).signsOut turn.1 &&
            (step turn.1 (.logout (.fresh 0) none)).any fun left =>
              left.1.currentUser == none &&
                (step left.1
                  (.reply 1 (.firebase (.success ⟨"guest", true⟩)))).any
                  fun after => after.1.currentUser.isSome)) = true := by
    decide
  rcases launched_of_any passes with ⟨later, state, launched, checked⟩
  simp only [Bool.and_eq_true, beq_iff_eq, Option.any_eq_true] at checked
  rcases checked with ⟨count, succeeds, ⟨next, observed⟩, taken, signedOut,
    ⟨after, seen⟩, answered, signedIn⟩
  have final := law _ _ _ _ ⟨_, _, launched⟩ taken succeeds
  have user := Option.isSome_iff_ne_none.mp signedIn
  refine final.not_revives answered ⟨⟨1, rfl, ?_⟩, Or.inl ⟨user, ?_⟩⟩
  · rw [count]
    exact Nat.lt_succ_self 1
  · rw [signedOut]
    exact user

end BandBPools.App
