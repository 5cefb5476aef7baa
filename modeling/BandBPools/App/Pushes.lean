import BandBPools.App.Presenting

/-!
# Pushes

A login screen pushes one stored menu for every sign-in that succeeds, and
nothing keeps a second sign-in from being started while the first is under
way.  With two of them the menu is presented on top of the menu, and from one
login screen this raises an exception.  As long as at most one sign-in at a
time can present the menu, every push is legal.
-/

namespace BandBPools.App

open BandBPools.Credential
open BandBPools.Transition

/-! ## Legal pushes -/

/-- The pushed instance is new to the stack, and no menu is presented on top
of a menu. -/
structure Push.Legal (push : Push) : Prop where
  fresh : push.controller ∉ push.stack
  once : push.controller.isMenu = true →
    ∀ top, push.stack.head? = some top → top.isMenu = false

/-! ## Sign-ins that may present the menu -/

def Request.isGuest : Request → Bool
  | .firebase (.guest _) => true
  | _ => false

def Completion.isGuest : Completion → Bool
  | .firebase (.guest _) _ => true
  | _ => false

def Pending.isGuest : Pending → Bool
  | .inFlight request => request.isGuest
  | .waiting completion => completion.isGuest

/-- Nothing will come of a sign-in any more. -/
def Pending.isOver : Pending → Bool
  | .inFlight _ => false
  | .waiting completion =>
      completion.presenter?.isNone && !completion.mayProceed

/-- The login screen is in the stack or can be opened with one tap. -/
def InReach (state : State) (self : HomeId) : Prop :=
  .login self ∈ state.stack ∨ state.top? = some (.home self)

instance (state : State) : DecidablePred (InReach state) := fun _ =>
  inferInstanceAs (Decidable (_ ∨ _))

/-- A sign-in that may still present the menu, from the controllers of one
home screen. -/
def Pending.LiveFor (state : State) (self : HomeId)
    (pending : Pending) : Prop :=
  pending.owner? = some self ∧ pending.isOver = false ∧
    (pending.isGuest = true ∨ InReach state self)

/-- A sign-in that may still present the menu. -/
def Pending.Live (state : State) (pending : Pending) : Prop :=
  ∃ self ∈ pending.owner?, pending.LiveFor state self

instance (state : State) (self : HomeId) :
    DecidablePred (Pending.LiveFor state self) := fun _ =>
  inferInstanceAs (Decidable (_ ∧ _))

instance (state : State) :
    DecidablePred (Pending.Live state) := fun pending =>
  inferInstanceAs (Decidable (∃ self ∈ pending.owner?,
    Pending.LiveFor state self pending))

/-- Whether an action is the Back button. -/
def Action.isBack : Action → Bool
  | .login _ .back => true
  | _ => false

/--
A sign-in that may present the menu is started only when there is no other,
and Back reveals a home screen to a signed-in user only when no guest sign-in
is left.
-/
structure SignsInAlone (state : State) (action : Action) : Prop where
  starts : ∀ request ∈ action.request? state, request.owner? ≠ none →
    state.AllPending fun pending => ¬ pending.Live state
  back : action.isBack = true → state.currentUser ≠ none →
    state.AllPending fun pending =>
      ¬ (pending.isGuest = true ∧ pending.isOver = false)

instance (state : State) (action : Action) :
    Decidable (SignsInAlone state action) :=
  decidable_of_iff
    ((∀ request ∈ action.request? state, request.owner? ≠ none →
        state.AllPending fun pending => ¬ pending.Live state) ∧
      (action.isBack = true → state.currentUser ≠ none →
        state.AllPending fun pending =>
          ¬ (pending.isGuest = true ∧ pending.isOver = false)))
    ⟨fun both => ⟨both.1, both.2⟩, fun alone => ⟨alone.starts, alone.back⟩⟩

/-- The home screen or its login screen is on top. -/
def OnScreen (state : State) (self : HomeId) : Prop :=
  state.top? = some (.home self) ∨ state.top? = some (.login self)

theorem OnScreen.not_isMenu
    {state : State} {self : HomeId} (shown : OnScreen state self) :
    ∀ top, state.stack.head? = some top → top.isMenu = false := by
  intro top head
  rcases shown with shown | shown
  · cases head.symm.trans shown
    rfl
  · cases head.symm.trans shown
    rfl

/-! ## Live sign-ins across a change -/

theorem Request.isGuest_answered
    {request : Request} {answer : Answer} {completion : Completion}
    (answers : request.answered answer = some completion) :
    completion.isGuest = request.isGuest := by
  cases request <;> cases answer <;>
    simp only [Request.answered, Option.some.injEq, reduceCtorEq]
      at answers <;>
    subst answers
  · next call reply => cases call <;> rfl
  all_goals rfl

theorem Completion.isGuest_next
    {completion : Completion} {state : State} {request : Request}
    (carries : completion.next? state = some request) :
    request.isGuest = false := by
  cases completion with
  | firebase call reply => cases carries
  | facebookLogin self reply =>
      cases carries
      rfl
  | graph self tokenString reply =>
      cases reply with
      | failure error => cases carries
      | success result =>
          rcases Option.map_eq_some_iff.mp carries with ⟨token, _, equal⟩
          subst equal
          rfl
  | googleLogin reply =>
      cases reply with
      | failure error => cases carries
      | success user =>
          rcases user with ⟨_ | idToken, _ | accessToken⟩ <;>
            cases carries
          rfl

/-- A login screen out of reach stays out of reach. -/
theorem InReach.before
    {state next : State} {action : Action} {events : List Event}
    {self : HomeId} (wellFormed : WellFormed state)
    (change : Change state action next events)
    (member : .home self ∈ state.stack) (inReach : InReach next self) :
    InReach state self := by
  by_contra outOfReach
  rw [InReach, not_or] at outOfReach
  have buried : Buried self state :=
    ⟨outOfReach.1, outOfReach.2, wellFormed.homes _ member⟩
  rcases inReach with present | shown
  · exact (change.buried buried).absent present
  · exact (change.buried buried).hidden shown

/-- A live sign-in was live before, or has just been started. -/
theorem Pending.LiveFor.before
    {state next : State} {action : Action} {events : List Event}
    {signIn : SignInId} {self : HomeId} {pending : Pending}
    (wellFormed : WellFormed state)
    (change : Change state action next events)
    (found : next.at? signIn = some pending)
    (live : pending.LiveFor next self) :
    (∃ earlier, state.at? signIn = some earlier ∧
        earlier.LiveFor state self) ∨
      ∃ request, action.request? state = some request ∧
        request.owner? = some self ∧ OnScreen state self ∧
        signIn = state.nextSignIn := by
  rcases live with ⟨owned, ongoing, presents⟩
  cases change.origin found with
  | kept before =>
      have member := wellFormed.owners _ _ _ before owned
      exact Or.inl ⟨pending, before, owned, ongoing,
        presents.imp_right (InReach.before wellFormed change member)⟩
  | @started request sends shown new =>
      exact Or.inr ⟨request, sends, owned, shown self owned, new⟩
  | @answered answer request completion replies inFlight answers user =>
      have owner : (Pending.inFlight request).owner? = some self := by
        rw [Pending.owner?, ← Request.owner?_answered answers]
        exact owned
      have member := wellFormed.owners _ _ _ inFlight owner
      refine Or.inl ⟨_, inFlight, owner, rfl, ?_⟩
      rcases presents with guest | inReach
      · apply Or.inl
        rw [Pending.isGuest, ← Request.isGuest_answered answers]
        exact guest
      · exact Or.inr (inReach.before wellFormed change member)
  | @carried completion request completes waiting carries =>
      have owner : (Pending.waiting completion).owner? = some self := by
        rw [Pending.owner?, ← Completion.owner?_next carries]
        exact owned
      have member := wellFormed.owners _ _ _ waiting owner
      refine Or.inl ⟨_, waiting, owner, ?_, ?_⟩
      · rw [Pending.isOver, Completion.mayProceed_of_next carries]
        simp
      · rcases presents with guest | inReach
        · rw [Pending.isGuest, Completion.isGuest_next carries] at guest
          cases guest
        · exact Or.inr (inReach.before wellFormed change member)

/-! ## One live sign-in -/

/-- At most one sign-in is live, and its screen is on top. -/
structure Sole (state : State) : Prop where
  shown : ∀ signIn pending self, state.at? signIn = some pending →
    pending.LiveFor state self → OnScreen state self
  sole : ∀ signIn other pending rival self owner,
    state.at? signIn = some pending → state.at? other = some rival →
    pending.LiveFor state self → rival.LiveFor state owner →
    signIn = other

/-- A completion that presents the menu belongs to a live sign-in. -/
theorem Pending.liveFor_of_presenter
    {state : State} {completion : Completion} {presenter : Controller}
    (presents : completion.presenter? = some presenter)
    (member : presenter ∈ state.stack) :
    ∃ self, (Pending.waiting completion).LiveFor state self ∧
      (presenter = .home self ∨ presenter = .login self) := by
  rcases Completion.success_of_presenter presents with
    ⟨call, user, rfl, called⟩
  cases call with
  | guest self =>
      cases called
      exact ⟨self, ⟨rfl, rfl, Or.inl rfl⟩, Or.inl rfl⟩
  | signup self email password =>
      cases called
      exact ⟨self, ⟨rfl, rfl, Or.inr (Or.inl member)⟩, Or.inr rfl⟩
  | login self email password =>
      cases called
      exact ⟨self, ⟨rfl, rfl, Or.inr (Or.inl member)⟩, Or.inr rfl⟩
  | facebook self tokenString =>
      cases called
      exact ⟨self, ⟨rfl, rfl, Or.inr (Or.inl member)⟩, Or.inr rfl⟩
  | google idToken accessToken => cases called

namespace Sole

variable {state next : State} {action : Action} {events : List Event}

/-- No other sign-in is live while a completion presents the menu. -/
theorem eq_of_presenter (sole : Sole state)
    {signIn other : SignInId} {completion : Completion}
    {presenter : Controller} {rival : Pending} {owner : HomeId}
    (waiting : state.at? signIn = some (.waiting completion))
    (presents : completion.presenter? = some presenter)
    (member : presenter ∈ state.stack)
    (found : state.at? other = some rival)
    (live : rival.LiveFor state owner) :
    other = signIn := by
  rcases Pending.liveFor_of_presenter presents member with ⟨self, own, _⟩
  exact sole.sole _ _ _ _ _ _ found waiting live own

/-- The screen of a completion that presents the menu is on top. -/
theorem onScreen_of_presenter (sole : Sole state)
    {signIn : SignInId} {completion : Completion}
    {presenter : Controller}
    (waiting : state.at? signIn = some (.waiting completion))
    (presents : completion.presenter? = some presenter)
    (member : presenter ∈ state.stack) :
    ∃ self, OnScreen state self ∧
      (presenter = .home self ∨ presenter = .login self) := by
  rcases Pending.liveFor_of_presenter presents member with
    ⟨self, own, kind⟩
  exact ⟨self, sole.shown _ _ _ waiting own, kind⟩

theorem shown_next (wellFormed : WellFormed state)
    (sole : Sole state) (alone : SignsInAlone state action)
    (change : Change state action next events)
    {signIn : SignInId} {pending : Pending} {self : HomeId}
    (found : next.at? signIn = some pending)
    (live : pending.LiveFor next self) :
    OnScreen next self := by
  rcases live.before wellFormed change found with
    ⟨earlier, before, wasLive⟩ | ⟨request, sends, _, onScreen, _⟩
  · have onScreen := sole.shown _ _ _ before wasLive
    cases change with
    | opens mode top absent =>
        rw [OnScreen, State.top?, top] at onScreen
        rcases onScreen with shown | shown
        · cases shown
          exact Or.inr rfl
        · cases shown
    | returns top signedOut =>
        rw [OnScreen, State.top?, top] at onScreen
        rcases onScreen with shown | shown
        · cases shown
        · cases shown
          exact Or.inl rfl
    | @bounces owner below top signedIn =>
        rw [OnScreen, State.top?, top] at onScreen
        have nodup := wellFormed.nodup
        rw [top] at nodup
        rcases onScreen with shown | shown
        · cases shown
        · cases shown
          rcases live.2.2 with guest | present | shown
          · exact absurd ⟨guest, live.2.1⟩
              (alone.back rfl signedIn _ _ found)
          · exact absurd
              (List.mem_of_ne_of_mem Controller.noConfusion present)
              (List.nodup_cons.mp nodup).1
          · cases shown
    | logsOut top succeeds =>
        rw [OnScreen, State.top?, top] at onScreen
        rcases onScreen with shown | shown <;> cases shown
    | presents waiting presenter =>
        have other := (Change.at?_of_dequeue found).1
        exact absurd (sole.eq_of_presenter waiting presenter
          (wellFormed.presenter_mem waiting presenter) before wasLive) other
    | shows completed waiting presenter member absent =>
        have other := (Change.at?_of_dequeue found).1
        exact absurd (sole.eq_of_presenter waiting presenter member
          before wasLive) other
    | _ => exact onScreen
  · rw [change.eq_start sends]
    exact onScreen

theorem sole_next (wellFormed : WellFormed state)
    (sole : Sole state) (alone : SignsInAlone state action)
    (change : Change state action next events)
    {signIn other : SignInId} {pending rival : Pending}
    {self owner : HomeId}
    (found : next.at? signIn = some pending)
    (foundOther : next.at? other = some rival)
    (live : pending.LiveFor next self)
    (liveOther : rival.LiveFor next owner) :
    signIn = other := by
  have first := live.before wellFormed change found
  have second := liveOther.before wellFormed change foundOther
  rcases first with ⟨earlier, before, wasLive⟩ |
    ⟨request, sends, owned, _, new⟩ <;>
  rcases second with ⟨earlierOther, beforeOther, wasLiveOther⟩ |
    ⟨requestOther, sendsOther, ownedOther, _, newOther⟩
  · exact sole.sole _ _ _ _ _ _ before beforeOther wasLive wasLiveOther
  · have owned : requestOther.owner? ≠ none := by
      rw [ownedOther]
      exact Option.some_ne_none _
    exact absurd ⟨self, wasLive.1, wasLive⟩
      (alone.starts _ sendsOther owned _ _ before)
  · have owned : request.owner? ≠ none := by
      rw [owned]
      exact Option.some_ne_none _
    exact absurd ⟨owner, wasLiveOther.1, wasLiveOther⟩
      (alone.starts _ sends owned _ _ beforeOther)
  · rw [new, newOther]

theorem preserved (wellFormed : WellFormed state)
    (sole : Sole state) (alone : SignsInAlone state action)
    (change : Change state action next events) :
    Sole next where
  shown := fun _ _ _ found live =>
    sole.shown_next wellFormed alone change found live
  sole := fun _ _ _ _ _ _ found foundOther live liveOther =>
    sole.sole_next wellFormed alone change found foundOther live liveOther

/-- With one live sign-in no stored menu is pushed twice. -/
theorem not_raises (wellFormed : WellFormed state) (sole : Sole state)
    {signIn : SignInId} {completion : Completion} {self : HomeId}
    (waiting : state.at? signIn = some (.waiting completion))
    (presents : completion.presenter? = some (.login self))
    (member : .login self ∈ state.stack) :
    .menu (.stored self) ∉ state.stack := by
  rcases sole.onScreen_of_presenter waiting presents member with
    ⟨owner, shown | shown, kind⟩
  · rcases kind with equal | equal
    · cases equal
    · cases equal
      rcases List.head?_eq_some_iff.mp shown with ⟨below, top⟩
      exact absurd member (wellFormed.login_notMem_of_home_top top)
  · rcases kind with equal | equal
    · cases equal
    · cases equal
      rcases List.head?_eq_some_iff.mp shown with ⟨below, top⟩
      exact wellFormed.stored_notMem_of_login_top top

/-- With one live sign-in every push is legal. -/
theorem legal (wellFormed : WellFormed state)
    (sole : Sole state) (change : Change state action next events)
    {push : Push} (member : .pushed push ∈ events) :
    push.Legal := by
  cases change with
  | stays token alerts tapped modeless requestless failed =>
      rcases List.mem_map.mp member with ⟨alert, _, equal⟩
      cases equal
  | opens mode top absent =>
      cases List.mem_singleton.mp member
      exact ⟨absent, fun isMenu => by cases isMenu⟩
  | bounces top signedIn =>
      cases List.mem_singleton.mp member
      have fresh := wellFormed.newMenu_notMem
      rw [top] at fresh
      constructor
      · intro old
        exact fresh (List.mem_cons_of_mem _ old)
      · intro _ controller shown
        cases shown
        rfl
  | logsOut top succeeds =>
      cases List.mem_singleton.mp member
      exact ⟨wellFormed.newHome_notMem, fun isMenu => by cases isMenu⟩
  | presents waiting presenter =>
      cases List.mem_singleton.mp member
      have present := wellFormed.presenter_mem waiting presenter
      rcases sole.onScreen_of_presenter waiting presenter present with
        ⟨self, shown, _⟩
      exact ⟨wellFormed.newMenu_notMem, fun _ => shown.not_isMenu⟩
  | shows completed waiting presenter present absent =>
      cases List.mem_singleton.mp member
      rcases sole.onScreen_of_presenter waiting presenter present with
        ⟨self, shown, _⟩
      exact ⟨absent, fun _ => shown.not_isMenu⟩
  | raises completed waiting presenter present repeated =>
      exact absurd repeated
        (sole.not_raises wellFormed waiting presenter present)
  | _ => cases member

end Sole

theorem launch_sole (user : Option User) (token : Option AccessToken) :
    Sole (launch user token).1 := by
  have quiet : (launch user token).1.Quiet := by
    intro signIn
    cases user <;> rfl
  constructor
  · intro signIn pending self found
    rw [quiet signIn] at found
    cases found
  · intro signIn other pending rival self owner found
    rw [quiet signIn] at found
    cases found

theorem launch_legal (user : Option User) (token : Option AccessToken)
    {push : Push} (member : .pushed push ∈ (launch user token).2) :
    push.Legal := by
  cases user with
  | none => cases member
  | some user =>
      rw [launch_of_signedIn] at member
      cases List.mem_singleton.mp member
      constructor
      · decide
      · intro _ top head
        cases head
        rfl

/-! ## Every push is legal -/

/--
In a run in which sign-ins that may present the menu come one at a time, no
instance is pushed that the stack holds already and no menu is presented on
top of a menu.
-/
theorem pushes_legal
    {actions : List Action} {events : List Event} {state : State}
    (launched : LaunchedUnder SignsInAlone actions events state)
    {push : Push} (member : .pushed push ∈ events) :
    push.Legal := by
  have holds : WellFormed state ∧ Sole state ∧
      ∀ push, .pushed push ∈ events → push.Legal := by
    apply LaunchedUnder.changeHistory _ _ launched
    · intro past seen state action next observed wellFormed holds alone
        change
      constructor
      · exact holds.1.preserved wellFormed alone change
      · intro push member
        rcases List.mem_append.mp member with old | new
        · exact holds.2 push old
        · exact holds.1.legal wellFormed change new
    · intro user token
      exact ⟨launch_sole user token, fun _ => launch_legal user token⟩
  exact holds.2.2 push member

/-- A guest session, its logout and another guest session. -/
theorem pushes_legal_again :
    ∃ later state,
      LaunchedUnder SignsInAlone
          [.home 0 .guest, .reply 0 (.firebase (.success ⟨"guest", true⟩)),
            .complete 0, .logout (.fresh 0) none, .home 1 .guest,
            .reply 1 (.firebase (.success ⟨"guest", true⟩)), .complete 1]
          ((launch none none).2 ++ later) state ∧
        .pushed ⟨.signInAnonymously, .menu (.fresh 1),
          [.home 1, .menu (.fresh 0), .home 0]⟩ ∈ later ∧
        (Push.mk .signInAnonymously (.menu (.fresh 1))
          [.home 1, .menu (.fresh 0), .home 0]).Legal := by
  have passes : (exec step SignsInAlone (launch none none).1
      [.home 0 .guest, .reply 0 (.firebase (.success ⟨"guest", true⟩)),
        .complete 0, .logout (.fresh 0) none, .home 1 .guest,
        .reply 1 (.firebase (.success ⟨"guest", true⟩)),
        .complete 1]).any
        (fun turn => decide (.pushed ⟨.signInAnonymously,
          .menu (.fresh 1), [.home 1, .menu (.fresh 0), .home 0]⟩ ∈
            turn.2)) = true := by
    decide
  rcases launched_of_any passes with ⟨later, state, launched, checked⟩
  have member := of_decide_eq_true checked
  exact ⟨later, state, launched, member,
    pushes_legal launched (List.mem_append_right _ member)⟩

/-- Fields that log-in lets through. -/
def filledIn : TextFields :=
  typed [] (.ofLiteral "a@b.co") (.ofLiteral "secret")

/-- Log In is submitted twice before Firebase answers: the stored menu is
pushed again while it is on top. -/
theorem not_every_push_legal :
    ¬ ∀ actions events state push, Launched actions events state →
      .pushed push ∈ events → push.Legal := by
  intro law
  have passes : (exec step (fun _ _ => True) (launch none none).1
      [.home 0 .logIn, .login 0 (.submitLogin filledIn),
        .login 0 (.submitLogin filledIn),
        .reply 0 (.firebase (.success ⟨"user", false⟩)),
        .reply 1 (.firebase (.success ⟨"user", false⟩)),
        .complete 0, .complete 1]).any
        (fun turn => decide (.pushed ⟨.handleLogin, .menu (.stored 0),
          [.menu (.stored 0), .login 0, .home 0]⟩ ∈ turn.2)) = true := by
    decide +kernel
  rcases launched_of_any passes with ⟨later, state, launched, checked⟩
  have legal := law _ _ _ _ launched
    (List.mem_append_right _ (of_decide_eq_true checked))
  exact legal.fresh List.mem_cons_self

end BandBPools.App
