import BandBPools.App.Change

/-!
# Reachable states

The invariant holds after the launch and is kept by every change, so it holds
in every reachable state.  The rules at the end lift a fact from one change to
all runs, with the invariant at hand in every state.
-/

namespace BandBPools.App

open BandBPools.Stack
open BandBPools.Transition

/-! ## Pending sign-ins across a change -/

/-- Where a sign-in that is pending after a step comes from. -/
inductive Origin (state : State) (action : Action) (next : State)
    (signIn : SignInId) : Pending → Prop where
  | kept {pending}
      (found : state.at? signIn = some pending) :
      Origin state action next signIn pending
  | started {request}
      (sends : action.request? state = some request)
      (shown : ∀ owner, request.owner? = some owner →
        state.top? = some (.home owner) ∨
          state.top? = some (.login owner))
      (new : signIn = state.nextSignIn) :
      Origin state action next signIn (.inFlight request)
  | answered {answer request completion}
      (replies : action = .reply signIn answer)
      (inFlight : state.at? signIn = some (.inFlight request))
      (answers : request.answered answer = some completion)
      (user : next.currentUser =
        completion.user?.or state.currentUser) :
      Origin state action next signIn (.waiting completion)
  | carried {completion request}
      (completes : action = .complete signIn)
      (waiting : state.at? signIn = some (.waiting completion))
      (carries : completion.next? state = some request) :
      Origin state action next signIn (.inFlight request)

/-- An answer goes to the code that sent the request. -/
theorem Request.owner?_answered
    {request : Request} {answer : Answer} {completion : Completion}
    (answers : request.answered answer = some completion) :
    completion.owner? = request.owner? := by
  cases request <;> cases answer <;>
    simp only [Request.answered, Option.some.injEq, reduceCtorEq]
      at answers <;>
    subst answers <;> rfl

/-- A sign-in is carried on by the code that began it. -/
theorem Completion.owner?_next
    {completion : Completion} {state : State} {request : Request}
    (next : completion.next? state = some request) :
    request.owner? = completion.owner? := by
  cases completion with
  | firebase call reply => cases next
  | facebookLogin self reply =>
      cases next
      rfl
  | graph self tokenString reply =>
      cases reply with
      | failure error => cases next
      | success result =>
          rcases Option.map_eq_some_iff.mp next with ⟨token, _, equal⟩
          subst equal
          rfl
  | googleLogin reply =>
      cases reply with
      | failure error => cases next
      | success user =>
          rcases user with ⟨_ | idToken, _ | accessToken⟩ <;> cases next
          rfl

/-- A controller that a step has created or pushed, with the counter that a
new number was taken from. -/
inductive Newcomer (state next : State) : Controller → Prop where
  | login {self} (top : state.top? = some (.home self)) :
      Newcomer state next (.login self)
  | stored {self} (member : .login self ∈ state.stack) :
      Newcomer state next (.menu (.stored self))
  | home (grows : next.nextHome = state.nextHome + 1) :
      Newcomer state next (.home state.nextHome)
  | fresh (grows : next.nextMenu = state.nextMenu + 1) :
      Newcomer state next (.menu (.fresh state.nextMenu))

namespace Change

variable {state next : State} {action : Action} {events : List Event}

/-- Taking a sign-in off the queue finds no sign-in that was not there. -/
theorem at?_of_dequeue {signIn other : SignInId} {pending : Pending}
    (found : (state.dequeue signIn).at? other = some pending) :
    other ≠ signIn ∧ state.at? other = some pending := by
  by_cases equal : other = signIn
  · subst equal
    rw [State.at?_dequeue_self] at found
    cases found
  · rw [State.at?_dequeue_of_ne equal] at found
    exact ⟨equal, found⟩

theorem origin (change : Change state action next events)
    {signIn : SignInId} {pending : Pending}
    (found : next.at? signIn = some pending) :
    Origin state action next signIn pending := by
  cases change with
  | stays token alerts tapped modeless requestless failed =>
      exact .kept found
  | starts sends shown =>
      by_cases new : signIn = state.nextSignIn
      · subst new
        rw [State.at?_start_self, Option.some.injEq] at found
        subst found
        exact .started sends shown rfl
      · rw [State.at?_start_of_ne new] at found
        exact .kept found
  | opens mode top absent => exact .kept found
  | returns top signedOut => exact .kept found
  | bounces top signedIn => exact .kept found
  | logsOut top succeeds => exact .kept found
  | @replies replied answer request completion inFlight answers =>
      by_cases equal : signIn = replied
      · subst equal
        rw [State.at?, enqueue, AList.lookup_insert,
          Option.some.injEq] at found
        subst found
        exact .answered rfl inFlight answers rfl
      · rw [State.at?, enqueue, AList.lookup_insert_ne equal] at found
        exact .kept found
  | @proceeds completed completion request waiting carries =>
      by_cases equal : signIn = completed
      · subst equal
        rw [State.at?_proceed_self, Option.some.injEq] at found
        subst found
        exact .carried rfl waiting carries
      · rw [State.at?_proceed_of_ne equal] at found
        exact .kept (at?_of_dequeue found).2
  | settles waiting last absent => exact .kept (at?_of_dequeue found).2
  | presents waiting presenter => exact .kept (at?_of_dequeue found).2
  | shows completed waiting presenter member absent =>
      exact .kept (at?_of_dequeue found).2
  | raises completed waiting presenter member repeated =>
      exact .kept (at?_of_dequeue found).2

/-! ## The invariant is kept -/

/-- Only a login screen ever leaves the stack. -/
theorem mem_next (change : Change state action next events)
    {controller : Controller} (member : controller ∈ state.stack)
    (other : ∀ owner, controller ≠ .login owner) :
    controller ∈ next.stack := by
  cases change with
  | opens mode top absent => exact List.mem_cons_of_mem _ member
  | returns top signedOut =>
      rw [top] at member
      exact List.mem_of_ne_of_mem (other _) member
  | bounces top signedIn =>
      rw [top] at member
      exact List.mem_cons_of_mem _
        (List.mem_of_ne_of_mem (other _) member)
  | logsOut top succeeds => exact List.mem_cons_of_mem _ member
  | presents waiting presenter => exact List.mem_cons_of_mem _ member
  | shows completed waiting presenter present absent =>
      exact List.mem_cons_of_mem _ member
  | _ => exact member

/-- A tap that sends a request does nothing else. -/
theorem eq_start (change : Change state action next events)
    {request : Request} (sends : action.request? state = some request) :
    next = state.start request := by
  cases change with
  | stays token alerts tapped modeless requestless failed =>
      rw [requestless] at sends
      cases sends
  | starts sent shown =>
      rw [sent, Option.some.injEq] at sends
      rw [sends]
  | opens mode top absent => cases mode <;> cases sends
  | _ => cases sends

/-- A logout that succeeds does nothing but show a new home screen. -/
theorem eq_logOut (change : Change state action next events)
    (succeeds : action.signsOut state = true) :
    (∃ menu below, state.stack = .menu menu :: below) ∧
      next = { state with
        stack := .home state.nextHome :: state.stack
        currentUser := none
        accessToken := none
        nextHome := state.nextHome + 1 } := by
  cases change with
  | logsOut top succeeded => exact ⟨⟨_, _, top⟩, rfl⟩
  | stays token alerts tapped modeless requestless failed =>
      rw [failed] at succeeds
      cases succeeds
  | starts sends shown =>
      rw [(Action.modeless_of_request sends).2.2] at succeeds
      cases succeeds
  | _ => cases succeeds

theorem nextSignIn_le (change : Change state action next events) :
    state.nextSignIn ≤ next.nextSignIn := by
  cases change with
  | starts sends shown => exact Nat.le_succ _
  | _ => exact Nat.le_refl _

theorem nextHome_le (change : Change state action next events) :
    state.nextHome ≤ next.nextHome := by
  cases change with
  | logsOut top succeeds => exact Nat.le_succ _
  | _ => exact Nat.le_refl _

theorem nextMenu_le (change : Change state action next events) :
    state.nextMenu ≤ next.nextMenu := by
  cases change with
  | bounces top signedIn => exact Nat.le_succ _
  | presents waiting presenter => exact Nat.le_succ _
  | _ => exact Nat.le_refl _

theorem founded (wellFormed : WellFormed state)
    (change : Change state action next events) :
    Founded Rests next.stack := by
  have founded := wellFormed.founded
  cases change with
  | opens mode top absent =>
      refine .push ⟨absent, ?_⟩ founded
      rw [top]
      rfl
  | returns top signedOut =>
      rw [top] at founded
      exact founded.pop
  | bounces top signedIn =>
      have fresh := wellFormed.newMenu_notMem
      rw [top] at founded fresh
      exact .push (fun member => fresh (List.mem_cons_of_mem _ member))
        founded.pop
  | logsOut top succeeds =>
      refine .push ⟨wellFormed.newHome_notMem, ?_⟩ founded
      intro controller shown
      rw [top, List.head?_cons, Option.some.injEq] at shown
      rw [← shown]
      rfl
  | presents waiting presenter =>
      exact .push wellFormed.newMenu_notMem founded
  | shows completed waiting presenter member absent =>
      exact .push ⟨absent, member⟩ founded
  | _ => exact founded

/-- What was not in the stack before a change was created or pushed by it. -/
theorem mem_before (change : Change state action next events)
    {controller : Controller} (member : controller ∈ next.stack) :
    controller ∈ state.stack ∨ Newcomer state next controller := by
  cases change with
  | opens mode top absent =>
      rcases List.mem_cons.mp member with equal | old
      · subst equal
        exact Or.inr (.login (by rw [State.top?, top]; rfl))
      · exact Or.inl old
  | returns top signedOut =>
      rw [top]
      exact Or.inl (List.mem_cons_of_mem _ member)
  | bounces top signedIn =>
      rw [top]
      rcases List.mem_cons.mp member with equal | old
      · subst equal
        exact Or.inr (.fresh rfl)
      · exact Or.inl (List.mem_cons_of_mem _ old)
  | logsOut top succeeds =>
      rcases List.mem_cons.mp member with equal | old
      · subst equal
        exact Or.inr (.home rfl)
      · exact Or.inl old
  | presents waiting presenter =>
      rcases List.mem_cons.mp member with equal | old
      · subst equal
        exact Or.inr (.fresh rfl)
      · exact Or.inl old
  | shows completed waiting presenter present absent =>
      rcases List.mem_cons.mp member with equal | old
      · subst equal
        exact Or.inr (.stored present)
      · exact Or.inl old
  | _ => exact Or.inl member

theorem homes (wellFormed : WellFormed state)
    (change : Change state action next events) :
    ∀ self, .home self ∈ next.stack → self < next.nextHome := by
  intro self member
  rcases change.mem_before member with old | new
  · exact Nat.lt_of_lt_of_le (wellFormed.homes self old)
      change.nextHome_le
  · cases new with
    | home grows =>
        rw [grows]
        exact Nat.lt_succ_self _

theorem menus (wellFormed : WellFormed state)
    (change : Change state action next events) :
    ∀ serial, .menu (.fresh serial) ∈ next.stack →
      serial < next.nextMenu := by
  intro serial member
  rcases change.mem_before member with old | new
  · exact Nat.lt_of_lt_of_le (wellFormed.menus serial old)
      change.nextMenu_le
  · cases new with
    | fresh grows =>
        rw [grows]
        exact Nat.lt_succ_self _

theorem signIns (wellFormed : WellFormed state)
    (change : Change state action next events) :
    ∀ signIn pending, next.at? signIn = some pending →
      signIn < next.nextSignIn := by
  intro signIn pending found
  have grows := change.nextSignIn_le
  cases change.origin found with
  | kept found =>
      exact Nat.lt_of_lt_of_le (wellFormed.signIns _ _ found) grows
  | started sends shown new =>
      rw [new, change.eq_start sends]
      exact Nat.lt_succ_self _
  | answered replies inFlight answers user =>
      exact Nat.lt_of_lt_of_le (wellFormed.signIns _ _ inFlight) grows
  | carried completes waiting carries =>
      exact Nat.lt_of_lt_of_le (wellFormed.signIns _ _ waiting) grows

theorem owners (wellFormed : WellFormed state)
    (change : Change state action next events) :
    ∀ signIn pending owner, next.at? signIn = some pending →
      pending.owner? = some owner → .home owner ∈ next.stack := by
  intro signIn pending owner found owned
  refine change.mem_next ?_ fun _ => Controller.noConfusion
  cases change.origin found with
  | kept found => exact wellFormed.owners _ _ _ found owned
  | started sends shown new =>
      rcases shown _ owned with top | top
      · exact List.mem_of_head? top
      · exact wellFormed.home_mem_of_login (List.mem_of_head? top)
  | answered replies inFlight answers user =>
      apply wellFormed.owners _ _ _ inFlight
      rw [Pending.owner?, ← Request.owner?_answered answers]
      exact owned
  | carried completes waiting carries =>
      apply wellFormed.owners _ _ _ waiting
      rw [Pending.owner?, ← Completion.owner?_next carries]
      exact owned

theorem wellFormed (wellFormed : WellFormed state)
    (change : Change state action next events) :
    WellFormed next where
  founded := change.founded wellFormed
  nonempty := by
    have nonempty := wellFormed.nonempty
    cases change with
    | returns top signedOut => exact List.cons_ne_nil _ _
    | bounces top signedIn => exact List.cons_ne_nil _ _
    | opens mode top absent => exact List.cons_ne_nil _ _
    | logsOut top succeeds => exact List.cons_ne_nil _ _
    | presents waiting presenter => exact List.cons_ne_nil _ _
    | shows completed waiting presenter present absent =>
        exact List.cons_ne_nil _ _
    | _ => exact nonempty
  homes := change.homes wellFormed
  menus := change.menus wellFormed
  signIns := change.signIns wellFormed
  owners := change.owners wellFormed

end Change

/-! ## The launch -/

/-- With a user the first home screen presents a menu at once. -/
theorem launch_of_signedIn (user : User) (token : Option AccessToken) :
    launch (some user) token =
      ({ State.initial (some user) token with
          stack := [.menu (.fresh 0), .home 0]
          nextMenu := 1 },
        [.pushed ⟨.viewWillAppear, .menu (.fresh 0), [.home 0]⟩]) :=
  rfl

theorem State.initial_wellFormed (user : Option User)
    (token : Option AccessToken) :
    WellFormed (.initial user token) where
  founded := by simp [State.initial, Rests]
  nonempty := List.cons_ne_nil _ _
  homes := by simp [State.initial]
  menus := by simp [State.initial]
  signIns := by simp [State.initial, State.at?]
  owners := by simp [State.initial, State.at?]

theorem launch_wellFormed (user : Option User)
    (token : Option AccessToken) :
    WellFormed (launch user token).1 := by
  cases user with
  | none => exact State.initial_wellFormed none token
  | some user =>
      rw [launch_of_signedIn]
      refine ⟨?_, List.cons_ne_nil _ _, ?_, ?_, ?_, ?_⟩
      · simp [Rests]
      · simp [State.initial]
      · simp
      · simp [State.initial, State.at?]
      · simp [State.initial, State.at?]

/-! ## Rules for runs -/

/-- What holds at a state with the invariant and is kept by every change
holds at the end of every run from there, with the actions and all that was
seen on the way. -/
theorem RunUnder.changeHistory
    {condition : State → Action → Prop} {source target : State}
    {actions : List Action} {events : List Event}
    {Inv : List Action → List Event → State → Prop}
    (preserved : ∀ past seen state action next observed,
      WellFormed state → Inv past seen state → condition state action →
      Change state action next observed →
      Inv (past ++ [action]) (seen ++ observed) next)
    (start : WellFormed source) (initial : Inv [] [] source)
    (run : RunUnder step condition source actions events target) :
    WellFormed target ∧ Inv actions events target := by
  apply run.historyInvariant
  · intro past seen state action next observed holds meets taken
    have change := Change.of_step holds.1 taken
    exact ⟨change.wellFormed holds.1,
      preserved _ _ _ _ _ _ holds.1 holds.2 meets change⟩
  · exact ⟨start, initial⟩

/-- The rule for facts about states alone. -/
theorem RunUnder.changeInvariant
    {condition : State → Action → Prop} {source target : State}
    {actions : List Action} {events : List Event}
    {Inv : State → Prop}
    (preserved : ∀ state action next observed, WellFormed state →
      Inv state → condition state action →
      Change state action next observed → Inv next)
    (start : WellFormed source) (initial : Inv source)
    (run : RunUnder step condition source actions events target) :
    WellFormed target ∧ Inv target :=
  RunUnder.changeHistory
    (fun _ _ _ _ _ _ wellFormed holds meets change =>
      preserved _ _ _ _ wellFormed holds meets change)
    start initial run

/-- What holds after the launch and is kept by every change holds at the end
of every run of the app. -/
theorem LaunchedUnder.changeHistory
    {condition : State → Action → Prop} {state : State}
    {actions : List Action} {events : List Event}
    {Inv : List Action → List Event → State → Prop}
    (preserved : ∀ past seen state action next observed,
      WellFormed state → Inv past seen state → condition state action →
      Change state action next observed →
      Inv (past ++ [action]) (seen ++ observed) next)
    (initial : ∀ user token,
      Inv [] (launch user token).2 (launch user token).1)
    (run : LaunchedUnder condition actions events state) :
    WellFormed state ∧ Inv actions events state := by
  rcases run with ⟨user, token, later, run, rfl⟩
  have extended : ∀ past seen state action next observed,
      WellFormed state →
      Inv past ((launch user token).2 ++ seen) state →
      condition state action → Change state action next observed →
      Inv (past ++ [action])
        ((launch user token).2 ++ (seen ++ observed)) next := by
    intro past seen state action next observed wellFormed holds meets
      change
    rw [← List.append_assoc]
    exact preserved _ _ _ _ _ _ wellFormed holds meets change
  have launched :
      Inv [] ((launch user token).2 ++ []) (launch user token).1 := by
    rw [List.append_nil]
    exact initial user token
  have ran := RunUnder.changeHistory extended
    (launch_wellFormed user token) launched run
  exact ran

/-- The rule for facts about states alone. -/
theorem LaunchedUnder.changeInvariant
    {condition : State → Action → Prop} {state : State}
    {actions : List Action} {events : List Event}
    {Inv : State → Prop}
    (preserved : ∀ state action next observed, WellFormed state →
      Inv state → condition state action →
      Change state action next observed → Inv next)
    (initial : ∀ user token, Inv (launch user token).1)
    (run : LaunchedUnder condition actions events state) :
    WellFormed state ∧ Inv state :=
  LaunchedUnder.changeHistory
    (fun _ _ _ _ _ _ wellFormed holds meets change =>
      preserved _ _ _ _ wellFormed holds meets change)
    initial run

theorem Reachable.wellFormed {state : State}
    (reachable : Reachable state) : WellFormed state := by
  rcases reachable with ⟨actions, events, user, token, later, run, _⟩
  exact (RunUnder.changeInvariant (fun _ _ _ _ _ _ _ _ => True.intro)
    (launch_wellFormed user token) True.intro run).1

end BandBPools.App
