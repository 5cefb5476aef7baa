import BandBPools.App.Presenting

/-!
# Who sees the menu

The home screen reads `currentUser` as it appears, before it presents a menu.
The completions of the sign-ins do not: Firebase has set the user by the time
they wait on the main queue, but a logout can come in between.  As long as no
logout does, the menu is on top only while a user is signed in.
-/

namespace BandBPools.App

open BandBPools.Transition

/-- No logout succeeds while a completion waits that would present a menu. -/
def LogsOutAlone (state : State) (action : Action) : Prop :=
  action.signsOut state = true →
    state.AllPending fun pending => ¬ pending.Presents state.stack

instance (state : State) (action : Action) :
    Decidable (LogsOutAlone state action) :=
  inferInstanceAs (Decidable (_ → _))

/-- The menu is on top only for a user, and without a user no completion is
left that presents it. -/
structure Guarded (state : State) : Prop where
  shown : ∀ menu, state.top? = some (.menu menu) →
    state.currentUser ≠ none
  waiting : ∀ signIn completion presenter,
    state.at? signIn = some (.waiting completion) →
    completion.presenter? = some presenter →
    state.currentUser = none → Spent state presenter

/-- A user is signed out only by a logout that succeeds. -/
theorem Change.signedOut
    {state next : State} {action : Action} {events : List Event}
    (change : Change state action next events)
    (signedOut : next.currentUser = none) :
    state.currentUser = none ∨
      action.signsOut state = true ∧
        ∃ menu below, state.stack = .menu menu :: below := by
  cases change with
  | replies inFlight answered =>
      exact Or.inl (Option.or_eq_none_iff.mp signedOut).2
  | logsOut top succeeds => exact Or.inr ⟨succeeds, _, _, top⟩
  | _ => exact Or.inl signedOut

/-- Firebase sets a user before a completion waits that presents the menu. -/
theorem Completion.user?_of_presenter
    {completion : Completion} {presenter : Controller}
    (presents : completion.presenter? = some presenter) :
    completion.user? ≠ none := by
  rcases Completion.success_of_presenter presents with
    ⟨call, user, rfl, _⟩
  exact Option.some_ne_none user

namespace Guarded

variable {state next : State} {action : Action} {events : List Event}

theorem spent_next (wellFormed : WellFormed state)
    (guarded : Guarded state) (alone : LogsOutAlone state action)
    (change : Change state action next events)
    {signIn : SignInId} {completion : Completion}
    {presenter : Controller}
    (found : next.at? signIn = some (.waiting completion))
    (presents : completion.presenter? = some presenter)
    (signedOut : next.currentUser = none) :
    Spent next presenter := by
  cases change.origin found with
  | kept waiting =>
      rcases change.signedOut signedOut with
        before | ⟨succeeds, menu, below, top⟩
      · exact change.spent
          (guarded.waiting _ _ _ waiting presents before)
      · apply change.spent
        apply wellFormed.spent_of_menu_top top waiting presents
        intro shows
        exact alone succeeds _ _ waiting ⟨presenter, presents, shows⟩
  | answered replies inFlight answers user =>
      rw [signedOut] at user
      have unset := (Option.or_eq_none_iff.mp user.symm).1
      exact absurd unset (completion.user?_of_presenter presents)

theorem shown_next (guarded : Guarded state)
    (change : Change state action next events)
    {menu : MenuId} (top : next.top? = some (.menu menu)) :
    next.currentUser ≠ none := by
  cases change with
  | opens mode under absent => cases top
  | returns under signedOut => cases top
  | bounces under signedIn => exact signedIn
  | logsOut under succeeds => cases top
  | replies inFlight answered =>
      intro signedOut
      exact guarded.shown menu top
        (Option.or_eq_none_iff.mp signedOut).2
  | presents waiting presenter =>
      intro signedOut
      rcases guarded.waiting _ _ _ waiting presenter signedOut with
        ⟨self, equal, _⟩
      cases equal
  | shows completed waiting presenter member absent =>
      intro signedOut
      exact (guarded.waiting _ _ _ waiting presenter
        signedOut).not_presents ⟨member, absent⟩
  | _ => exact guarded.shown menu top

theorem preserved (wellFormed : WellFormed state)
    (guarded : Guarded state) (alone : LogsOutAlone state action)
    (change : Change state action next events) :
    Guarded next where
  shown := fun _ top => guarded.shown_next change top
  waiting := fun _ _ _ found presents signedOut =>
    guarded.spent_next wellFormed alone change found presents signedOut

end Guarded

theorem launch_guarded (user : Option User)
    (token : Option AccessToken) :
    Guarded (launch user token).1 := by
  cases user with
  | none =>
      constructor
      · intro menu top
        cases top
      · intro signIn completion presenter found
        cases found
  | some user =>
      constructor
      · intro menu top
        exact Option.some_ne_none user
      · intro signIn completion presenter found
        cases found

/--
In a run in which no logout succeeds while a completion waits that would
present a menu, the menu is on top only while a user is signed in.
-/
theorem menu_shown_to_user
    {actions : List Action} {events : List Event} {state : State}
    (launched : LaunchedUnder LogsOutAlone actions events state)
    {menu : MenuId} (top : state.top? = some (.menu menu)) :
    state.currentUser ≠ none := by
  have guarded : WellFormed state ∧ Guarded state := by
    apply LaunchedUnder.changeInvariant _ _ launched
    · intro state action next observed wellFormed guarded alone change
      exact guarded.preserved wellFormed alone change
    · exact launch_guarded
  exact guarded.2.shown menu top

/-- A guest session, its logout and another guest session. -/
theorem menu_shown_to_user_again :
    ∃ later state,
      LaunchedUnder LogsOutAlone
          [.home 0 .guest, .reply 0 (.firebase (.success ⟨"guest", true⟩)),
            .complete 0, .logout (.fresh 0) none, .home 1 .guest,
            .reply 1 (.firebase (.success ⟨"guest", true⟩)), .complete 1]
          ((launch none none).2 ++ later) state ∧
        state.top? = some (.menu (.fresh 1)) ∧
        state.currentUser ≠ none := by
  have passes : (exec step LogsOutAlone (launch none none).1
      [.home 0 .guest, .reply 0 (.firebase (.success ⟨"guest", true⟩)),
        .complete 0, .logout (.fresh 0) none, .home 1 .guest,
        .reply 1 (.firebase (.success ⟨"guest", true⟩)),
        .complete 1]).any
        (fun turn => turn.1.top? == some (.menu (.fresh 1))) = true := by
    decide
  rcases launched_of_any passes with ⟨later, state, launched, checked⟩
  have top := eq_of_beq checked
  exact ⟨later, state, launched, top, menu_shown_to_user launched top⟩

/-- Guest is tapped twice, and the user logs out between the two
completions. -/
theorem not_every_menu_shown_to_user :
    ¬ ∀ state menu, Reachable state → state.top? = some (.menu menu) →
      state.currentUser ≠ none := by
  intro law
  have passes : (exec step (fun _ _ => True) (launch none none).1
      [.home 0 .guest, .home 0 .guest,
        .reply 0 (.firebase (.success ⟨"guest", true⟩)),
        .reply 1 (.firebase (.success ⟨"guest", true⟩)),
        .complete 0, .logout (.fresh 0) none, .complete 1]).any
        (fun turn => turn.1.top? == some (.menu (.fresh 1)) &&
          turn.1.currentUser == none) = true := by
    decide
  rcases launched_of_any passes with ⟨later, state, launched, checked⟩
  simp only [Bool.and_eq_true, beq_iff_eq] at checked
  exact law state _ ⟨_, _, launched⟩ checked.1 checked.2

/-- A logout that comes before such a completion does show the menu without a
user: the completion only has to run next. -/
theorem menu_without_user_of_logout
    {state next : State} {action : Action} {events : List Event}
    (wellFormed : WellFormed state)
    (taken : step state action = some (next, events))
    (succeeds : action.signsOut state = true)
    {signIn : SignInId} {completion : Completion}
    (waiting : state.at? signIn = some (.waiting completion))
    (presents : completion.Presents state.stack) :
    ∃ after observed menu,
      step next (.complete signIn) = some (after, observed) ∧
        after.top? = some (.menu menu) ∧ after.currentUser = none := by
  have change := Change.of_step wellFormed taken
  have wellFormedNext := change.wellFormed wellFormed
  have running := running_of_step taken
  rcases change.eq_logOut succeeds with ⟨_, rfl⟩
  rcases presents.push_home with ⟨presenter, presents, shows⟩
  rcases step_of_presenter wellFormedNext running waiting presents
    shows.mem with ⟨site, menu, after, ran, user, pushed⟩
  refine ⟨after, _, menu, ran, ?_, user⟩
  rw [State.top?, pushed shows]
  rfl

end BandBPools.App
