import BandBPools.App.Reach

/-!
# The mode of the login screen

One global, `loginVsSignup`, is written by the buttons of every home screen
and read by every login screen as it appears, and a login screen keeps what
was hidden on an earlier visit.  A login screen comes to the top only when its
own home screen pushes it, right after writing the global, so it shows the
mode that was asked for last.
-/

namespace BandBPools.App

open BandBPools.Transition

/-- The mode last asked for on a home screen. -/
def lastMode (self : HomeId) (actions : List Action) : Option Mode :=
  (actions.filterMap Action.mode?).reverse.lookup self

theorem lastMode_append_of_modeless
    {action : Action} (modeless : action.mode? = none)
    (self : HomeId) (past : List Action) :
    lastMode self (past ++ [action]) = lastMode self past := by
  rw [lastMode, List.filterMap_append, List.filterMap_cons_none modeless]
  simp [lastMode]

theorem lastMode_append_of_tap
    {action : Action} {self : HomeId} {mode : Mode}
    (asks : action.mode? = some (self, mode)) (past : List Action) :
    lastMode self (past ++ [action]) = some mode := by
  rw [lastMode, List.filterMap_append, List.filterMap_cons_some asks]
  simp

/-- A login screen shows the controls of a mode and hides those of the
other. -/
def LoginScreen.Shows (mode : Mode) (screen : LoginScreen) : Prop :=
  match mode with
  | .signUp =>
      screen.userFieldHidden = false ∧
        screen.signUpButtonHidden = false ∧
        screen.loginButtonHidden = true ∧
        screen.forgotButtonHidden = true
  | .logIn =>
      screen.userFieldHidden = true ∧
        screen.signUpButtonHidden = true ∧
        screen.loginButtonHidden = false ∧
        screen.forgotButtonHidden = false

instance (mode : Mode) : DecidablePred (LoginScreen.Shows mode) :=
  match mode with
  | .signUp => fun _ => inferInstanceAs (Decidable (_ ∧ _))
  | .logIn => fun _ => inferInstanceAs (Decidable (_ ∧ _))

/-- Whatever was hidden before, setting a screen up for a mode shows it. -/
theorem Mode.shown_shows (mode : Mode) (screen : LoginScreen) :
    (mode.shown screen).Shows mode := by
  cases mode with
  | signUp => exact ⟨rfl, rfl, rfl, rfl⟩
  | logIn => exact ⟨rfl, rfl, rfl, rfl⟩

/-- The login screen on top, if there is one, shows the mode last asked for on
its home screen. -/
def ShowsLastMode (past : List Action) (state : State) : Prop :=
  ∀ self, state.top? = some (.login self) →
    ∃ mode, lastMode self past = some mode ∧
      (state.screens self).Shows mode

theorem Change.showsLastMode
    {state next : State} {action : Action} {events : List Event}
    {past : List Action}
    (shows : ShowsLastMode past state)
    (change : Change state action next events) :
    ShowsLastMode (past ++ [action]) next := by
  intro self top
  have kept : action.mode? = none →
      state.top? = some (.login self) →
      next.screens = state.screens →
      ∃ mode, lastMode self (past ++ [action]) = some mode ∧
        (next.screens self).Shows mode := by
    intro modeless shown same
    rw [lastMode_append_of_modeless modeless, same]
    exact shows self shown
  cases change with
  | stays token alerts tapped modeless requestless failed =>
      exact kept modeless top rfl
  | starts sends shown =>
      exact kept (Action.modeless_of_request sends).1 top rfl
  | opens mode under absent =>
      cases top
      refine ⟨mode, lastMode_append_of_tap ?_ past, ?_⟩
      · cases mode <;> rfl
      · simpa using mode.shown_shows (state.screens self)
  | returns under signedOut => cases top
  | bounces under signedIn => cases top
  | logsOut under succeeds => cases top
  | replies inFlight answered => exact kept rfl top rfl
  | proceeds waiting carries => exact kept rfl top rfl
  | settles waiting last absent => exact kept rfl top rfl
  | presents waiting presenter => cases top
  | shows completed waiting presenter member absent => cases top
  | raises completed waiting presenter member repeated => exact kept rfl top rfl

/-- No change runs the default branch of `handleLoginOrSignUp`. -/
theorem Change.no_pageSetupError
    {state next : State} {action : Action} {events : List Event}
    (change : Change state action next events) :
    .pageSetupError ∉ events := by
  cases change <;> simp

/--
In every reachable state in which a login screen is on top, it shows the mode
of the button last tapped on the home screen that owns it, and no login screen
has appeared without a mode.
-/
theorem loginScreen_shows_lastMode
    {actions : List Action} {events : List Event} {state : State}
    (launched : Launched actions events state) :
    (∀ self, state.top? = some (.login self) →
        ∃ mode, lastMode self actions = some mode ∧
          (state.screens self).Shows mode) ∧
      .pageSetupError ∉ events := by
  have holds : WellFormed state ∧
      ShowsLastMode actions state ∧ .pageSetupError ∉ events := by
    apply LaunchedUnder.changeHistory _ _ launched
    · intro past seen state action next observed _ holds _ change
      constructor
      · exact change.showsLastMode holds.1
      · rw [List.mem_append, not_or]
        exact ⟨holds.2, change.no_pageSetupError⟩
    · intro user token
      cases user with
      | none =>
          constructor
          · intro self top
            cases top
          · exact List.not_mem_nil
      | some user =>
          constructor
          · intro self top
            cases top
          · simp [launch_of_signedIn]
  exact holds.2

/-- Sign Up, Back and Log In on one home screen. -/
theorem loginScreen_shows_lastMode_after_back :
    ∃ later state,
      Launched [.home 0 .signUp, .login 0 .back, .home 0 .logIn]
          ((launch none none).2 ++ later) state ∧
        state.top? = some (.login 0) ∧
        ∃ mode, lastMode 0
            [.home 0 .signUp, .login 0 .back, .home 0 .logIn] =
              some mode ∧
          (state.screens 0).Shows mode := by
  have passes : (exec step (fun _ _ => True) (launch none none).1
      [.home 0 .signUp, .login 0 .back, .home 0 .logIn]).any
        (fun turn => turn.1.top? == some (.login 0)) = true := by
    decide
  rcases launched_of_any passes with ⟨later, state, launched, top⟩
  have shown := eq_of_beq top
  exact ⟨later, state, launched, shown,
    (loginScreen_shows_lastMode launched).1 0 shown⟩

end BandBPools.App
