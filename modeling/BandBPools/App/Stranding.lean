import BandBPools.App.Presenting

/-!
# Sign-ins that end before the menu

Whoever is signed in should end up at the menu.  Between Firebase's reply and
the menu there is always a completion that waits to present it, unless that
completion runs and presents nothing: the one of Google's sign-in only prints,
and the one of a login screen that Back has removed finds no navigation
controller.
-/

namespace BandBPools.App

open BandBPools.Transition

/-- The completion of a Firebase request that signed a user in is waiting. -/
def Pending.SignsIn : Pending → Prop
  | .inFlight _ => False
  | .waiting completion => completion.user? ≠ none

instance : DecidablePred Pending.SignsIn
  | .inFlight _ => inferInstanceAs (Decidable False)
  | .waiting _ => inferInstanceAs (Decidable (_ ≠ _))

/-- A menu is on the screen. -/
def State.showsMenu (state : State) : Bool :=
  state.top?.any Controller.isMenu

/--
The last completion that signed a user in presents the menu when it runs,
unless the menu is on the screen or the user is gone.
-/
def EndsAtMenu (state : State) : Action → Prop
  | .complete signIn =>
      state.currentUser ≠ none → state.showsMenu = false →
      (state.dequeue signIn).AllPending (fun pending =>
        ¬ pending.SignsIn) →
      ∀ completion ∈ state.waiting? signIn, completion.user? ≠ none →
        completion.Presents state.stack
  | _ => True

instance (state : State) : DecidablePred (EndsAtMenu state)
  | .complete _ => inferInstanceAs (Decidable (_ → _))
  | .home _ _ => inferInstanceAs (Decidable True)
  | .login _ _ => inferInstanceAs (Decidable True)
  | .logout _ _ => inferInstanceAs (Decidable True)
  | .reply _ _ => inferInstanceAs (Decidable True)
  | .tokenExpires => inferInstanceAs (Decidable True)

theorem State.menu_of_showsMenu {state : State}
    (shows : state.showsMenu = true) :
    ∃ menu, state.top? = some (.menu menu) := by
  rcases (Option.any_eq_true _ _).mp shows with ⟨top, shown, isMenu⟩
  cases top with
  | menu id => exact ⟨id, shown⟩
  | home self => cases isMenu
  | login self => cases isMenu

/-- A completion that sends a request has signed nobody in. -/
theorem Completion.user?_of_next
    {completion : Completion} {state : State} {request : Request}
    (carries : completion.next? state = some request) :
    completion.user? = none := by
  cases completion with
  | firebase call reply => cases carries
  | _ => rfl

/-- A user who is not at the menu has a completion to wait for. -/
def Awaited (state : State) : Prop :=
  state.currentUser ≠ none → state.showsMenu = false →
    ∃ signIn pending,
      state.at? signIn = some pending ∧ pending.SignsIn

namespace Awaited

variable {state next : State} {action : Action} {events : List Event}

/-- Among the sign-ins left by a completion that presents nothing there is
still one to wait for. -/
theorem dequeue (awaited : Awaited state)
    {signIn : SignInId} {completion : Completion}
    (ends : EndsAtMenu state (.complete signIn))
    (waiting : state.at? signIn = some (.waiting completion))
    (fails : ¬ completion.Presents state.stack)
    (signedIn : state.currentUser ≠ none)
    (hidden : state.showsMenu = false) :
    ∃ other pending,
      (state.dequeue signIn).at? other = some pending ∧
        pending.SignsIn := by
  by_contra none
  have last : (state.dequeue signIn).AllPending
      (fun pending => ¬ pending.SignsIn) :=
    fun other pending found signs => none ⟨other, pending, found, signs⟩
  rcases awaited signedIn hidden with ⟨other, pending, found, signs⟩
  by_cases equal : other = signIn
  · subst equal
    rw [waiting, Option.some.injEq] at found
    subst found
    exact fails (ends signedIn hidden last completion
      (State.waiting?_eq_some_iff.mpr waiting) signs)
  · rw [← State.at?_dequeue_of_ne equal] at found
    exact last _ _ found signs

theorem preserved (wellFormed : WellFormed state)
    (awaited : Awaited state) (ends : EndsAtMenu state action)
    (change : Change state action next events) :
    Awaited next := by
  intro signedIn hidden
  cases change with
  | stays token alerts tapped modeless requestless failed =>
      exact awaited signedIn hidden
  | starts sends shown =>
      rcases awaited signedIn hidden with ⟨signIn, pending, found, signs⟩
      have old := Nat.ne_of_lt (wellFormed.signIns _ _ found)
      refine ⟨signIn, pending, ?_, signs⟩
      rw [State.at?_start_of_ne old]
      exact found
  | opens mode top absent =>
      apply awaited signedIn
      rw [State.showsMenu, State.top?, top]
      rfl
  | returns top signedOut => exact absurd signedOut signedIn
  | bounces top before => cases hidden
  | logsOut top succeeds => exact absurd rfl signedIn
  | @replies replied answer request completion inFlight answered =>
      by_cases unset : completion.user? = none
      · have before : state.currentUser ≠ none := by
          rwa [enqueue, unset, Option.none_or] at signedIn
        rcases awaited before hidden with ⟨signIn, pending, found, signs⟩
        have other : signIn ≠ replied := by
          rintro rfl
          rw [inFlight, Option.some.injEq] at found
          subst found
          exact signs
        refine ⟨signIn, pending, ?_, signs⟩
        rw [State.at?, enqueue, AList.lookup_insert_ne other]
        exact found
      · exact ⟨replied, .waiting completion, AList.lookup_insert _, unset⟩
  | @proceeds completed completion request waiting carries =>
      rcases awaited signedIn hidden with ⟨signIn, pending, found, signs⟩
      have other : signIn ≠ completed := by
        rintro rfl
        rw [waiting, Option.some.injEq] at found
        subst found
        exact signs (Completion.user?_of_next carries)
      refine ⟨signIn, pending, ?_, signs⟩
      rw [State.at?_proceed_of_ne other]
      exact (State.at?_dequeue_of_ne other state).trans found
  | settles waiting last absent =>
      refine awaited.dequeue ends waiting ?_ signedIn hidden
      rintro ⟨presenter, presents, shows⟩
      exact absent presenter presents shows.mem
  | presents waiting presenter => cases hidden
  | shows completed waiting presenter member absent => cases hidden
  | raises completed waiting presenter member repeated =>
      refine awaited.dequeue ends waiting ?_ signedIn hidden
      rintro ⟨other, presents, shows⟩
      rw [Option.mem_def, presenter] at presents
      cases presents
      exact shows.2 repeated

end Awaited

theorem launch_awaited (user : Option User)
    (token : Option AccessToken) :
    Awaited (launch user token).1 := by
  cases user with
  | none => exact fun signedIn => absurd rfl signedIn
  | some user => exact fun _ hidden => by cases hidden

/--
In a run in which the last completion that signed a user in always presents
the menu, nobody is signed in away from the menu once nothing is under way.
-/
theorem signedIn_at_menu
    {actions : List Action} {events : List Event} {state : State}
    (launched : LaunchedUnder EndsAtMenu actions events state)
    (quiet : state.Quiet) (signedIn : state.currentUser ≠ none) :
    ∃ menu, state.top? = some (.menu menu) := by
  have awaited : WellFormed state ∧ Awaited state := by
    apply LaunchedUnder.changeInvariant _ _ launched
    · intro state action next observed wellFormed awaited ends change
      exact awaited.preserved wellFormed ends change
    · exact launch_awaited
  cases hidden : state.showsMenu with
  | true => exact State.menu_of_showsMenu hidden
  | false =>
      rcases awaited.2 signedIn hidden with ⟨signIn, pending, found, _⟩
      rw [quiet signIn] at found
      cases found

/-- A guest sign-in. -/
theorem signedIn_at_menu_of_guest :
    ∃ later state,
      LaunchedUnder EndsAtMenu
          [.home 0 .guest, .reply 0 (.firebase (.success ⟨"guest", true⟩)),
            .complete 0]
          ((launch none none).2 ++ later) state ∧
        state.Quiet ∧ state.currentUser ≠ none ∧
        ∃ menu, state.top? = some (.menu menu) := by
  have passes : (exec step EndsAtMenu (launch none none).1
      [.home 0 .guest, .reply 0 (.firebase (.success ⟨"guest", true⟩)),
        .complete 0]).any
        (fun turn => decide turn.1.Quiet &&
          turn.1.currentUser == some ⟨"guest", true⟩) = true := by
    decide
  rcases launched_of_any passes with ⟨later, state, launched, checked⟩
  simp only [Bool.and_eq_true, decide_eq_true_eq, beq_iff_eq] at checked
  have signedIn : state.currentUser ≠ none := by
    rw [checked.2]
    exact Option.some_ne_none _
  exact ⟨later, state, launched, checked.1, signedIn,
    signedIn_at_menu launched checked.1 signedIn⟩

/-- Google's sign-in leaves the user at the login screen. -/
theorem not_every_signedIn_at_menu :
    ¬ ∀ state, Reachable state → state.Quiet →
      state.currentUser ≠ none →
      ∃ menu, state.top? = some (.menu menu) := by
  intro law
  have passes : (exec step (fun _ _ => True) (launch none none).1
      [.home 0 .logIn, .login 0 .google,
        .reply 0 (.googleLogin (.success ⟨some "id", some "access"⟩)),
        .complete 0, .reply 0 (.firebase (.success ⟨"google", false⟩)),
        .complete 0]).any
        (fun turn => decide turn.1.Quiet &&
          (turn.1.currentUser == some ⟨"google", false⟩ &&
            turn.1.top? == some (.login 0))) = true := by
    decide
  rcases launched_of_any passes with ⟨later, state, launched, checked⟩
  simp only [Bool.and_eq_true, decide_eq_true_eq, beq_iff_eq] at checked
  have signedIn : state.currentUser ≠ none := by
    rw [checked.2.1]
    exact Option.some_ne_none _
  rcases law state ⟨_, _, launched⟩ checked.1 signedIn with ⟨menu, top⟩
  rw [checked.2.2] at top
  cases top

/-- Once the last such completion has presented nothing, nothing that is left
will present the menu to the user who is signed in. -/
theorem stranded_of_not_endsAtMenu
    {state next : State} {action : Action} {events : List Event}
    (wellFormed : WellFormed state)
    (taken : step state action = some (next, events))
    (misses : ¬ EndsAtMenu state action) :
    next.currentUser ≠ none ∧ next.showsMenu = false ∧
      next.AllPending fun pending => ¬ pending.SignsIn := by
  cases action with
  | complete signIn =>
      simp only [EndsAtMenu, Classical.not_imp, not_forall] at misses
      rcases misses with
        ⟨signedIn, hidden, last, completion, found, signs, fails⟩
      have waiting := State.waiting?_eq_some_iff.mp found
      cases Change.of_step wellFormed taken with
      | stays token alerts tapped modeless requestless failed =>
          cases tapped
      | starts sends shown => cases sends
      | proceeds other carries =>
          rw [waiting] at other
          cases other
          exact absurd (Completion.user?_of_next carries) signs
      | settles other ends absent => exact ⟨signedIn, hidden, last⟩
      | presents other presenter =>
          rw [waiting] at other
          cases other
          have member := wellFormed.presenter_mem waiting presenter
          exact absurd ⟨_, presenter, member⟩ fails
      | shows completed other presenter member absent =>
          rw [waiting] at other
          cases other
          exact absurd ⟨_, presenter, member, absent⟩ fails
      | raises completed other presenter member repeated =>
          exact ⟨signedIn, hidden, last⟩
  | _ => exact absurd True.intro misses

end BandBPools.App
