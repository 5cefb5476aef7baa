import BandBPools.App.Reach

/-!
# Sign-ins that fail

A stage of a sign-in fails when its completion carries an error, and the
Facebook login also when the user cancels it.  Seven of the eight completions
stop there.  `loginButton(_:didCompleteWith:error:)` prints the error and goes
on to the Graph request, whatever the result was.
-/

namespace BandBPools.App

open BandBPools.Transition

/-- Whether a completion reports an error or a cancelled login. -/
def Completion.failed : Completion → Bool
  | .firebase _ reply => reply.error?.isSome
  | .facebookLogin _ reply =>
      reply.error?.isSome ||
        reply.result?.any LoginManagerLoginResult.isCancelled
  | .graph _ _ reply => reply.error?.isSome
  | .googleLogin reply => reply.error?.isSome

/-- Whether a completion is that of Facebook's login stage. -/
def Completion.isFacebookLogin : Completion → Bool
  | .facebookLogin _ _ => true
  | _ => false

/-- The user and the stack are what they were, no request has been sent, and
the sign-in is over. -/
structure LeavesNoTrace (signIn : SignInId) (before after : State) :
    Prop where
  currentUser : after.currentUser = before.currentUser
  stack : after.stack = before.stack
  requests : ∀ other request,
    after.at? other = some (.inFlight request) →
      before.at? other = some (.inFlight request)
  ended : after.at? signIn = none

theorem Completion.presenter?_of_failed
    {completion : Completion} (failed : completion.failed = true) :
    completion.presenter? = none := by
  cases completion with
  | firebase call reply =>
      cases reply with
      | failure error => rfl
      | success user => cases failed
  | facebookLogin self reply => rfl
  | graph self tokenString reply => rfl
  | googleLogin reply => rfl

/-- After a failure only the Facebook login carries its sign-in on. -/
theorem Completion.next?_of_failed
    {completion : Completion} (failed : completion.failed = true)
    (other : completion.isFacebookLogin = false) (state : State) :
    completion.next? state = none := by
  cases completion with
  | firebase call reply => rfl
  | facebookLogin self reply => cases other
  | graph self tokenString reply =>
      cases reply with
      | failure error => rfl
      | success result => cases failed
  | googleLogin reply =>
      cases reply with
      | failure error => rfl
      | success user => cases failed

theorem Completion.next?_of_isFacebookLogin
    {completion : Completion}
    (login : completion.isFacebookLogin = true) (state : State) :
    ∃ request, completion.next? state = some request := by
  cases completion with
  | facebookLogin self reply => exact ⟨_, rfl⟩
  | firebase call reply => cases login
  | graph self tokenString reply => cases login
  | googleLogin reply => cases login

theorem State.settle_leavesNoTrace
    (signIn : SignInId) (completion : Completion) (state : State) :
    LeavesNoTrace signIn state (state.settle signIn completion) where
  currentUser := rfl
  stack := rfl
  requests := fun _ _ found => (Change.at?_of_dequeue found).2
  ended := state.at?_dequeue_self signIn

/-- A completion that runs is the whole step. -/
theorem run_of_step_complete
    {signIn : SignInId} {completion : Completion}
    {state next : State} {events : List Event}
    (waiting : state.at? signIn = some (.waiting completion))
    (taken : step state (.complete signIn) = some (next, events)) :
    completion.run signIn (state.dequeue signIn) = (next, events) := by
  rw [step_complete (running_of_step taken) waiting] at taken
  exact Option.some.inj taken

/--
A failed stage leaves no trace exactly when it is not Facebook's login stage.
-/
theorem failure_leavesNoTrace_iff
    {signIn : SignInId} {completion : Completion}
    {state next : State} {events : List Event}
    (waiting : state.at? signIn = some (.waiting completion))
    (failed : completion.failed = true)
    (taken : step state (.complete signIn) = some (next, events)) :
    LeavesNoTrace signIn state next ↔
      completion.isFacebookLogin = false := by
  have ran := run_of_step_complete waiting taken
  cases login : completion.isFacebookLogin with
  | false =>
      rw [Completion.run_of_mute (completion.presenter?_of_failed failed)
        (completion.next?_of_failed failed login state)] at ran
      cases ran
      simpa using state.settle_leavesNoTrace signIn completion
  | true =>
      rcases completion.next?_of_isFacebookLogin login state with
        ⟨request, carries⟩
      rw [Completion.run_of_next carries] at ran
      cases ran
      constructor
      · intro traceless
        have ended := traceless.ended
        rw [State.at?_proceed_self] at ended
        cases ended
      · intro other
        cases other

/-- A guest sign-in that Firebase turns down. -/
theorem guestFailure_leavesNoTrace :
    ∃ state next events, Reachable state ∧
      step state (.complete 0) = some (next, events) ∧
      LeavesNoTrace 0 state next := by
  have passes : (exec step (fun _ _ => True) (launch none none).1
      [.home 0 .guest, .reply 0 (.firebase (.failure ⟨17020, 0⟩))]).any
        (fun turn => turn.1.terminated == false &&
          turn.1.at? 0 == some (.waiting
            (.firebase (.guest 0) (.failure ⟨17020, 0⟩)))) = true := by
    decide
  rcases launched_of_any passes with ⟨later, state, launched, checked⟩
  simp only [Bool.and_eq_true, beq_iff_eq] at checked
  have taken := step_complete checked.1 checked.2
  exact ⟨state, _, _, ⟨_, _, launched⟩, taken,
    (failure_leavesNoTrace_iff checked.2 rfl taken).mpr rfl⟩

/-- A Facebook login that the user cancels. -/
def LoginManagerLoginResult.cancelled : LoginManagerLoginResult where
  token := none
  isCancelled := true
  noToken := fun _ => rfl

/--
With the expired token of an earlier login at hand, a cancelled Facebook login
sends a Graph request with it.
-/
theorem not_every_failure_leavesNoTrace :
    ¬ ∀ state next events signIn completion, Reachable state →
      state.at? signIn = some (.waiting completion) →
      completion.failed = true →
      step state (.complete signIn) = some (next, events) →
      LeavesNoTrace signIn state next := by
  intro law
  have passes : (exec step (fun _ _ => True) (launch none (some ⟨"token", true⟩)).1
      [.home 0 .logIn, .login 0 (.facebook false),
        .reply 0 (.facebookLogin (.success .cancelled))]).any
        (fun turn => turn.1.terminated == false &&
          turn.1.at? 0 == some (.waiting
            (.facebookLogin 0 (.success .cancelled)))) = true := by
    decide
  rcases launched_of_any passes with ⟨later, state, launched, checked⟩
  simp only [Bool.and_eq_true, beq_iff_eq] at checked
  have taken := step_complete checked.1 checked.2
  have traceless := law _ _ _ _ _ ⟨_, _, launched⟩ checked.2 rfl taken
  have ended := traceless.ended
  rw [State.at?_proceed_self] at ended
  cases ended

end BandBPools.App
