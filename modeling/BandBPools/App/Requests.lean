import BandBPools.App.Reach
import BandBPools.Tables.Total

/-!
# What is asked of the providers

Only a credential that has passed the checks of a login screen is ever sent to
Firebase with an e-mail request, whatever is done in between.

A sign-in goes through three requests at most, so the replies and completions
of a run are bounded by its taps, and from every state in which the app runs
the sign-ins under way can be brought to an end without another tap.
-/

namespace BandBPools.App

open BandBPools.Credential
open BandBPools.Tables
open BandBPools.Transition

/-! ## Credentials -/

/-- A call that sends an e-mail address sends a credential. -/
def FirebaseCall.Credentialed : FirebaseCall → Prop
  | .signup _ email password | .login _ email password =>
      IsCredential email password
  | .guest _ | .facebook _ _ | .google _ _ => True

/-- The call of Firebase that a request makes. -/
def Request.call? : Request → Option FirebaseCall
  | .firebase call => some call
  | .facebookLogin _ | .graph _ _ | .googleLogin => none

/-- The call of Firebase that a sign-in is at. -/
def Pending.call? : Pending → Option FirebaseCall
  | .inFlight request => request.call?
  | .waiting (.firebase call _) => some call
  | .waiting (.facebookLogin _ _) | .waiting (.graph _ _ _)
  | .waiting (.googleLogin _) => none

/-- Every e-mail request under way carries a credential. -/
def State.Credentialed (state : State) : Prop :=
  state.AllPending fun pending =>
    ∀ call, pending.call? = some call → call.Credentialed

/-- A submission that sends a request sends a credential. -/
theorem credentialed_of_effects {effects : List Effect}
    (all : ∀ effect ∈ effects, effect.Credentialed) {self : HomeId}
    {request : Request}
    (sends : effects.findSome? (Effect.request? self) = some request)
    {call : FirebaseCall} (called : request.call? = some call) :
    call.Credentialed := by
  rcases List.exists_of_findSome?_eq_some sends with
    ⟨effect, member, asked⟩
  have credentialed := all effect member
  cases effect with
  | present alert => cases asked
  | createUser email password =>
      cases asked
      cases called
      exact credentialed
  | signIn email password =>
      cases asked
      cases called
      exact credentialed

/-- A tap that calls Firebase with an address calls with a credential. -/
theorem credentialed_of_request {state : State} {action : Action}
    {request : Request} (sends : action.request? state = some request)
    {call : FirebaseCall} (called : request.call? = some call) :
    call.Credentialed := by
  unfold Action.request? at sends
  split at sends
  · cases sends
    cases called
    exact True.intro
  · exact credentialed_of_effects (handleSignup_credentialed _) sends
      called
  · exact credentialed_of_effects (handleLogin_credentialed _) sends
      called
  · split at sends <;> cases sends
    cases called
  · cases sends
    cases called
  · cases sends

/-- A sign-in is carried on to Firebase without an address. -/
theorem Completion.credentialed_of_next {completion : Completion}
    {state : State} {request : Request}
    (carries : completion.next? state = some request)
    {call : FirebaseCall} (called : request.call? = some call) :
    call.Credentialed := by
  unfold next? at carries
  split at carries
  · cases carries
    cases called
  · rcases Option.map_eq_some_iff.mp carries with ⟨token, _, rfl⟩
    cases called
    exact True.intro
  · cases carries
    cases called
    exact True.intro
  · cases carries

/-- A completion is that of the call that was answered. -/
theorem Request.call?_of_answered {request : Request} {answer : Answer}
    {completion : Completion}
    (answers : request.answered answer = some completion) :
    (Pending.waiting completion).call? = request.call? := by
  unfold answered at answers
  split at answers <;> cases answers <;> rfl

theorem Change.credentialed {state next : State} {action : Action}
    {events : List Event} (credentialed : state.Credentialed)
    (change : Change state action next events) :
    next.Credentialed := by
  intro signIn pending found call called
  cases change.origin found with
  | kept found => exact credentialed _ _ found _ called
  | started sends shown new => exact credentialed_of_request sends called
  | answered replies inFlight answers user =>
      rw [Request.call?_of_answered answers] at called
      exact credentialed _ _ inFlight _ called
  | carried completes waiting carries =>
      exact Completion.credentialed_of_next carries called

theorem launch_pending (user : Option User)
    (token : Option AccessToken) :
    (launch user token).1.pending = ∅ := by
  cases user with
  | none => rfl
  | some user =>
      rw [launch_of_signedIn]
      rfl

theorem launch_credentialed (user : Option User)
    (token : Option AccessToken) :
    (launch user token).1.Credentialed := by
  intro signIn pending found
  rw [State.at?, launch_pending, AList.lookup_empty] at found
  cases found

/--
In every reachable state every sign-up and log-in call of Firebase that is
under way sends an address and a password that have passed the checks of the
login screen.
-/
theorem sends_credentials {state : State} (reachable : Reachable state)
    {signIn : SignInId} {pending : Pending} {call : FirebaseCall}
    (underWay : state.at? signIn = some pending)
    (called : pending.call? = some call) :
    call.Credentialed := by
  rcases reachable with ⟨actions, events, launched⟩
  have holds : WellFormed state ∧ state.Credentialed := by
    apply LaunchedUnder.changeInvariant _ _ launched
    · intro state action next observed _ credentialed _ change
      exact change.credentialed credentialed
    · exact launch_credentialed
  exact holds.2 signIn pending underWay call called

/-- A log-in with an address of the expected form. -/
theorem sends_credentials_of_logIn :
    ∃ state email password, Reachable state ∧
      state.at? 0 =
        some (.inFlight (.firebase (.login 0 email password))) ∧
      FirebaseCall.Credentialed (.login 0 email password) := by
  have passes : (exec step (fun _ _ => True) (launch none none).1
      [.home 0 .logIn,
        .login 0 (.submitLogin
          (typed [] (.ofLiteral "a@b.co") (.ofLiteral "secret")))]).any
        (fun turn => decide (turn.1.at? 0 = some (.inFlight (.firebase
          (.login 0 (.ofLiteral "a@b.co") (.ofLiteral "secret")))))) =
      true := by
    decide +kernel
  rcases launched_of_any passes with ⟨later, state, launched, checked⟩
  have underWay := of_decide_eq_true checked
  have reachable : Reachable state := ⟨_, _, launched⟩
  exact ⟨state, _, _, reachable, underWay,
    sends_credentials reachable underWay rfl⟩

/-! ## The work that is left -/

/-- The replies and completions that a request may still take. -/
def Request.work : Request → Nat
  | .firebase _ => 2
  | .graph _ _ => 4
  | .googleLogin => 4
  | .facebookLogin _ => 6

/-- The completions, with the replies between them, that are left once a
request has been answered. -/
def Completion.work : Completion → Nat
  | .firebase _ _ => 1
  | .graph _ _ _ => 3
  | .googleLogin _ => 3
  | .facebookLogin _ _ => 5

def Pending.work : Pending → Nat
  | .inFlight request => request.work
  | .waiting completion => completion.work

/-- The replies and completions that the sign-ins under way may still take. -/
def State.work (state : State) : Nat :=
  total Pending.work state.pending

/-- A step that takes a sign-in further. -/
def Action.serves (action : Action) : Bool :=
  action.signIn?.isSome

/-- A tap on one of the buttons that sign in. -/
def Action.asks : Action → Bool
  | .home _ .guest => true
  | .login _ (.submitSignup _) | .login _ (.submitLogin _) => true
  | .login _ (.facebook _) | .login _ .google => true
  | _ => false

theorem Request.work_le (request : Request) : request.work ≤ 6 := by
  cases request <;> simp [work]

theorem Completion.work_pos (completion : Completion) :
    0 < completion.work := by
  cases completion <;> simp [work]

/-- An answer takes one step off the work. -/
theorem Request.work_answered {request : Request} {answer : Answer}
    {completion : Completion}
    (answers : request.answered answer = some completion) :
    completion.work + 1 = request.work := by
  unfold answered at answers
  split at answers <;> cases answers <;> rfl

/-- And so does a completion that sends the next request. -/
theorem Completion.work_next {completion : Completion} {state : State}
    {request : Request} (carries : completion.next? state = some request) :
    request.work + 1 = completion.work := by
  unfold next? at carries
  split at carries
  · cases carries
    rfl
  · rcases Option.map_eq_some_iff.mp carries with ⟨token, _, rfl⟩
    rfl
  · cases carries
    rfl
  · cases carries

theorem Action.asks_of_request {action : Action} {state : State}
    {request : Request} (sends : action.request? state = some request) :
    action.serves = false ∧ action.asks = true := by
  unfold request? at sends
  split at sends <;> first | exact ⟨rfl, rfl⟩ | cases sends

namespace State

variable {state : State} {signIn : SignInId}

theorem work_start_le (request : Request) (state : State) :
    (state.start request).work ≤ state.work + 6 := by
  have inserted := total_insert_le Pending.work state.pending
    state.nextSignIn (.inFlight request)
  have bounded := request.work_le
  simp only [Pending.work] at inserted
  simp only [work, start]
  omega

/-- What a sign-in had left goes with it. -/
theorem work_dequeue {pending : Pending}
    (found : state.at? signIn = some pending) :
    (state.dequeue signIn).work + pending.work = state.work :=
  total_erase Pending.work found

theorem work_enqueue {request : Request}
    (inFlight : state.at? signIn = some (.inFlight request))
    (completion : Completion) :
    (enqueue signIn completion state).work + request.work =
      state.work + completion.work :=
  total_insert Pending.work inFlight (.waiting completion)

theorem work_proceed_le (signIn : SignInId) (request : Request)
    (state : State) :
    (state.proceed signIn request).work ≤ state.work + request.work :=
  total_insert_le Pending.work state.pending signIn (.inFlight request)

end State

/-- A reply or a completion takes work off, and only a tap adds any. -/
theorem Change.work {state next : State} {action : Action}
    {events : List Event} (change : Change state action next events) :
    next.work + action.serves.toNat ≤
      state.work + 6 * action.asks.toNat := by
  have same : action.serves = false →
      next.pending = state.pending →
      next.work + action.serves.toNat ≤
        state.work + 6 * action.asks.toNat := by
    intro idle kept
    rw [idle, State.work, State.work, kept]
    exact Nat.le_add_right _ _
  have ends : ∀ signIn completion, action.asks = false →
      action.serves = true →
      state.at? signIn = some (.waiting completion) →
      next.pending = state.pending.erase signIn →
      next.work + action.serves.toNat ≤
        state.work + 6 * action.asks.toNat := by
    intro signIn completion unasked serves waiting left
    have taken := State.work_dequeue waiting
    have positive := completion.work_pos
    have rest : next.work = (state.dequeue signIn).work := by
      rw [State.work, left]
      rfl
    rw [rest, unasked, serves]
    simp only [Pending.work] at taken
    simp only [Bool.toNat_true, Bool.toNat_false]
    omega
  cases change with
  | stays token alerts tapped modeless requestless failed =>
      apply same
      · rw [Action.serves, tapped]
        rfl
      · rfl
  | @starts _ request sends shown =>
      have started := State.work_start_le request state
      rw [(Action.asks_of_request sends).1,
        (Action.asks_of_request sends).2]
      exact started
  | opens mode top absent => exact same rfl rfl
  | returns top signedOut => exact same rfl rfl
  | bounces top signedIn => exact same rfl rfl
  | logsOut top succeeds => exact same rfl rfl
  | @replies signIn answer request completion inFlight answers =>
      have answered := Request.work_answered answers
      have moved := State.work_enqueue inFlight completion
      simp only [Action.serves, Action.signIn?, Action.asks,
        Option.isSome_some, Bool.toNat_true, Bool.toNat_false]
      omega
  | @proceeds signIn completion request waiting carries =>
      have less := Completion.work_next carries
      have taken := State.work_dequeue waiting
      have sent := State.work_proceed_le signIn request
        (state.settle signIn completion)
      have rest : (state.settle signIn completion).work =
          (state.dequeue signIn).work := rfl
      simp only [Pending.work] at taken
      simp only [Action.serves, Action.signIn?, Action.asks,
        Option.isSome_some, Bool.toNat_true, Bool.toNat_false]
      omega
  | settles waiting last absent => exact ends _ _ rfl rfl waiting rfl
  | presents waiting presenter => exact ends _ _ rfl rfl waiting rfl
  | shows completed waiting presenter member absent =>
      exact ends _ _ rfl rfl waiting rfl
  | raises completed waiting presenter member repeated =>
      exact ends _ _ rfl rfl waiting rfl

theorem countP_snoc {Item : Type} (counts : Item → Bool)
    (past : List Item) (last : Item) :
    (past ++ [last]).countP counts =
      past.countP counts + (counts last).toNat := by
  rw [List.countP_append, List.countP_singleton]
  cases counts last <;> rfl

/--
In every run of the app the replies and completions so far, together with
those that the sign-ins under way may still take, are at most six for each tap
on a button that signs in.
-/
theorem work_le_asks {actions : List Action} {events : List Event}
    {state : State} (launched : Launched actions events state) :
    actions.countP Action.serves + state.work ≤
      6 * actions.countP Action.asks := by
  have holds : WellFormed state ∧
      actions.countP Action.serves + state.work ≤
        6 * actions.countP Action.asks := by
    apply LaunchedUnder.changeHistory _ _ launched
    · intro past seen state action next observed _ bounded _ change
      have worked := change.work
      rw [countP_snoc, countP_snoc]
      omega
    · intro user token
      rw [State.work, launch_pending]
      exact Nat.le_refl _
  exact holds.2

/-- A Facebook login takes all six. -/
theorem work_le_asks_of_facebook :
    ∃ actions events state, Launched actions events state ∧
      actions.countP Action.serves = 6 ∧ actions.countP Action.asks = 1 ∧
      actions.countP Action.serves + state.work ≤
        6 * actions.countP Action.asks := by
  have passes : (exec step (fun _ _ => True) (launch none none).1
      [.home 0 .logIn, .login 0 (.facebook false),
        .reply 0 (.facebookLogin (.success
          ⟨some ⟨"token", false⟩, false, Bool.noConfusion⟩)),
        .complete 0, .reply 0 (.graph (.success ())), .complete 0,
        .reply 0 (.firebase (.success ⟨"user", false⟩)),
        .complete 0]).any
        (fun turn => decide turn.1.Quiet) = true := by
    decide
  rcases launched_of_any passes with ⟨later, state, launched, checked⟩
  exact ⟨_, _, state, launched, rfl, rfl, work_le_asks launched⟩

/-! ## The end of the sign-ins -/

/-- The answer with which a provider turns a request down. -/
def Request.refusal (error : NSError) : Request → Answer
  | .firebase _ => .firebase (.failure error)
  | .facebookLogin _ => .facebookLogin (.failure error)
  | .graph _ _ => .graph (.failure error)
  | .googleLogin => .googleLogin (.failure error)

theorem Request.answered_refusal (request : Request) (error : NSError) :
    ∃ completion,
      request.answered (request.refusal error) = some completion := by
  cases request <;> exact ⟨_, rfl⟩

/-- As long as the app runs, every sign-in under way can be taken
further. -/
theorem exists_serving_step {state : State}
    (running : state.terminated = false) {signIn : SignInId}
    {pending : Pending} (underWay : state.at? signIn = some pending) :
    ∃ action turn, action.signIn? = some signIn ∧
      step state action = some turn := by
  cases pending with
  | inFlight request =>
      rcases request.answered_refusal ⟨0, 0⟩ with ⟨completion, answers⟩
      exact ⟨_, _, rfl, step_reply running underWay answers⟩
  | waiting completion =>
      exact ⟨_, _, rfl, step_complete running underWay⟩

/-- A run of replies and completions is no longer than the work there is. -/
theorem length_le_work {state next : State} {actions : List Action}
    {events : List Event} (start : WellFormed state)
    (served : RunUnder step (fun _ action => action.serves = true) state
      actions events next) :
    WellFormed next ∧ actions.length + next.work ≤ state.work := by
  apply RunUnder.changeHistory _ start _ served
  · intro past seen reached action after observed _ bounded serves change
    have worked := change.work
    have unasked : action.asks = false := by
      cases action <;> first | rfl | cases serves
    rw [serves, unasked] at worked
    simp only [Bool.toNat_true, Bool.toNat_false] at worked
    rw [List.length_append, List.length_singleton]
    omega
  · simp

/-- Where no reply and no completion is possible, nothing is under way. -/
theorem quiet_of_stuck {state : State}
    (stuck : ∀ action, action.serves = true → step state action = none) :
    state.Quiet ∨ state.terminated = true := by
  cases ended : state.terminated with
  | true => exact Or.inr rfl
  | false =>
      apply Or.inl
      intro signIn
      cases underWay : state.at? signIn with
      | none => rfl
      | some pending =>
          rcases exists_serving_step ended underWay with
            ⟨action, turn, serves, taken⟩
          have none := stuck action (by rw [Action.serves, serves]; rfl)
          rw [none] at taken
          cases taken

/--
From every reachable state the providers and the main queue come to an end by
themselves, in whatever order they take the sign-ins that are under way: a run
of replies and completions is no longer than the work that was left, and when
none of them is possible any more, no sign-in is under way or an exception has
ended the app.
-/
theorem signIns_end {state next : State} {actions : List Action}
    {events : List Event} (reachable : Reachable state)
    (served : RunUnder step (fun _ action => action.serves = true) state
      actions events next) :
    actions.length + next.work ≤ state.work ∧
      ((∀ action, action.serves = true → step next action = none) →
        next.Quiet ∨ next.terminated = true) :=
  ⟨(length_le_work reachable.wellFormed served).2, quiet_of_stuck⟩

/-- A guest sign-in after its tap. -/
theorem signIns_end_of_guest :
    ∃ state events next, Reachable state ∧ state.work = 2 ∧
      RunUnder step (fun _ action => action.serves = true) state
        [.reply 0 (.firebase (.success ⟨"guest", true⟩)), .complete 0]
        events next ∧
      2 + next.work ≤ state.work ∧
      ((∀ action, action.serves = true → step next action = none) →
        next.Quiet ∨ next.terminated = true) := by
  have tapped := Reachable.step (reachable_launch none none)
    (rfl : step _ (.home 0 .guest) = some _)
  have passes : (exec step (fun _ action => action.serves = true)
      (HomeController.tapped 0 .guest (launch none none).1).1
      [.reply 0 (.firebase (.success ⟨"guest", true⟩)), .complete 0]).any
        (fun _ => true) = true := by
    decide
  rcases run_of_any passes with ⟨events, next, served, -⟩
  exact ⟨_, events, next, tapped, rfl, served, signIns_end tapped served⟩

end BandBPools.App
