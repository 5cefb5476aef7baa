import BandBPools.App.Reach
import Mathlib.Tactic.MkIffOfInductiveProp

/-!
# How the stack grows

Nothing in the app pops a controller but Back on a login screen.  A logout
pushes a new home screen on the menu it leaves, so the controllers of every
finished session stay in the stack.  The stack is counted by home screens and
menus: there is one home screen for every logout and the first, and at least
one menu between any two of them.
-/

namespace BandBPools.App

open BandBPools.Transition

/-! ## What is counted -/

/-- A push by `handleLogout()`, which is a logout that succeeded. -/
def Event.isLogout : Event → Bool
  | .pushed push => push.site == .handleLogout
  | _ => false

/-- A completion being run. -/
def Action.isCompletion : Action → Bool
  | .complete _ => true
  | _ => false

def logouts (events : List Event) : Nat :=
  events.countP Event.isLogout

def completions (actions : List Action) : Nat :=
  actions.countP Action.isCompletion

/-- The number of home screens in a stack. -/
def homes (stack : List Controller) : Nat :=
  stack.countP Controller.isHome

/-- The number of menus in a stack. -/
def menus (stack : List Controller) : Nat :=
  stack.countP Controller.isMenu

@[simp]
theorem homes_cons (top : Controller) (below : List Controller) :
    homes (top :: below) = homes below + top.isHome.toNat := by
  rw [homes, List.countP_cons]
  cases top.isHome <;> rfl

@[simp]
theorem menus_cons (top : Controller) (below : List Controller) :
    menus (top :: below) = menus below + top.isMenu.toNat := by
  rw [menus, List.countP_cons]
  cases top.isMenu <;> rfl

theorem homes_add_menus_le (stack : List Controller) :
    homes stack + menus stack ≤ stack.length := by
  induction stack with
  | nil => exact Nat.le_refl _
  | cons top below induction =>
      cases top <;> simp <;> omega

/-- One if the top of a stack is of a kind, else nothing. -/
def topIs (kind : Controller → Bool) (stack : List Controller) : Nat :=
  (stack.head?.any kind).toNat

@[simp]
theorem topIs_cons (kind : Controller → Bool) (top : Controller)
    (below : List Controller) :
    topIs kind (top :: below) = (kind top).toNat := rfl

/-! ## The shape of the stack -/

/--
The shape of a stack after some logouts and completions.  Every home screen
but the first lies on a menu, and a home screen on top still has room for one
login screen.
-/
@[mk_iff]
structure Growth (logouts completions : Nat) (stack : List Controller) :
    Prop where
  homes : homes stack = logouts + 1
  paired : App.homes stack + topIs Controller.isMenu stack ≤
    menus stack + 1
  bounded : stack.length + topIs Controller.isHome stack ≤
    2 * App.homes stack + completions

namespace Growth

variable {logouts completions : Nat} {below stack : List Controller}
variable {self other : HomeId} {menu : MenuId}

theorem complete (growth : Growth logouts completions stack) :
    Growth logouts (completions + 1) stack where
  homes := growth.homes
  paired := growth.paired
  bounded := Nat.le_succ_of_le growth.bounded

theorem opens
    (growth : Growth logouts completions (.home self :: below)) :
    Growth logouts completions (.login self :: .home self :: below) := by
  simp [growth_iff] at growth ⊢
  omega

theorem returns
    (growth : Growth logouts completions
      (.login self :: .home self :: below)) :
    Growth logouts completions (.home self :: below) := by
  simp [growth_iff] at growth ⊢
  omega

theorem bounces
    (growth : Growth logouts completions
      (.login self :: .home self :: below)) :
    Growth logouts completions (.menu menu :: .home self :: below) := by
  simp [growth_iff] at growth ⊢
  omega

theorem logsOut
    (growth : Growth logouts completions (.menu menu :: below)) :
    Growth (logouts + 1) completions
      (.home self :: .menu menu :: below) := by
  simp [growth_iff] at growth ⊢
  omega

theorem presents (growth : Growth logouts completions stack) :
    Growth logouts (completions + 1) (.menu menu :: stack) := by
  simp [growth_iff] at growth ⊢
  omega

/-- A stack of this shape holds two controllers for every session that has
ended, and no more than one extra controller for every completion. -/
theorem length_bounds (growth : Growth logouts completions stack) :
    2 * logouts + 1 ≤ stack.length ∧
      stack.length ≤ 2 * (logouts + 1) + completions := by
  have counted := homes_add_menus_le stack
  have homes := growth.homes
  have paired := growth.paired
  have bounded := growth.bounded
  omega

end Growth

theorem logouts_append (seen observed : List Event) :
    logouts (seen ++ observed) = logouts seen + logouts observed :=
  List.countP_append

theorem completions_append (past later : List Action) :
    completions (past ++ later) = completions past + completions later :=
  List.countP_append

/-- Alerts are no logouts. -/
theorem logouts_presented (alerts : List Credential.Alert) :
    logouts (List.map .presented alerts) = 0 := by
  rw [logouts, List.countP_map, List.countP_eq_zero]
  intro alert member isLogout
  cases isLogout

/-- A menu pushed by a completion is no logout. -/
theorem logouts_pushed {push : Push} (other : push.site ≠ .handleLogout) :
    logouts [.pushed push] = 0 := by
  rw [logouts, List.countP_eq_zero]
  intro event member isLogout
  rw [List.mem_singleton.mp member, Event.isLogout, beq_iff_eq]
    at isLogout
  exact other isLogout

/-- A tap runs no completion. -/
theorem completions_tap
    {action : Action} (tapped : action.signIn? = none) :
    completions [action] = 0 := by
  cases action with
  | complete signIn => cases tapped
  | _ => rfl

theorem Change.growth
    {state next : State} {action : Action} {observed : List Event}
    {past : List Action} {seen : List Event}
    (growth : Growth (logouts seen) (completions past) state.stack)
    (change : Change state action next observed) :
    Growth (logouts (seen ++ observed)) (completions (past ++ [action]))
      next.stack := by
  rw [logouts_append, completions_append]
  cases change with
  | stays token alerts tapped modeless requestless failed =>
      rw [logouts_presented, completions_tap tapped]
      exact growth
  | starts sends shown =>
      rw [completions_tap (Action.modeless_of_request sends).2.1]
      exact growth
  | opens mode top absent =>
      rw [top] at growth ⊢
      exact growth.opens
  | returns top signedOut =>
      rw [top] at growth
      exact growth.returns
  | bounces top signedIn =>
      rw [top] at growth
      exact growth.bounces
  | logsOut top succeeds =>
      rw [top] at growth ⊢
      exact growth.logsOut
  | replies inFlight answered => exact growth
  | proceeds waiting carries => exact growth.complete
  | settles waiting last absent => exact growth.complete
  | presents waiting presenter => exact growth.presents
  | shows completed waiting presenter member absent =>
      rw [logouts_pushed completed]
      exact growth.presents
  | raises completed waiting presenter member repeated =>
      rw [logouts_pushed completed]
      exact growth.complete

theorem launch_growth (user : Option User) (token : Option AccessToken) :
    Growth (logouts (launch user token).2) (completions [])
      (launch user token).1.stack := by
  cases user with
  | none => exact ⟨rfl, Nat.le_refl 1, Nat.le_refl 2⟩
  | some user => exact ⟨rfl, Nat.le_refl 2, Nat.le_refl 2⟩

theorem LaunchedUnder.growth
    {condition : State → Action → Prop} {actions : List Action}
    {events : List Event} {state : State}
    (launched : LaunchedUnder condition actions events state) :
    Growth (logouts events) (completions actions) state.stack := by
  have grown : WellFormed state ∧
      Growth (logouts events) (completions actions) state.stack := by
    apply LaunchedUnder.changeHistory _ _ launched
    · intro past seen state action next observed _ growth _ change
      exact change.growth growth
    · exact launch_growth
  exact grown.2

/-! ## Sessions pile up -/

/--
A stack holds two controllers for every logout and at most one more for every
completion, and a logout leaves the controllers of the session it ends below
the new home screen.
-/
theorem stack_grows_with_logouts
    {actions : List Action} {events : List Event} {state : State}
    (launched : Launched actions events state) :
    2 * logouts events + 1 ≤ state.stack.length ∧
      state.stack.length ≤
        2 * (logouts events + 1) + completions actions ∧
      ∀ action next observed, action.signsOut state = true →
        step state action = some (next, observed) →
        next.stack = .home state.nextHome :: state.stack := by
  have bounds := launched.growth.length_bounds
  refine ⟨bounds.1, bounds.2, ?_⟩
  intro action next observed succeeds taken
  have change :=
    Change.of_step (Reachable.wellFormed ⟨_, _, launched⟩) taken
  rw [(change.eq_logOut succeeds).2]

/-- A guest session and its logout. -/
theorem stack_grows_with_logouts_once :
    ∃ later state,
      Launched
          [.home 0 .guest, .reply 0 (.firebase (.success ⟨"guest", true⟩)),
            .complete 0, .logout (.fresh 0) none]
          ((launch none none).2 ++ later) state ∧
        3 ≤ state.stack.length := by
  have passes : (exec step (fun _ _ => True) (launch none none).1
      [.home 0 .guest, .reply 0 (.firebase (.success ⟨"guest", true⟩)),
        .complete 0, .logout (.fresh 0) none]).any
        (fun turn => logouts turn.2 == 1) = true := by
    decide
  rcases launched_of_any passes with ⟨later, state, launched, checked⟩
  have counted : logouts ((launch none none).2 ++ later) = 1 :=
    eq_of_beq checked
  have grown := (stack_grows_with_logouts launched).1
  rw [counted] at grown
  exact ⟨later, state, launched, grown⟩

/-- A guest session leads from one home screen on top to another, two
controllers higher. -/
theorem guestSession {state : State} (reachable : Reachable state)
    (running : state.terminated = false)
    {self : HomeId} (top : state.top? = some (.home self)) :
    ∃ next, Reachable next ∧ next.terminated = false ∧
      next.top? = some (.home state.nextHome) ∧
      next.stack.length = state.stack.length + 2 := by
  have wellFormed := reachable.wellFormed
  let call : FirebaseCall := .guest self
  let user : User := ⟨"guest", true⟩
  let sent := state.start (.firebase call)
  let signedIn :=
    enqueue state.nextSignIn (.firebase call (.success user)) sent
  let presented : State :=
    { signedIn.dequeue state.nextSignIn with
      stack := .menu (.fresh state.nextMenu) :: state.stack
      nextMenu := state.nextMenu + 1 }
  have tapped : step state (.home self .guest) = some (silent sent) :=
    step_home running top .guest
  have sentRuns : sent.terminated = false := running
  have inFlight :
      sent.at? state.nextSignIn = some (.inFlight (.firebase call)) :=
    State.at?_start_self _ state
  have answered : step sent
      (.reply state.nextSignIn (.firebase (.success user))) =
        some (silent signedIn) :=
    step_reply sentRuns inFlight rfl
  have signedInRuns : signedIn.terminated = false := running
  have waiting : signedIn.at? state.nextSignIn =
      some (.waiting (.firebase call (.success user))) :=
    AList.lookup_insert _
  have presents : (Completion.firebase call (.success user)).run
      state.nextSignIn (signedIn.dequeue state.nextSignIn) =
        (presented, [.pushed ⟨.signInAnonymously,
          .menu (.fresh state.nextMenu), state.stack⟩]) :=
    pushNewMenu_of_mem (signedIn.dequeue state.nextSignIn)
      (List.mem_of_head? top) wellFormed.newMenu_notMem _
  have completed := step_complete signedInRuns waiting
  rw [presents] at completed
  have presentedRuns : presented.terminated = false := running
  have shown :
      presented.top? = some (.menu (.fresh state.nextMenu)) := rfl
  have loggedOut := step_logout presentedRuns shown none
  have absent : .home presented.nextHome ∉ presented.stack := by
    intro member
    exact wellFormed.newHome_notMem
      (List.mem_of_ne_of_mem Controller.noConfusion member)
  rw [MenuCollectionVC.handleLogout_of_ok List.mem_cons_self absent rfl]
    at loggedOut
  exact ⟨_, (((reachable.step tapped).step answered).step
    completed).step loggedOut, running, rfl, rfl⟩

/-- As many sessions as one likes can be had one after the other. -/
theorem guestSessions (count : Nat) :
    ∃ state self, Reachable state ∧ state.terminated = false ∧
      state.top? = some (.home self) ∧
      state.stack.length = 2 * count + 1 := by
  induction count with
  | zero =>
      exact ⟨(launch none none).1, 0, reachable_launch none none,
        rfl, rfl, rfl⟩
  | succ count induction =>
      rcases induction with ⟨state, self, reachable, running, top, size⟩
      rcases guestSession reachable running top with
        ⟨next, reached, runs, shown, grown⟩
      refine ⟨next, _, reached, runs, shown, ?_⟩
      rw [grown, size]
      omega

/-- No constant bounds the stack. -/
theorem stack_unbounded :
    ¬ ∃ bound, ∀ state, Reachable state →
      state.stack.length ≤ bound := by
  rintro ⟨bound, bounded⟩
  rcases guestSessions bound with ⟨state, _, reachable, _, _, size⟩
  have small := bounded state reachable
  omega

end BandBPools.App
