import BandBPools.App.Reach

/-!
# Which completions can still present the menu

A completion pushes through the navigation controller of the screen it belongs
to, so it depends on what the stack is by then.  A home screen never leaves
the stack.  A login screen comes back only through its home screen: once it is
off the stack and its home screen is not on top, it is buried for good.
-/

namespace BandBPools.App

/-! ## Presenting a menu -/

/-- A push of the menu through this controller would succeed. -/
def Controller.Presents (stack : List Controller) : Controller → Prop
  | .home self => .home self ∈ stack
  | .login self => .login self ∈ stack ∧ .menu (.stored self) ∉ stack
  | .menu _ => False

theorem Controller.Presents.mem
    {stack : List Controller} {controller : Controller}
    (presents : controller.Presents stack) : controller ∈ stack := by
  cases controller with
  | home self => exact presents
  | login self => exact presents.1
  | menu id => exact presents.elim

instance (stack : List Controller) :
    DecidablePred (Controller.Presents stack)
  | .home self => inferInstanceAs (Decidable (.home self ∈ stack))
  | .login self =>
      inferInstanceAs (Decidable
        (.login self ∈ stack ∧ .menu (.stored self) ∉ stack))
  | .menu _ => inferInstanceAs (Decidable False)

/-- Running the completion on this stack would present a menu. -/
def Completion.Presents (stack : List Controller)
    (completion : Completion) : Prop :=
  ∃ presenter ∈ completion.presenter?, presenter.Presents stack

instance (stack : List Controller) :
    DecidablePred (Completion.Presents stack) := fun completion =>
  inferInstanceAs (Decidable (∃ presenter ∈ completion.presenter?,
    Controller.Presents stack presenter))

/-- A completion is waiting that would present a menu. -/
def Pending.Presents (stack : List Controller) : Pending → Prop
  | .inFlight _ => False
  | .waiting completion => completion.Presents stack

instance (stack : List Controller) :
    DecidablePred (Pending.Presents stack)
  | .inFlight _ => inferInstanceAs (Decidable False)
  | .waiting completion =>
      inferInstanceAs (Decidable (completion.Presents stack))

/-- The menu is presented from a home screen or from a login screen. -/
theorem Completion.presenter?_cases
    {completion : Completion} {presenter : Controller}
    (presents : completion.presenter? = some presenter) :
    ∃ self, completion.owner? = some self ∧
      (presenter = .home self ∨ presenter = .login self) := by
  rcases Completion.success_of_presenter presents with
    ⟨call, user, rfl, called⟩
  cases call with
  | guest self =>
      cases called
      exact ⟨self, rfl, Or.inl rfl⟩
  | signup self email password =>
      cases called
      exact ⟨self, rfl, Or.inr rfl⟩
  | login self email password =>
      cases called
      exact ⟨self, rfl, Or.inr rfl⟩
  | facebook self tokenString =>
      cases called
      exact ⟨self, rfl, Or.inr rfl⟩
  | google idToken accessToken => cases called

/-- The home screen of a guest sign-in is in the stack. -/
theorem WellFormed.presenter_mem
    {state : State} (wellFormed : WellFormed state)
    {signIn : SignInId} {completion : Completion} {self : HomeId}
    (waiting : state.at? signIn = some (.waiting completion))
    (presents : completion.presenter? = some (.home self)) :
    .home self ∈ state.stack := by
  rcases completion.presenter?_cases presents with
    ⟨owner, owned, equal | equal⟩
  · cases equal
    exact wellFormed.owners _ _ _ waiting owned
  · cases equal

/-- A completion whose controller is in the stack pushes a menu. -/
theorem step_of_presenter
    {state : State} (wellFormed : WellFormed state)
    (running : state.terminated = false)
    {signIn : SignInId} {completion : Completion}
    {presenter : Controller}
    (waiting : state.at? signIn = some (.waiting completion))
    (presents : completion.presenter? = some presenter)
    (member : presenter ∈ state.stack) :
    ∃ site menu after,
      step state (.complete signIn) =
          some (after, [.pushed ⟨site, .menu menu, state.stack⟩]) ∧
        after.currentUser = state.currentUser ∧
        (presenter.Presents state.stack →
          after.stack = .menu menu :: state.stack) := by
  have taken := step_complete running waiting
  rcases turn : completion.run signIn (state.dequeue signIn) with
    ⟨after, observed⟩
  rw [turn] at taken
  rw [taken]
  cases Change.of_step wellFormed taken with
  | stays token alerts tapped modeless requestless failed => cases tapped
  | starts sends shown => cases sends
  | proceeds found carries =>
      rw [waiting] at found
      cases found
      rcases Completion.success_of_presenter presents with
        ⟨call, user, rfl, _⟩
      cases carries
  | settles found last absent =>
      rw [waiting] at found
      cases found
      exact absurd member (absent _ presents)
  | presents found other => exact ⟨_, _, _, rfl, rfl, fun _ => rfl⟩
  | shows completed found other present absent =>
      exact ⟨_, _, _, rfl, rfl, fun _ => rfl⟩
  | raises completed found other present repeated =>
      rw [waiting] at found
      cases found
      rw [other] at presents
      cases presents
      exact ⟨_, _, _, rfl, rfl, fun shows => absurd repeated shows.2⟩

/-- A new home screen does not come in the way of presenting a menu. -/
theorem Completion.Presents.push_home
    {completion : Completion} {stack : List Controller} {self : HomeId}
    (presents : completion.Presents stack) :
    completion.Presents (.home self :: stack) := by
  rcases presents with ⟨presenter, presents, shows⟩
  refine ⟨presenter, presents, ?_⟩
  cases presenter with
  | home owner => exact List.mem_cons_of_mem _ shows
  | login owner =>
      refine ⟨List.mem_cons_of_mem _ shows.1, fun member => shows.2 ?_⟩
      exact List.mem_of_ne_of_mem Controller.noConfusion member
  | menu id => exact shows

/-! ## Completions that end their sign-in -/

/-- With some Facebook token at hand the completion would send a request. -/
def Completion.mayProceed : Completion → Bool
  | .facebookLogin _ _ => true
  | .graph _ _ (.success _) => true
  | .googleLogin (.success ⟨some _, some _⟩) => true
  | _ => false

theorem Completion.mayProceed_of_next
    {completion : Completion} {state : State} {request : Request}
    (carries : completion.next? state = some request) :
    completion.mayProceed = true := by
  cases completion with
  | firebase call reply => cases carries
  | facebookLogin self reply => rfl
  | graph self tokenString reply =>
      cases reply with
      | failure error => cases carries
      | success result => rfl
  | googleLogin reply =>
      cases reply with
      | failure error => cases carries
      | success user =>
          rcases user with ⟨_ | idToken, _ | accessToken⟩ <;>
            cases carries
          rfl

/-! ## Buried login screens -/

/-- A login screen that can never come back to the stack. -/
structure Buried (owner : HomeId) (state : State) : Prop where
  absent : .login owner ∉ state.stack
  hidden : state.top? ≠ some (.home owner)
  old : owner < state.nextHome

theorem Change.buried
    {state next : State} {action : Action} {events : List Event}
    {self : HomeId} (buried : Buried self state)
    (change : Change state action next events) :
    Buried self next := by
  rcases buried with ⟨absent, hidden, old⟩
  refine ⟨?_, ?_, Nat.lt_of_lt_of_le old change.nextHome_le⟩
  · intro member
    rcases change.mem_before member with before | new
    · exact absent before
    · cases new with
      | login top => exact hidden top
  · intro shown
    cases change with
    | opens mode top fresh => cases shown
    | returns top signedOut =>
        cases shown
        rw [top] at absent
        exact absent List.mem_cons_self
    | bounces top signedIn => cases shown
    | logsOut top succeeds =>
        cases shown
        exact Nat.lt_irrefl _ old
    | presents waiting presenter => cases shown
    | shows completed waiting presenter member fresh => cases shown
    | _ => exact hidden shown

/-- Under a menu every login screen that is off the stack is buried. -/
theorem WellFormed.buried_of_menu_top
    {state : State} (wellFormed : WellFormed state)
    {menu : MenuId} {below : List Controller} {self : HomeId}
    (top : state.stack = .menu menu :: below)
    (member : .home self ∈ state.stack)
    (absent : .login self ∉ state.stack) :
    Buried self state where
  absent := absent
  hidden := by
    rw [State.top?, top]
    intro equal
    cases equal
  old := wellFormed.homes _ member

/-- A controller that will never present a menu again: its login screen is
buried, or the menu it would push is in the stack for good. -/
def Spent (state : State) (presenter : Controller) : Prop :=
  ∃ self, presenter = .login self ∧
    (Buried self state ∨ .menu (.stored self) ∈ state.stack)

theorem Change.spent
    {state next : State} {action : Action} {events : List Event}
    {presenter : Controller} (spent : Spent state presenter)
    (change : Change state action next events) :
    Spent next presenter := by
  rcases spent with ⟨self, rfl, buried | stored⟩
  · exact ⟨self, rfl, Or.inl (change.buried buried)⟩
  · refine ⟨self, rfl, Or.inr (change.mem_next stored ?_)⟩
    exact fun _ => Controller.noConfusion

/-- Under a menu a controller that cannot present the menu never will. -/
theorem WellFormed.spent_of_menu_top
    {state : State} (wellFormed : WellFormed state)
    {menu : MenuId} {below : List Controller}
    (top : state.stack = .menu menu :: below)
    {signIn : SignInId} {completion : Completion}
    {presenter : Controller}
    (waiting : state.at? signIn = some (.waiting completion))
    (presents : completion.presenter? = some presenter)
    (fails : ¬ presenter.Presents state.stack) :
    Spent state presenter := by
  rcases completion.presenter?_cases presents with ⟨self, owned, kind⟩
  have member := wellFormed.owners _ _ _ waiting owned
  rcases kind with rfl | rfl
  · exact absurd member fails
  · refine ⟨self, rfl, ?_⟩
    by_cases present : .login self ∈ state.stack
    · exact Or.inr (by_contra fun absent => fails ⟨present, absent⟩)
    · exact Or.inl (wellFormed.buried_of_menu_top top member present)

theorem Spent.not_presents
    {state : State} {presenter : Controller}
    (spent : Spent state presenter) :
    ¬ presenter.Presents state.stack := by
  rcases spent with ⟨self, rfl, buried | stored⟩
  · exact fun presents => buried.absent presents.1
  · exact fun presents => presents.2 stored

end BandBPools.App
