import BandBPools.App.LoginMode
import BandBPools.App.MenuAccess
import BandBPools.App.Pushes
import BandBPools.App.Stranding
import BandBPools.Transition.Refinement

/-!
# Visits

What the app is for can be said without stacks, requests and completions: a
visitor waits at the welcome screen or at a login form, enters the menu as a
user, and leaves it for the welcome screen.  As long as sign-ins that may
present the menu come one at a time and no logout comes between a sign-in and
its menu, the app refines this machine.
-/

namespace BandBPools.App

open BandBPools.Transition

/-! ## The abstract machine -/

/-- Where a visitor is. -/
inductive Visit where
  | welcome
  | form (mode : Mode)
  | menu (user : User)
deriving DecidableEq, Repr

/-- What can be seen of a visit. -/
inductive Crossing where
  | entered
  | left
deriving DecidableEq, Repr

namespace Visit

def isMenu : Visit → Bool
  | .menu _ => true
  | _ => false

/-- A step of a visit. -/
inductive Step : Visit → List Crossing → Visit → Prop where
  | opens (mode : Mode) : Step .welcome [] (.form mode)
  | returns (mode : Mode) : Step (.form mode) [] .welcome
  | enters {outside : Visit} (waits : outside.isMenu = false)
      (user : User) : Step outside [.entered] (.menu user)
  | switches (user other : User) : Step (.menu user) [] (.menu other)
  | leaves (user : User) : Step (.menu user) [.left] .welcome

/-- However a visit goes, entering and leaving alternate. -/
theorem count_of_trace {source visit : Visit}
    {crossings : List Crossing}
    (trace : Trace Step source crossings visit) :
    crossings.count .entered + source.isMenu.toNat =
      crossings.count .left + visit.isMenu.toNat := by
  induction trace with
  | refl => rfl
  | snoc trace next induction =>
      rw [List.count_append, List.count_append]
      cases next with
      | opens mode => exact induction
      | returns mode => exact induction
      | enters waits user =>
          rw [waits] at induction
          simp [isMenu] at induction ⊢
          omega
      | switches user other => exact induction
      | leaves user =>
          simp [isMenu] at induction ⊢
          omega

end Visit

/-! ## What the app shows of a visit -/

/-- The visit that a state of the app shows. -/
inductive Matches (state : State) : Visit → Prop where
  | welcome {self} (top : state.top? = some (.home self)) :
      Matches state .welcome
  | form {self mode} (top : state.top? = some (.login self))
      (shows : (state.screens self).Shows mode) :
      Matches state (.form mode)
  | menu {id user} (top : state.top? = some (.menu id))
      (current : state.currentUser = some user) :
      Matches state (.menu user)

/-- A menu is entered when it is pushed and left by a logout. -/
def Event.crossing? : Event → Option Crossing
  | .pushed push =>
      if push.controller.isMenu then
        some .entered
      else if push.site = .handleLogout then
        some .left
      else
        none
  | _ => none

/-- Both conditions on the order of sign-ins and logouts. -/
structure Orderly (state : State) (action : Action) : Prop where
  logout : LogsOutAlone state action
  signIn : SignsInAlone state action

/-- The invariants under which a state shows a visit. -/
structure Follows (state : State) (visit : Visit) : Prop where
  wellFormed : WellFormed state
  guarded : Guarded state
  sole : Sole state
  shown : Matches state visit

namespace Matches

variable {state next : State} {visit : Visit} {self : HomeId}
variable {menu : MenuId}

theorem keep (shown : Matches state visit)
    (top : next.top? = state.top?) (screens : next.screens = state.screens)
    (user : next.currentUser = state.currentUser) :
    Matches next visit := by
  cases shown with
  | welcome before => exact .welcome (top.trans before)
  | form before shows => exact .form (top.trans before) (screens ▸ shows)
  | menu before current => exact .menu (top.trans before) (user.trans current)

theorem eq_welcome (shown : Matches state visit)
    (top : state.top? = some (.home self)) : visit = .welcome := by
  cases shown with
  | welcome other => rfl
  | form other shows => cases top.symm.trans other
  | menu other current => cases top.symm.trans other

theorem exists_form (shown : Matches state visit)
    (top : state.top? = some (.login self)) :
    ∃ mode, visit = .form mode := by
  cases shown with
  | welcome other => cases top.symm.trans other
  | form other shows => exact ⟨_, rfl⟩
  | menu other current => cases top.symm.trans other

theorem exists_menu (shown : Matches state visit)
    (top : state.top? = some (.menu menu)) :
    ∃ user, visit = .menu user := by
  cases shown with
  | welcome other => cases top.symm.trans other
  | form other shows => cases top.symm.trans other
  | menu other current => exact ⟨_, rfl⟩

theorem isMenu_eq (shown : Matches state visit) :
    visit.isMenu = state.showsMenu := by
  cases shown with
  | welcome top =>
      rw [State.showsMenu, top]
      rfl
  | form top shows =>
      rw [State.showsMenu, top]
      rfl
  | menu top current =>
      rw [State.showsMenu, top]
      rfl

theorem outside (shown : Matches state visit)
    (onScreen : OnScreen state self) : visit.isMenu = false := by
  rcases onScreen with top | top
  · rw [shown.eq_welcome top]
    rfl
  · rcases shown.exists_form top with ⟨mode, rfl⟩
    rfl

/-- A menu that is presented outside is entered. -/
theorem enters (shown : Matches state visit)
    (onScreen : OnScreen state self)
    (top : next.top? = some (.menu menu))
    (signedIn : next.currentUser ≠ none) :
    ∃ later, Matches next later ∧
      (later = visit ∧ [Crossing.entered] = [] ∨
        Visit.Step visit [.entered] later) := by
  rcases Option.ne_none_iff_exists'.mp signedIn with ⟨user, current⟩
  exact ⟨.menu user, .menu top current,
    Or.inr (.enters (shown.outside onScreen) user)⟩

/-- A reply that leaves the screen alone can only change who is at the
menu. -/
theorem reply (shown : Matches state visit)
    (top : next.top? = state.top?) (screens : next.screens = state.screens)
    (guarded : Guarded next) :
    ∃ later, Matches next later ∧
      (later = visit ∧ ([] : List Crossing) = [] ∨
        Visit.Step visit [] later) := by
  cases shown with
  | welcome before =>
      exact ⟨_, .welcome (top.trans before), Or.inl ⟨rfl, rfl⟩⟩
  | form before shows =>
      exact ⟨_, .form (top.trans before) (screens ▸ shows),
        Or.inl ⟨rfl, rfl⟩⟩
  | menu before current =>
      have signedIn := guarded.shown _ (top.trans before)
      rcases Option.ne_none_iff_exists'.mp signedIn with ⟨user, found⟩
      exact ⟨.menu user, .menu (top.trans before) found,
        Or.inr (.switches _ user)⟩

end Matches

/-- Every change of the app is a step of the visit or cannot be seen. -/
theorem Change.matches
    {state next : State} {action : Action} {observed : List Event}
    {visit : Visit} (follows : Follows state visit)
    (guarded : Guarded next)
    (change : Change state action next observed) :
    ∃ later, Matches next later ∧
      (later = visit ∧ observed.filterMap Event.crossing? = [] ∨
        Visit.Step visit (observed.filterMap Event.crossing?) later) := by
  rcases follows with ⟨wellFormed, _, sole, shown⟩
  cases change with
  | stays token alerts tapped modeless requestless failed =>
      refine ⟨visit, shown.keep rfl rfl rfl, Or.inl ⟨rfl, ?_⟩⟩
      simp [List.filterMap_eq_nil_iff, Event.crossing?]
  | starts sends onScreen =>
      exact ⟨visit, shown.keep rfl rfl rfl, Or.inl ⟨rfl, rfl⟩⟩
  | @opens self below mode top absent =>
      have home : state.top? = some (.home self) := by
        rw [State.top?, top]
        rfl
      rw [shown.eq_welcome home]
      refine ⟨.form mode, .form rfl ?_, Or.inr (.opens mode)⟩
      simpa using mode.shown_shows (state.screens self)
  | @returns self below top signedOut =>
      have login : state.top? = some (.login self) := by
        rw [State.top?, top]
        rfl
      rcases shown.exists_form login with ⟨mode, rfl⟩
      exact ⟨.welcome, .welcome rfl, Or.inr (.returns mode)⟩
  | @bounces self below top signedIn =>
      have login : OnScreen state self := by
        rw [OnScreen, State.top?, top]
        exact Or.inr rfl
      exact shown.enters login rfl signedIn
  | @logsOut menu keychain below top succeeds =>
      have shows : state.top? = some (.menu menu) := by
        rw [State.top?, top]
        rfl
      rcases shown.exists_menu shows with ⟨user, rfl⟩
      exact ⟨.welcome, .welcome rfl, Or.inr (.leaves user)⟩
  | replies inFlight answered =>
      exact shown.reply rfl rfl guarded
  | proceeds waiting carries =>
      exact ⟨visit, shown.keep rfl rfl rfl, Or.inl ⟨rfl, rfl⟩⟩
  | settles waiting last absent =>
      exact ⟨visit, shown.keep rfl rfl rfl, Or.inl ⟨rfl, rfl⟩⟩
  | presents waiting presenter =>
      rcases sole.onScreen_of_presenter waiting presenter
        (wellFormed.presenter_mem waiting presenter) with
        ⟨self, onScreen, _⟩
      exact shown.enters onScreen rfl (guarded.shown _ rfl)
  | shows completed waiting presenter member absent =>
      rcases sole.onScreen_of_presenter waiting presenter member with
        ⟨self, onScreen, _⟩
      exact shown.enters onScreen rfl (guarded.shown _ rfl)
  | raises completed waiting presenter member repeated =>
      exact absurd repeated
        (sole.not_raises wellFormed waiting presenter member)

/-- The app refines the abstract machine as long as sign-ins and logouts come
in order. -/
theorem app_refines_visit :
    Refines step Orderly Event.crossing? Visit.Step Follows := by
  intro state action next observed visit follows orderly taken
  have change := Change.of_step follows.wellFormed taken
  have guarded :=
    follows.guarded.preserved follows.wellFormed orderly.logout change
  rcases change.matches follows guarded with ⟨later, shown, moves⟩
  refine ⟨later, ⟨change.wellFormed follows.wellFormed, guarded, ?_, shown⟩,
    moves⟩
  exact follows.sole.preserved follows.wellFormed orderly.signIn change

/-- The launch shows the welcome screen, or the menu to a user it finds. -/
theorem launch_follows (user : Option User) (token : Option AccessToken) :
    ∃ visit, Follows (launch user token).1 visit ∧
      ((launch user token).2.filterMap Event.crossing?).count .left = 0 ∧
      ((launch user token).2.filterMap Event.crossing?).count .entered =
        visit.isMenu.toNat := by
  have wellFormed := launch_wellFormed user token
  have guarded := launch_guarded user token
  have sole := launch_sole user token
  cases user with
  | none =>
      exact ⟨.welcome, ⟨wellFormed, guarded, sole, .welcome rfl⟩, rfl, rfl⟩
  | some user =>
      exact ⟨.menu user, ⟨wellFormed, guarded, sole, .menu rfl rfl⟩,
        rfl, rfl⟩

/--
In an orderly run the menu has been presented as often as a logout has
succeeded, and once more while it is on the screen.
-/
theorem menus_match_logouts
    {actions : List Action} {events : List Event} {state : State}
    (launched : LaunchedUnder Orderly actions events state) :
    (events.filterMap Event.crossing?).count .entered =
      (events.filterMap Event.crossing?).count .left +
        state.showsMenu.toNat := by
  rcases launched with ⟨user, token, later, run, rfl⟩
  rcases launch_follows user token with ⟨first, start, left, entered⟩
  rcases app_refines_visit.trace start run with ⟨visit, follows, trace⟩
  have balanced := Visit.count_of_trace trace
  rw [follows.shown.isMenu_eq] at balanced
  rw [List.filterMap_append, List.count_append, List.count_append, left,
    entered]
  omega

instance (state : State) (action : Action) :
    Decidable (Orderly state action) :=
  decidable_of_iff (LogsOutAlone state action ∧ SignsInAlone state action)
    ⟨fun both => ⟨both.1, both.2⟩, fun orderly =>
      ⟨orderly.logout, orderly.signIn⟩⟩

/-- A guest session and its logout. -/
theorem menus_match_logouts_again :
    ∃ later state,
      LaunchedUnder Orderly
          [.home 0 .guest, .reply 0 (.firebase (.success ⟨"guest", true⟩)),
            .complete 0, .logout (.fresh 0) none]
          ((launch none none).2 ++ later) state ∧
        (((launch none none).2 ++ later).filterMap
            Event.crossing?).count .entered =
          (((launch none none).2 ++ later).filterMap
            Event.crossing?).count .left + state.showsMenu.toNat := by
  have passes : (exec step Orderly (launch none none).1
      [.home 0 .guest, .reply 0 (.firebase (.success ⟨"guest", true⟩)),
        .complete 0, .logout (.fresh 0) none]).any
        (fun turn => turn.1.top? == some (.home 1)) = true := by
    decide
  rcases launched_of_any passes with ⟨later, state, launched, -⟩
  exact ⟨later, state, launched, menus_match_logouts launched⟩

end BandBPools.App
