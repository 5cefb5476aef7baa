import BandBPools.App.Machine
import BandBPools.Stack.Founded

/-!
# The invariant of the app

The invariant relates the stack to the sign-ins under way: a login screen lies
directly on the home screen that owns it, a stored menu lies somewhere above
the login screen that owns it, a home screen other than the first lies on a
menu, and the home screen behind every sign-in is still in the stack.
-/

namespace BandBPools.App

open BandBPools.Stack

/-! ## The invariant -/

/-- What must lie below a controller on the stack. -/
def Rests : Controller → List Controller → Prop
  | .home self, below =>
      .home self ∉ below ∧
        ∀ top, below.head? = some top → top.isMenu = true
  | .login owner, below =>
      .login owner ∉ below ∧ below.head? = some (.home owner)
  | .menu (.stored owner), below =>
      .menu (.stored owner) ∉ below ∧ .login owner ∈ below
  | .menu (.fresh serial), below =>
      .menu (.fresh serial) ∉ below

theorem Rests.notMem {controller : Controller} {below : List Controller}
    (rests : Rests controller below) :
    controller ∉ below := by
  cases controller with
  | home self => exact rests.1
  | login owner => exact rests.1
  | menu id =>
      cases id with
      | stored owner => exact rests.1
      | fresh serial => exact rests

theorem Rests.home_mem_of_login {owner : HomeId}
    {below : List Controller} (rests : Rests (.login owner) below) :
    .home owner ∈ below :=
  List.mem_of_head? rests.2

/-- The `HomeController` whose controllers handle a Firebase call. -/
def FirebaseCall.owner? : FirebaseCall → Option HomeId
  | .guest self => some self
  | .signup self _ _ => some self
  | .login self _ _ => some self
  | .facebook self _ => some self
  | .google _ _ => none

def Request.owner? : Request → Option HomeId
  | .firebase call => call.owner?
  | .facebookLogin self => some self
  | .graph self _ => some self
  | .googleLogin => none

def Completion.owner? : Completion → Option HomeId
  | .firebase call _ => call.owner?
  | .facebookLogin self _ => some self
  | .graph self _ _ => some self
  | .googleLogin _ => none

def Pending.owner? : Pending → Option HomeId
  | .inFlight request => request.owner?
  | .waiting completion => completion.owner?

/-- The invariant of every reachable state. -/
structure WellFormed (state : State) : Prop where
  founded : Founded Rests state.stack
  nonempty : state.stack ≠ []
  homes : ∀ self, .home self ∈ state.stack → self < state.nextHome
  menus : ∀ serial,
    .menu (.fresh serial) ∈ state.stack → serial < state.nextMenu
  signIns : ∀ signIn pending,
    state.at? signIn = some pending → signIn < state.nextSignIn
  owners : ∀ signIn pending owner,
    state.at? signIn = some pending → pending.owner? = some owner →
      .home owner ∈ state.stack

namespace WellFormed

variable {state : State}

theorem nodup (wellFormed : WellFormed state) : state.stack.Nodup :=
  wellFormed.founded.nodup fun _ _ rests => rests.notMem

/-- A login screen has its home screen below it. -/
theorem home_mem_of_login
    (wellFormed : WellFormed state) {owner : HomeId}
    (member : .login owner ∈ state.stack) :
    .home owner ∈ state.stack :=
  Founded.mem_support (fun _ rests => rests.home_mem_of_login)
    wellFormed.founded member

/-- The login screen of the home screen on top is not in the stack. -/
theorem login_notMem_of_home_top
    (wellFormed : WellFormed state) {self : HomeId}
    {below : List Controller} (top : state.stack = .home self :: below) :
    .login self ∉ state.stack := by
  have founded := wellFormed.founded
  rw [top] at founded ⊢
  rw [List.mem_cons, not_or]
  exact ⟨Controller.noConfusion,
    Founded.not_mem_of_top (fun _ rests => rests.notMem)
      (fun _ rests => rests.home_mem_of_login) founded⟩

/-- The stored menu of the login screen on top is not in the stack. -/
theorem stored_notMem_of_login_top
    (wellFormed : WellFormed state) {self : HomeId}
    {below : List Controller} (top : state.stack = .login self :: below) :
    .menu (.stored self) ∉ state.stack := by
  have founded := wellFormed.founded
  rw [top] at founded ⊢
  rw [List.mem_cons, not_or]
  exact ⟨Controller.noConfusion,
    Founded.not_mem_of_top (fun _ rests => rests.notMem)
      (fun _ rests => rests.2) founded⟩

/-- Below a login screen on top comes the home screen that owns it. -/
theorem below_login_top
    (wellFormed : WellFormed state) {self : HomeId}
    {below : List Controller} (top : state.stack = .login self :: below) :
    ∃ rest, below = .home self :: rest := by
  have founded := wellFormed.founded
  rw [top] at founded
  exact List.head?_eq_some_iff.mp founded.1.2

theorem newHome_notMem (wellFormed : WellFormed state) :
    .home state.nextHome ∉ state.stack := fun member =>
  Nat.lt_irrefl _ (wellFormed.homes _ member)

theorem newMenu_notMem (wellFormed : WellFormed state) :
    .menu (.fresh state.nextMenu) ∉ state.stack := fun member =>
  Nat.lt_irrefl _ (wellFormed.menus _ member)

end WellFormed

end BandBPools.App
