import BandBPools.App.MenuAccess
import BandBPools.Device.Session

/-!
# Who sees the menu on a device

As long as accounts are known and no logout comes in between, the menu on a
device is shown only to a user of the session.  A guest whose account cannot
be looked up is shown it without one.
-/

namespace BandBPools.Device

open BandBPools.Auth
open BandBPools.Transition
open BandBPools.App (SignInId FirebaseCall HomeId MenuId LogsOutAlone)

/--
In a run on a device in which accounts are known and no logout succeeds while
a completion waits that would present a menu, the menu is on top only while
the session has a user.
-/
theorem menu_shown_to_session_user {actions : List Action}
    {events : List Event} {device : State}
    (launched : LaunchedUnder (simulation.Under LogsOutAlone) actions events
      device)
    {menu : MenuId} (top : device.app.top? = some (.menu menu)) :
    device.auth.currentUser ≠ none := by
  have linked := launched.linked
  obtain ⟨moves, ran⟩ := launched.app
  have guarded : App.WellFormed device.app ∧ App.Guarded device.app := by
    apply App.LaunchedUnder.changeInvariant _ _ ran
    · intro state action next observed wellFormed guarded alone change
      exact guarded.preserved wellFormed alone change
    · exact App.launch_guarded
  have signedIn := guarded.2.shown menu top
  rw [linked.user] at signedIn
  exact fun signedOut => signedIn (congrArg _ signedOut)

set_option maxRecDepth 4000 in
/-- A guest session. -/
theorem menu_shown_to_session_user_guest :
    ∃ events device,
      LaunchedUnder (simulation.Under LogsOutAlone) guestSignIn events
          device ∧
        device.app.top? = some (.menu (.fresh 0)) ∧
        device.auth.currentUser ≠ none := by
  have passes : (exec step (simulation.Under LogsOutAlone) installed
      guestSignIn).any (fun turn =>
        turn.1.app.top? == some (.menu (.fresh 0))) = true := by
    decide
  rcases launched_of_any (fun device =>
      device.app.top? == some (.menu (.fresh 0))) passes with
    ⟨events, device, launched, checked⟩
  have top := eq_of_beq checked
  exact ⟨events, device, launched, top,
    menu_shown_to_session_user launched top⟩

/-! ## Accounts that cannot be looked up -/

theorem pushMenuView_top {app : App.State} {self : HomeId}
    (shows : App.Controller.Presents app.stack (.login self))
    (site : App.PushSite) :
    (App.LoginViewController.pushMenuView site self app).1.top? =
      some (.menu (.stored self)) := by
  rw [App.LoginViewController.pushMenuView,
    App.navigationController?_of_mem app shows.1,
    App.LoginViewController.menuView,
    App.pushViewController_of_notMem app shows.2]
  rfl

/-- Without an error the completion presents the menu, whoever is signed
in. -/
theorem completion_presents (call : FirebaseCall) (app : App.State)
    (presents : ∃ presenter ∈ call.presenter?, presenter.Presents app.stack)
    (absent : .menu (.fresh app.nextMenu) ∉ app.stack) :
    ∃ menu, (call.completion (some present) none app).1.top? =
      some (.menu menu) := by
  rcases presents with ⟨presenter, presents, shows⟩
  cases call with
  | guest self =>
      cases presents
      refine ⟨.fresh app.nextMenu, ?_⟩
      rw [FirebaseCall.completion, App.HomeController.guestCompletion,
        App.pushNewMenu_of_mem app shows absent]
      rfl
  | signup self email password =>
      cases presents
      exact ⟨_, pushMenuView_top shows .handleSignup⟩
  | login self email password =>
      cases presents
      exact ⟨_, pushMenuView_top shows .handleLogin⟩
  | facebook self tokenString =>
      cases presents
      exact ⟨_, pushMenuView_top shows .showEmailAddress⟩
  | google idToken accessToken => cases presents

/--
A guest or a new user whose account cannot be looked up is shown the menu from
the screen that is still in the stack, and nobody is signed in, unless the
keychain refuses to delete the user.
-/
theorem failed_lookUp_shows_menu {required : App.State → App.Action → Prop}
    {actions : List Action} {events : List Event} {device : State}
    (launched : LaunchedUnder (simulation.Under required) actions events
      device)
    (running : device.app.terminated = false)
    {signIn : SignInId} {call : FirebaseCall}
    {tokenService : FIRSecureTokenService}
    (inFlight : device.app.at? signIn = some (.inFlight (.firebase call)))
    (stage : device.stages signIn = .lookingUp tokenService)
    (drops : (method call).dropsError = true)
    (presents : ∃ presenter ∈ call.presenter?,
      presenter.Presents device.app.stack)
    (error : FIRAuthErrorCode) {refusals : Refusals}
    (allowed : refusals.delete = none) :
    ∃ next posted after shown menu,
      step device (.work signIn (.accountInfo (.error error)) refusals) =
          some (next, posted) ∧
        step next (.completeHollow signIn) = some (after, shown) ∧
        after.app.top? = some (.menu menu) ∧
        after.auth.currentUser = none := by
  obtain ⟨auth, posted, updated, called⟩ :=
    FIRAuth.decorated_none allowed device.auth
  have advances : device.auth.advance refusals (method call)
      (device.stages signIn) (.accountInfo (.error error)) =
        some (.callsBack (.ok ⟨none⟩), auth, posted) := by
    rw [stage, ← called]
    simp [FIRAuth.advance, FIRAuth.accountInfoReplied, FIRAuth.retrieved,
      drops]
  have taken : step device
      (.work signIn (.accountInfo (.error error)) refusals) =
        some (progress signIn call (.callsBack (.ok ⟨none⟩), auth, posted)
          device) := by
    simp [step, running, inFlight, advances]
  obtain ⟨menu, top⟩ := completion_presents call
    (look auth (device.app.dequeue signIn)) presents
    launched.linked.wellFormed.newMenu_notMem
  have completed := @step_completeHollow
    (progress signIn call (.callsBack (.ok ⟨none⟩), auth, posted) device).1
    running signIn call (AList.lookup_insert _) present
  exact ⟨_, _, _, _, menu, taken, completed, top,
    updated.currentUser_of_none fun _ => rfl⟩

set_option maxRecDepth 4000 in
/-- The network is lost before the account of a guest is looked up. -/
theorem failed_lookUp_shows_menu_to_guest :
    ∃ events device next posted after shown menu,
      LaunchedUnder (simulation.Under fun _ _ => True)
          (guestSignIn.take 4) events device ∧
        step device (.work 0 (.accountInfo (.error (.other 17020))) .none) =
          some (next, posted) ∧
        step next (.completeHollow 0) = some (after, shown) ∧
        after.app.top? = some (.menu menu) ∧
        after.auth.currentUser = none := by
  have passes : (exec step (simulation.Under fun _ _ => True) installed
      (guestSignIn.take 4)).any (fun turn =>
        !turn.1.app.terminated &&
        turn.1.app.at? 0 == some (.inFlight (.firebase (.guest 0))) &&
        turn.1.stages 0 ==
          .lookingUp ⟨some "token", some 3600, some "refresh"⟩ &&
        turn.1.app.stack == [.home 0]) = true := by
    decide
  rcases launched_of_any (fun device =>
      !device.app.terminated &&
      device.app.at? 0 == some (.inFlight (.firebase (.guest 0))) &&
      device.stages 0 ==
        .lookingUp ⟨some "token", some 3600, some "refresh"⟩ &&
      device.app.stack == [.home 0]) passes with
    ⟨events, device, launched, checked⟩
  simp only [Bool.and_eq_true, Bool.not_eq_true', beq_iff_eq] at checked
  obtain ⟨⟨⟨running, inFlight⟩, stage⟩, stack⟩ := checked
  have presents : ∃ presenter ∈ FirebaseCall.presenter? (.guest 0),
      presenter.Presents device.app.stack := by
    rw [stack]
    decide
  obtain ⟨next, posted, after, shown, menu, failed⟩ :=
    failed_lookUp_shows_menu launched running inFlight stage rfl presents
      (.other 17020) (rfl : Refusals.none.delete = none)
  exact ⟨events, device, next, posted, after, shown, menu, launched, failed⟩

end BandBPools.Device
