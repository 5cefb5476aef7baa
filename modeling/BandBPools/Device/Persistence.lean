import BandBPools.Device.Session

/-!
# Users across launches

Whatever the keychain refuses, it holds the current user after every step on a
device, except that a refused deletion of a legacy item is not noticed and
that a process which cannot read the keychain starts without a user.  Hence a
new process has the user of the one before it, if that user can be archived at
all.
-/

namespace BandBPools.Device

open BandBPools.Auth
open BandBPools.Transition
open BandBPools.App (AccessToken MenuId)

/-- A new process can read its keychain, and if it moves a legacy item, that
item is deleted. -/
def Readable (refusals : Refusals) (keychain : FIRAuthKeychain ArchivedUser)
    (userKey : Key) : Prop :=
  refusals.deleteLegacy = none ∧
    (keychain.dataForKey refusals userKey).1.isOk = true

instance (refusals : Refusals) (keychain : FIRAuthKeychain ArchivedUser)
    (userKey : Key) : Decidable (Readable refusals keychain userKey) :=
  inferInstanceAs (Decidable (_ ∧ _))

/-- The keychain as a new process opens it. -/
def reopened (device : State) : FIRAuthKeychain ArchivedUser :=
  .initWithService device.auth.keychain.service device.auth.keychain.items

/-- No deletion of a legacy item is refused, and new processes can read the
keychain. -/
def Lasting (device : State) : Action → Prop
  | .app _ | .completeHollow _ => True
  | .logout _ refusals | .work _ _ refusals => refusals.deleteLegacy = none
  | .relaunch refusals _ =>
      Readable refusals (reopened device) device.auth.userKey

instance (device : State) : DecidablePred (Lasting device)
  | .app _ | .completeHollow _ => inferInstanceAs (Decidable True)
  | .logout _ refusals | .work _ _ refusals =>
      inferInstanceAs (Decidable (refusals.deleteLegacy = none))
  | .relaunch refusals _ =>
      inferInstanceAs (Decidable
        (Readable refusals (reopened device) device.auth.userKey))

section Launches

variable {refusals : Refusals} {APIKey appName : String}
variable {keychain : FIRAuthKeychain ArchivedUser}
variable {device : State} {action : Action}

/-- A process that can read its keychain has the user that is saved there. -/
theorem initWithAPIKey_of_readable (APIKey : String)
    (sound : keychain.Sound {(FIRAuth.kUserKey appName).name})
    (readable : Readable refusals keychain (FIRAuth.kUserKey appName)) :
    (FIRAuth.initWithAPIKey refusals APIKey appName keychain).1.Kept ∧
      (FIRAuth.initWithAPIKey refusals APIKey appName
          keychain).1.currentUser.map UserObject.user =
        (keychain.stored? (FIRAuth.kUserKey appName).name).bind
          (FIRAuth.unarchive (FIRAuth.kUserKey appName).name) := by
  rcases readable with ⟨allowed, readable⟩
  cases read : keychain.dataForKey refusals (FIRAuth.kUserKey appName) with
  | mk result later =>
      cases result with
      | error error =>
          rw [read] at readable
          cases readable
      | ok data => exact FIRAuth.initWithAPIKey_kept sound allowed read

/-- A keychain that is opened again is as sound as it was. -/
theorem reopened_sound (kept : device.auth.Kept) :
    (reopened device).Sound {device.auth.userKey.name} :=
  ⟨kept.sound.unique, fun _ _ known => nomatch known⟩

/-- The keychain holds the current user after every step. -/
theorem Handled.kept {auth : FIRAuth} {posted : List Notification}
    (handled : Handled device action auth posted)
    (settled : device.auth.Settled) (kept : device.auth.Kept)
    (lasting : Lasting device action) : auth.Kept := by
  cases handled with
  | app action => exact kept
  | logout self refusals => exact kept.signOut lasting
  | work inFlight advances =>
      exact (FIRAuth.advance_advanced settled advances).kept kept lasting
  | completeHollow signIn => exact kept
  | relaunch refusals token =>
      exact (initWithAPIKey_of_readable device.auth.APIKey (reopened_sound kept)
        lasting).1

/-- A launch shows the menu just to a user that it finds. -/
theorem launch_top (refusals : Refusals) (APIKey appName : String)
    (keychain : FIRAuthKeychain ArchivedUser)
    (token : Option AccessToken) :
    (launch refusals APIKey appName keychain token).1.app.top? =
      some (if (launch refusals APIKey appName
          keychain token).1.auth.currentUser.isSome
        then .menu (.fresh 0) else .home 0) := by
  show (App.launch (Option.map seen (FIRAuth.initWithAPIKey refusals APIKey
      appName keychain).1.currentUser) token).1.top? =
    some (if (FIRAuth.initWithAPIKey refusals APIKey appName
        keychain).1.currentUser.isSome
      then .menu (.fresh 0) else .home 0)
  cases (FIRAuth.initWithAPIKey refusals APIKey appName
      keychain).1.currentUser with
  | none => rfl
  | some user => rfl

/-- Every run from a process that can read its keychain keeps the current user
in it. -/
theorem kept_of_run {source : State} {actions : List Action}
    {events : List Event}
    (start : source.auth.Settled ∧ source.auth.Kept)
    (run : RunUnder step Lasting source actions events device) :
    device.auth.Settled ∧ device.auth.Kept := by
  have history : (fun (_ : List Action) (_ : List Event) (state : State) =>
      state.auth.Settled ∧ state.auth.Kept) actions events device := by
    apply run.historyInvariant
    · intro _ _ device action next observed holds lasting taken
      have handled := handled_of_step taken
      exact ⟨handled.settled holds.1, handled.kept holds.1 holds.2 lasting⟩
    · exact start
  exact history

/--
However a run goes on from a process that can read its keychain, as long as no
deletion of a legacy item is refused and every new process can read the
keychain, a process that is started after it and can read the keychain has the
same user, if that user can be archived, and shows the menu to it; otherwise
nobody is signed in.
-/
theorem relaunch_restores_user {service : String}
    {items : Keychain.Items GenericPassword ArchivedUser}
    {token : Option AccessToken} {actions : List Action}
    {events : List Event}
    (sound : (FIRAuthKeychain.initWithService service items).Sound
      {(FIRAuth.kUserKey appName).name})
    (readable : Readable refusals (.initWithService service items)
      (FIRAuth.kUserKey appName))
    (run : RunUnder step Lasting
      (launch refusals APIKey appName (.initWithService service items)
        token).1 actions events device)
    {again : Refusals} {newToken : Option AccessToken} {next : State}
    {observed : List Event}
    (readableAgain : Readable again (reopened device) device.auth.userKey)
    (taken : step device (.relaunch again newToken) =
      some (next, observed)) :
    next.auth.currentUser.map UserObject.user = device.auth.lastingUser ∧
      next.app.top? = some (if device.auth.lastingUser.isSome
        then .menu (.fresh 0) else .home 0) := by
  have start := initWithAPIKey_of_readable APIKey sound readable
  obtain ⟨-, kept⟩ :=
    kept_of_run ⟨FIRAuth.initWithAPIKey_settled, start.1⟩ run
  have found := (initWithAPIKey_of_readable device.auth.APIKey
    (reopened_sound kept) readableAgain).2
  have restored : next.auth.currentUser.map UserObject.user =
      device.auth.lastingUser := by
    obtain ⟨rfl, -⟩ := Prod.mk.inj (Option.some.inj taken)
    exact found.trans kept.saved
  refine ⟨restored, ?_⟩
  rw [← restored, Option.isSome_map]
  obtain ⟨rfl, -⟩ := Prod.mk.inj (Option.some.inj taken)
  exact launch_top again device.auth.APIKey device.auth.firebaseAppName _ _

end Launches

set_option maxRecDepth 4000 in
/-- A guest session is found again by the next process. -/
theorem relaunch_restores_user_guest :
    ∃ events device next observed,
      RunUnder step Lasting installed guestSignIn events device ∧
        step device (.relaunch .none none) = some (next, observed) ∧
        next.auth.currentUser.map UserObject.user =
          device.auth.lastingUser ∧
        next.app.top? = some (.menu (.fresh 0)) := by
  have sound : (FIRAuthKeychain.initWithService "service"
      (∅ : Keychain.Items GenericPassword ArchivedUser)).Sound
      {(FIRAuth.kUserKey "app").name} :=
    ⟨fun _ _ => Nat.zero_le 1, fun _ _ known => nomatch known⟩
  have readable : Readable .none
      (FIRAuthKeychain.initWithService "service" ∅)
      (FIRAuth.kUserKey "app") := by
    decide
  have passes : (exec step Lasting installed guestSignIn).any
      (fun turn => Readable .none (reopened turn.1) turn.1.auth.userKey &&
        turn.1.auth.lastingUser.isSome &&
        (step turn.1 (.relaunch .none none)).isSome) = true := by
    decide
  rcases run_of_any passes with ⟨events, device, run, checked⟩
  simp only [Bool.and_eq_true, decide_eq_true_eq] at checked
  obtain ⟨⟨again, lasting⟩, goes⟩ := checked
  obtain ⟨⟨next, observed⟩, taken⟩ := Option.isSome_iff_exists.mp goes
  obtain ⟨restored, top⟩ :=
    relaunch_restores_user sound readable run again taken
  rw [lasting] at top
  exact ⟨events, device, next, observed, run, taken, restored, top⟩

end BandBPools.Device
