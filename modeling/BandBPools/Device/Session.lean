import BandBPools.Device.Simulation

/-!
# The session on a device

What every run on a device, also across launches, does to the session: its
observers know the ID token, and a flow that calls back says truly who is
signed in.
-/

namespace BandBPools.Device

open BandBPools.Auth
open BandBPools.Transition
open BandBPools.App (SignInId FirebaseCall NSError User AccessToken MenuId)

/-! ## Steps of the session -/

/-- What a step on the device does to the session, and what is posted. -/
inductive Handled (device : State) :
    Action → FIRAuth → List Notification → Prop where
  | app (action : App.Action) :
      Handled device (.app action) device.auth []
  | logout (self : MenuId) (refusals : Refusals) :
      Handled device (.logout self refusals)
        (device.auth.signOut refusals).2.1
        (device.auth.signOut refusals).2.2
  | work {signIn : SignInId} {input : Input} {refusals : Refusals}
      {call : FirebaseCall} {made : Progress}
      (inFlight : device.app.at? signIn = some (.inFlight (.firebase call)))
      (advances : device.auth.advance refusals (method call)
        (device.stages signIn) input = some made) :
      Handled device (.work signIn input refusals) made.2.1 made.2.2
  | completeHollow (signIn : SignInId) :
      Handled device (.completeHollow signIn) device.auth []
  | relaunch (refusals : Refusals) (token : Option AccessToken) :
      Handled device (.relaunch refusals token)
        (FIRAuth.initWithAPIKey refusals device.auth.APIKey
          device.auth.firebaseAppName
          (.initWithService device.auth.keychain.service
            device.auth.keychain.items)).1
        (FIRAuth.initWithAPIKey refusals device.auth.APIKey
          device.auth.firebaseAppName
          (.initWithService device.auth.keychain.service
            device.auth.keychain.items)).2

@[simp]
theorem posted_posted (posted : List Notification) :
    (posted.map Event.posted).filterMap Event.posted? = posted := by
  simp [List.filterMap_map, Function.comp_def, Event.posted?]

@[simp]
theorem posted_app (events : List App.Event) :
    (events.map Event.app).filterMap Event.posted? = [] := by
  simp [List.filterMap_eq_nil_iff, Event.posted?]

section Steps

variable {device next : State} {observed : List Event} {action : Action}

theorem handled_of_step
    (taken : step device action = some (next, observed)) :
    Handled device action next.auth (observed.filterMap Event.posted?) := by
  cases action with
  | app action =>
      simp only [step] at taken
      split at taken
      · obtain ⟨turn, -, made⟩ := Option.map_eq_some_iff.mp taken
        obtain ⟨rfl, rfl⟩ := Prod.mk.inj made
        rw [posted_app]
        exact .app action
      · cases taken
  | logout self refusals =>
      simp only [step] at taken
      obtain ⟨turn, -, made⟩ := Option.map_eq_some_iff.mp taken
      obtain ⟨rfl, rfl⟩ := Prod.mk.inj made
      rw [List.filterMap_append, posted_posted, posted_app, List.append_nil]
      exact .logout self refusals
  | work signIn input refusals =>
      obtain ⟨-, call, made, inFlight, advances, result⟩ :=
        work_of_step taken
      have auth := progress_auth signIn call made device
      have events := progress_events signIn call made device
      rw [result] at auth events
      dsimp only at auth events
      rw [auth, events, posted_posted]
      exact .work inFlight advances
  | completeHollow signIn =>
      simp only [step] at taken
      split at taken
      · cases taken
      · obtain ⟨call, -, made⟩ := Option.map_eq_some_iff.mp taken
        obtain ⟨rfl, rfl⟩ := Prod.mk.inj made
        rw [posted_app]
        exact .completeHollow signIn
  | relaunch refusals token =>
      obtain ⟨rfl, rfl⟩ := Prod.mk.inj (Option.some.inj taken)
      rw [List.filterMap_append, posted_posted, posted_app, List.append_nil]
      exact .relaunch refusals token

theorem Handled.settled {auth : FIRAuth} {posted : List Notification}
    (handled : Handled device action auth posted)
    (settled : device.auth.Settled) : auth.Settled := by
  cases handled with
  | app action => exact settled
  | logout self refusals => exact settled.signOut
  | work inFlight advances =>
      exact (FIRAuth.advance_advanced settled advances).settled settled
  | completeHollow signIn => exact settled
  | relaunch refusals token => exact FIRAuth.initWithAPIKey_settled

/-- In every run on a device, also across launches, the observers of the
session have been told of its token. -/
theorem LaunchedUnder.settled {condition : State → Action → Prop}
    {actions : List Action} {events : List Event}
    (launched : LaunchedUnder condition actions events device) :
    device.auth.Settled := by
  apply launched.invariant
  · intro device action next observed settled _ taken
    exact (handled_of_step taken).settled settled
  · intro refusals APIKey appName keychain token
    exact FIRAuth.initWithAPIKey_settled

end Steps

/-! ## Observers -/

/-- The step does not end the process. -/
def Continues (_device : State) : Action → Prop
  | .relaunch _ _ => False
  | _ => True

instance (device : State) : DecidablePred (Continues device)
  | .relaunch _ _ => inferInstanceAs (Decidable False)
  | .app _ | .logout _ _ | .work _ _ _ | .completeHollow _ =>
      inferInstanceAs (Decidable True)

section Observers

variable {device : State} {action : Action}

/-- A step within a process tells the observers of the session what it does to
the token. -/
theorem Handled.tells {auth : FIRAuth} {posted : List Notification}
    (handled : Handled device action auth posted)
    (continues : Continues device action)
    (settled : device.auth.Settled) :
    device.auth.Tells posted auth := by
  cases handled with
  | app action => exact .refl device.auth
  | logout self refusals => exact settled.signOut_tells
  | work inFlight advances =>
      exact (FIRAuth.advance_advanced settled advances).tells settled
  | completeHollow signIn => exact .refl device.auth
  | relaunch refusals token => exact continues.elim

/--
In every run within a process, an observer of the session knows its token from
the notifications, and hears of the next step just when that step changes the
token.
-/
theorem observers_hear_token {actions : List Action} {events : List Event}
    (launched : LaunchedUnder Continues actions events device) :
    FIRAuth.heard none (events.filterMap Event.posted?) =
        device.auth.shownToken ∧
      ∀ action next observed, Continues device action →
        step device action = some (next, observed) →
        (observed.filterMap Event.posted? = [] ↔
          next.auth.currentToken = device.auth.currentToken) := by
  have known : device.auth.Settled ∧
      FIRAuth.heard none (events.filterMap Event.posted?) =
        device.auth.shownToken := by
    apply launched.history
    · intro seen device action next observed known continues taken
      rcases known with ⟨settled, heard⟩
      have handled := handled_of_step taken
      have tells := handled.tells continues settled
      refine ⟨handled.settled settled, ?_⟩
      rw [List.filterMap_append, FIRAuth.heard, List.foldl_append]
      exact (congrArg (FIRAuth.heard · _) heard).trans tells.heard
    · intro refusals APIKey appName keychain token
      refine ⟨FIRAuth.initWithAPIKey_settled, ?_⟩
      rw [launch, List.filterMap_append, posted_posted, posted_app,
        List.append_nil]
      exact FIRAuth.initWithAPIKey_heard
  refine ⟨known.2, ?_⟩
  intro action next observed continues taken
  exact ((handled_of_step taken).tells continues known.1).posted

end Observers

set_option maxRecDepth 4000 in
/-- A guest session, whose logout will be heard of. -/
theorem observers_hear_token_guest :
    ∃ events device next observed,
      LaunchedUnder Continues guestSignIn events device ∧
        FIRAuth.heard none (events.filterMap Event.posted?) =
          some "token" ∧
        step device (.logout (.fresh 0) .none) = some (next, observed) ∧
        observed.filterMap Event.posted? ≠ [] := by
  have passes : (exec step Continues installed guestSignIn).any
      (fun turn => turn.1.auth.currentToken == some "token" &&
        (step turn.1 (.logout (.fresh 0) .none)).any fun later =>
          later.1.auth.currentToken == none) = true := by
    decide
  rcases launched_of_any (fun device =>
      device.auth.currentToken == some "token" &&
        (step device (.logout (.fresh 0) .none)).any fun later =>
          later.1.auth.currentToken == none) passes with
    ⟨events, device, launched, checked⟩
  simp only [Bool.and_eq_true, beq_iff_eq, Option.any_eq_true,
    Prod.exists] at checked
  obtain ⟨token, next, observed, taken, gone⟩ := checked
  obtain ⟨known, hears⟩ := observers_hear_token launched
  have heard := hears (.logout (.fresh 0) .none) next observed
    True.intro taken
  refine ⟨events, device, next, observed, launched, ?_, taken, ?_⟩
  · rw [known, FIRAuth.shownToken, token]
    rfl
  · rw [Ne, heard, gone, token]
    simp

/-! ## Callbacks -/

/-- Accounts that are looked up have an ID. -/
def Identified (_device : State) : Action → Prop
  | .work _ input _ => input.Identified
  | _ => True

instance (device : State) : DecidablePred (Identified device)
  | .work _ input _ => inferInstanceAs (Decidable input.Identified)
  | .app _ | .logout _ _ | .completeHollow _ | .relaunch _ _ =>
      inferInstanceAs (Decidable True)

section Callbacks

variable {device next : State} {observed : List Event}

theorem Handled.named {action : Action} {auth : FIRAuth}
    {posted : List Notification}
    (handled : Handled device action auth posted)
    (settled : device.auth.Settled) (named : device.auth.Named)
    (identified : Identified device action) : auth.Named := by
  cases handled with
  | app action => exact named
  | logout self refusals => exact named.signOut
  | work inFlight advances =>
      exact (FIRAuth.advance_advanced settled advances).named settled named
        identified
  | completeHollow signIn => exact named
  | relaunch refusals token =>
      exact initWithAPIKey_named refusals device.auth.APIKey
        device.auth.firebaseAppName _

theorem LaunchedUnder.named {actions : List Action} {events : List Event}
    (launched : LaunchedUnder Identified actions events device) :
    device.auth.Settled ∧ device.auth.Named := by
  apply launched.invariant
  · intro device action next observed holds identified taken
    have handled := handled_of_step taken
    exact ⟨handled.settled holds.1,
      handled.named holds.1 holds.2 identified⟩
  · intro refusals APIKey appName keychain token
    exact ⟨FIRAuth.initWithAPIKey_settled,
      initWithAPIKey_named refusals APIKey appName keychain⟩

/-- What is known after a flow has been advanced. -/
inductive CalledBack (signIn : SignInId) (call : FirebaseCall)
    (input : Input) (device next : State) (posted : List Event) : Prop where
  | goesOn
      (waits : next.app.at? signIn = some (.inFlight (.firebase call)))
      (same : next.auth = device.auth) (silent : posted = [])
  | failure {error : NSError}
      (replied : next.app.at? signIn =
        some (.waiting (.firebase call (.failure error))))
      (user : next.auth.currentUser = device.auth.currentUser)
      (keychain : next.auth.keychain = device.auth.keychain)
      (silent : posted = [])
  | success {user : UserObject}
      (replied : next.app.at? signIn =
        some (.waiting (.firebase call (.success (seen user)))))
      (signedIn : next.auth.currentUser = some user)
  | hollow
      (gone : next.app.at? signIn = none)
      (replied : next.hollow.lookup signIn = some call)
      (signedOut : next.auth.currentUser = none)
      (drops : (method call).dropsError = true)
      (failed : input.lookUpFails = true)

/--
In every run in which the accounts that are looked up have IDs, a flow that
calls back says truly who is signed in: with an error nothing has changed,
with a user that user is signed in, and without either nobody is, which only a
guest or a new account that could not be looked up brings about.
-/
theorem callback_tells_user {actions : List Action} {events : List Event}
    (launched : LaunchedUnder Identified actions events device)
    {signIn : SignInId} {call : FirebaseCall} {input : Input}
    {refusals : Refusals}
    (inFlight : device.app.at? signIn = some (.inFlight (.firebase call)))
    (taken : step device (.work signIn input refusals) =
      some (next, observed)) :
    CalledBack signIn call input device next observed := by
  obtain ⟨settled, named⟩ := launched.named
  obtain ⟨-, other, made, found, advances, result⟩ := work_of_step taken
  cases inFlight.symm.trans found
  have advanced := FIRAuth.advance_advanced settled advances
  rcases made with ⟨outcome, auth, posted⟩
  obtain ⟨rfl, rfl⟩ := Prod.mk.inj result.symm
  rcases outcome with stage | (error | ⟨_ | user⟩)
  · cases advanced with
    | moves stage => exact .goesOn inFlight rfl rfl
  · obtain ⟨user, keychain, rfl⟩ := advanced.failure settled named
    exact .failure (AList.lookup_insert _) user keychain rfl
  · obtain ⟨signedOut, nobody⟩ := advanced.success settled
    obtain ⟨drops, failed⟩ := nobody.mp rfl
    exact .hollow (AList.lookup_erase _ _) (AList.lookup_insert _)
      signedOut drops failed
  · obtain ⟨signedIn, -⟩ := advanced.success settled
    exact .success (AList.lookup_insert _) signedIn

end Callbacks

set_option maxRecDepth 4000 in
/-- The account of a guest cannot be looked up. -/
theorem callback_tells_user_of_failure :
    ∃ events device next observed,
      LaunchedUnder Identified (guestSignIn.take 4) events device ∧
        step device (.work 0 (.accountInfo (.error (.other 17020))) .none) =
          some (next, observed) ∧
        CalledBack 0 (.guest 0) (.accountInfo (.error (.other 17020)))
          device next observed := by
  have passes : (exec step Identified installed (guestSignIn.take 4)).any
      (fun turn =>
        turn.1.app.at? 0 == some (.inFlight (.firebase (.guest 0))) &&
        (step turn.1 (.work 0 (.accountInfo (.error (.other 17020)))
          .none)).isSome) = true := by
    decide
  rcases launched_of_any (fun device =>
      device.app.at? 0 == some (.inFlight (.firebase (.guest 0))) &&
        (step device (.work 0 (.accountInfo (.error (.other 17020)))
          .none)).isSome) passes with
    ⟨events, device, launched, checked⟩
  simp only [Bool.and_eq_true, beq_iff_eq, Option.isSome_iff_exists,
    Prod.exists] at checked
  obtain ⟨inFlight, next, observed, taken⟩ := checked
  exact ⟨events, device, next, observed, launched, taken,
    callback_tells_user launched inFlight taken⟩

end BandBPools.Device
