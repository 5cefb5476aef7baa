import BandBPools.Device.Machine
import BandBPools.Transition.Simulation

/-!
# The device runs the app

As long as the accounts of guests and of new users can be looked up, and every
account that is looked up has an ID, a run on a device between two launches is
a run of the app: a flow that calls back is the reply of Firebase, everything
else that happens on the work queue is hidden.
-/

namespace BandBPools.Device

open BandBPools.Auth
open BandBPools.Transition
open BandBPools.App (SignInId FirebaseCall NSError User AccessToken MenuId)

/-! ## Known accounts -/

/-- An error of the exchange or the look-up is not dropped, and an account
that is looked up has an ID. -/
def Known (drops : Bool) : Input → Prop
  | .secureToken (.error _) | .accountInfo (.error _) => drops = false
  | .accountInfo (.ok response) => response.localID ≠ none
  | _ => True

instance (drops : Bool) : DecidablePred (Known drops)
  | .secureToken (.error _) | .accountInfo (.error _) =>
      inferInstanceAs (Decidable (drops = false))
  | .accountInfo (.ok response) =>
      inferInstanceAs (Decidable (response.localID ≠ none))
  | .secureToken (.ok _) | .run | .tokens _ | .assertion _ | .fetch _ =>
      inferInstanceAs (Decidable True)

/-- The step is not a launch, and the account of a flow is known. -/
def KnownAccounts (device : State) (action : Action) : Prop :=
  match action with
  | .relaunch _ _ => False
  | .work signIn input _ =>
      match device.app.at? signIn with
      | some (.inFlight (.firebase call)) =>
          Known (method call).dropsError input
      | _ => True
  | _ => True

instance (device : State) (action : Action) :
    Decidable (KnownAccounts device action) := by
  unfold KnownAccounts
  split
  · infer_instance
  · split <;> infer_instance
  · infer_instance

/-! ## The moves of the app -/

/-- The reply of Firebase that the outcome of a flow is to the app. -/
def replied? : Outcome → Option (App.Reply User)
  | .callsBack (.error error) => some (.failure (seenError error))
  | .callsBack (.ok ⟨some user⟩) => some (.success (seen user))
  | _ => none

/-- The step of the app that a step on the device is. -/
def appAction? (device : State) : Action → Option App.Action
  | .app action => some action
  | .logout self refusals =>
      some (.logout self (thrown (device.auth.signOut refusals).1))
  | .work signIn input refusals =>
      match device.app.at? signIn with
      | some (.inFlight (.firebase call)) =>
          ((device.auth.advance refusals (method call)
            (device.stages signIn) input).bind fun made =>
              replied? made.1).map fun reply =>
                .reply signIn (.firebase reply)
      | _ => none
  | _ => none

/-- The app and the session agree on the user, and no completion waits
without one. -/
structure Linked (device : State) : Prop where
  wellFormed : App.WellFormed device.app
  user : device.app.currentUser = device.auth.currentUser.map seen
  settled : device.auth.Settled
  named : device.auth.Named
  full : device.hollow = ∅

/-! ## Steps of the app -/

/-- A step of the app that does not go through `FIRAuth` leaves the user
alone. -/
theorem currentUser_of_own {app next : App.State} {action : App.Action}
    {observed : List App.Event}
    (change : App.Change app action next observed)
    (own : own action = true) :
    next.currentUser = app.currentUser := by
  cases change with
  | logsOut top succeeds => cases own
  | @replies signIn answer request completion inFlight answered =>
      cases request with
      | firebase call =>
          cases answer with
          | firebase reply => cases own
          | _ => cases answered
      | _ => cases answer <;> cases answered; rfl
  | _ => rfl

/-- A logout that fails leaves the user alone. -/
theorem currentUser_of_failed {app next : App.State} {self : MenuId}
    {keychain : Option NSError} {observed : List App.Event}
    (change : App.Change app (.logout self keychain) next observed)
    (failed : App.Action.signsOut app (.logout self keychain) = false) :
    next.currentUser = app.currentUser := by
  cases change with
  | logsOut top succeeds =>
      rw [failed] at succeeds
      cases succeeds
  | _ => rfl

@[simp]
theorem shown_posted (posted : List Notification) :
    (posted.map Event.posted).filterMap Event.shown? = [] := by
  simp [List.filterMap_eq_nil_iff, Event.shown?]

@[simp]
theorem shown_app (events : List App.Event) :
    (events.map Event.app).filterMap Event.shown? = events := by
  simp [List.filterMap_map, Function.comp_def, Event.shown?]

/-! ## Steps of a flow -/

section Flow

variable {device : State} {refusals : Refusals} {signIn : SignInId}
variable {call : FirebaseCall} {input : Input} {made : Progress}

/-- To look again changes nothing while nothing has changed. -/
theorem look_of_eq {auth : FIRAuth} {app : App.State}
    (same : app.currentUser = auth.currentUser.map seen) :
    look auth app = app := by
  rw [look, ← same]

theorem progress_events (signIn : SignInId) (call : FirebaseCall)
    (made : Progress) (device : State) :
    (progress signIn call made device).2 = made.2.2.map Event.posted := by
  rcases made with ⟨outcome, auth, posted⟩
  rcases outcome with stage | (error | ⟨_ | user⟩) <;> rfl

theorem progress_currentUser (signIn : SignInId) (call : FirebaseCall)
    (made : Progress) (device : State) :
    (progress signIn call made device).1.app.currentUser =
      (progress signIn call made device).1.auth.currentUser.map seen := by
  rcases made with ⟨outcome, auth, posted⟩
  rcases outcome with stage | (error | ⟨_ | user⟩) <;> rfl

theorem progress_auth (signIn : SignInId) (call : FirebaseCall)
    (made : Progress) (device : State) :
    (progress signIn call made device).1.auth = made.2.1 := by
  rcases made with ⟨outcome, auth, posted⟩
  rcases outcome with stage | (error | ⟨_ | user⟩) <;> rfl

/-- The error of a look-up of a known account is not dropped. -/
theorem Known.keeps {drops : Bool} (known : Known drops input)
    (failed : input.lookUpFails = true) : drops = false := by
  unfold Input.lookUpFails at failed
  split at failed
  · exact known
  · exact known
  · cases failed

/-- A known account has an ID. -/
theorem Known.identified {drops : Bool} (known : Known drops input) :
    input.Identified := by
  unfold Input.Identified
  split
  · exact known
  · exact True.intro

/-- A flow that calls back replies to the app and signs in whom it says. -/
theorem progress_replied (signIn : SignInId) (linked : Linked device)
    (advanced : FIRAuth.Advanced refusals (method call) input device.auth
      made)
    {reply : App.Reply User} (replied : replied? made.1 = some reply) :
    (progress signIn call made device).1.app =
      App.enqueue signIn (.firebase call reply) device.app := by
  cases advanced with
  | moves stage => cases replied
  | refused error =>
      cases replied
      rw [FIRAuth.purged_of_named linked.settled linked.named]
      exact look_of_eq linked.user
  | unsaved =>
      cases replied
      exact look_of_eq linked.user
  | @reuses current guest start found =>
      cases replied
      apply look_of_eq
      show some (seen current) = device.auth.currentUser.map seen
      rw [found]
      rfl
  | @signsIn tokenService response next posted lookedUp updated =>
      cases replied
      have current := updated.currentUser_of_new fun current found =>
        Nat.ne_of_lt (linked.settled.numbered current found)
      apply look_of_eq
      show some (seen _) = next.currentUser.map seen
      rw [current]
      rfl
  | hollow drops failed updated => cases replied

/-- A flow that goes on changes nothing that the app sees. -/
theorem progress_hidden (signIn : SignInId) (linked : Linked device)
    (known : Known (method call).dropsError input)
    (advanced : FIRAuth.Advanced refusals (method call) input device.auth
      made)
    (hidden : replied? made.1 = none) :
    (progress signIn call made device).1.app = device.app := by
  cases advanced with
  | moves stage => exact look_of_eq linked.user
  | hollow drops failed updated =>
      rw [known.keeps failed] at drops
      cases drops
  | _ => cases hidden

theorem progress_full (signIn : SignInId) (linked : Linked device)
    (known : Known (method call).dropsError input)
    (advanced : FIRAuth.Advanced refusals (method call) input device.auth
      made) :
    (progress signIn call made device).1.hollow = ∅ := by
  cases advanced with
  | hollow drops failed updated =>
      rw [known.keeps failed] at drops
      cases drops
  | _ => exact linked.full

end Flow

/-! ## The simulation -/

section Steps

variable {device next : State} {observed : List Event}

/-- A reply of Firebase can be taken by the app. -/
theorem step_firebase {app : App.State} (running : app.terminated = false)
    {signIn : SignInId} {call : FirebaseCall}
    (inFlight : app.at? signIn = some (.inFlight (.firebase call)))
    (reply : App.Reply User) :
    App.step app (.reply signIn (.firebase reply)) =
      some (App.enqueue signIn (.firebase call reply) app, []) :=
  App.step_reply running inFlight rfl

theorem linked_of_own (linked : Linked device) {action : App.Action}
    (taken : step device (.app action) = some (next, observed)) :
    Linked next ∧
      App.step device.app action =
        some (next.app, observed.filterMap Event.shown?) := by
  simp only [step] at taken
  split at taken
  · next mine =>
      obtain ⟨turn, ran, made⟩ := Option.map_eq_some_iff.mp taken
      obtain ⟨rfl, rfl⟩ := Prod.mk.inj made
      have change := App.Change.of_step linked.wellFormed ran
      refine ⟨⟨change.wellFormed linked.wellFormed, ?_, linked.settled,
        linked.named, linked.full⟩, ?_⟩
      · exact (currentUser_of_own change mine).trans linked.user
      · rw [shown_app]
        exact ran
  · cases taken

/-- The app and the session agree on whether a logout succeeds, and on who is
signed in after it. -/
theorem currentUser_of_logout (linked : Linked device) {self : MenuId}
    {refusals : Refusals} {app : App.State} {events : List App.Event}
    (change : App.Change device.app
      (.logout self (thrown (device.auth.signOut refusals).1)) app events) :
    app.currentUser =
      (device.auth.signOut refusals).2.1.currentUser.map seen := by
  rcases FIRAuth.signOut_cases refusals device.auth with
    ⟨error, failed⟩ | ⟨succeeded, signedOut⟩
  · have signedIn : device.auth.currentUser ≠ none := by
      intro none
      rw [FIRAuth.signOut_of_none none] at failed
      cases failed
    rcases Option.ne_none_iff_exists'.mp signedIn with ⟨current, found⟩
    rw [failed] at change ⊢
    refine (currentUser_of_failed change ?_).trans linked.user
    simp [App.Action.signsOut, App.FIRAuth.signOut, linked.user, found,
      thrown, Except.isOk, Except.toBool]
  · rw [succeeded] at change
    have succeeds : App.Action.signsOut device.app
        (.logout self (thrown (.ok ()))) = true := by
      cases current : device.app.currentUser <;>
        simp [App.Action.signsOut, App.FIRAuth.signOut, current, thrown,
          Except.isOk, Except.toBool]
    rw [(change.eq_logOut succeeds).2, signedOut]
    rfl

theorem linked_of_logout (linked : Linked device) {self : MenuId}
    {refusals : Refusals}
    (taken : step device (.logout self refusals) = some (next, observed)) :
    Linked next ∧
      App.step device.app
          (.logout self (thrown (device.auth.signOut refusals).1)) =
        some (next.app, observed.filterMap Event.shown?) := by
  simp only [step] at taken
  obtain ⟨turn, ran, made⟩ := Option.map_eq_some_iff.mp taken
  obtain ⟨rfl, rfl⟩ := Prod.mk.inj made
  have change := App.Change.of_step linked.wellFormed ran
  refine ⟨⟨change.wellFormed linked.wellFormed,
    currentUser_of_logout linked change, linked.settled.signOut,
    linked.named.signOut, linked.full⟩, ?_⟩
  rw [List.filterMap_append, shown_posted, shown_app]
  exact ran

/-- What a step of a flow is, with the flow it belongs to. -/
theorem work_of_step {signIn : SignInId} {input : Input}
    {refusals : Refusals}
    (taken : step device (.work signIn input refusals) =
      some (next, observed)) :
    device.app.terminated = false ∧ ∃ call made,
      device.app.at? signIn = some (.inFlight (.firebase call)) ∧
        device.auth.advance refusals (method call) (device.stages signIn)
          input = some made ∧
        progress signIn call made device = (next, observed) := by
  simp only [step] at taken
  split at taken
  · cases taken
  · next running =>
      split at taken
      · next call found =>
          obtain ⟨made, advanced, result⟩ := Option.map_eq_some_iff.mp taken
          exact ⟨Bool.eq_false_iff.mpr running, call, made, found, advanced,
            result⟩
      · cases taken

theorem linked_of_work (linked : Linked device) {signIn : SignInId}
    {input : Input} {refusals : Refusals}
    (known : KnownAccounts device (.work signIn input refusals))
    (taken : step device (.work signIn input refusals) =
      some (next, observed)) :
    Linked next ∧ observed.filterMap Event.shown? = [] ∧
      (appAction? device (.work signIn input refusals) = none ∧
          next.app = device.app ∨
        ∃ action,
          appAction? device (.work signIn input refusals) = some action ∧
            App.step device.app action = some (next.app, [])) := by
  obtain ⟨running, call, made, found, advances, result⟩ :=
    work_of_step taken
  have advanced := FIRAuth.advance_advanced linked.settled advances
  simp only [KnownAccounts, found] at known
  obtain rfl := congrArg Prod.fst result
  obtain rfl := congrArg Prod.snd result
  have auth := progress_auth signIn call made device
  have settled := advanced.settled linked.settled
  have named :=
    advanced.named linked.settled linked.named known.identified
  rw [← auth] at settled named
  have full := progress_full signIn linked known advanced
  rw [progress_events, shown_posted]
  cases replied : replied? made.1 with
  | none =>
      have same := progress_hidden signIn linked known advanced replied
      refine ⟨⟨same ▸ linked.wellFormed,
        progress_currentUser signIn call made device, settled, named, full⟩,
        rfl, .inl ⟨?_, same⟩⟩
      simp only [appAction?, found, advances, Option.bind_some, replied,
        Option.map_none]
  | some reply =>
      have same := progress_replied signIn linked advanced replied
      have ran := step_firebase running found reply
      rw [← same] at ran
      have change := App.Change.of_step linked.wellFormed ran
      refine ⟨⟨change.wellFormed linked.wellFormed,
        progress_currentUser signIn call made device, settled, named, full⟩,
        rfl, .inr ⟨.reply signIn (.firebase reply), ?_, ran⟩⟩
      simp only [appAction?, found, advances, Option.bind_some, replied,
        Option.map_some]

/-- The device runs the app, as long as accounts are known. -/
def simulation : Simulation step KnownAccounts App.step where
  view := State.app
  move? := appAction?
  visible := Event.shown?
  Inv := Linked
  preserved := by
    intro device action next observed linked known taken
    cases action with
    | app action => exact (linked_of_own linked taken).1
    | logout self refusals => exact (linked_of_logout linked taken).1
    | work signIn input refusals =>
        exact (linked_of_work linked known taken).1
    | completeHollow signIn =>
        simp [step, linked.full] at taken
    | relaunch refusals token => exact known.elim
  stutters := by
    intro device action next observed linked known hidden taken
    cases action with
    | app action => cases hidden
    | logout self refusals => cases hidden
    | work signIn input refusals =>
        obtain ⟨-, silent, ⟨-, same⟩ | ⟨action, moved, -⟩⟩ :=
          linked_of_work linked known taken
        · exact ⟨same, silent⟩
        · cases moved.symm.trans hidden
    | completeHollow signIn =>
        simp [step, linked.full] at taken
    | relaunch refusals token => exact known.elim
  moves := by
    intro device action next observed move linked known moved taken
    cases action with
    | app action =>
        cases moved
        exact (linked_of_own linked taken).2
    | logout self refusals =>
        cases moved
        exact (linked_of_logout linked taken).2
    | work signIn input refusals =>
        obtain ⟨-, silent, ⟨still, -⟩ | ⟨action, made, ran⟩⟩ :=
          linked_of_work linked known taken
        · cases still.symm.trans moved
        · cases made.symm.trans moved
          rw [silent]
          exact ran
    | completeHollow signIn => cases moved
    | relaunch refusals token => cases moved

end Steps

/-! ## Runs -/

/-- The users that a new process finds have an ID. -/
theorem initWithAPIKey_named (refusals : Refusals) (APIKey appName : String)
    (keychain : FIRAuthKeychain ArchivedUser) :
    (FIRAuth.initWithAPIKey refusals APIKey appName keychain).1.Named := by
  cases read : keychain.dataForKey refusals (FIRAuth.kUserKey appName) with
  | mk result later =>
      cases result with
      | error error =>
          rw [FIRAuth.initWithAPIKey_of_unreadable read]
          exact fun signedIn => absurd rfl signedIn
      | ok data =>
          rw [FIRAuth.initWithAPIKey_of_read read]
          cases archived : data.bind
              (FIRAuth.unarchive (FIRAuth.kUserKey appName).name) with
          | none => exact fun signedIn => absurd rfl signedIn
          | some user =>
              obtain ⟨_, -, unarchived⟩ := Option.bind_eq_some_iff.mp archived
              obtain ⟨_, -, read⟩ := Option.bind_eq_some_iff.mp unarchived
              intro _
              exact (FIRUser.archivable_of_initWithCoder read).1

theorem launch_linked (refusals : Refusals) (APIKey appName : String)
    (keychain : FIRAuthKeychain ArchivedUser)
    (token : Option AccessToken) :
    Linked (launch refusals APIKey appName keychain token).1 := by
  refine ⟨App.launch_wellFormed _ _, ?_, FIRAuth.initWithAPIKey_settled,
    initWithAPIKey_named refusals APIKey appName keychain, rfl⟩
  simp only [launch]
  cases (FIRAuth.initWithAPIKey refusals APIKey appName
      keychain).1.currentUser with
  | none => rfl
  | some user =>
      show (App.launch (some (seen user)) token).1.currentUser = _
      rw [App.launch_of_signedIn]
      rfl

section Runs

variable {required : App.State → App.Action → Prop}
variable {actions : List Action} {events : List Event} {device : State}

theorem LaunchedUnder.linked
    (launched : LaunchedUnder (simulation.Under required) actions events
      device) : Linked device := by
  rcases launched with
    ⟨refusals, APIKey, appName, keychain, token, later, run, -⟩
  exact (simulation.run
    (launch_linked refusals APIKey appName keychain token) run).1

/-- The run of the app that can be seen in a run on a device. -/
theorem LaunchedUnder.app
    (launched : LaunchedUnder (simulation.Under required) actions events
      device) :
    ∃ moves, App.LaunchedUnder required moves
      (events.filterMap Event.shown?) device.app := by
  rcases launched with
    ⟨refusals, APIKey, appName, keychain, token, later, run, rfl⟩
  obtain ⟨-, moves, ran⟩ := simulation.run
    (launch_linked refusals APIKey appName keychain token) run
  refine ⟨moves, _, token, later.filterMap Event.shown?, ran, ?_⟩
  simp only [launch, List.filterMap_append, shown_posted, shown_app,
    List.nil_append]

/--
A run on a device in which every account is known is a run of the app that
shows the same, with the replies of Firebase where its flows call back.
-/
theorem device_runs_app
    (launched : LaunchedUnder (simulation.Under required) actions events
      device) :
    Linked device ∧ ∃ moves,
      App.LaunchedUnder required moves (events.filterMap Event.shown?)
        device.app :=
  ⟨launched.linked, launched.app⟩

end Runs

set_option maxRecDepth 4000 in
/-- A guest session. -/
theorem device_runs_app_guest :
    ∃ events device,
      LaunchedUnder (simulation.Under fun _ _ => True) guestSignIn events
          device ∧
        device.app.top? = some (.menu (.fresh 0)) ∧
        ∃ moves, App.Launched moves (events.filterMap Event.shown?)
          device.app := by
  have passes : (exec step (simulation.Under fun _ _ => True) installed
      guestSignIn).any (fun turn =>
        turn.1.app.top? == some (.menu (.fresh 0))) = true := by
    decide
  rcases launched_of_any (fun device =>
      device.app.top? == some (.menu (.fresh 0))) passes with
    ⟨events, device, launched, checked⟩
  exact ⟨events, device, launched, eq_of_beq checked,
    (device_runs_app launched).2⟩

end BandBPools.Device
