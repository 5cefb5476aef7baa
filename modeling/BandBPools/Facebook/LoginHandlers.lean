import BandBPools.Facebook.LoginMoves
import BandBPools.Transition.Ledger

/-!
# Every handler is called at most once

A tap on a login button hands a handler over to the manager of the button, and
an error's recovery to a manager of its own.  Logins are cancelled, fail, are
validated and come back through URLs, sessions and Graph requests, in any order
and with several managers at work.  Whatever happens, a handler is called at
most once.

A handler can be lost: a manager that has just cancelled a login, or one whose
session was dismissed without a word, takes the next handler in the place of
the one it holds.  If no button is tapped in that situation, every handler is
called exactly once or is still held, as long as the process lives in which it
was taken.
-/

namespace BandBPools.Facebook

open BandBPools.Transition

/-- The handlers that the managers hold. -/
def FacebookSDK.ledger (sdk : FacebookSDK) : Ledger ManagerId where
  owed self := (sdk.managers self).handler
  next := sdk.nextHandler

namespace Event

/-- What an event enters into the ledger. -/
def entry? : Event → Option Entry
  | .taken handler => some (.taken handler)
  | .dropped handler => some (.waived handler)
  | .completed (some handler) _ => some (.discharged handler)
  | .launched _ => some .abandoned
  | _ => none

/-- Is a handler called? -/
def calls (handler : HandlerId) : Event → Bool
  | .completed held _ => held = some handler
  | _ => false

/-- Is a handler given up? -/
def drops (handler : HandlerId) : Event → Bool
  | .dropped held => held = handler
  | _ => false

end Event

theorem count_discharged (events : List Event) (handler : HandlerId) :
    (events.filterMap Event.entry?).count (.discharged handler) =
      events.countP (Event.calls handler) := by
  rw [List.count, List.countP_filterMap]
  congr 1
  funext event
  cases event with
  | completed held outcome =>
      cases held with
      | none => rfl
      | some held =>
          simp [Event.entry?, Event.calls, beq_eq_decide]
  | _ => rfl

theorem count_waived (events : List Event) (handler : HandlerId) :
    (events.filterMap Event.entry?).count (.waived handler) =
      events.countP (Event.drops handler) := by
  rw [List.count, List.countP_filterMap]
  congr 1
  funext event
  cases event with
  | dropped held => simp [Event.entry?, Event.drops, beq_eq_decide]
  | completed held outcome => cases held <;> rfl
  | _ => rfl

/-- The process in which a handler was taken has ended. -/
def LaunchedSince (events : List Event) (handler : HandlerId) : Prop :=
  ∃ before after cached, events = before ++ .taken handler :: after ∧
    .launched cached ∈ after

theorem abandoned_mem {events : List Event}
    (abandoned : Entry.abandoned ∈ events.filterMap Event.entry?) :
    ∃ cached, Event.launched cached ∈ events := by
  rcases List.mem_filterMap.mp abandoned with ⟨event, member, entered⟩
  cases event with
  | launched cached => exact ⟨cached, member⟩
  | completed held outcome => cases held <;> cases entered
  | _ => cases entered

theorem entry?_eq_taken {event : Event} {handler : HandlerId}
    (entered : event.entry? = some (.taken handler)) :
    event = .taken handler := by
  cases event with
  | taken other =>
      cases entered
      rfl
  | completed held outcome => cases held <;> cases entered
  | _ => cases entered

/-- The ledger abandons everything when the process ends. -/
theorem launchedSince_of_abandonedSince {events : List Event}
    {handler : HandlerId}
    (since : Ledger.AbandonedSince (events.filterMap Event.entry?)
      handler) :
    LaunchedSince events handler := by
  rcases since with ⟨before, after, split, abandoned⟩
  rcases List.filterMap_eq_append_iff.mp split with
    ⟨earlier, later, rfl, -, entered⟩
  rcases List.filterMap_eq_cons_iff.mp entered with
    ⟨between, event, rest, rfl, -, taken, entries⟩
  rw [← entries] at abandoned
  rcases abandoned_mem abandoned with ⟨cached, launched⟩
  refine ⟨earlier ++ between, rest, cached, ?_, launched⟩
  rw [entry?_eq_taken taken, List.append_assoc]

/-! ## Moves keep the ledger -/

theorem ledger_of_kept {before after : FacebookSDK}
    (kept : Kept before after) : after.ledger = before.ledger := by
  rw [FacebookSDK.ledger, kept.nextHandler]
  congr 1
  funext self
  exact kept.handler self

theorem ledger_modify (sdk : FacebookSDK) (self : ManagerId)
    (change : FBSDKLoginManager → FBSDKLoginManager) :
    (sdk.modify self change).ledger =
      ⟨Function.update sdk.ledger.owed self
        (change (sdk.managers self)).handler, sdk.nextHandler⟩ := by
  rw [FacebookSDK.ledger]
  congr 1
  funext other
  by_cases same : other = self
  · subst other
    simp [FacebookSDK.modify]
  · simp [FacebookSDK.modify, FacebookSDK.ledger, same]

/-- A manager calls the handler it holds, if it holds one. -/
theorem follows_settled (sdk : FacebookSDK) (self : ManagerId)
    (outcome : Outcome) :
    Trace LedgerStep sdk.ledger
      ([Event.completed (sdk.managers self).handler outcome].filterMap
        Event.entry?)
      (sdk.modify self FBSDKLoginManager.settled).ledger := by
  rw [ledger_modify]
  cases held : (sdk.managers self).handler with
  | some handler => exact .single (.discharge held)
  | none =>
      have same : Function.update sdk.ledger.owed self none =
          sdk.ledger.owed := by
        rw [← held]
        exact Function.update_eq_self self sdk.ledger.owed
      rw [FBSDKLoginManager.settled, same]
      exact .refl

theorem follows_finishLogIn (sdk : FacebookSDK) (self : ManagerId)
    (loginResult : FBSDKLoginManagerLoginResult) (inputs : Inputs) :
    Trace LedgerStep sdk.ledger
      ([Event.completed (sdk.managers self).handler
        (.ok loginResult)].filterMap Event.entry?)
      (FBSDKLoginManager.finishLogIn self loginResult inputs
        sdk).1.ledger := by
  rcases finishLogIn_fst self loginResult inputs sdk with ⟨cache, finished⟩
  rw [finished]
  exact follows_settled _ self (.ok loginResult)

theorem follows_launch (sdk : FacebookSDK) (expired : Bool)
    (inputs : Inputs) :
    Trace LedgerStep sdk.ledger
      ((FBSDKApplicationDelegate.launch expired inputs sdk).2.filterMap
        Event.entry?)
      (FBSDKApplicationDelegate.launch expired inputs sdk).1.ledger := by
  rcases launch_eq expired inputs sdk with ⟨cachedToken, cache, started⟩
  rw [started]
  exact .single (.abandon sdk.ledger)

theorem ledger_of_move {origin before after : FacebookSDK} {action : Action}
    {events : List Event} (move : Move origin action before events after) :
    Trace LedgerStep before.ledger (events.filterMap Event.entry?)
      after.ledger := by
  cases move with
  | kept kept =>
      rw [ledger_of_kept kept]
      exact .refl
  | ignored _ => exact .refl
  | dropped pressed performing held still =>
      rw [ledger_modify]
      exact .single (.waive still)
  | @taken _ self permissions free =>
      have after : (FBSDKLoginManager.takeHandler self permissions
          before).1.ledger =
            ⟨Function.update before.ledger.owed self
              (some before.nextHandler), before.nextHandler + 1⟩ := by
        have modified := ledger_modify before self fun manager =>
          { manager with
            handler := some before.nextHandler
            requestedPermissions := permissions }
        exact congrArg
          (fun ledger : Ledger ManagerId =>
            Ledger.mk ledger.owed (before.nextHandler + 1))
          modified
      rw [after]
      exact .single (.take free)
  | issued _ given => exact .refl
  | completed _ self tokenless => exact follows_settled _ self _
  | authenticated _ parameters => exact .refl
  | @granted _ self parameters loginResult token passed brought granted
      first =>
      have finished := follows_finishLogIn
        (FBSDKLoginManager.storeExpectedChallenge
          action.inputs.first.refusals none before)
        self loginResult action.inputs
      exact finished
  | validating self passed brought granted current => exact .refl
  | @reauthenticated id userID error inputs self currentToken loginResult
      answered awaited same =>
      have finished := follows_finishLogIn (origin.resume id) self
        loginResult action.inputs
      exact finished
  | loggedOut _ =>
      rcases setCurrentAccessToken_eq none action.inputs before with
        ⟨cache, set⟩
      rw [FBSDKLoginManager.logOut, set]
      exact .refl
  | failed _ tokenString error =>
      rcases processResultBody_eq tokenString error action.inputs before
        with ⟨token, cache, processed⟩
      rw [processed]
      exact .refl
  | expired _ => exact .refl
  | refreshed _ refresh =>
      rcases expectingCallbackComplete_eq refresh action.inputs before with
        ⟨cache, refreshed⟩
      rw [refreshed]
      exact .refl
  | launched _ expired => exact follows_launch before expired _
  | reinstalled _ => exact follows_launch before.reinstalled false _

/-! ## Handlers over whole runs -/

/-- What becomes of a handler that has been taken. -/
structure Accounted (events : List Event) (target : FacebookSDK)
    (handler : HandlerId) : Prop where
  once : events.countP (Event.calls handler) +
    events.countP (Event.drops handler) ≤ 1
  held : (∃ self, (target.managers self).handler = some handler) →
    events.countP (Event.calls handler) +
      events.countP (Event.drops handler) = 0
  settled : (∀ self, (target.managers self).handler ≠ some handler) →
    ¬ LaunchedSince events handler →
      events.countP (Event.calls handler) +
        events.countP (Event.drops handler) = 1

theorem accounted_of_balanced {start : Nat} {events : List Event}
    {target : FacebookSDK}
    (balanced : target.ledger.Balanced start
      (events.filterMap Event.entry?)) {handler : HandlerId}
    (took : Event.taken handler ∈ events) :
    Accounted events target handler := by
  have met : Ledger.met (events.filterMap Event.entry?) handler =
      events.countP (Event.calls handler) +
        events.countP (Event.drops handler) := by
    rw [Ledger.met, count_discharged, count_waived]
  have entered : Entry.taken handler ∈ events.filterMap Event.entry? :=
    List.mem_filterMap.mpr ⟨.taken handler, took, rfl⟩
  have counted := List.count_pos_iff.mpr entered
  rw [balanced.taken] at counted
  have range : start ≤ handler ∧ handler < target.ledger.next := by
    by_contra outside
    simp [outside] at counted
  by_cases isHeld : ∃ self, (target.managers self).handler = some handler
  · rcases isHeld with ⟨self, isHeld⟩
    have owes : target.ledger.owed self = some handler := isHeld
    have unmet := (balanced.owed owes).2
    rw [met] at unmet
    constructor
    · rw [unmet]
      exact Nat.zero_le 1
    · exact fun _ => unmet
    · intro notHeld
      exact absurd isHeld (notHeld self)
  · have notOwed : ∀ self, target.ledger.owed self ≠ some handler := by
      intro self owes
      exact isHeld ⟨self, owes⟩
    have settled := balanced.settled range.1 range.2 notOwed
    rw [met] at settled
    constructor
    · rcases settled with once | ⟨never, -⟩
      · exact Nat.le_of_eq once
      · rw [never]
        exact Nat.zero_le 1
    · intro held
      exact absurd held isHeld
    · intro notHeld stays
      rcases settled with once | ⟨-, abandoned⟩
      · exact once
      · exact absurd (launchedSince_of_abandonedSince abandoned) stays

/-- The ledger of a run from managers that hold no handler is balanced. -/
theorem balanced_of_run {condition : FacebookSDK → Action → Prop}
    {source target : FacebookSDK} {actions : List Action}
    {events : List Event}
    (idle : ∀ self, (source.managers self).handler = none)
    (run : RunUnder step condition source actions events target) :
    target.ledger.Balanced source.nextHandler
      (events.filterMap Event.entry?) := by
  have blank : source.ledger = .blank ManagerId source.nextHandler := by
    rw [FacebookSDK.ledger, Ledger.blank]
    congr 1
    funext self
    exact idle self
  have trace : Trace LedgerStep source.ledger
      (events.filterMap Event.entry?) target.ledger :=
    (moves_of_run run).follow fun _ _ _ any => by
      rcases any with ⟨origin, action, -, move⟩
      exact ledger_of_move move
  rw [blank] at trace
  exact Ledger.balanced_of_trace trace

/-- A button is tapped only while its manager holds no handler, or performs the
login of the one it holds. -/
def Patient (sdk : FacebookSDK) : Action → Prop
  | .buttonPressed self _ _ =>
      (sdk.managers (.button self)).handler = none ∨
        (sdk.managers (.button self)).state = .performingLogin
  | _ => True

instance (sdk : FacebookSDK) : DecidablePred (Patient sdk)
  | .buttonPressed self _ _ =>
      inferInstanceAs (Decidable
        ((sdk.managers (.button self)).handler = none ∨
          (sdk.managers (.button self)).state = .performingLogin))
  | .launch _ _ _ | .reinstall _ | .openURL _ _ _ | .didBecomeActive _
  | .didEnterBackground _ | .answer _ _ _ | .logOut _ | .graphError _ _ _
  | .attemptRecovery _ _ _ | .tokenExpires _ | .tokenRefreshed _ _ =>
      inferInstanceAs (Decidable True)

theorem not_dropped_of_patient {origin before after : FacebookSDK}
    {action : Action} {events : List Event} (patient : Patient origin action)
    (move : Move origin action before events after) (handler : HandlerId) :
    .dropped handler ∉ events := by
  intro member
  cases move with
  | dropped pressed performing held still =>
      subst pressed
      rcases patient with free | performs
      · rw [free] at held
        cases held
      · exact performing performs
  | launched _ expired =>
      rcases launch_eq expired action.inputs before with
        ⟨cachedToken, cache, started⟩
      rw [started] at member
      simp at member
  | reinstalled _ =>
      rcases launch_eq false action.inputs before.reinstalled with
        ⟨cachedToken, cache, started⟩
      rw [started] at member
      simp at member
  | _ => simp at member

theorem not_dropped_of_trace {source target : FacebookSDK}
    {events : List Event}
    (trace : Trace (AnyMove Patient) source events target)
    (handler : HandlerId) : .dropped handler ∉ events := by
  induction trace with
  | refl => simp
  | snoc trace next induction =>
      rcases next with ⟨origin, action, patient, move⟩
      rw [List.mem_append]
      rintro (earlier | now)
      · exact induction earlier
      · exact not_dropped_of_patient patient move handler now

end BandBPools.Facebook
