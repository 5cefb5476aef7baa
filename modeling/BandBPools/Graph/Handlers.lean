import BandBPools.Graph.Moves
import BandBPools.Tables.Total

/-!
# The handlers of requests

What is waited for carries weight: each request that it is waited for with
weighs something.  Weighed by the handlers that are still to be called, no
step adds or loses anything, so every handler that a client gives is called
once, unless it is still waited for.  Weighed by the recoveries that are still
possible, only clients add anything, so a request is sent at most twice.
-/

namespace BandBPools.Graph

open BandBPools.Tables
open BandBPools.Transition

/-! ## Weighing what is waited for -/

/-- The weight of what is waited for. -/
def Pending.weight (weight : FBSDKGraphRequestMetadata → Nat)
    (pending : Pending) : Nat :=
  (pending.requests.map weight).sum

/-- The weight of all that is waited for. -/
def State.weight (weight : FBSDKGraphRequestMetadata → Nat)
    (state : State) : Nat :=
  total (Pending.weight weight) state.pending

/-- Together with the requests in hand. -/
def Hand.weight (weight : FBSDKGraphRequestMetadata → Nat) (hand : Hand) :
    Nat :=
  hand.1.weight weight + (hand.2.map weight).sum

/-- Numbers are given out in order. -/
def State.Numbered (state : State) : Prop :=
  ∀ id, state.at? id ≠ none → id < state.nextPending

variable {weight : FBSDKGraphRequestMetadata → Nat}
variable {answering : Answering}
variable {state next : State}

theorem weight_resume {id : PendingId} {pending : Pending}
    (found : state.at? id = some pending) :
    (state.resume id).weight weight + pending.weight weight =
      state.weight weight :=
  total_erase _ found

theorem weight_await (numbered : state.Numbered) (pending : Pending) :
    (state.await pending).weight weight =
      state.weight weight + pending.weight weight := by
  have absent : state.pending.lookup state.nextPending = none := by
    by_contra found
    exact Nat.lt_irrefl _ (numbered _ found)
  exact total_insert_of_none _ absent pending

theorem numbered_await (numbered : state.Numbered) (pending : Pending) :
    (state.await pending).Numbered := by
  intro id found
  by_cases same : id = state.nextPending
  · rw [same]
    exact Nat.lt_succ_self _
  · rw [State.at?, State.await, AList.lookup_insert_ne same] at found
    exact Nat.lt_succ_of_lt (numbered id found)

theorem numbered_resume (numbered : state.Numbered) (id : PendingId) :
    (state.resume id).Numbered := by
  intro other found
  by_cases same : other = id
  · subst same
    rw [State.at?, State.resume, AList.lookup_erase] at found
    exact absurd rfl found
  · rw [State.at?, State.resume, AList.lookup_erase_ne same] at found
    exact numbered other found

/-- What is waited for, and the numbers, are the same. -/
structure SamePending (before after : State) : Prop where
  pending : after.pending = before.pending
  nextPending : after.nextPending = before.nextPending

namespace SamePending

theorem refl (state : State) : SamePending state state :=
  ⟨rfl, rfl⟩

theorem weight_eq (same : SamePending state next) :
    next.weight weight = state.weight weight := by
  rw [State.weight, State.weight, same.pending]

theorem numbered (same : SamePending state next)
    (numbered : state.Numbered) : next.Numbered := by
  intro id found
  rw [State.at?, same.pending] at found
  rw [same.nextPending]
  exact numbered id found

theorem trans {last : State} (first : SamePending state next)
    (second : SamePending next last) : SamePending state last :=
  ⟨second.pending.trans first.pending,
    second.nextPending.trans first.nextPending⟩

end SamePending

theorem samePending_setCurrentAccessToken (token : Option FBSDKAccessToken)
    (state : State) :
    SamePending state (FBSDKAccessToken.setCurrentAccessToken token state) :=
  ⟨rfl, rfl⟩

theorem samePending_clearToken (errorSubcode : Int)
    (request : FBSDKGraphRequest) (now : Int) (state : State) :
    SamePending state (FBSDKGraphRequestConnection.clearToken errorSubcode
      request now state) := by
  rcases clearToken_cases errorSubcode request now state with
    same | gone | ⟨token, -, expired⟩
  · rw [same]
    exact .refl state
  · rw [gone]
    exact samePending_setCurrentAccessToken none state
  · rw [expired]
    exact samePending_setCurrentAccessToken _ state

namespace FBSDKGraphRequestPiggybackManager

theorem samePending_expectingCallbackComplete (now : Int) (id : RefreshId)
    (state : State) :
    SamePending state (expectingCallbackComplete now id state) := by
  rcases expectingCallbackComplete_cases now id state with
    ⟨count, counted | ⟨token, -, -, refreshed⟩⟩
  · rw [counted]
    exact ⟨rfl, rfl⟩
  · rw [refreshed]
    exact ⟨rfl, rfl⟩

theorem samePending_extended (now : Int) (id : RefreshId)
    (body : Option Body) (state : State) :
    SamePending state (extended now id body state) := by
  have completes := samePending_expectingCallbackComplete now id
    { state with
      refreshes := Function.update state.refreshes id
        { state.refreshes id with
          tokenString := body.bind Body.access_token
          expirationDateNumber := body.bind Body.expires_at
          dataAccessExpirationDateNumber :=
            body.bind Body.data_access_expiration_time } }
  exact ⟨completes.pending, completes.nextPending⟩

theorem samePending_permitted (now : Int) (id : RefreshId)
    (body : Option Body) (error : Option NSError) (state : State) :
    SamePending state (permitted now id body error state) := by
  apply SamePending.trans ?_ (samePending_expectingCallbackComplete now id _)
  split <;> exact ⟨rfl, rfl⟩

/-- A request that is sent along. -/
structure IsOwn (metadata : FBSDKGraphRequestMetadata) : Prop where
  disabled : metadata.request.graphErrorRecoveryDisabled = true
  handler : (∃ id, metadata.completionHandler = .extend id) ∨
    (∃ id, metadata.completionHandler = .permissions id) ∨
    metadata.completionHandler = .serverConfiguration

variable (requests : List FBSDKGraphRequestMetadata) (inputs : Inputs)

theorem isOwn_of_mem_refresh {metadata : FBSDKGraphRequestMetadata}
    (member : metadata ∈ (addRefreshPiggybackIfStale inputs state).1) :
    IsOwn metadata := by
  unfold addRefreshPiggybackIfStale at member
  split at member
  · cases member
  · split at member
    · rcases List.mem_pair.mp member with same | same
      · rw [same]
        exact ⟨rfl, Or.inl ⟨_, rfl⟩⟩
      · rw [same]
        exact ⟨rfl, Or.inr (Or.inl ⟨_, rfl⟩)⟩
    · cases member

theorem isOwn_of_mem {metadata : FBSDKGraphRequestMetadata}
    (member : metadata ∈ (addPiggybackRequests requests inputs state).1) :
    IsOwn metadata := by
  unfold addPiggybackRequests at member
  split at member
  · rcases List.mem_append.mp member with refreshes | configures
    · exact isOwn_of_mem_refresh inputs refreshes
    · unfold addServerConfigurationPiggyback at configures
      split at configures
      · rw [List.mem_singleton.mp configures]
        exact ⟨rfl, Or.inr (Or.inr rfl)⟩
      · cases configures
  · cases member

theorem samePending_addPiggybackRequests (state : State) :
    SamePending state (addPiggybackRequests requests inputs state).2.1 := by
  rcases addPiggybackRequests_cases requests inputs state with
    ⟨same, -⟩ | ⟨token, -, -, refreshes⟩
  · rw [same]
    exact .refl state
  · rw [refreshes]
    exact ⟨rfl, rfl⟩

/-- Requests that are sent along show nothing but a refresh. -/
theorem refreshing_of_mem {event : Event}
    (member : event ∈ (addPiggybackRequests requests inputs state).2.2) :
    event = .refreshing inputs.now := by
  rcases addPiggybackRequests_cases requests inputs state with
    ⟨-, silent⟩ | ⟨token, -, -, refreshes⟩
  · rw [silent] at member
    cases member
  · rw [refreshes] at member
    exact List.mem_singleton.mp member

end FBSDKGraphRequestPiggybackManager

open FBSDKGraphRequestPiggybackManager

/-- The weight of a connection that is started is that of its requests, where
what is sent along weighs nothing. -/
theorem weight_start (own : ∀ metadata, IsOwn metadata → weight metadata = 0)
    (numbered : state.Numbered) (requests : List FBSDKGraphRequestMetadata)
    (inputs : Inputs) :
    (FBSDKGraphRequestConnection.start requests inputs state).1.Numbered ∧
      (FBSDKGraphRequestConnection.start requests inputs state).1.weight
          weight =
        state.weight weight + (requests.map weight).sum := by
  have same := samePending_addPiggybackRequests requests inputs state
  have light : ((addPiggybackRequests requests inputs state).1.map
      weight).sum = 0 := by
    apply List.sum_eq_zero_iff_forall_eq_nat.mpr
    intro amount member
    rcases List.mem_map.mp member with ⟨metadata, member, weighs⟩
    rw [← weighs]
    exact own metadata (isOwn_of_mem requests inputs member)
  constructor
  · exact numbered_await (same.numbered numbered) _
  · change (State.await _ _).weight weight = _
    rw [weight_await (same.numbered numbered), same.weight_eq,
      Pending.weight, Pending.requests, List.map_append, List.sum_append,
      light, Nat.add_zero]

/-! ## Weighing hands -/

theorem weight_pair (state : State) (held : List FBSDKGraphRequestMetadata) :
    Hand.weight weight (state, held) =
      state.weight weight + (held.map weight).sum :=
  rfl

@[simp]
theorem weight_cons (state : State) (metadata : FBSDKGraphRequestMetadata)
    (held : List FBSDKGraphRequestMetadata) :
    Hand.weight weight (state, metadata :: held) =
      weight metadata + Hand.weight weight (state, held) := by
  rw [weight_pair, weight_pair, List.map_cons, List.sum_cons,
    Nat.add_left_comm]

theorem weight_of_samePending (same : SamePending state next)
    (held : List FBSDKGraphRequestMetadata) :
    Hand.weight weight (next, held) = Hand.weight weight (state, held) := by
  rw [weight_pair, weight_pair, same.weight_eq]

theorem weight_taken {id : PendingId} {pending : Pending}
    (found : state.at? id = some pending)
    (held : List FBSDKGraphRequestMetadata) :
    Hand.weight weight (state.resume id, pending.requests ++ held) =
      Hand.weight weight (state, held) := by
  rw [weight_pair, weight_pair, ← weight_resume found, Pending.weight,
    List.map_append, List.sum_append, Nat.add_assoc]

theorem weight_waits (numbered : state.Numbered) {pending : Pending}
    {metadata : FBSDKGraphRequestMetadata}
    (single : pending.requests = [metadata])
    (held : List FBSDKGraphRequestMetadata) :
    Hand.weight weight (state.await pending, held) =
      Hand.weight weight (state, metadata :: held) := by
  rw [weight_cons, weight_pair, weight_pair, weight_await numbered,
    Pending.weight, single, List.map_singleton, List.sum_singleton]
  omega

theorem weight_retried (own : ∀ metadata, IsOwn metadata → weight metadata = 0)
    (numbered : state.Numbered) (metadata : FBSDKGraphRequestMetadata)
    (inputs : Inputs) (held : List FBSDKGraphRequestMetadata) :
    Hand.weight weight
        ((FBSDKGraphRequestConnection.start [metadata] inputs state).1,
          held) =
      Hand.weight weight (state, metadata :: held) := by
  rw [weight_cons, weight_pair, weight_pair,
    (weight_start own numbered [metadata] inputs).2, List.map_singleton,
    List.sum_singleton]
  omega

/-- Numbers stay in order. -/
theorem numbered_of_move {action : Action} {before after : Hand}
    {events : List Event} (numbered : before.1.Numbered)
    (move : Move answering action before events after) : after.1.Numbered := by
  cases move with
  | taken waits found => exact numbered_resume numbered _
  | retried state held metadata inputs =>
      have none : ∀ metadata : FBSDKGraphRequestMetadata,
          IsOwn metadata → (fun _ => 0) metadata = 0 := fun _ _ => rfl
      exact (weight_start none numbered _ inputs).1
  | waits single answered => exact numbered_await numbered _
  | extended now answered =>
      exact (samePending_extended now _ _ _).numbered numbered
  | permitted now error answered =>
      exact (samePending_permitted now _ _ error _).numbered numbered
  | cleared current errorSubcode now =>
      exact (samePending_clearToken errorSubcode _ now _).numbered numbered
  | set sets => exact numbered
  | loaded configuration => exact numbered
  | _ => exact numbered

/-! ## Every handler is called once -/

/-- The client's handler that is called in the end. -/
def FBSDKGraphRequestHandler.client? :
    FBSDKGraphRequestHandler → Option HandlerId
  | .client id => some id
  | .retried _ completionHandler => completionHandler.client?
  | .extend _ | .permissions _ | .serverConfiguration => none

/-- Is a handler to be called with the answer to a request? -/
def owes (handler : HandlerId) (metadata : FBSDKGraphRequestMetadata) : Nat :=
  if metadata.completionHandler.client? = some handler then 1 else 0

/-- Is a handler called? -/
def Event.calls (handler : HandlerId) : Event → Bool
  | .called id _ _ => id = handler
  | _ => false

/-- How often a handler is given to a connection. -/
def Action.gives (handler : HandlerId) : Action → Nat
  | .start requests _ => requests.countP fun request => request.2 = handler
  | _ => 0

theorem owes_of_isOwn (handler : HandlerId)
    {metadata : FBSDKGraphRequestMetadata} (own : IsOwn metadata) :
    owes handler metadata = 0 := by
  unfold owes
  rcases own.handler with ⟨id, same⟩ | ⟨id, same⟩ | same <;>
    simp [same, FBSDKGraphRequestHandler.client?]

theorem sum_owes_added (handler : HandlerId)
    (requests : List (FBSDKGraphRequest × HandlerId)) :
    ((added requests).map (owes handler)).sum =
      requests.countP fun request => request.2 = handler := by
  induction requests with
  | nil => rfl
  | cons request rest induction =>
      have first : owes handler ⟨request.1, .client request.2⟩ =
          if request.2 = handler then 1 else 0 := by
        simp [owes, FBSDKGraphRequestHandler.client?]
      rw [List.countP_cons, ← induction, Nat.add_comm]
      simp [added, first]

/-- A connection that is started calls no handler. -/
theorem countP_calls_start (handler : HandlerId)
    (requests : List FBSDKGraphRequestMetadata) (inputs : Inputs) :
    (FBSDKGraphRequestConnection.start requests inputs state).2.countP
      (Event.calls handler) = 0 := by
  rw [List.countP_eq_zero]
  intro event member
  rcases List.mem_cons.mp member with same | refreshes
  · rw [same]
    exact Bool.false_ne_true
  · rw [refreshing_of_mem requests inputs refreshes]
    exact Bool.false_ne_true

/-- A move calls a handler exactly when it stops to owe it. -/
theorem owes_of_move (handler : HandlerId) {action : Action}
    {before after : Hand} {events : List Event}
    (numbered : before.1.Numbered)
    (move : Move answering action before events after) :
    events.countP (Event.calls handler) + after.weight (owes handler) =
      before.weight (owes handler) := by
  have weightless : ∀ {request : FBSDKGraphRequest}
      {completionHandler : FBSDKGraphRequestHandler},
      completionHandler.client? = none →
        owes handler ⟨request, completionHandler⟩ = 0 := by
    intro request completionHandler none
    simp [owes, none]
  cases move with
  | taken waits found =>
      rw [weight_taken found, List.countP_nil, Nat.zero_add]
  | retried state held metadata inputs =>
      have own : ∀ metadata, IsOwn metadata → owes handler metadata = 0 :=
        fun _ => owes_of_isOwn handler
      have same : owes handler
          (FBSDKGraphRequestConnection.retryMetadata metadata state) =
            owes handler metadata.toFBSDKGraphRequestMetadata := rfl
      rw [countP_calls_start, weight_retried own numbered, weight_cons,
        weight_cons, same, Nat.zero_add]
  | waits single answered =>
      rw [weight_waits numbered single, List.countP_nil, Nat.zero_add]
  | unwrapped => exact Nat.zero_add _
  | @called state held request id body error answered =>
      have once : [Event.called id body error].countP (Event.calls handler) =
          owes handler ⟨request, .client id⟩ := by
        by_cases same : id = handler <;>
          simp [owes, Event.calls, FBSDKGraphRequestHandler.client?, same]
      rw [weight_cons, once]
  | extended now answered =>
      rw [weight_cons, weight_of_samePending (samePending_extended now _ _ _),
        weightless rfl]
      rfl
  | permitted now error answered =>
      rw [weight_cons,
        weight_of_samePending (samePending_permitted now _ _ error _),
        weightless rfl]
      rfl
  | configured =>
      rw [weight_cons, weightless rfl]
      rfl
  | cleared current errorSubcode now =>
      rw [weight_of_samePending (samePending_clearToken errorSubcode _ now _)]
      exact Nat.zero_add _
  | presented hand message => exact Nat.zero_add _
  | set sets => exact Nat.zero_add _
  | loaded configuration => exact Nat.zero_add _

theorem owes_of_moves (handler : HandlerId) {action : Action}
    {before after : Hand} {events : List Event}
    (numbered : before.1.Numbered)
    (moves : Moves answering action before events after) :
    after.1.Numbered ∧
      events.countP (Event.calls handler) + after.weight (owes handler) =
        before.weight (owes handler) := by
  induction moves with
  | refl => exact ⟨numbered, Nat.zero_add _⟩
  | snoc moves move induction =>
      rcases induction with ⟨numbered, balance⟩
      have moved := owes_of_move handler numbered move
      constructor
      · exact numbered_of_move numbered move
      · rw [List.countP_append, Nat.add_assoc, moved, balance]

theorem owes_of_step (handler : HandlerId) {action : Action}
    {events : List Event} (numbered : state.Numbered)
    (taken : step state action = some (next, events)) :
    next.Numbered ∧
      events.countP (Event.calls handler) + next.weight (owes handler) =
        state.weight (owes handler) + action.gives handler := by
  rcases step_cases (fun _ pending _ _ => pending.answeredBy_any _ _)
    taken with
    ⟨requests, inputs, rfl, started⟩ | ⟨other, moves⟩
  · have starts := weight_start (fun _ => owes_of_isOwn handler) numbered
      (added requests) inputs
    have silent : (FBSDKGraphRequestConnection.start (added requests) inputs
        state).2.countP (Event.calls handler) = 0 :=
      countP_calls_start handler (added requests) inputs
    rw [started] at starts silent
    constructor
    · exact starts.1
    · rw [silent, starts.2, sum_owes_added, Nat.zero_add]
      rfl
  · have moved := owes_of_moves handler numbered moves
    have none : action.gives handler = 0 := by
      cases action with
      | start requests inputs => exact absurd rfl (other requests inputs)
      | _ => rfl
    constructor
    · exact moved.1
    · rw [none]
      exact moved.2

theorem numbered_launched (appID : String)
    (token : Option FBSDKAccessToken) : (launched appID token).Numbered := by
  intro id found
  exact absurd rfl found

/-- Over every run of a process, a handler has been called as often as it was
given to a connection, except for the requests that still wait. -/
theorem called_or_waited_for {condition : State → Action → Prop}
    {appID : String} {token : Option FBSDKAccessToken} {target : State}
    {actions : List Action} {events : List Event}
    (run : RunUnder step condition (launched appID token) actions events
      target) (handler : HandlerId) :
    events.countP (Event.calls handler) + target.weight (owes handler) =
      (actions.map (Action.gives handler)).sum := by
  have balanced : target.Numbered ∧
      events.countP (Event.calls handler) + target.weight (owes handler) =
        (actions.map (Action.gives handler)).sum := by
    induction run with
    | refl => exact ⟨numbered_launched appID token, rfl⟩
    | snoc run meets taken induction =>
        rcases induction with ⟨numbered, balance⟩
        have stepped := owes_of_step handler numbered taken
        constructor
        · exact stepped.1
        · rw [List.countP_append, List.map_append, List.sum_append, ← balance,
            Nat.add_assoc, stepped.2, List.map_singleton, List.sum_singleton,
            Nat.add_assoc]
  exact balanced.2

/-- The request of `showEmailAddress`, for a token. -/
def meRequest (tokenString : String) : FBSDKGraphRequest where
  graphPath := "/me"
  tokenString := some tokenString
  version := "v3.2"
  hasAttachments := false
  graphErrorRecoveryDisabled := false
  doNotInvalidateTokenOnError := false

/-- An error with a code that the server calls transient. -/
def transientError : ErrorDictionary where
  code := some 2
  error_subcode := none
  message := some "Please retry your request later."
  error_msg := none
  error_reason := none
  error_user_title := none
  error_user_msg := none
  is_transient := true
  type := some "OAuthException"

/-- A body without anything that is read. -/
def plainBody : Body where
  error := none
  access_token := none
  expires_at := none
  data_access_expiration_time := none
  data := []

/-- A request that is answered when it has been sent a second time. -/
def retriedOnce : List Action :=
  [.start [(meRequest "token", 0)] ⟨0, false⟩,
    .respond 0 (.json 500
      (.dictionary { plainBody with error := some transientError }))
      ⟨1, false⟩,
    .respond 1 (.json 200 (.dictionary plainBody)) ⟨2, false⟩]

/-- The handler of a request that is sent twice is called once. -/
theorem called_or_waited_for_retried :
    ∃ events target,
      Run step (launched "appID" none) retriedOnce events target ∧
        events.countP (Event.calls 0) = 1 ∧
        events.countP (Event.calls 0) + target.weight (owes 0) =
          (retriedOnce.map (Action.gives 0)).sum := by
  have passes : (exec step (fun _ _ => True) (launched "appID" none)
      retriedOnce).any (fun turn =>
        turn.2.countP (Event.calls 0) == 1) = true := by
    decide
  rcases run_of_any passes with ⟨events, target, run, once⟩
  exact ⟨events, target, run, beq_iff_eq.mp once,
    called_or_waited_for run 0⟩

/-! ## A request is sent at most twice -/

/-- May a request be sent once more? -/
def FBSDKGraphRequest.chances (request : FBSDKGraphRequest) : Nat :=
  if request.graphErrorRecoveryDisabled then 0 else 1

/-- The requests that a handler waits for. -/
def FBSDKGraphRequestHandler.chances : FBSDKGraphRequestHandler → Nat
  | .retried request completionHandler =>
      request.chances + completionHandler.chances
  | .client _ | .extend _ | .permissions _ | .serverConfiguration => 0

/-- How often a request may still be sent before a handler is called. -/
def chances (handler : HandlerId) (metadata : FBSDKGraphRequestMetadata) :
    Nat :=
  owes handler metadata *
    (metadata.request.chances + metadata.completionHandler.chances)

/-- How many requests are sent for a handler. -/
def Event.sends (handler : HandlerId) : Event → Nat
  | .sent requests => (requests.map (owes handler)).sum
  | _ => 0

/-- How many of the requests that are given with a handler may be sent once
more. -/
def Action.mayRetry (handler : HandlerId) : Action → Nat
  | .start requests _ => requests.countP fun request =>
      request.2 = handler ∧ request.1.graphErrorRecoveryDisabled = false
  | _ => 0

theorem chances_of_isOwn (handler : HandlerId)
    {metadata : FBSDKGraphRequestMetadata} (own : IsOwn metadata) :
    chances handler metadata = 0 := by
  rw [chances, owes_of_isOwn handler own, Nat.zero_mul]

theorem sum_chances_added (handler : HandlerId)
    (requests : List (FBSDKGraphRequest × HandlerId)) (inputs : Inputs) :
    ((added requests).map (chances handler)).sum =
      (Action.start requests inputs).mayRetry handler := by
  induction requests with
  | nil => rfl
  | cons request rest induction =>
      have first : chances handler ⟨request.1, .client request.2⟩ =
          if request.2 = handler ∧
            request.1.graphErrorRecoveryDisabled = false then 1 else 0 := by
        by_cases same : request.2 = handler <;>
          cases disabled : request.1.graphErrorRecoveryDisabled <;>
            simp [chances, owes, FBSDKGraphRequestHandler.client?,
              FBSDKGraphRequest.chances, FBSDKGraphRequestHandler.chances,
              same, disabled]
      rw [Action.mayRetry] at induction ⊢
      rw [List.countP_cons, ← induction, Nat.add_comm]
      simp [added, first]

/-- A connection that is started sends its requests for their handlers. -/
theorem sum_sends_start (handler : HandlerId)
    (requests : List FBSDKGraphRequestMetadata) (inputs : Inputs) :
    ((FBSDKGraphRequestConnection.start requests inputs state).2.map
      (Event.sends handler)).sum = (requests.map (owes handler)).sum := by
  have light : ((addPiggybackRequests requests inputs state).1.map
      (owes handler)).sum = 0 := by
    apply List.sum_eq_zero_iff_forall_eq_nat.mpr
    intro amount member
    rcases List.mem_map.mp member with ⟨metadata, member, weighs⟩
    rw [← weighs]
    exact owes_of_isOwn handler (isOwn_of_mem requests inputs member)
  have silent : ((addPiggybackRequests requests inputs state).2.2.map
      (Event.sends handler)).sum = 0 := by
    apply List.sum_eq_zero_iff_forall_eq_nat.mpr
    intro amount member
    rcases List.mem_map.mp member with ⟨event, member, weighs⟩
    rw [← weighs, refreshing_of_mem requests inputs member]
    rfl
  have first : Event.sends handler (.sent (requests ++
      (addPiggybackRequests requests inputs state).1)) =
        (requests.map (owes handler)).sum := by
    rw [Event.sends, List.map_append, List.sum_append, light, Nat.add_zero]
  rw [FBSDKGraphRequestConnection.start, List.map_cons, List.sum_cons, first,
    silent, Nat.add_zero]

/-- A move that sends a request for a handler takes a chance. -/
theorem chances_of_move (handler : HandlerId) {action : Action}
    {before after : Hand} {events : List Event}
    (numbered : before.1.Numbered)
    (move : Move answering action before events after) :
    (events.map (Event.sends handler)).sum +
        after.weight (chances handler) ≤
      before.weight (chances handler) := by
  have own : ∀ metadata, IsOwn metadata → chances handler metadata = 0 :=
    fun _ => chances_of_isOwn handler
  cases move with
  | taken waits found =>
      rw [weight_taken found]
      exact Nat.le_of_eq (Nat.zero_add _)
  | retried state held metadata inputs =>
      have taken : owes handler metadata.toFBSDKGraphRequestMetadata +
          chances handler (FBSDKGraphRequestConnection.retryMetadata metadata
            state) =
            chances handler metadata.toFBSDKGraphRequestMetadata := by
        have recovers : metadata.request.chances = 1 := by
          rw [FBSDKGraphRequest.chances, metadata.recoverable]
          rfl
        have same : owes handler (FBSDKGraphRequestConnection.retryMetadata
            metadata state) =
              owes handler metadata.toFBSDKGraphRequestMetadata := rfl
        have left : (FBSDKGraphRequestConnection.retryRequest
              metadata.request state).chances +
            FBSDKGraphRequestHandler.chances (.retried
              (FBSDKGraphRequestConnection.retryRequest metadata.request
                state) metadata.completionHandler) =
              metadata.completionHandler.chances :=
          (Nat.zero_add _).trans (Nat.zero_add _)
        rw [chances, chances, same, FBSDKGraphRequestConnection.retryMetadata,
          left, recovers, Nat.mul_add, Nat.mul_one]
      rw [sum_sends_start, weight_retried own numbered, weight_cons,
        weight_cons, List.map_singleton, List.sum_singleton, ← Nat.add_assoc]
      exact Nat.le_of_eq (congrArg (· + _) taken)
  | waits single answered =>
      rw [weight_waits numbered single]
      exact Nat.le_of_eq (Nat.zero_add _)
  | @unwrapped state held request inner completionHandler =>
      have fewer : chances handler ⟨inner, completionHandler⟩ ≤
          chances handler ⟨request, .retried inner completionHandler⟩ := by
        apply Nat.mul_le_mul_left
        exact Nat.le_add_left _ _
      rw [weight_cons, weight_cons]
      simp only [List.map_nil, List.sum_nil]
      omega
  | called error answered =>
      rw [weight_cons]
      simp [Event.sends]
  | extended now answered =>
      rw [weight_cons,
        weight_of_samePending (samePending_extended now _ _ _)]
      simp
  | permitted now error answered =>
      rw [weight_cons,
        weight_of_samePending (samePending_permitted now _ _ error _)]
      simp
  | configured =>
      rw [weight_cons]
      simp
  | cleared current errorSubcode now =>
      rw [weight_of_samePending (samePending_clearToken errorSubcode _ now _)]
      exact Nat.le_of_eq (Nat.zero_add _)
  | presented hand message => exact Nat.le_of_eq (Nat.zero_add _)
  | set sets => exact Nat.le_of_eq (Nat.zero_add _)
  | loaded configuration => exact Nat.le_of_eq (Nat.zero_add _)

theorem chances_of_moves (handler : HandlerId) {action : Action}
    {before after : Hand} {events : List Event}
    (numbered : before.1.Numbered)
    (moves : Moves answering action before events after) :
    (events.map (Event.sends handler)).sum +
        after.weight (chances handler) ≤
      before.weight (chances handler) := by
  have bounded : after.1.Numbered ∧
      (events.map (Event.sends handler)).sum +
          after.weight (chances handler) ≤
        before.weight (chances handler) := by
    induction moves with
    | refl => exact ⟨numbered, Nat.le_of_eq (Nat.zero_add _)⟩
    | snoc moves move induction =>
        rcases induction with ⟨numbered, bound⟩
        have moved := chances_of_move handler numbered move
        constructor
        · exact numbered_of_move numbered move
        · rw [List.map_append, List.sum_append]
          omega
  exact bounded.2

theorem chances_of_step (handler : HandlerId) {action : Action}
    {events : List Event} (numbered : state.Numbered)
    (taken : step state action = some (next, events)) :
    (events.map (Event.sends handler)).sum + next.weight (chances handler) ≤
      state.weight (chances handler) + action.gives handler +
        action.mayRetry handler := by
  rcases step_cases (fun _ pending _ _ => pending.answeredBy_any _ _)
    taken with
    ⟨requests, inputs, rfl, started⟩ | ⟨-, moves⟩
  · have starts := (weight_start (fun _ => chances_of_isOwn handler) numbered
      (added requests) inputs).2
    have sends : ((FBSDKGraphRequestConnection.start (added requests) inputs
        state).2.map (Event.sends handler)).sum =
          ((added requests).map (owes handler)).sum :=
      sum_sends_start handler (added requests) inputs
    rw [started] at starts sends
    rw [sends, starts, sum_owes_added, sum_chances_added handler requests
      inputs, Action.gives]
    omega
  · have moved := chances_of_moves handler numbered moves
    have source : Hand.weight (chances handler) (state, []) =
        state.weight (chances handler) := rfl
    have target : Hand.weight (chances handler) (next, []) =
        next.weight (chances handler) := rfl
    omega

/-- Over every run of a process, the requests that are sent for a handler are
at most those that it was given with, and once more those of them from whose
errors one may recover. -/
theorem sent_at_most_twice {condition : State → Action → Prop}
    {appID : String} {token : Option FBSDKAccessToken} {target : State}
    {actions : List Action} {events : List Event}
    (run : RunUnder step condition (launched appID token) actions events
      target) (handler : HandlerId) :
    (events.map (Event.sends handler)).sum +
        target.weight (chances handler) ≤
      (actions.map (Action.gives handler)).sum +
        (actions.map (Action.mayRetry handler)).sum := by
  have bounded : target.Numbered ∧
      (events.map (Event.sends handler)).sum +
          target.weight (chances handler) ≤
        (actions.map (Action.gives handler)).sum +
          (actions.map (Action.mayRetry handler)).sum := by
    induction run with
    | refl => exact ⟨numbered_launched appID token, Nat.le_refl _⟩
    | snoc run meets taken induction =>
        rcases induction with ⟨numbered, bound⟩
        have stepped := chances_of_step handler numbered taken
        constructor
        · exact (owes_of_step handler numbered taken).1
        · simp only [List.map_append, List.sum_append, List.map_singleton,
            List.sum_singleton]
          omega
  exact bounded.2

/-- The request that is sent twice has no other chance. -/
theorem sent_at_most_twice_retried :
    ∃ events target,
      Run step (launched "appID" none) retriedOnce events target ∧
        (events.map (Event.sends 0)).sum = 2 ∧
        (events.map (Event.sends 0)).sum + target.weight (chances 0) ≤
          (retriedOnce.map (Action.gives 0)).sum +
            (retriedOnce.map (Action.mayRetry 0)).sum := by
  have passes : (exec step (fun _ _ => True) (launched "appID" none)
      retriedOnce).any (fun turn =>
        (turn.2.map (Event.sends 0)).sum == 2) = true := by
    decide
  rcases run_of_any passes with ⟨events, target, run, twice⟩
  exact ⟨events, target, run, beq_iff_eq.mp twice, sent_at_most_twice run 0⟩

end BandBPools.Graph
