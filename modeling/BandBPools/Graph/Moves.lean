import BandBPools.Graph.Connection
import BandBPools.Transition.Refinement

/-!
# What a step of a connection is made of

When something that has been waited for comes, the step takes the requests it
was waited for with in hand and gets rid of them one after the other: each is
answered, sent once more or put aside to wait for something else.  A step is
taken apart here into the moves that do so.
-/

namespace BandBPools.Graph

open BandBPools.Transition

/-- The state together with the requests that a step has in hand. -/
abbrev Hand := State × List FBSDKGraphRequestMetadata

/-- The requests for which something is waited for. -/
def Pending.requests : Pending → List FBSDKGraphRequestMetadata
  | .inFlight requests => requests
  | .alert metadata _ _ => [metadata.toFBSDKGraphRequestMetadata]
  | .login metadata _ => [metadata.toFBSDKGraphRequestMetadata]
  | .operation _ _ metadata => [metadata]

/-- Which bodies come with which requests.  An error comes with none, and what
answers a request that has been sent once more answers the one it was sent
for. -/
structure Answering where
  answers : FBSDKGraphRequestMetadata → Option Body → Prop
  refused : ∀ metadata, answers metadata none
  unwrapped : ∀ {request inner : FBSDKGraphRequest}
    {completionHandler : FBSDKGraphRequestHandler} {body : Option Body},
    answers ⟨request, .retried inner completionHandler⟩ body →
      answers ⟨inner, completionHandler⟩ body

/-- Anything may be answered. -/
def Answering.any : Answering where
  answers := fun _ _ => True
  refused := fun _ => trivial
  unwrapped := fun _ => trivial

/-- What has been put aside with its body has been answered. -/
def Pending.Answered (answering : Answering) : Pending → Prop
  | .operation body _ metadata => answering.answers metadata body
  | .inFlight _ | .alert _ _ _ | .login _ _ => True

/-- One move of a step. -/
inductive Move (answering : Answering) (action : Action) :
    Hand → List Event → Hand → Prop where
  | taken {state : State} {held : List FBSDKGraphRequestMetadata}
      {id : PendingId} {pending : Pending}
      (waits : action.pending? = some id)
      (found : state.at? id = some pending) :
      Move answering action (state, held) []
        (state.resume id, pending.requests ++ held)
  | retried (state : State) (held : List FBSDKGraphRequestMetadata)
      (metadata : RecoveringMetadata) (inputs : Inputs) :
      Move answering action (state, metadata.toFBSDKGraphRequestMetadata :: held)
        (FBSDKGraphRequestConnection.start
          [FBSDKGraphRequestConnection.retryMetadata metadata state] inputs
          state).2
        ((FBSDKGraphRequestConnection.start
          [FBSDKGraphRequestConnection.retryMetadata metadata state] inputs
          state).1, held)
  | waits {state : State} {held : List FBSDKGraphRequestMetadata}
      {metadata : FBSDKGraphRequestMetadata} {pending : Pending}
      (single : pending.requests = [metadata])
      (answered : pending.Answered answering) :
      Move answering action (state, metadata :: held) []
        (state.await pending, held)
  | unwrapped {state : State} {held : List FBSDKGraphRequestMetadata}
      {request inner : FBSDKGraphRequest}
      {completionHandler : FBSDKGraphRequestHandler} :
      Move answering action
        (state, ⟨request, .retried inner completionHandler⟩ :: held) []
        (state, ⟨inner, completionHandler⟩ :: held)
  | called {state : State} {held : List FBSDKGraphRequestMetadata}
      {request : FBSDKGraphRequest} {id : HandlerId}
      {body : Option Body} (error : Option NSError)
      (answered : answering.answers ⟨request, .client id⟩ body) :
      Move answering action (state, ⟨request, .client id⟩ :: held)
        [.called id body error] (state, held)
  | extended {state : State} {held : List FBSDKGraphRequestMetadata}
      {request : FBSDKGraphRequest} {id : RefreshId}
      {body : Option Body} (now : Int)
      (answered : answering.answers ⟨request, .extend id⟩ body) :
      Move answering action (state, ⟨request, .extend id⟩ :: held) []
        (FBSDKGraphRequestPiggybackManager.extended now id body state, held)
  | permitted {state : State} {held : List FBSDKGraphRequestMetadata}
      {request : FBSDKGraphRequest} {id : RefreshId}
      {body : Option Body} (now : Int) (error : Option NSError)
      (answered : answering.answers ⟨request, .permissions id⟩ body) :
      Move answering action (state, ⟨request, .permissions id⟩ :: held) []
        (FBSDKGraphRequestPiggybackManager.permitted now id body error state,
          held)
  | configured {state : State} {held : List FBSDKGraphRequestMetadata}
      {request : FBSDKGraphRequest} :
      Move answering action (state, ⟨request, .serverConfiguration⟩ :: held) []
        (state, held)
  | cleared {state : State} {held : List FBSDKGraphRequestMetadata}
      {metadata : FBSDKGraphRequestMetadata}
      (current : FBSDKGraphRequestConnection.sentWithCurrentToken
        metadata.request state = true)
      (errorSubcode now : Int) :
      Move answering action (state, metadata :: held) []
        (FBSDKGraphRequestConnection.clearToken errorSubcode
          metadata.request now state, metadata :: held)
  | presented (hand : Hand) (message : String) :
      Move answering action hand [.presented message] hand
  | set {state : State} {held : List FBSDKGraphRequestMetadata}
      {token : Option FBSDKAccessToken}
      (sets : action = .setCurrentAccessToken token) :
      Move answering action (state, held) []
        (FBSDKAccessToken.setCurrentAccessToken token state, held)
  | loaded {state : State} {held : List FBSDKGraphRequestMetadata}
      (configuration : FBSDKErrorConfiguration) :
      Move answering action (state, held) []
        ({ state with errorConfiguration := configuration }, held)

/-- The moves of a step. -/
abbrev Moves (answering : Answering) (action : Action) :=
  Trace (Move answering action)

namespace FBSDKGraphRequestConnection

variable {answering : Answering} {action : Action}
variable {held : List FBSDKGraphRequestMetadata}

theorem moves_silent {hand : Hand} {next : State}
    (move : Move answering action hand [] (next, held)) :
    Moves answering action hand (silent next).2 ((silent next).1, held) :=
  .single move

/-- Take the first request from the hand and go on with the rest. -/
theorem moves_andThen {hand : Hand} {turn : Turn}
    {between after : List FBSDKGraphRequestMetadata}
    {next : State → Turn}
    (first : Moves answering action hand turn.2 (turn.1, between))
    (later : ∀ state,
      Moves answering action (state, between) (next state).2
        ((next state).1, after)) :
    Moves answering action hand (turn.andThen next).2
      ((turn.andThen next).1, after) :=
  first.trans (later turn.1)

theorem moves_processResultBody (inputs : Inputs) {body : Option Body}
    (error : Option NSError) {metadata : FBSDKGraphRequestMetadata}
    (answered : answering.answers metadata body) {finish : State → Turn}
    (finishes : ∀ state, Moves answering action (state, metadata :: held)
      (finish state).2 ((finish state).1, held)) (state : State) :
    Moves answering action (state, metadata :: held)
      (processResultBody inputs body error metadata finish state).2
      ((processResultBody inputs body error metadata finish state).1,
        held) := by
  unfold processResultBody
  split
  · next current =>
      simp only
      split
      · have clears : Moves answering action (state, metadata :: held) [] _ :=
          .single (.cleared current
            ((error.bind NSError.graphErrorSubcode).getD 0) inputs.now)
        exact clears.trans (finishes _)
      · split
        · exact moves_silent (.waits rfl answered)
        · exact finishes state
  · exact finishes state

/-- An answer gets rid of the request. -/
theorem moves_invokeCompletionHandler (inputs : Inputs)
    {body : Option Body} (error : Option NSError)
    {completionHandler : FBSDKGraphRequestHandler}
    {request : FBSDKGraphRequest}
    (answered : answering.answers ⟨request, completionHandler⟩ body)
    (state : State) :
    Moves answering action (state, ⟨request, completionHandler⟩ :: held)
      (invokeCompletionHandler inputs body error completionHandler state).2
      ((invokeCompletionHandler inputs body error completionHandler state).1,
        held) := by
  induction completionHandler generalizing request state with
  | client id => exact .single (.called error answered)
  | extend id => exact moves_silent (.extended inputs.now answered)
  | permissions id =>
      exact moves_silent (.permitted inputs.now error answered)
  | serverConfiguration => exact moves_silent .configured
  | retried inner completionHandler induction =>
      have unwraps : Moves answering action
          (state, ⟨request, .retried inner completionHandler⟩ :: held) []
          (state, ⟨inner, completionHandler⟩ :: held) := .single .unwrapped
      have unwrapped := answering.unwrapped answered
      exact unwraps.trans
        (moves_processResultBody inputs error unwrapped
          (induction unwrapped) state)

theorem moves_process (inputs : Inputs) {body : Option Body}
    (error : Option NSError) {metadata : FBSDKGraphRequestMetadata}
    (answered : answering.answers metadata body) (state : State) :
    Moves answering action (state, metadata :: held)
      (process inputs body error metadata state).2
      ((process inputs body error metadata state).1, held) := by
  apply moves_processResultBody inputs error answered
  intro state
  exact moves_invokeCompletionHandler inputs error answered state

theorem moves_processorDidAttemptRecovery (inputs : Inputs)
    (didRecover : Bool) (error : Option NSError)
    (metadata : RecoveringMetadata) (state : State) :
    Moves answering action
      (state, metadata.toFBSDKGraphRequestMetadata :: held)
      (processorDidAttemptRecovery inputs didRecover error metadata state).2
      ((processorDidAttemptRecovery inputs didRecover error metadata state).1,
        held) := by
  unfold processorDidAttemptRecovery
  split
  · exact .single (.retried state held metadata inputs)
  · exact moves_process inputs error (answering.refused _) state

/-- An error that is taken over gets rid of its request, and one that is not
leaves it in hand. -/
theorem moves_processError (inputs : Inputs) (error : NSError)
    (metadata : RecoveringMetadata) (state : State) :
    Moves answering action
      (state, metadata.toFBSDKGraphRequestMetadata :: held)
      (processError inputs error metadata state).2.2
      ((processError inputs error metadata state).2.1,
        if (processError inputs error metadata state).1 then held
        else metadata.toFBSDKGraphRequestMetadata :: held) := by
  unfold processError
  split
  · exact moves_processorDidAttemptRecovery inputs true none metadata state
  · split
    · split
      · next attempter found =>
          split
          · exact .refl
          · have waits : Moves answering action
                (state, metadata.toFBSDKGraphRequestMetadata :: held) []
                (state.await (.alert metadata error attempter), held) :=
              .single (.waits rfl trivial)
            exact waits.trans (.single (.presented _ _))
      · exact .refl
    · exact .refl
  · split
    · split
      · exact .single (.presented _ _)
      · exact .refl
    · exact .refl

theorem moves_completeRequest (inputs : Inputs) (single : Bool)
    {metadata : FBSDKGraphRequestMetadata} {body : Option Body}
    (resultError : Option NSError)
    (answered : answering.answers metadata body) (state : State) :
    Moves answering action (state, metadata :: held)
      (completeRequest inputs single metadata body resultError state).2
      ((completeRequest inputs single metadata body resultError state).1,
        held) := by
  unfold completeRequest
  split
  · exact moves_process inputs none answered state
  · next error =>
      have refused := answering.refused metadata
      split
      · next recovers =>
          have moves : Moves answering action (state, metadata :: held) _ _ :=
            moves_processError inputs error
              { metadata with recoverable := recovers.1 } state
          simp only
          split
          · next taken =>
              rw [if_pos taken] at moves
              exact moves
          · next left =>
              rw [if_neg left] at moves
              exact moves_andThen moves
                (moves_process inputs (some error) refused)
      · exact moves_process inputs (some error) refused state

theorem moves_completeRequests (inputs : Inputs) (single : Bool)
    {entries : List Outcome}
    (answered : ∀ entry ∈ entries, answering.answers entry.1 entry.2.1)
    (state : State) :
    Moves answering action (state, entries.map Prod.fst ++ held)
      (completeRequests inputs single entries state).2
      ((completeRequests inputs single entries state).1, held) := by
  induction entries generalizing state with
  | nil => exact .refl
  | cons entry rest induction =>
      have first := answered entry List.mem_cons_self
      have later : ∀ other ∈ rest, answering.answers other.1 other.2.1 := by
        intro other member
        exact answered other (List.mem_cons_of_mem entry member)
      exact moves_andThen
        (moves_completeRequest inputs single entry.2.2 first state)
        (induction later)

/-- A response that is not an error has one result for each request. -/
theorem length_of_results {count : Nat} {response : Response}
    {results : List Result} (found : response.results count = .ok results) :
    results.length = count := by
  cases response with
  | json statusCode object =>
      rw [Response.results] at found
      split at found
      · cases found
      · split at found
        · cases found
        · next same =>
            cases found
            exact (not_not.mp same).symm
  | _ => cases found

@[simp]
theorem outcome_fst (configuration : FBSDKErrorConfiguration)
    (entry : FBSDKGraphRequestMetadata × Result) :
    (outcome configuration entry).1 = entry.1 := by
  rw [outcome]
  split <;> rfl

/-- Every request has an outcome, in their order. -/
theorem outcomes_fst (configuration : FBSDKErrorConfiguration)
    (requests : List FBSDKGraphRequestMetadata) (response : Response) :
    (outcomes configuration requests response).map Prod.fst = requests := by
  unfold outcomes
  split
  · simp [Function.comp_def]
  · next results found =>
      have same := length_of_results found
      have first : Prod.fst ∘ outcome configuration = Prod.fst :=
        funext (outcome_fst configuration)
      rw [List.map_map, first]
      exact List.map_fst_zip (Nat.le_of_eq same.symm)

theorem moves_completeWithResults (inputs : Inputs)
    {requests : List FBSDKGraphRequestMetadata} {response : Response}
    {state : State}
    (answered : ∀ entry ∈
      outcomes state.errorConfiguration requests response,
        answering.answers entry.1 entry.2.1) :
    Moves answering action (state, requests ++ held)
      (completeWithResults inputs requests response state).2
      ((completeWithResults inputs requests response state).1, held) := by
  have same := outcomes_fst state.errorConfiguration requests response
  have moves : Moves answering action
      (state, (outcomes state.errorConfiguration requests response).map
        Prod.fst ++ held)
      (completeWithResults inputs requests response state).2
      ((completeWithResults inputs requests response state).1, held) :=
    moves_completeRequests inputs _ answered state
  rw [same] at moves
  exact moves

end FBSDKGraphRequestConnection

theorem moves_attemptRecovery {answering : Answering} {action : Action}
    {held : List FBSDKGraphRequestMetadata} (inputs : Inputs)
    (metadata : RecoveringMetadata) (error : NSError) (optionIndex : Nat)
    (attempter : FBSDKErrorRecoveryAttempter) (state : State) :
    Moves answering action (state, metadata.toFBSDKGraphRequestMetadata :: held)
      (attempter.attemptRecovery inputs metadata error optionIndex state).2
      ((attempter.attemptRecovery inputs metadata error optionIndex state).1,
        held) := by
  unfold FBSDKErrorRecoveryAttempter.attemptRecovery
  split
  · exact FBSDKGraphRequestConnection.moves_processorDidAttemptRecovery
      inputs true (some error) metadata state
  · split
    · exact FBSDKGraphRequestConnection.moves_silent (.waits rfl trivial)
    · exact FBSDKGraphRequestConnection.moves_processorDidAttemptRecovery
        inputs false (some error) metadata state

/-- What has been waited for comes with bodies that answer the requests it was
waited for with. -/
def Pending.AnsweredBy (answering : Answering)
    (configuration : FBSDKErrorConfiguration) : Pending → Action → Prop
  | .inFlight requests, .respond _ response _ =>
      ∀ entry ∈
        FBSDKGraphRequestConnection.outcomes configuration requests response,
          answering.answers entry.1 entry.2.1
  | .operation body _ metadata, _ => answering.answers metadata body
  | _, _ => True

/-- What has been waited for gets rid of the requests it was waited for
with. -/
theorem moves_come {answering : Answering} {action : Action}
    {pending : Pending} {id : PendingId} {state : State} {turn : Turn}
    (answered : pending.AnsweredBy answering state.errorConfiguration action)
    (came : pending.come id action state = some turn) :
    Moves answering action (state.resume id, pending.requests ++ []) turn.2
      (turn.1, []) := by
  unfold Pending.come at came
  split at came
  · cases came
    exact FBSDKGraphRequestConnection.moves_completeWithResults _ answered
  · split at came
    · cases came
      exact moves_attemptRecovery _ _ _ _ _ _
    · cases came
  · cases came
    exact FBSDKGraphRequestConnection.moves_processorDidAttemptRecovery
      _ _ _ _ _
  · cases came
    exact FBSDKGraphRequestConnection.moves_invokeCompletionHandler
      _ _ answered _
  · cases came

/-- A step starts a connection, or it is made of moves that begin and end with
empty hands. -/
theorem step_cases {answering : Answering} {state next : State}
    {action : Action} {events : List Event}
    (answered : ∀ id pending, action.pending? = some id →
      state.at? id = some pending →
        pending.AnsweredBy answering state.errorConfiguration action)
    (taken : step state action = some (next, events)) :
    (∃ requests inputs, action = .start requests inputs ∧
        FBSDKGraphRequestConnection.start (added requests) inputs state =
          (next, events)) ∨
      (∀ requests inputs, action ≠ .start requests inputs) ∧
        Moves answering action (state, []) events (next, []) := by
  have comes : (action.pending?.bind fun id =>
        (state.at? id).bind fun pending => pending.come id action state) =
      some (next, events) →
        Moves answering action (state, []) events (next, []) := by
    intro taken
    rcases Option.bind_eq_some_iff.mp taken with ⟨id, waits, taken⟩
    rcases Option.bind_eq_some_iff.mp taken with ⟨pending, found, came⟩
    have takes : Moves answering action (state, []) [] (state.resume id, _) :=
      .single (.taken waits found)
    exact takes.trans (moves_come (answered id pending waits found) came)
  cases action with
  | start requests inputs =>
      rw [step] at taken
      split at taken
      · cases taken
      · exact Or.inl ⟨requests, inputs, rfl, Option.some.inj taken⟩
  | setCurrentAccessToken token =>
      cases taken
      exact Or.inr ⟨nofun, .single (.set rfl)⟩
  | loadErrorConfiguration configuration =>
      cases taken
      exact Or.inr ⟨nofun, .single (.loaded configuration)⟩
  | respond id response inputs => exact Or.inr ⟨nofun, comes taken⟩
  | choose id optionIndex inputs => exact Or.inr ⟨nofun, comes taken⟩
  | loginEnds id didRecover inputs => exact Or.inr ⟨nofun, comes taken⟩
  | perform id inputs => exact Or.inr ⟨nofun, comes taken⟩

theorem Pending.answeredBy_any (pending : Pending)
    (configuration : FBSDKErrorConfiguration) (action : Action) :
    pending.AnsweredBy .any configuration action := by
  unfold Pending.AnsweredBy
  split
  · exact fun _ _ => trivial
  · trivial
  · trivial

/-! ## What moves do to the tokens -/

namespace FBSDKGraphRequestPiggybackManager

/-- The second answer replaces the token that the refresh was sent for. -/
theorem expectingCallbackComplete_cases (now : Int) (id : RefreshId)
    (state : State) :
    ∃ count,
      let counted : State :=
        { state with
          refreshes := Function.update state.refreshes id
            { state.refreshes id with expectingCallbacksCount := count } }
      expectingCallbackComplete now id state = counted ∨
        ∃ token, state.currentAccessToken = some token ∧
          (state.refreshes id).expectedToken = token.object ∧
          expectingCallbackComplete now id state =
            FBSDKAccessToken.setCurrentAccessToken
              (some (refreshedToken now (state.refreshes id)
                token.toFBSDKAccessToken)) counted := by
  refine ⟨(state.refreshes id).expectingCallbacksCount - 1, ?_⟩
  simp only
  unfold expectingCallbackComplete
  simp only
  split
  · split
    · exact Or.inl rfl
    · next token current =>
        split
        · next same => exact Or.inr ⟨token, current, same, rfl⟩
        · exact Or.inl rfl
  · exact Or.inl rfl

end FBSDKGraphRequestPiggybackManager

/-- A token that is named as invalid is taken away, or replaced by one that
has expired and is the same otherwise. -/
theorem clearToken_cases (errorSubcode : Int) (request : FBSDKGraphRequest)
    (now : Int) (state : State) :
    let cleared := FBSDKGraphRequestConnection.clearToken errorSubcode request
      now state
    cleared = state ∨
      cleared = FBSDKAccessToken.setCurrentAccessToken none state ∨
      ∃ token, state.currentAccessToken = some token ∧
        cleared = FBSDKAccessToken.setCurrentAccessToken
          (some (FBSDKGraphRequestConnection.createExpiredAccessToken now
            token.toFBSDKAccessToken)) state := by
  simp only
  unfold FBSDKGraphRequestConnection.clearToken
  split
  · exact Or.inl rfl
  · split
    · split
      · exact Or.inl rfl
      · next token current =>
          split
          · exact Or.inl rfl
          · exact Or.inr (Or.inr ⟨token, current, rfl⟩)
    · exact Or.inr (Or.inl rfl)

open FBSDKGraphRequestPiggybackManager

/-- A connection that is started sends a refresh along or leaves the tokens
alone. -/
theorem addPiggybackRequests_cases
    (requests : List FBSDKGraphRequestMetadata) (inputs : Inputs)
    (state : State) :
    let added := addPiggybackRequests requests inputs state
    added.2.1 = state ∧ added.2.2 = [] ∨
      ∃ token, state.currentAccessToken = some token ∧
        FBSDKTokenRefreshRetrySeconds < inputs.now - state.lastRefreshTry ∧
        added.2 = ({ (addRefreshPiggyback token state).2 with
          lastRefreshTry := inputs.now }, [.refreshing inputs.now]) := by
  simp only
  unfold addPiggybackRequests
  split
  · unfold addRefreshPiggybackIfStale
    split
    · exact Or.inl ⟨rfl, rfl⟩
    · next token current =>
        split
        · next stale => exact Or.inr ⟨token, current, stale.1, rfl⟩
        · exact Or.inl ⟨rfl, rfl⟩
  · exact Or.inl ⟨rfl, rfl⟩

end BandBPools.Graph
