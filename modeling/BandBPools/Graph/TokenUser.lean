import BandBPools.Graph.Refresh

/-!
# Whose token it is

Answers come when they come: a refresh may end after its user has logged out,
or after somebody else has logged in.  As long as Facebook extends a token to
one of the same user, the current token is one of the user that it names.

To the app, a connection does to the token what the model of the app says.
-/

namespace BandBPools.Graph

open BandBPools.Tables
open BandBPools.Transition
open FBSDKGraphRequestPiggybackManager

variable {state next : State}

/-! ## Tokens go on -/

/-- Token objects and refreshes are numbered in order, and the current token is
an old one or has a new number. -/
structure Later (before after : State) : Prop where
  nextObject : before.nextObject ≤ after.nextObject
  nextRefresh : before.nextRefresh ≤ after.nextRefresh
  expected : ∀ {id}, id < before.nextRefresh →
    (after.refreshes id).expectedToken = (before.refreshes id).expectedToken
  current : ∀ {token}, after.currentAccessToken = some token →
    before.currentAccessToken = some token ∨
      before.nextObject ≤ token.object

namespace Later

theorem refl (state : State) : Later state state :=
  ⟨Nat.le_refl _, Nat.le_refl _, fun _ => rfl, Or.inl⟩

theorem trans {last : State} (first : Later state next)
    (second : Later next last) : Later state last where
  nextObject := first.nextObject.trans second.nextObject
  nextRefresh := first.nextRefresh.trans second.nextRefresh
  expected := by
    intro id known
    rw [second.expected (known.trans_le first.nextRefresh),
      first.expected known]
  current := by
    intro token current
    rcases second.current current with before | new
    · exact first.current before
    · exact Or.inr (first.nextObject.trans new)

end Later

theorem later_setCurrentAccessToken (token : Option FBSDKAccessToken)
    (state : State) :
    Later state (FBSDKAccessToken.setCurrentAccessToken token state) where
  nextObject := Nat.le_succ _
  nextRefresh := Nat.le_refl _
  expected := fun _ => rfl
  current := by
    intro object current
    rcases Option.map_eq_some_iff.mp current with ⟨token, -, same⟩
    rw [← same]
    exact Or.inr (Nat.le_refl _)

/-- A refresh of which only the answers change. -/
theorem later_update {id : RefreshId} {refresh : Refresh}
    (same : refresh.expectedToken = (state.refreshes id).expectedToken) :
    Later state
      { state with
        refreshes := Function.update state.refreshes id refresh } where
  nextObject := Nat.le_refl _
  nextRefresh := Nat.le_refl _
  expected := by
    intro other _
    by_cases here : other = id
    · subst other
      simp [same]
    · simp [here]
  current := Or.inl

/-! ## The users of token strings -/

section Users

variable (owner : String → Option String)

/-- If the token of a refresh is still the current one, a token string belongs
to its user. -/
def State.Fits (state : State) (expectedToken : Nat) (tokenString : String) :
    Prop :=
  ∀ token, state.currentAccessToken = some token →
    expectedToken = token.object → owner tokenString = token.userID

/-- The current token is true, and so are the token strings that refreshes
have been answered with. -/
structure Tokens (state : State) : Prop where
  current : ∀ {token}, state.currentAccessToken = some token →
    owner token.tokenString = token.userID ∧ token.object < state.nextObject
  expected : ∀ id, (state.refreshes id).expectedToken < state.nextObject
  recorded : ∀ {id tokenString},
    (state.refreshes id).tokenString = some tokenString →
      state.Fits owner (state.refreshes id).expectedToken tokenString

/-- A request that extends a token is sent with a string that fits. -/
def Extends (state : State) :
    FBSDKGraphRequest → FBSDKGraphRequestHandler → Prop
  | request, .extend id =>
      id < state.nextRefresh ∧ request.graphErrorRecoveryDisabled = true ∧
        ∃ tokenString, request.tokenString = some tokenString ∧
          state.Fits owner (state.refreshes id).expectedToken tokenString
  | _, .retried request completionHandler =>
      Extends state request completionHandler
  | _, .client _ | _, .permissions _ | _, .serverConfiguration => True

/-- A token is extended to one of the same user. -/
def Truly (body : Option Body) :
    FBSDKGraphRequest → FBSDKGraphRequestHandler → Prop
  | request, .extend _ =>
      ∀ tokenString ∈ body.bind Body.access_token,
        owner tokenString = request.tokenString.bind owner
  | _, .retried request completionHandler =>
      Truly body request completionHandler
  | _, .client _ | _, .permissions _ | _, .serverConfiguration => True

instance decidableTruly (body : Option Body) :
    ∀ request completionHandler,
      Decidable (Truly owner body request completionHandler)
  | request, .extend _ =>
      inferInstanceAs (Decidable (∀ tokenString ∈
        body.bind Body.access_token,
          owner tokenString = request.tokenString.bind owner))
  | _, .retried request completionHandler =>
      decidableTruly body request completionHandler
  | _, .client _ | _, .permissions _ | _, .serverConfiguration =>
      inferInstanceAs (Decidable True)

theorem truly_none (request : FBSDKGraphRequest)
    (completionHandler : FBSDKGraphRequestHandler) :
    Truly owner none request completionHandler := by
  induction completionHandler generalizing request with
  | extend id => exact nofun
  | retried inner completionHandler induction => exact induction inner
  | _ => trivial

/-- What Facebook answers truly. -/
def truthful : Answering where
  answers metadata body :=
    Truly owner body metadata.request metadata.completionHandler
  refused metadata :=
    truly_none owner metadata.request metadata.completionHandler
  unwrapped := id

variable {owner}

theorem State.Fits.later {expectedToken : Nat} {tokenString : String}
    (fits : state.Fits owner expectedToken tokenString)
    (known : expectedToken < state.nextObject) (later : Later state next) :
    next.Fits owner expectedToken tokenString := by
  intro token current same
  rcases later.current current with before | new
  · exact fits token before same
  · omega

theorem Extends.later (tokens : Tokens owner state)
    (later : Later state next) {request : FBSDKGraphRequest}
    {completionHandler : FBSDKGraphRequestHandler}
    (extending : Extends owner state request completionHandler) :
    Extends owner next request completionHandler := by
  induction completionHandler generalizing request with
  | extend id =>
      rcases extending with ⟨known, disabled, tokenString, sent, fits⟩
      refine ⟨known.trans_le later.nextRefresh, disabled, tokenString, sent,
        ?_⟩
      rw [later.expected known]
      exact fits.later (tokens.expected id) later
  | retried inner completionHandler induction => exact induction extending
  | _ => trivial

/-! ## Operations keep tokens true -/

namespace Tokens

theorem setCurrentAccessToken (tokens : Tokens owner state)
    {token : Option FBSDKAccessToken}
    (truly : ∀ set, token = some set → owner set.tokenString = set.userID) :
    Tokens owner (FBSDKAccessToken.setCurrentAccessToken token state) where
  current := by
    intro object current
    rcases Option.map_eq_some_iff.mp current with ⟨set, given, same⟩
    rw [← same]
    exact ⟨truly set given, Nat.lt_succ_self _⟩
  expected := fun id => Nat.lt_succ_of_lt (tokens.expected id)
  recorded := by
    intro id tokenString recorded
    exact (tokens.recorded recorded).later (tokens.expected id)
      (later_setCurrentAccessToken token state)

theorem update (tokens : Tokens owner state) {id : RefreshId}
    {refresh : Refresh}
    (same : refresh.expectedToken = (state.refreshes id).expectedToken)
    (fits : ∀ tokenString, refresh.tokenString = some tokenString →
      state.Fits owner refresh.expectedToken tokenString) :
    Tokens owner
      { state with
        refreshes := Function.update state.refreshes id refresh } where
  current := tokens.current
  expected := by
    intro other
    by_cases here : other = id
    · subst other
      simpa [same] using tokens.expected id
    · simpa [here] using tokens.expected other
  recorded := by
    intro other tokenString recorded
    by_cases here : other = id
    · subst other
      simp only [Function.update_self] at recorded ⊢
      exact fits tokenString recorded
    · simp only [Function.update_of_ne here] at recorded ⊢
      exact tokens.recorded recorded

end Tokens

/-- The tokens stay true, and they go on. -/
structure Carries (owner : String → Option String) (before after : State) :
    Prop where
  tokens : Tokens owner after
  later : Later before after

namespace Carries

theorem refl (tokens : Tokens owner state) : Carries owner state state :=
  ⟨tokens, .refl state⟩

theorem setCurrentAccessToken (carries : Carries owner state next)
    {token : Option FBSDKAccessToken}
    (truly : ∀ set, token = some set → owner set.tokenString = set.userID) :
    Carries owner state
      (FBSDKAccessToken.setCurrentAccessToken token next) :=
  ⟨carries.tokens.setCurrentAccessToken truly,
    carries.later.trans (later_setCurrentAccessToken token next)⟩

theorem update (carries : Carries owner state next) {id : RefreshId}
    {refresh : Refresh}
    (same : refresh.expectedToken = (next.refreshes id).expectedToken)
    (fits : ∀ tokenString, refresh.tokenString = some tokenString →
      next.Fits owner refresh.expectedToken tokenString) :
    Carries owner state
      { next with
        refreshes := Function.update next.refreshes id refresh } :=
  ⟨carries.tokens.update same fits, carries.later.trans (later_update same)⟩

/-- The answers to a refresh leave its token to the same user, or they come too
late and do nothing. -/
theorem expectingCallbackComplete (carries : Carries owner state next)
    (now : Int) (id : RefreshId) :
    Carries owner state (expectingCallbackComplete now id next) := by
  rcases expectingCallbackComplete_cases now id next with ⟨count, cases⟩
  have counted : Carries owner state
      { next with
        refreshes := Function.update next.refreshes id
          { next.refreshes id with expectingCallbacksCount := count } } :=
    carries.update rfl fun _ => carries.tokens.recorded
  rcases cases with kept | ⟨token, current, same, refreshed⟩
  · rw [kept]
    exact counted
  · rw [refreshed]
    apply counted.setCurrentAccessToken
    rintro _ ⟨⟩
    change owner (((next.refreshes id).tokenString).getD
      token.tokenString) = token.userID
    cases answered : (next.refreshes id).tokenString with
    | none => exact (carries.tokens.current current).1
    | some tokenString =>
        exact carries.tokens.recorded answered token current same

theorem clearToken (carries : Carries owner state next) (errorSubcode : Int)
    (request : FBSDKGraphRequest) (now : Int) :
    Carries owner state (FBSDKGraphRequestConnection.clearToken errorSubcode
      request now next) := by
  rcases clearToken_cases errorSubcode request now next with
    same | gone | ⟨token, current, expired⟩
  · rw [same]
    exact carries
  · rw [gone]
    exact carries.setCurrentAccessToken nofun
  · rw [expired]
    apply carries.setCurrentAccessToken
    rintro _ ⟨⟩
    exact (carries.tokens.current current).1

theorem permitted (carries : Carries owner state next) (now : Int)
    (id : RefreshId) (body : Option Body) (error : Option NSError) :
    Carries owner state (permitted now id body error next) := by
  unfold FBSDKGraphRequestPiggybackManager.permitted
  apply expectingCallbackComplete
  split
  · exact carries.update rfl fun _ => carries.tokens.recorded
  · exact carries

theorem extended (carries : Carries owner state next) (now : Int)
    {id : RefreshId} {request : FBSDKGraphRequest} {body : Option Body}
    (extending : Extends owner next request (.extend id))
    (truly : Truly owner body request (.extend id)) :
    Carries owner state (extended now id body next) := by
  rcases extending with ⟨-, -, sent, carried, fits⟩
  unfold FBSDKGraphRequestPiggybackManager.extended
  apply expectingCallbackComplete
  refine carries.update rfl ?_
  intro tokenString answered token current same
  have kept := truly tokenString answered
  rw [carried] at kept
  exact kept.trans (fits token current same)

end Carries

/-! ## Connections keep tokens true -/

theorem later_await (pending : Pending) (state : State) :
    Later state (state.await pending) :=
  ⟨Nat.le_refl _, Nat.le_refl _, fun _ => rfl, Or.inl⟩

theorem later_resume (id : PendingId) (state : State) :
    Later state (state.resume id) :=
  ⟨Nat.le_refl _, Nat.le_refl _, fun _ => rfl, Or.inl⟩

/-- A connection that is started may send a new refresh of the current
token along. -/
theorem carries_addPiggybackRequests (tokens : Tokens owner state)
    (requests : List FBSDKGraphRequestMetadata) (inputs : Inputs) :
    Carries owner state (addPiggybackRequests requests inputs state).2.1 := by
  rcases addPiggybackRequests_cases requests inputs state with
    ⟨same, -⟩ | ⟨token, current, -, refreshes⟩
  · rw [same]
    exact .refl tokens
  · rw [refreshes]
    have known := tokens.current current
    constructor
    · constructor
      · exact tokens.current
      · intro id
        by_cases here : id = state.nextRefresh
        · subst here
          simpa [addRefreshPiggyback] using known.2
        · simpa [addRefreshPiggyback, here] using tokens.expected id
      · intro id tokenString recorded
        by_cases here : id = state.nextRefresh
        · subst here
          simp [addRefreshPiggyback] at recorded
        · simp only [addRefreshPiggyback, Function.update_of_ne here]
            at recorded ⊢
          exact tokens.recorded recorded
    · constructor
      · exact Nat.le_refl _
      · exact Nat.le_succ _
      · intro id known
        simp [addRefreshPiggyback, Nat.ne_of_lt known]
      · exact Or.inl

/-- What is sent along extends the current token. -/
theorem extends_of_mem (tokens : Tokens owner state)
    {requests : List FBSDKGraphRequestMetadata} {inputs : Inputs}
    {metadata : FBSDKGraphRequestMetadata}
    (member : metadata ∈ (addPiggybackRequests requests inputs state).1) :
    Extends owner (addPiggybackRequests requests inputs state).2.1
      metadata.request metadata.completionHandler := by
  unfold addPiggybackRequests at member ⊢
  split at member
  · next safe =>
      rw [if_pos safe]
      rcases List.mem_append.mp member with refreshes | configures
      · unfold addRefreshPiggybackIfStale at refreshes ⊢
        split at refreshes
        · cases refreshes
        · next token current =>
            split at refreshes
            · next stale =>
                simp only [if_pos stale]
                rcases List.mem_pair.mp refreshes with same | same
                · rw [same]
                  refine ⟨Nat.lt_succ_self _, rfl, token.tokenString, rfl, ?_⟩
                  intro object now _
                  have same : token = object :=
                    Option.some.inj (current.symm.trans now)
                  rw [← same]
                  exact (tokens.current current).1
                · rw [same]
                  trivial
            · cases refreshes
      · unfold addServerConfigurationPiggyback at configures
        split at configures
        · rw [List.mem_singleton.mp configures]
          trivial
        · cases configures
  · cases member

/-- Tokens are true, and so is what is waited for and what is in hand. -/
structure Sound (owner : String → Option String) (hand : Hand) : Prop where
  tokens : Tokens owner hand.1
  waiting : ∀ {id pending}, hand.1.at? id = some pending →
    pending.Answered (truthful owner) ∧
      ∀ metadata ∈ pending.requests,
        Extends owner hand.1 metadata.request metadata.completionHandler
  held : ∀ metadata ∈ hand.2,
    Extends owner hand.1 metadata.request metadata.completionHandler

namespace Sound

variable {held : List FBSDKGraphRequestMetadata}

theorem carry (sound : Sound owner (state, held))
    (carries : Carries owner state next) (same : SamePending state next) :
    Sound owner (next, held) where
  tokens := carries.tokens
  waiting := by
    intro id pending found
    rw [State.at?, same.pending] at found
    have waits := sound.waiting found
    constructor
    · exact waits.1
    · intro metadata member
      exact (waits.2 metadata member).later sound.tokens carries.later
  held := by
    intro metadata member
    exact (sound.held metadata member).later sound.tokens carries.later

theorem await (sound : Sound owner (state, held)) {pending : Pending}
    (answered : pending.Answered (truthful owner))
    (requests : ∀ metadata ∈ pending.requests,
      Extends owner state metadata.request metadata.completionHandler) :
    Sound owner (state.await pending, held) where
  tokens := ⟨sound.tokens.current, sound.tokens.expected,
    sound.tokens.recorded⟩
  waiting := by
    intro id other found
    have waits : other.Answered (truthful owner) ∧
        ∀ metadata ∈ other.requests,
          Extends owner state metadata.request
            metadata.completionHandler := by
      by_cases here : id = state.nextPending
      · rw [here, State.at?, State.await, AList.lookup_insert] at found
        cases found
        exact ⟨answered, requests⟩
      · rw [State.at?, State.await, AList.lookup_insert_ne here] at found
        exact sound.waiting found
    constructor
    · exact waits.1
    · intro metadata member
      exact (waits.2 metadata member).later sound.tokens
        (later_await pending state)
  held := by
    intro metadata member
    exact (sound.held metadata member).later sound.tokens
      (later_await pending state)

theorem tail {metadata : FBSDKGraphRequestMetadata}
    (sound : Sound owner (state, metadata :: held)) :
    Sound owner (state, held) where
  tokens := sound.tokens
  waiting := sound.waiting
  held := by
    intro other member
    exact sound.held other (List.mem_cons_of_mem metadata member)

theorem taken (sound : Sound owner (state, held)) {id : PendingId}
    {pending : Pending} (found : state.at? id = some pending) :
    Sound owner (state.resume id, pending.requests ++ held) where
  tokens := ⟨sound.tokens.current, sound.tokens.expected,
    sound.tokens.recorded⟩
  waiting := by
    intro other still waits
    by_cases here : other = id
    · rw [here, State.at?, State.resume, AList.lookup_erase] at waits
      cases waits
    · rw [State.at?, State.resume, AList.lookup_erase_ne here] at waits
      have before := sound.waiting waits
      constructor
      · exact before.1
      · intro metadata member
        exact (before.2 metadata member).later sound.tokens
          (later_resume id state)
  held := by
    intro metadata member
    have extending : Extends owner state metadata.request
        metadata.completionHandler := by
      rcases List.mem_append.mp member with waited | held
      · exact (sound.waiting found).2 metadata waited
      · exact sound.held metadata held
    exact extending.later sound.tokens (later_resume id state)

theorem start (sound : Sound owner (state, held))
    {requests : List FBSDKGraphRequestMetadata}
    (given : ∀ metadata ∈ requests,
      Extends owner state metadata.request metadata.completionHandler)
    (inputs : Inputs) :
    Sound owner ((FBSDKGraphRequestConnection.start requests inputs state).1,
      held) := by
  have carries := carries_addPiggybackRequests sound.tokens requests inputs
  have same := samePending_addPiggybackRequests requests inputs state
  apply (sound.carry carries same).await
  · trivial
  · intro metadata member
    rcases List.mem_append.mp member with before | along
    · exact (given metadata before).later sound.tokens carries.later
    · exact extends_of_mem sound.tokens along

end Sound

/-- A request that is sent once more does not extend a token: those that do are
never sent once more. -/
theorem extends_retryMetadata (metadata : RecoveringMetadata)
    (extending : Extends owner state metadata.request
      metadata.completionHandler) :
    Extends owner state
      (FBSDKGraphRequestConnection.retryMetadata metadata state).request
      (FBSDKGraphRequestConnection.retryMetadata metadata
        state).completionHandler := by
  change Extends owner state _ metadata.completionHandler
  cases handled : metadata.completionHandler with
  | extend id =>
      rw [handled] at extending
      have disabled := extending.2.1
      rw [metadata.recoverable] at disabled
      cases disabled
  | retried inner completionHandler =>
      rw [handled] at extending
      exact extending
  | _ => trivial

theorem sound_of_move {action : Action} {before after : Hand}
    {events : List Event} (sound : Sound owner before)
    (truly : ∀ token, action = .setCurrentAccessToken (some token) →
      owner token.tokenString = token.userID)
    (move : Move (truthful owner) action before events after) :
    Sound owner after := by
  cases move with
  | taken waits found => exact sound.taken found
  | retried state held metadata inputs =>
      apply sound.tail.start
      intro retry member
      rw [List.mem_singleton.mp member]
      exact extends_retryMetadata metadata
        (sound.held _ List.mem_cons_self)
  | waits single answered =>
      apply sound.tail.await answered
      intro metadata member
      rw [single] at member
      rw [List.mem_singleton.mp member]
      exact sound.held _ List.mem_cons_self
  | @unwrapped state held request inner completionHandler =>
      have inside : Extends owner state inner completionHandler :=
        sound.held _ List.mem_cons_self
      constructor
      · exact sound.tokens
      · exact sound.waiting
      · intro metadata member
        rcases List.mem_cons.mp member with same | later
        · rw [same]
          exact inside
        · exact sound.held metadata (List.mem_cons_of_mem _ later)
  | called error answered => exact sound.tail
  | extended now answered =>
      have carries := (Carries.refl sound.tokens).extended now
        (sound.held _ List.mem_cons_self) answered
      exact sound.tail.carry carries (samePending_extended now _ _ _)
  | @permitted state held request id body now error answered =>
      have carries := (Carries.refl sound.tokens).permitted now id body error
      exact sound.tail.carry carries
        (samePending_permitted now id body error state)
  | configured => exact sound.tail
  | @cleared state held metadata current errorSubcode now =>
      have carries := (Carries.refl sound.tokens).clearToken errorSubcode
        metadata.request now
      exact sound.carry carries
        (samePending_clearToken errorSubcode metadata.request now state)
  | presented hand message => exact sound
  | @set state held token sets =>
      have given : ∀ set, token = some set →
          owner set.tokenString = set.userID := by
        intro set same
        apply truly set
        rw [sets, same]
      have carries :=
        (Carries.refl sound.tokens).setCurrentAccessToken given
      exact sound.carry carries (samePending_setCurrentAccessToken _ _)
  | @loaded state held configuration =>
      have carries : Carries owner state
          { state with errorConfiguration := configuration } :=
        ⟨⟨sound.tokens.current, sound.tokens.expected,
            sound.tokens.recorded⟩,
          ⟨Nat.le_refl _, Nat.le_refl _, fun _ => rfl, Or.inl⟩⟩
      exact sound.carry carries ⟨rfl, rfl⟩

/-! ## Whole runs -/

/-- The requests of a connection whose response is waited for. -/
def State.inFlight (state : State) (id : PendingId) :
    List FBSDKGraphRequestMetadata :=
  match state.at? id with
  | some (.inFlight requests) => requests
  | _ => []

/-- Tokens that are set are true, and Facebook extends a token to one of the
same user. -/
def Truthful (owner : String → Option String) (state : State) :
    Action → Prop
  | .setCurrentAccessToken token =>
      ∀ set ∈ token, owner set.tokenString = set.userID
  | .respond id response _ =>
      ∀ entry ∈ FBSDKGraphRequestConnection.outcomes state.errorConfiguration
          (state.inFlight id) response,
        Truly owner entry.2.1 entry.1.request entry.1.completionHandler
  | _ => True

instance (owner : String → Option String) :
    ∀ state action, Decidable (Truthful owner state action)
  | _, .setCurrentAccessToken token =>
      inferInstanceAs (Decidable
        (∀ set ∈ token, owner set.tokenString = set.userID))
  | state, .respond id response _ =>
      inferInstanceAs (Decidable (∀ entry ∈
        FBSDKGraphRequestConnection.outcomes state.errorConfiguration
          (state.inFlight id) response,
        Truly owner entry.2.1 entry.1.request entry.1.completionHandler))
  | _, .start _ _ | _, .choose _ _ _ | _, .loginEnds _ _ _ | _, .perform _ _
  | _, .loadErrorConfiguration _ => inferInstanceAs (Decidable True)

theorem answered_of_truthful {action : Action}
    (sound : Sound owner (state, [])) (truly : Truthful owner state action)
    (id : PendingId) (pending : Pending)
    (waits : action.pending? = some id) (found : state.at? id = some pending) :
    pending.AnsweredBy (truthful owner) state.errorConfiguration action := by
  unfold Pending.AnsweredBy
  split
  · next requests other response inputs =>
      cases waits
      have inFlight : state.inFlight id = requests := by
        rw [State.inFlight, found]
      rw [← inFlight]
      exact truly
  · exact (sound.waiting found).1
  · trivial

theorem sound_of_moves {action : Action} {before after : Hand}
    {events : List Event} (sound : Sound owner before)
    (truly : ∀ token, action = .setCurrentAccessToken (some token) →
      owner token.tokenString = token.userID)
    (moves : Moves (truthful owner) action before events after) :
    Sound owner after :=
  moves.invariant
    (fun _ _ _ sound move => sound_of_move sound truly move) sound

theorem sound_of_step {action : Action} {events : List Event}
    (sound : Sound owner (state, [])) (truly : Truthful owner state action)
    (taken : step state action = some (next, events)) :
    Sound owner (next, []) := by
  rcases step_cases (answered_of_truthful sound truly) taken with
    ⟨requests, inputs, -, started⟩ | ⟨-, moves⟩
  · have given : ∀ metadata ∈ added requests,
        Extends owner state metadata.request
          metadata.completionHandler := by
      intro metadata member
      rcases List.mem_map.mp member with ⟨request, -, same⟩
      rw [← same]
      trivial
    have starts := sound.start given inputs
    rw [started] at starts
    exact starts
  · apply sound_of_moves sound _ moves
    intro token set
    rw [set] at truly
    exact truly token rfl

theorem sound_launched {appID : String} {token : Option FBSDKAccessToken}
    (known : ∀ cached, token = some cached →
      owner cached.tokenString = cached.userID) :
    Sound owner (launched appID token, []) where
  tokens := by
    constructor
    · intro object current
      rcases Option.map_eq_some_iff.mp current with ⟨cached, given, same⟩
      rw [← same]
      exact ⟨known cached given, Nat.zero_lt_one⟩
    · exact fun _ => Nat.zero_lt_one
    · exact nofun
  waiting := nofun
  held := nofun

theorem sound_of_run {source target : State} {actions : List Action}
    {events : List Event} (sound : Sound owner (source, []))
    (run : RunUnder step (Truthful owner) source actions events target) :
    Sound owner (target, []) := by
  induction run with
  | refl => exact sound
  | snoc run truly taken induction => exact sound_of_step induction truly taken

/-- As long as the tokens that are set are true and Facebook extends a token to
one of the same user, the string of the current token belongs to the user that
it names, however late a refresh ends and whoever has logged in since. -/
theorem token_belongs_to_user {appID : String}
    {token : Option FBSDKAccessToken} {target : State}
    {actions : List Action} {events : List Event}
    (known : ∀ cached, token = some cached →
      owner cached.tokenString = cached.userID)
    (run : RunUnder step (Truthful owner) (launched appID token) actions
      events target)
    {current : TokenObject}
    (found : target.currentAccessToken = some current) :
    owner current.tokenString = current.userID := by
  have sound := sound_of_run (sound_launched known) run
  exact (sound.tokens.current found).1

end Users

/-- The users of three token strings. -/
def firstOrSecond (tokenString : String) : Option String :=
  if tokenString = "first" ∨ tokenString = "extended" then some "user"
  else if tokenString = "second" then some "other"
  else none

/-- A batch that answers a client, extends the token and lists no
permission. -/
def extendedTo (tokenString : String) : Response :=
  .json 200 (.array
    [⟨some 200, some plainBody⟩,
      ⟨some 200, some { plainBody with access_token := some tokenString }⟩,
      ⟨some 200, some plainBody⟩])

/-- Somebody else logs in before a refresh ends. -/
def overtaken : List Action :=
  [.start [(meRequest "first", 0)] ⟨100000, false⟩,
    .setCurrentAccessToken (some (agedToken "second" "other")),
    .respond 0 (extendedTo "extended") ⟨100001, false⟩]

/-- The refresh that comes too late does not give its token to the user who
has logged in since. -/
theorem token_belongs_to_user_overtaken :
    ∃ events target,
      RunUnder step (Truthful firstOrSecond)
          (launched "appID" (some (agedToken "first" "user"))) overtaken
          events target ∧
        .refreshing 100000 ∈ events ∧
        ∃ current, target.currentAccessToken = some current ∧
          current.tokenString = "second" ∧
          firstOrSecond current.tokenString = current.userID := by
  have passes : (exec step (Truthful firstOrSecond)
      (launched "appID" (some (agedToken "first" "user")))
      overtaken).any (fun turn =>
        decide (.refreshing 100000 ∈ turn.2 ∧
          turn.1.currentTokenString = some "second")) = true := by
    decide
  rcases run_of_any passes with ⟨events, target, run, checked⟩
  rcases of_decide_eq_true checked with ⟨sent, kept⟩
  rcases Option.map_eq_some_iff.mp kept with ⟨current, found, same⟩
  have known : ∀ cached, some (agedToken "first" "user") = some cached →
      firstOrSecond cached.tokenString = cached.userID := by
    rintro _ ⟨⟩
    rfl
  exact ⟨events, target, run, sent, current, found, same,
    token_belongs_to_user known run found⟩

/-! ## Nobody is signed in by a connection -/

/-- There is no token, or one of the user who had one before. -/
def Descends (before after : State) : Prop :=
  ∀ token, after.currentAccessToken = some token →
    ∃ first, before.currentAccessToken = some first ∧
      token.userID = first.userID

namespace Descends

variable {before : State}

theorem of_same
    (same : next.currentAccessToken = state.currentAccessToken) :
    Descends state next := by
  intro token current
  rw [same] at current
  exact ⟨token, current, rfl⟩

theorem trans (first : Descends before state)
    (second : Descends state next) : Descends before next := by
  intro token current
  rcases second token current with ⟨middle, found, same⟩
  rcases first middle found with ⟨origin, found, still⟩
  exact ⟨origin, found, same.trans still⟩

end Descends

theorem descends_expectingCallbackComplete (now : Int) (id : RefreshId)
    (state : State) :
    Descends state (expectingCallbackComplete now id state) := by
  rcases expectingCallbackComplete_cases now id state with
    ⟨count, counted | ⟨token, current, -, refreshed⟩⟩
  · rw [counted]
    exact .of_same rfl
  · rw [refreshed]
    rintro _ ⟨⟩
    exact ⟨token, current, rfl⟩

theorem descends_clearToken (errorSubcode : Int)
    (request : FBSDKGraphRequest) (now : Int) (state : State) :
    Descends state (FBSDKGraphRequestConnection.clearToken errorSubcode
      request now state) := by
  rcases clearToken_cases errorSubcode request now state with
    same | gone | ⟨token, current, expired⟩
  · rw [same]
    exact .of_same rfl
  · rw [gone]
    exact nofun
  · rw [expired]
    rintro _ ⟨⟩
    exact ⟨token, current, rfl⟩

theorem descends_start (requests : List FBSDKGraphRequestMetadata)
    (inputs : Inputs) (state : State) :
    Descends state
      (FBSDKGraphRequestConnection.start requests inputs state).1 := by
  apply Descends.of_same
  change (addPiggybackRequests requests inputs state).2.1.currentAccessToken =
    state.currentAccessToken
  rcases addPiggybackRequests_cases requests inputs state with
    ⟨same, -⟩ | ⟨token, -, -, refreshes⟩
  · rw [same]
  · rw [refreshes]
    rfl

theorem descends_of_move {answering : Answering} {action : Action}
    {before after : Hand} {events : List Event}
    (unset : ∀ token, action ≠ .setCurrentAccessToken token)
    (move : Move answering action before events after) :
    Descends before.1 after.1 := by
  cases move with
  | retried state held metadata inputs =>
      exact descends_start _ inputs state
  | extended now answered =>
      exact (Descends.of_same rfl).trans
        (descends_expectingCallbackComplete now _ _)
  | permitted now error answered =>
      apply Descends.trans _ (descends_expectingCallbackComplete now _ _)
      apply Descends.of_same
      split <;> rfl
  | @cleared state held metadata current errorSubcode now =>
      exact descends_clearToken errorSubcode metadata.request now state
  | set sets => exact absurd sets (unset _)
  | _ => exact .of_same rfl

theorem descends_of_moves {answering : Answering} {action : Action}
    {before after : Hand} {events : List Event}
    (unset : ∀ token, action ≠ .setCurrentAccessToken token)
    (moves : Moves answering action before events after) :
    Descends before.1 after.1 := by
  induction moves with
  | refl => exact .of_same rfl
  | snoc moves move induction =>
      exact induction.trans (descends_of_move unset move)

/-- Nothing but connections sets the token. -/
def Unset (_ : State) : Action → Prop
  | .setCurrentAccessToken _ => False
  | _ => True

instance : ∀ state action, Decidable (Unset state action)
  | _, .setCurrentAccessToken _ => inferInstanceAs (Decidable False)
  | _, .start _ _ | _, .respond _ _ _ | _, .choose _ _ _
  | _, .loginEnds _ _ _ | _, .perform _ _ | _, .loadErrorConfiguration _ =>
      inferInstanceAs (Decidable True)

theorem descends_of_step {action : Action} {events : List Event}
    (unset : Unset state action)
    (taken : step state action = some (next, events)) :
    Descends state next := by
  rcases step_cases (fun _ pending _ _ => pending.answeredBy_any _ _)
    taken with ⟨requests, inputs, -, started⟩ | ⟨-, moves⟩
  · have starts := descends_start (added requests) inputs state
    rw [started] at starts
    exact starts
  · apply descends_of_moves _ moves
    rintro token rfl
    exact unset

/-- Whatever connections send and are answered, none of them signs anybody in:
as long as nothing else sets the token, it is gone or names the same user as at
the start. -/
theorem connections_keep_user {source target : State}
    {actions : List Action} {events : List Event}
    (run : RunUnder step Unset source actions events target) :
    target.currentAccessToken = none ∨
      ∃ first last, source.currentAccessToken = some first ∧
        target.currentAccessToken = some last ∧
        last.userID = first.userID := by
  have descends : Descends source target := by
    induction run with
    | refl => exact .of_same rfl
    | snoc run unset taken induction =>
        exact Descends.trans induction (descends_of_step unset taken)
  cases current : target.currentAccessToken with
  | none => exact Or.inl rfl
  | some last =>
      rcases descends last current with ⟨first, found, same⟩
      exact Or.inr ⟨first, last, found, rfl, same⟩

/-- A refresh gives the same user another token. -/
theorem connections_keep_user_extended :
    ∃ events target,
      RunUnder step Unset (launched "appID" (some (agedToken "first" "user")))
          [.start [(meRequest "first", 0)] ⟨100000, false⟩,
            .respond 0 (extendedTo "extended") ⟨100001, false⟩]
          events target ∧
        target.currentTokenString = some "extended" ∧
        (target.currentAccessToken = none ∨
          ∃ first last,
            (launched "appID"
              (some (agedToken "first" "user"))).currentAccessToken =
                some first ∧
            target.currentAccessToken = some last ∧
            last.userID = first.userID) := by
  have passes : (exec step Unset
      (launched "appID" (some (agedToken "first" "user")))
      [.start [(meRequest "first", 0)] ⟨100000, false⟩,
        .respond 0 (extendedTo "extended") ⟨100001, false⟩]).any (fun turn =>
          turn.1.currentTokenString == some "extended") = true := by
    decide
  rcases run_of_any passes with ⟨events, target, run, extended⟩
  exact ⟨events, target, run, beq_iff_eq.mp extended,
    connections_keep_user run⟩

/-! ## What the app sees -/

/-- The current token as the app sees it. -/
def State.seenToken (now : Int) (state : State) : Option App.AccessToken :=
  state.currentAccessToken.map fun token =>
    (token.seen now).toAccessToken

theorem sentWithCurrentToken_iff (request : FBSDKGraphRequest)
    (state : State) :
    FBSDKGraphRequestConnection.sentWithCurrentToken request state = true ↔
      ∃ token, state.currentAccessToken = some token ∧
        request.tokenString = some token.tokenString := by
  unfold FBSDKGraphRequestConnection.sentWithCurrentToken
  cases request.tokenString <;> cases current : state.currentAccessToken <;>
    simp [State.currentTokenString, current]

theorem seenToken_clearToken {request : FBSDKGraphRequest}
    (invalidates : request.doNotInvalidateTokenOnError = false)
    {token : TokenObject} (current : state.currentAccessToken = some token)
    (errorSubcode now : Int) :
    (FBSDKGraphRequestConnection.clearToken errorSubcode request now
        state).seenToken now =
      if errorSubcode = 493 then
        some { (token.seen now).toAccessToken with isExpired := true }
      else
        none := by
  rw [FBSDKGraphRequestConnection.clearToken, invalidates]
  by_cases expires : errorSubcode = 493
  · simp only [expires, current]
    by_cases expired : token.isExpired now = true
    · simp [expired, State.seenToken, current, FBSDKAccessToken.seen]
    · have past : now - 1 < now := by omega
      simp only [expired, Bool.false_eq_true, if_false, if_true]
      simp [State.seenToken, FBSDKAccessToken.setCurrentAccessToken,
        FBSDKAccessToken.seen, FBSDKAccessToken.isExpired,
        FBSDKGraphRequestConnection.createExpiredAccessToken, past]
  · simp [expires, State.seenToken, FBSDKAccessToken.setCurrentAccessToken]

/-- In the app's model a token stays as it is unless an error names it as
invalid. -/
theorem seenToken_of_valid {tokenString : Option String}
    {error : Option NSError} {now : Int}
    (valid : ∀ token, state.currentAccessToken = some token →
      tokenString = some token.tokenString →
        (error.bind NSError.graphErrorCode).getD 0 ≠ 190 ∧
          (error.bind NSError.graphErrorCode).getD 0 ≠ 102) :
    App.FBSDKGraphRequestConnection.processResultBody tokenString
        (error.map NSError.seen) (state.seenToken now) =
      state.seenToken now := by
  cases error with
  | none => rfl
  | some error =>
      cases current : state.currentAccessToken with
      | none =>
          simp [State.seenToken, current,
            App.FBSDKGraphRequestConnection.processResultBody]
      | some token =>
          have code : tokenString = some token.tokenString →
              error.seen.code ≠ 190 ∧ error.seen.code ≠ 102 :=
            valid token current
          by_cases sent : tokenString = some token.tokenString
          · simp [State.seenToken, current, FBSDKAccessToken.seen, code sent,
              App.FBSDKGraphRequestConnection.processResultBody]
          · simp [State.seenToken, current, FBSDKAccessToken.seen, sent,
              App.FBSDKGraphRequestConnection.processResultBody]

/-- `graphErrorCode` of an error; a code that is missing reads as 0. -/
def errorCode (error : Option NSError) : Int :=
  (error.bind NSError.graphErrorCode).getD 0

/-- A request that may invalidate its token does to the current one what the
model of the app says, unless it has to wait for the queue. -/
theorem processResultBody_seenToken (inputs : Inputs) (body : Option Body)
    {error : Option NSError} (metadata : FBSDKGraphRequestMetadata)
    (invalidates : metadata.request.doNotInvalidateTokenOnError = false)
    (settles : ¬ (200 ≤ errorCode error ∧ errorCode error < 300))
    (finish : State → Turn) (state : State) :
    ∃ after : State,
      FBSDKGraphRequestConnection.processResultBody inputs body error metadata
          finish state = finish after ∧
        after.seenToken inputs.now =
          App.FBSDKGraphRequestConnection.processResultBody
            metadata.request.tokenString (error.map NSError.seen)
            (state.seenToken inputs.now) := by
  unfold FBSDKGraphRequestConnection.processResultBody
  split
  · next sent =>
      rcases (sentWithCurrentToken_iff _ _).mp sent with
        ⟨token, current, carried⟩
      simp only
      split
      · next invalid =>
          refine ⟨_, rfl, ?_⟩
          rw [seenToken_clearToken invalidates current]
          cases error with
          | none => simp at invalid
          | some error =>
              have invalid : error.seen.code = 190 ∨ error.seen.code = 102 :=
                invalid
              simp [State.seenToken, current, carried, FBSDKAccessToken.seen,
                invalid, App.FBSDKGraphRequestConnection.processResultBody]
              rfl
      · next valid =>
          split
          · next waits => exact absurd waits settles
          · refine ⟨state, rfl, (seenToken_of_valid ?_).symm⟩
            intro token _ _
            exact not_or.mp valid
  · next elsewhere =>
      refine ⟨state, rfl, (seenToken_of_valid ?_).symm⟩
      intro token current carried
      exact absurd ((sentWithCurrentToken_iff _ _).mpr
        ⟨token, current, carried⟩) elsewhere

/-- The requests for which a result is processed: the one that was sent, and
each one that it repeats. -/
def FBSDKGraphRequestHandler.requests (request : FBSDKGraphRequest) :
    FBSDKGraphRequestHandler → List FBSDKGraphRequest
  | .retried repeated completionHandler =>
      request :: requests repeated completionHandler
  | .client _ | .extend _ | .permissions _ | .serverConfiguration =>
      [request]

/-- The token as the app's model has it after a result has been processed for
some requests. -/
def tokenAfter (error : Option NSError) (token : Option App.AccessToken)
    (requests : List FBSDKGraphRequest) : Option App.AccessToken :=
  requests.foldl (fun token request =>
    App.FBSDKGraphRequestConnection.processResultBody request.tokenString
      (error.map NSError.seen) token) token

/-- The result of a client's request, however often it has been sent again,
changes the token as the model of the app says and is handed to the client,
unless its error has to wait for the queue. -/
theorem process_client_seenToken {id : HandlerId} {error : Option NSError}
    {metadata : FBSDKGraphRequestMetadata}
    (client : metadata.completionHandler.client? = some id)
    (invalidates : ∀ request ∈
      metadata.completionHandler.requests metadata.request,
        request.doNotInvalidateTokenOnError = false)
    (settles : ¬ (200 ≤ errorCode error ∧ errorCode error < 300))
    (inputs : Inputs) (body : Option Body) (state : State) :
    ∃ after : State,
      FBSDKGraphRequestConnection.process inputs body error metadata state =
          (after, [.called id body error]) ∧
        after.seenToken inputs.now =
          tokenAfter error (state.seenToken inputs.now)
            (metadata.completionHandler.requests metadata.request) := by
  rcases metadata with ⟨request, completionHandler⟩
  induction completionHandler generalizing request state with
  | client other =>
      obtain rfl := Option.some.inj client
      rcases processResultBody_seenToken inputs body ⟨request, .client other⟩
        (invalidates request (List.mem_singleton_self request)) settles _
        state with ⟨after, processed, seen⟩
      exact ⟨after, processed, seen⟩
  | retried repeated completionHandler induction =>
      rcases processResultBody_seenToken inputs body
        ⟨request, .retried repeated completionHandler⟩
        (invalidates request (List.mem_cons_self ..)) settles _
        state with ⟨between, processed, seenBetween⟩
      have others : ∀ request ∈ completionHandler.requests repeated,
          request.doNotInvalidateTokenOnError = false :=
        fun request member =>
          invalidates request (List.mem_cons_of_mem _ member)
      rcases induction between repeated client others with
        ⟨after, finished, seen⟩
      refine ⟨after, processed.trans finished, ?_⟩
      rw [seen, seenBetween]
      rfl
  | extend refresh => cases client
  | permissions refresh => cases client
  | serverConfiguration => cases client

/-- An error comes without a body. -/
theorem body_of_outcome {configuration : FBSDKErrorConfiguration}
    {requests : List FBSDKGraphRequestMetadata} {response : Response}
    {metadata : FBSDKGraphRequestMetadata} {body : Option Body}
    {error : NSError}
    (member : (metadata, body, some error) ∈
      FBSDKGraphRequestConnection.outcomes configuration requests
        response) : body = none := by
  rw [FBSDKGraphRequestConnection.outcomes] at member
  split at member
  · rcases List.mem_map.mp member with ⟨request, -, same⟩
    exact (Prod.mk.inj (Prod.mk.inj same).2).1.symm
  · rcases List.mem_map.mp member with ⟨entry, -, same⟩
    rw [FBSDKGraphRequestConnection.outcome] at same
    split at same
    · exact (Prod.mk.inj (Prod.mk.inj same).2).1.symm
    · cases same

/-- The request of a client when it is sent once more. -/
def sentAgain : FBSDKGraphRequest :=
  { meRequest "token" with graphErrorRecoveryDisabled := true }

/-- A response that names the token as invalid. -/
def invalidToken : Response :=
  .json 400 (.dictionary { plainBody with
    error := some { transientError with
      code := some 190
      is_transient := false } })

end BandBPools.Graph
