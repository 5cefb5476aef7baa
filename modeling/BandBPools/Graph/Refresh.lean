import BandBPools.Graph.Handlers

/-!
# When tokens are refreshed

Once a day a connection takes two requests along that extend the current token
and ask for its permissions.  If they are not answered, the token stays as old
as it is, and the next connection would send them again; it does so only when
an hour has gone by.
-/

namespace BandBPools.Graph

open BandBPools.Transition
open FBSDKGraphRequestPiggybackManager

variable {answering : Answering} {state next : State}

/-- The time of a refresh that is sent along. -/
def Event.refreshed? : Event → Option Int
  | .refreshing now => some now
  | _ => none

/-- The refreshes so far are more than an hour apart, and none of them is later
than the last one that is remembered. -/
structure Spaced (events : List Event) (state : State) : Prop where
  apart : (events.filterMap Event.refreshed?).Pairwise fun earlier later =>
    FBSDKTokenRefreshRetrySeconds < later - earlier
  last : ∀ time ∈ events.filterMap Event.refreshed?,
    time ≤ state.lastRefreshTry

namespace Spaced

variable {seen events : List Event}

theorem silent (spaced : Spaced seen state)
    (none : events.filterMap Event.refreshed? = [])
    (same : next.lastRefreshTry = state.lastRefreshTry) :
    Spaced (seen ++ events) next := by
  have unchanged : (seen ++ events).filterMap Event.refreshed? =
      seen.filterMap Event.refreshed? := by
    rw [List.filterMap_append, none, List.append_nil]
  constructor
  · rw [unchanged]
    exact spaced.apart
  · rw [unchanged, same]
    exact spaced.last

theorem start (spaced : Spaced seen state)
    (requests : List FBSDKGraphRequestMetadata) (inputs : Inputs) :
    Spaced
      (seen ++ (FBSDKGraphRequestConnection.start requests inputs state).2)
      (FBSDKGraphRequestConnection.start requests inputs state).1 := by
  unfold FBSDKGraphRequestConnection.start
  simp only
  rcases addPiggybackRequests_cases requests inputs state with
    ⟨unchanged, silent⟩ | ⟨token, -, stale, refreshes⟩
  · apply spaced.silent
    · rw [silent]
      rfl
    · rw [unchanged]
      rfl
  · rw [refreshes]
    have times : (seen ++ [Event.sent (requests ++
        (addPiggybackRequests requests inputs state).1),
          .refreshing inputs.now]).filterMap Event.refreshed? =
        seen.filterMap Event.refreshed? ++ [inputs.now] :=
      List.filterMap_append
    have hour : FBSDKTokenRefreshRetrySeconds = 3600 := rfl
    constructor
    · rw [times, List.pairwise_append]
      refine ⟨spaced.apart, List.pairwise_singleton _ _, ?_⟩
      intro earlier member later now
      have before := spaced.last earlier member
      rw [List.mem_singleton.mp now]
      omega
    · rw [times]
      intro time member
      change time ≤ inputs.now
      rcases List.mem_append.mp member with earlier | now
      · have before := spaced.last time earlier
        omega
      · exact Int.le_of_eq (List.mem_singleton.mp now)

end Spaced

@[simp]
theorem clearToken_lastRefreshTry (errorSubcode : Int)
    (request : FBSDKGraphRequest) (now : Int) (state : State) :
    (FBSDKGraphRequestConnection.clearToken errorSubcode request now
      state).lastRefreshTry = state.lastRefreshTry := by
  rcases clearToken_cases errorSubcode request now state with
    same | gone | ⟨token, -, expired⟩
  · rw [same]
  · rw [gone]
    rfl
  · rw [expired]
    rfl

@[simp]
theorem expectingCallbackComplete_lastRefreshTry (now : Int)
    (id : RefreshId) (state : State) :
    (expectingCallbackComplete now id state).lastRefreshTry =
      state.lastRefreshTry := by
  rcases expectingCallbackComplete_cases now id state with
    ⟨count, counted | ⟨token, -, -, refreshed⟩⟩
  · rw [counted]
  · rw [refreshed]
    rfl

@[simp]
theorem permitted_lastRefreshTry (now : Int) (id : RefreshId)
    (body : Option Body) (error : Option NSError) (state : State) :
    (permitted now id body error state).lastRefreshTry =
      state.lastRefreshTry := by
  rw [permitted, expectingCallbackComplete_lastRefreshTry]
  split <;> rfl

theorem spaced_of_move {action : Action} {before after : Hand}
    {seen events : List Event} (spaced : Spaced seen before.1)
    (move : Move answering action before events after) :
    Spaced (seen ++ events) after.1 := by
  cases move with
  | retried state held metadata inputs => exact spaced.start _ inputs
  | extended now answered =>
      apply spaced.silent rfl
      exact expectingCallbackComplete_lastRefreshTry now _ _
  | permitted now error answered =>
      apply spaced.silent rfl
      exact permitted_lastRefreshTry now _ _ error _
  | cleared current errorSubcode now =>
      apply spaced.silent rfl
      exact clearToken_lastRefreshTry errorSubcode _ now _
  | _ => exact spaced.silent rfl rfl

theorem spaced_of_moves {action : Action} {before after : Hand}
    {seen events : List Event} (spaced : Spaced seen before.1)
    (moves : Moves answering action before events after) :
    Spaced (seen ++ events) after.1 := by
  induction moves with
  | refl =>
      rw [List.append_nil]
      exact spaced
  | snoc moves move induction =>
      rw [← List.append_assoc]
      exact spaced_of_move induction move

theorem spaced_of_step {action : Action} {seen events : List Event}
    (spaced : Spaced seen state)
    (taken : step state action = some (next, events)) :
    Spaced (seen ++ events) next := by
  rcases step_cases (fun _ pending _ _ => pending.answeredBy_any _ _)
    taken with ⟨requests, inputs, -, started⟩ | ⟨-, moves⟩
  · have starts := spaced.start (added requests) inputs
    rw [started] at starts
    exact starts
  · exact spaced_of_moves spaced moves

/-- Over every run of a process, in whatever order connections are started and
requests are sent once more, two refreshes are more than an hour apart. -/
theorem refreshes_an_hour_apart {condition : State → Action → Prop}
    {appID : String} {token : Option FBSDKAccessToken} {target : State}
    {actions : List Action} {events : List Event}
    (run : RunUnder step condition (launched appID token) actions events
      target) :
    (events.filterMap Event.refreshed?).Pairwise fun earlier later =>
      3600 < later - earlier := by
  have spaced : Spaced events target := by
    induction run with
    | refl => exact ⟨List.Pairwise.nil, nofun⟩
    | snoc run meets taken induction => exact spaced_of_step induction taken
  exact spaced.apart

/-- A token that is old enough to be refreshed. -/
def agedToken (tokenString userID : String) : FBSDKAccessToken where
  tokenString := tokenString
  permissions := ∅
  declinedPermissions := ∅
  userID := some userID
  expirationDate := distantFuture
  refreshDate := 0
  dataAccessExpirationDate := distantFuture

/-- The second of three connections comes too early for another refresh. -/
def threeStarts : List Action :=
  [.start [(meRequest "token", 0)] ⟨100000, false⟩,
    .start [(meRequest "token", 1)] ⟨103000, false⟩,
    .start [(meRequest "token", 2)] ⟨104000, false⟩]

theorem refreshes_an_hour_apart_three :
    ∃ events target,
      Run step (launched "appID" (some (agedToken "token" "user")))
          threeStarts events target ∧
        events.filterMap Event.refreshed? = [100000, 104000] ∧
        (events.filterMap Event.refreshed?).Pairwise fun earlier later =>
          3600 < later - earlier := by
  have passes : (exec step (fun _ _ => True)
      (launched "appID" (some (agedToken "token" "user")))
      threeStarts).any (fun turn =>
        turn.2.filterMap Event.refreshed? == [100000, 104000]) = true := by
    decide
  rcases run_of_any passes with ⟨events, target, run, times⟩
  exact ⟨events, target, run, beq_iff_eq.mp times,
    refreshes_an_hour_apart run⟩

end BandBPools.Graph
