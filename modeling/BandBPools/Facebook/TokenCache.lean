import BandBPools.Keychain.Items
import BandBPools.Transition.Refinement
import Mathlib.Data.Set.Insert

/-!
# The cache of the Facebook token

The Facebook token outlives the process in the keychain, next to a UUID that
is also in the user defaults.  The keychain survives a reinstallation of the
app and the defaults do not, so a token whose UUID is not the one in the
defaults is not given back.

No status of the keychain is looked at.  Still no token comes back after it
has been cleared; a token that could not be replaced does.
-/

namespace BandBPools.Facebook

open BandBPools.Keychain
open BandBPools.Transition

/-! ## FBSDKKeychainStore -/

/-- The attributes of `queryForKey:`; there is no access group. -/
structure StoreQuery where
  service : String
  account : String
deriving DecidableEq, Repr

/-- The calls of one operation on a store that the device refuses. -/
structure StoreRefusals where
  copy : Option Int
  update : Option Int
  add : Option Int
  delete : Option Int
deriving DecidableEq, Repr

/-- Nothing is refused. -/
def StoreRefusals.none : StoreRefusals := ⟨.none, .none, .none, .none⟩

namespace FBSDKKeychainStore

variable {Data : Type}

/-- `setData:forKey:accessibility:`, which updates an item before it adds
one. -/
def setData (refusals : StoreRefusals) (value : Option Data)
    (key : StoreQuery) (items : Items StoreQuery Data) :
    Bool × Items StoreQuery Data :=
  match value with
  | some value =>
      match secItemUpdate refusals.update (exactly key) value items with
      | (.errSecItemNotFound, items) =>
          let added := secItemAdd refusals.add key value items
          (added.1 = .noErr, added.2)
      | (status, items) => (status = .noErr, items)
  | none =>
      match secItemDelete refusals.delete (exactly key) items with
      | (.errSecItemNotFound, items) => (true, items)
      | (status, items) => (status = .noErr, items)

/-- `dataForKey:` -/
def dataForKey (refusals : StoreRefusals) (key : StoreQuery)
    (items : Items StoreQuery Data) : Option Data :=
  match secItemCopyMatching 1 refusals.copy (exactly key) items with
  | .ok found => found.head?
  | .error _ => none

/-- What the store holds under a key. -/
def stored? (key : StoreQuery) (items : Items StoreQuery Data) :
    Option Data :=
  (matching (exactly key) items).head?

/-- A value is set, or something has been refused and nothing has changed. -/
theorem setData_some_cases (refusals : StoreRefusals) (value : Data)
    (key : StoreQuery) (items : Items StoreQuery Data) :
    stored? key (setData refusals (some value) key items).2 = some value ∨
      refusals ≠ .none ∧
        (setData refusals (some value) key items).2 = items := by
  simp only [setData, secItemUpdate]
  cases updated : refusals.update with
  | some code =>
      apply Or.inr
      constructor
      · rintro rfl
        cases updated
      · rfl
  | none =>
      by_cases present : key ∈ items
      · have found := (mem_iff_matching_exactly items key).mp present
        have filled : (matching (exactly key) items).isEmpty = false := by
          simpa using found
        apply Or.inl
        simp only [filled, Bool.false_eq_true, if_false, stored?]
        rw [matching_overwrite_self, List.head?_map]
        cases all : matching (exactly key) items with
        | nil => exact absurd all found
        | cons old rest => rfl
      · have missing : matching (exactly key) items = [] := by
          simpa [mem_iff_matching_exactly] using present
        simp only [missing, List.isEmpty_nil, if_true, secItemAdd]
        cases added : refusals.add with
        | some code =>
            apply Or.inr
            constructor
            · rintro rfl
              cases added
            · rfl
        | none =>
            apply Or.inl
            simp only [present, if_false, stored?]
            rw [matching_insert items present]
            simp [exactly]

/-- A value is deleted, or that has been refused and nothing has changed. -/
theorem setData_none_cases (refusals : StoreRefusals) (key : StoreQuery)
    (items : Items StoreQuery Data) :
    stored? key (setData refusals none key items).2 = none ∨
      refusals ≠ .none ∧ (setData refusals none key items).2 = items := by
  have deletes : (setData refusals none key items).2 =
      (secItemDelete refusals.delete (exactly key) items).2 := by
    rw [setData]
    split
    · next missing => rw [missing]
    · next status later other deleted => rw [deleted]
  rw [deletes]
  cases deleted : refusals.delete with
  | some code =>
      apply Or.inr
      constructor
      · rintro rfl
        cases deleted
      · rfl
  | none =>
      apply Or.inl
      rw [stored?, matching_secItemDelete_self]
      rfl

/-- What is read is stored, or copying is refused. -/
theorem dataForKey_cases (refusals : StoreRefusals) (key : StoreQuery)
    (items : Items StoreQuery Data) :
    dataForKey refusals key items = stored? key items ∨
      refusals ≠ .none ∧ dataForKey refusals key items = none := by
  simp only [dataForKey, secItemCopyMatching, stored?]
  cases copied : refusals.copy with
  | some code =>
      apply Or.inr
      constructor
      · rintro rfl
        cases copied
      · rfl
  | none =>
      apply Or.inl
      cases all : matching (exactly key) items with
      | nil => rfl
      | cons found rest => rfl

end FBSDKKeychainStore

/-! ## FBSDKAccessTokenCacheV4 -/

/-- The dictionary in the keychain. -/
structure TokenInformation (Token : Type) where
  tokenUUID : String
  tokenEncoded : Token
deriving DecidableEq, Repr

/-- `FBSDKAccessTokenCacheV4` with the defaults and the keychain of its
device. -/
structure FBSDKAccessTokenCacheV4 (Token : Type) where
  bundleIdentifier : String
  defaults : Option String
  items : Items StoreQuery (TokenInformation Token)

namespace FBSDKAccessTokenCacheV4

variable {Token : Type}

/-- `kFBSDKAccessTokenKeychainKey` in the service of the cache. -/
def keychainKey (self : FBSDKAccessTokenCacheV4 Token) : StoreQuery where
  service := "com.facebook.sdk.tokencache." ++ self.bundleIdentifier
  account := "com.facebook.sdk.v4.FBSDKAccessTokenInformationKeychainKey"

/-- `clearCache` -/
def clearCache (refusals : StoreRefusals)
    (self : FBSDKAccessTokenCacheV4 Token) : FBSDKAccessTokenCacheV4 Token :=
  { self with
    items := (FBSDKKeychainStore.setData refusals none self.keychainKey
      self.items).2
    defaults := none }

/-- `accessToken` -/
def accessToken (refusals : StoreRefusals)
    (self : FBSDKAccessTokenCacheV4 Token) :
    Option Token × FBSDKAccessTokenCacheV4 Token :=
  match FBSDKKeychainStore.dataForKey refusals self.keychainKey
      self.items with
  | some dict =>
      if self.defaults = some dict.tokenUUID then
        (some dict.tokenEncoded, self)
      else
        (none, self.clearCache refusals)
  | none => (none, self.clearCache refusals)

/-- `setAccessToken:`; the new UUID is taken if there is none yet. -/
def setAccessToken (refusals : StoreRefusals) (new : String)
    (token : Option Token) (self : FBSDKAccessTokenCacheV4 Token) :
    FBSDKAccessTokenCacheV4 Token :=
  match token with
  | none => self.clearCache refusals
  | some token =>
      let uuid := self.defaults.getD new
      { self with
        items := (FBSDKKeychainStore.setData refusals
          (some ⟨uuid, token⟩) self.keychainKey self.items).2
        defaults := some uuid }

/-- The token that belongs to this installation, if there is one. -/
def current? (self : FBSDKAccessTokenCacheV4 Token) : Option Token :=
  (FBSDKKeychainStore.stored? self.keychainKey self.items).bind fun dict =>
    if self.defaults = some dict.tokenUUID then some dict.tokenEncoded
    else none

/-! ## What single operations do -/

section Operations

variable (refusals : StoreRefusals) (self : FBSDKAccessTokenCacheV4 Token)

/-- Without a UUID in the defaults nothing is given back, whatever is left in
the keychain. -/
theorem current?_of_cleared
    {cache : FBSDKAccessTokenCacheV4 Token}
    (cleared : cache.defaults = none) : cache.current? = none := by
  rw [current?, cleared]
  cases FBSDKKeychainStore.stored? cache.keychainKey cache.items <;> rfl

@[simp]
theorem current?_clearCache : (self.clearCache refusals).current? = none :=
  current?_of_cleared rfl

theorem current?_setAccessToken (new : String) (token : Token) :
    (self.setAccessToken refusals new (some token)).current? =
      (FBSDKKeychainStore.stored? self.keychainKey
        (FBSDKKeychainStore.setData refusals
          (some ⟨self.defaults.getD new, token⟩) self.keychainKey
          self.items).2).bind fun dict =>
            if some (self.defaults.getD new) = some dict.tokenUUID then
              some dict.tokenEncoded
            else
              none :=
  rfl

/-- A token that is set is given back, or the one before it is. -/
theorem current?_setAccessToken_cases {new : String}
    (fresh : ∀ dict,
      FBSDKKeychainStore.stored? self.keychainKey self.items = some dict →
        dict.tokenUUID ≠ new) (token : Token) :
    (self.setAccessToken refusals new (some token)).current? = some token ∨
      refusals ≠ .none ∧
        (self.setAccessToken refusals new (some token)).current? =
          self.current? := by
  rcases FBSDKKeychainStore.setData_some_cases refusals
      ⟨self.defaults.getD new, token⟩ self.keychainKey self.items with
    set | ⟨refused, same⟩
  · apply Or.inl
    rw [current?_setAccessToken, set]
    exact if_pos rfl
  · apply Or.inr
    refine ⟨refused, ?_⟩
    rw [current?_setAccessToken, same, current?]
    cases found : FBSDKKeychainStore.stored? self.keychainKey
        self.items with
    | none => rfl
    | some dict =>
        cases installed : self.defaults with
        | some uuid => rfl
        | none =>
            -- the token that is left in the keychain has another UUID
            have other : some new ≠ some dict.tokenUUID := by
              intro equal
              exact fresh dict found (Option.some.inj equal).symm
            exact if_neg other

/-- What is read is the token of this installation; otherwise the cache is
cleared, and copying has been refused if there was such a token. -/
theorem accessToken_cases :
    self.accessToken refusals = (self.current?, self) ∨
      self.accessToken refusals = (none, self.clearCache refusals) ∧
        (refusals = .none → self.current? = none) := by
  rw [accessToken, current?]
  rcases FBSDKKeychainStore.dataForKey_cases refusals self.keychainKey
      self.items with read | ⟨refused, missed⟩
  · rw [read]
    cases found : FBSDKKeychainStore.stored? self.keychainKey
        self.items with
    | none => exact Or.inr ⟨rfl, fun _ => rfl⟩
    | some dict =>
        by_cases installed : self.defaults = some dict.tokenUUID
        · apply Or.inl
          simp [installed]
        · apply Or.inr
          simp [installed]
  · rw [missed]
    exact Or.inr ⟨rfl, fun unrefused => absurd unrefused refused⟩

end Operations

/-! ## Runs of the cache -/

/-- An operation of the cache.  A reinstallation empties the defaults. -/
inductive Operation (Token : Type) where
  | read (refusals : StoreRefusals)
  | set (token : Option Token) (new : String) (refusals : StoreRefusals)
  | reinstall

/-- What is seen of an operation. -/
inductive Access (Token : Type) where
  | found (token : Token)
  | missing
  | set (token : Option Token)
  | reinstalled
deriving DecidableEq, Repr

/-- Run an operation. -/
def operate :
    PartialStep (FBSDKAccessTokenCacheV4 Token) (Operation Token)
      (Access Token) := fun self operation =>
  match operation with
  | .read refusals =>
      match self.accessToken refusals with
      | (some token, next) => some (next, [.found token])
      | (none, next) => some (next, [.missing])
  | .set token new refusals =>
      some (self.setAccessToken refusals new token, [.set token])
  | .reinstall => some ({ self with defaults := none }, [.reinstalled])

/-- A new UUID is not the one that is left in the keychain. -/
def Fresh (self : FBSDKAccessTokenCacheV4 Token) :
    Operation Token → Prop
  | .set _ new _ => ∀ dict,
      FBSDKKeychainStore.stored? self.keychainKey self.items = some dict →
        dict.tokenUUID ≠ new
  | .read _ | .reinstall => True

instance (self : FBSDKAccessTokenCacheV4 Token) :
    DecidablePred self.Fresh
  | .set _ new _ =>
      inferInstanceAs (Decidable (∀ dict ∈
        FBSDKKeychainStore.stored? self.keychainKey self.items,
          dict.tokenUUID ≠ new))
  | .read _ | .reinstall => inferInstanceAs (Decidable True)

/-- The new UUID is fresh and the keychain refuses nothing. -/
def Unrefused (self : FBSDKAccessTokenCacheV4 Token)
    (operation : Operation Token) : Prop :=
  self.Fresh operation ∧
    match operation with
    | .read refusals | .set _ _ refusals => refusals = .none
    | .reinstall => True

instance (self : FBSDKAccessTokenCacheV4 Token) :
    DecidablePred self.Unrefused
  | .read refusals =>
      inferInstanceAs (Decidable (self.Fresh (.read refusals) ∧
        refusals = .none))
  | .set token new refusals =>
      inferInstanceAs (Decidable (self.Fresh (.set token new refusals) ∧
        refusals = .none))
  | .reinstall =>
      inferInstanceAs (Decidable (self.Fresh .reinstall ∧ True))

/-- The tokens that may be given back: those that have been set since the
cache was last empty. -/
inductive KnownStep :
    Set Token → List (Access Token) → Set Token → Prop where
  | found {known : Set Token} {token : Token} (member : token ∈ known) :
      KnownStep known [.found token] known
  | missing (known : Set Token) : KnownStep known [.missing] ∅
  | set (known : Set Token) (token : Token) :
      KnownStep known [.set (some token)] (insert token known)
  | cleared (known : Set Token) : KnownStep known [.set none] ∅
  | reinstalled (known : Set Token) : KnownStep known [.reinstalled] ∅

/-- One register for the token. -/
inductive RegisterStep :
    Option Token → List (Access Token) → Option Token → Prop where
  | found (token : Token) :
      RegisterStep (some token) [.found token] (some token)
  | missing : RegisterStep none [.missing] none
  | set (old token : Option Token) : RegisterStep old [.set token] token
  | reinstalled (old : Option Token) :
      RegisterStep old [.reinstalled] none

/-- The cache gives back known tokens only. -/
def Trusts (self : FBSDKAccessTokenCacheV4 Token) (known : Set Token) :
    Prop :=
  ∀ token, self.current? = some token → token ∈ known

theorem trusts_of_none {self : FBSDKAccessTokenCacheV4 Token}
    (empty : self.current? = none) (known : Set Token) :
    self.Trusts known := by
  intro token found
  rw [empty] at found
  cases found

/-- Whatever the keychain refuses, the cache gives back known tokens. -/
theorem operate_refines_known :
    Refines (@operate Token) Fresh some KnownStep Trusts := by
  intro self operation next observed known trusts fresh taken
  rw [List.filterMap_some]
  cases operation with
  | read refusals =>
      rcases self.accessToken_cases refusals with read | ⟨cleared, -⟩
      · rw [operate, read] at taken
        cases found : self.current? with
        | none =>
            rw [found] at taken
            cases taken
            exact ⟨∅, trusts_of_none found ∅, Or.inr (.missing known)⟩
        | some token =>
            rw [found] at taken
            cases taken
            exact ⟨known, trusts, Or.inr (.found (trusts token found))⟩
      · rw [operate, cleared] at taken
        cases taken
        exact ⟨∅, trusts_of_none (self.current?_clearCache refusals) ∅,
          Or.inr (.missing known)⟩
  | set token new refusals =>
      cases taken
      cases token with
      | none =>
          exact ⟨∅, trusts_of_none (self.current?_clearCache refusals) ∅,
            Or.inr (.cleared known)⟩
      | some token =>
          refine ⟨insert token known, ?_, Or.inr (.set known token)⟩
          intro other found
          rcases self.current?_setAccessToken_cases refusals fresh token with
            stored | ⟨-, same⟩
          · rw [stored] at found
            cases found
            exact Set.mem_insert token known
          · rw [same] at found
            exact Set.mem_insert_of_mem token (trusts other found)
  | reinstall =>
      cases taken
      exact ⟨∅, trusts_of_none (current?_of_cleared rfl) ∅,
        Or.inr (.reinstalled known)⟩

/-- A cache whose keychain refuses nothing is a register. -/
theorem operate_refines_register :
    Refines (@operate Token) Unrefused some RegisterStep
      (fun self register => self.current? = register) := by
  rintro self operation next observed _ rfl ⟨fresh, unrefused⟩ taken
  rw [List.filterMap_some]
  refine ⟨next.current?, rfl, Or.inr ?_⟩
  cases operation with
  | read refusals =>
      rcases self.accessToken_cases refusals with read | ⟨cleared, empty⟩
      · rw [operate, read] at taken
        cases found : self.current? with
        | none =>
            rw [found] at taken
            cases taken
            rw [found]
            exact .missing
        | some token =>
            rw [found] at taken
            cases taken
            rw [found]
            exact .found token
      · rw [operate, cleared] at taken
        cases taken
        rw [empty unrefused, current?_clearCache]
        exact .missing
  | set token new refusals =>
      cases taken
      cases token with
      | none =>
          rw [setAccessToken, current?_clearCache]
          exact .set _ none
      | some token =>
          rcases self.current?_setAccessToken_cases refusals fresh token with
            stored | ⟨refused, -⟩
          · rw [stored]
            exact .set _ (some token)
          · exact absurd unrefused refused
  | reinstall =>
      cases taken
      have empty := @current?_of_cleared Token
        { self with defaults := none } rfl
      rw [empty]
      exact .reinstalled _

/--
Whatever the keychain refuses and however often the app is reinstalled, a token
that is read has been set since the cache was last cleared, found empty or left
behind by another installation.
-/
theorem cleared_token_stays_away
    {source target : FBSDKAccessTokenCacheV4 Token}
    {operations : List (Operation Token)} {accesses : List (Access Token)}
    (run : RunUnder operate Fresh source operations accesses target) :
    ∃ known, target.Trusts known ∧
      Trace KnownStep {token | source.current? = some token} accesses
        known := by
  rcases operate_refines_known.trace (fun _ found => found) run with
    ⟨known, trusts, trace⟩
  rw [List.filterMap_some] at trace
  exact ⟨known, trusts, trace⟩

/-- As long as the keychain refuses nothing, what is read is the token that
was set last, if it has not been cleared and the app has not been reinstalled
since. -/
theorem reads_last_set {source target : FBSDKAccessTokenCacheV4 Token}
    {operations : List (Operation Token)} {accesses : List (Access Token)}
    (run : RunUnder operate Unrefused source operations accesses target) :
    Trace RegisterStep source.current? accesses target.current? := by
  rcases operate_refines_register.trace rfl run with ⟨_, rfl, trace⟩
  rw [List.filterMap_some] at trace
  exact trace

/-- The cache of an app that has been installed for the first time. -/
def empty (bundleIdentifier : String) : FBSDKAccessTokenCacheV4 Token where
  bundleIdentifier := bundleIdentifier
  defaults := none
  items := ∅

/-- A token whose deletion is refused is not found after it was cleared. -/
theorem cleared_token_stays_away_of_refused :
    ∃ accesses target known,
      RunUnder operate Fresh (empty "bundle")
          [.set (some "token") "uuid" .none,
            .set none "other" { StoreRefusals.none with
              delete := some (-25308) },
            .read .none] accesses target ∧
        accesses = [.set (some "token"), .set none, .missing] ∧
        target.Trusts known ∧
        Trace KnownStep
          {token | (empty "bundle").current? = some token} accesses known := by
  have passes : (exec operate Fresh (empty "bundle")
      [.set (some "token") "uuid" .none,
        .set none "other" { StoreRefusals.none with delete := some (-25308) },
        .read .none]).any (fun turn =>
          turn.2 == [.set (some "token"), .set none, .missing]) = true := by
    decide
  rcases run_of_any passes with ⟨accesses, target, run, checked⟩
  rcases cleared_token_stays_away run with ⟨known, trusts, trace⟩
  exact ⟨accesses, target, known, run, eq_of_beq checked, trusts, trace⟩

/-- A token is replaced and read, and is gone after a reinstallation. -/
theorem reads_last_set_again :
    ∃ accesses target,
      RunUnder operate Unrefused (empty "bundle")
          [.set (some "old") "uuid" .none, .set (some "new") "other" .none,
            .read .none, .reinstall, .read .none] accesses target ∧
        accesses = [.set (some "old"), .set (some "new"), .found "new",
          .reinstalled, .missing] ∧
        Trace RegisterStep (empty "bundle").current? accesses
          target.current? := by
  have passes : (exec operate Unrefused (empty "bundle")
      [.set (some "old") "uuid" .none, .set (some "new") "other" .none,
        .read .none, .reinstall, .read .none]).any (fun turn =>
          turn.2 == [.set (some "old"), .set (some "new"), .found "new",
            .reinstalled, .missing]) = true := by
    decide
  rcases run_of_any passes with ⟨accesses, target, run, checked⟩
  exact ⟨accesses, target, run, eq_of_beq checked, reads_last_set run⟩

end FBSDKAccessTokenCacheV4

end BandBPools.Facebook
