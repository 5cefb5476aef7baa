import BandBPools.Keychain.Items
import BandBPools.Transition.Refinement
import Mathlib.Data.Set.Function

/-!
# The keychain storage of Firebase Auth

`FIRAuthKeychain` stores data by key.  An item is named by a prefixed account
and the service of the app; an earlier version of the library used the bare
key as account and no service.  A legacy item is moved to the current form
when it is read, and remembered as gone once its deletion has been tried.

The abstract storage is a register for each key.  Every run of the class,
through restarts of the app, reads and writes these registers as long as no
deletion of a legacy item is refused.  An empty key raises an exception and
changes nothing.
-/

namespace BandBPools.Auth

open BandBPools.Keychain
open BandBPools.Transition

/-! ## Keys -/

/-- An exception as Objective-C code raises it. -/
structure NSException where
  name : String
  reason : String
deriving DecidableEq, Repr

/-- A key that the storage accepts. -/
structure Key where
  name : String
  nonempty : name ≠ ""

/-- The check that each operation on a key begins with. -/
def Key.check (name : String) : Except NSException Key :=
  if empty : name = "" then
    .error ⟨"NSInvalidArgumentException",
      "The key cannot be nil or empty."⟩
  else
    .ok ⟨name, empty⟩

/-- A key passes the check as it is, and a name that is turned down is
empty. -/
theorem Key.check_cases (name : String) :
    (∃ exception, name = "" ∧ Key.check name = .error exception) ∨
      ∃ key, Key.check name = .ok key ∧ key.name = name := by
  rw [Key.check]
  split
  · next empty => exact .inl ⟨_, empty, rfl⟩
  · exact .inr ⟨_, rfl, rfl⟩

/-! ## Queries -/

/-- The attributes that name a generic password. -/
structure GenericPassword where
  account : String
  service : String
deriving DecidableEq, Repr

/-- `kAccountPrefix` -/
def kAccountPrefix : String := "firebase_auth_1_"

/-- `FIRAuthErrorUtils.keychainErrorWithFunction:status:` -/
structure KeychainError where
  function : String
  status : OSStatus
deriving DecidableEq, Repr

/-- The calls of one operation that the device refuses. -/
structure Refusals where
  copy : Option Int
  copyLegacy : Option Int
  add : Option Int
  update : Option Int
  delete : Option Int
  deleteLegacy : Option Int
deriving DecidableEq, Repr

/-- Nothing is refused. -/
def Refusals.none : Refusals := ⟨.none, .none, .none, .none, .none, .none⟩

/-- `FIRAuthKeychain` together with the items of the device.  The dictionary
`_legacyEntryDeletedForKey` holds `@YES` or nothing, so its keys suffice. -/
structure FIRAuthKeychain (Data : Type) where
  service : String
  items : Items GenericPassword Data
  legacyEntryDeletedForKey : List String

namespace FIRAuthKeychain

variable {Data : Type}

/-- The attributes of `genericPasswordQueryWithKey:` -/
def genericPassword (service key : String) : GenericPassword where
  account := kAccountPrefix ++ key
  service := service

/-- `genericPasswordQueryWithKey:` -/
def genericPasswordQueryWithKey (service key : String) :
    Query GenericPassword :=
  exactly (genericPassword service key)

/-- `legacyGenericPasswordQueryWithKey:` -/
def legacyGenericPasswordQueryWithKey (key : String) :
    Query GenericPassword :=
  fun attributes => attributes.account = key

/-! ## Operations -/

/-- `itemWithQuery:error:` -/
def itemWithQuery (refusal : Option Int) (query : Query GenericPassword)
    (items : Items GenericPassword Data) :
    Except KeychainError (Option Data) :=
  match secItemCopyMatching 2 refusal query items with
  | .ok [data] => .ok (some data)
  | .ok _ => .error ⟨"SecItemCopyMatching", .noErr⟩
  | .error .errSecItemNotFound => .ok none
  | .error status => .error ⟨"SecItemCopyMatching", status⟩

/-- `setItemWithQuery:attributes:error:` -/
def setItemWithQuery (refusals : Refusals) (attributes : GenericPassword)
    (data : Data) (items : Items GenericPassword Data) :
    Except KeychainError Unit × Items GenericPassword Data :=
  match secItemAdd refusals.add attributes data items with
  | (.noErr, items) => (.ok (), items)
  | (.errSecDuplicateItem, items) =>
      match secItemUpdate refusals.update (exactly attributes) data items with
      | (.noErr, items) => (.ok (), items)
      | (status, items) => (.error ⟨"SecItemUpdate", status⟩, items)
  | (status, items) => (.error ⟨"SecItemAdd", status⟩, items)

/-- `deleteItemWithQuery:error:` -/
def deleteItemWithQuery (refusals : Refusals)
    (query : Query GenericPassword) (items : Items GenericPassword Data) :
    Except KeychainError Unit × Items GenericPassword Data :=
  match secItemDelete refusals.delete query items with
  | (.noErr, items) => (.ok (), items)
  | (.errSecItemNotFound, items) => (.ok (), items)
  | (status, items) => (.error ⟨"SecItemDelete", status⟩, items)

/-- `deleteLegacyItemWithKey:`, which does not look at the status. -/
def deleteLegacyItemWithKey (refusals : Refusals) (key : String)
    (self : FIRAuthKeychain Data) : FIRAuthKeychain Data :=
  if key ∈ self.legacyEntryDeletedForKey then
    self
  else
    { self with
      items := (secItemDelete refusals.deleteLegacy
        (legacyGenericPasswordQueryWithKey key) self.items).2
      legacyEntryDeletedForKey := key :: self.legacyEntryDeletedForKey }

/-- `setData:forKey:error:`, for a key that has passed `Key.check`. -/
def setData (refusals : Refusals) (data : Data) (key : Key)
    (self : FIRAuthKeychain Data) :
    Except KeychainError Unit × FIRAuthKeychain Data :=
  let set := setItemWithQuery refusals
    (genericPassword self.service key.name) data self.items
  (set.1, { self with items := set.2 })

/-- `removeDataForKey:error:`, for a key that has passed `Key.check`. -/
def removeDataForKey (refusals : Refusals) (key : Key)
    (self : FIRAuthKeychain Data) :
    Except KeychainError Unit × FIRAuthKeychain Data :=
  match deleteItemWithQuery refusals
      (genericPasswordQueryWithKey self.service key.name) self.items with
  | (.error error, items) => (.error error, { self with items := items })
  | (.ok (), items) =>
      (.ok (),
        deleteLegacyItemWithKey refusals key.name
          { self with items := items })

/-- `dataForKey:error:`, for a key that has passed `Key.check`. -/
def dataForKey (refusals : Refusals) (key : Key)
    (self : FIRAuthKeychain Data) :
    Except KeychainError (Option Data) × FIRAuthKeychain Data :=
  match itemWithQuery refusals.copy
      (genericPasswordQueryWithKey self.service key.name) self.items with
  | .error error => (.error error, self)
  | .ok (some data) => (.ok (some data), self)
  | .ok none =>
      if key.name ∈ self.legacyEntryDeletedForKey then
        (.ok none, self)
      else
        match itemWithQuery refusals.copyLegacy
            (legacyGenericPasswordQueryWithKey key.name) self.items with
        | .error error => (.error error, self)
        | .ok none =>
            (.ok none,
              { self with
                legacyEntryDeletedForKey :=
                  key.name :: self.legacyEntryDeletedForKey })
        | .ok (some data) =>
            match setData refusals data key self with
            | (.error error, moved) => (.error error, moved)
            | (.ok (), moved) =>
                (.ok (some data),
                  deleteLegacyItemWithKey refusals key.name moved)

/-- A new process, which remembers no deletions. -/
def initWithService (service : String)
    (items : Items GenericPassword Data) : FIRAuthKeychain Data where
  service := service
  items := items
  legacyEntryDeletedForKey := []

/-! ## What is stored -/

/-- The data under a key, in the current and in the legacy form. -/
def forms (self : FIRAuthKeychain Data) (key : String) :
    List Data × List Data :=
  (matching (genericPasswordQueryWithKey self.service key) self.items,
    matching (legacyGenericPasswordQueryWithKey key) self.items)

/-- What the storage holds for a key. -/
def stored? (self : FIRAuthKeychain Data) (key : String) : Option Data :=
  (self.forms key).1.head?.or (self.forms key).2.head?

/-- No key is another one with the account prefix.  A legacy query for such a
key would find the other key's item. -/
def Unprefixed (keys : Set String) : Prop :=
  ∀ key ∈ keys, ∀ other ∈ keys, kAccountPrefix ++ other ≠ key

/-- A key has one legacy item at most, and none when it is said to be gone. -/
structure Sound (keys : Set String) (storage : FIRAuthKeychain Data) :
    Prop where
  unique : ∀ key ∈ keys, (storage.forms key).2.length ≤ 1
  deleted : ∀ key ∈ keys, key ∈ storage.legacyEntryDeletedForKey →
    (storage.forms key).2 = []

/-! ## Queries of different keys -/

theorem genericPassword_apart {key other : String}
    (distinct : key ≠ other) (service : String) :
    (genericPasswordQueryWithKey service key).Apart
      (genericPasswordQueryWithKey service other) := by
  intro attributes accepted
  simp only [genericPasswordQueryWithKey, exactly, decide_eq_true_eq]
    at accepted
  simpa [genericPasswordQueryWithKey, exactly, accepted, genericPassword]
    using distinct

theorem genericPassword_apart_legacy {keys : Set String}
    (unprefixed : Unprefixed keys) {key other : String}
    (member : key ∈ keys) (otherMember : other ∈ keys)
    (service : String) :
    (genericPasswordQueryWithKey service key).Apart
      (legacyGenericPasswordQueryWithKey other) := by
  intro attributes accepted
  simp only [genericPasswordQueryWithKey, exactly, decide_eq_true_eq]
    at accepted
  simpa [legacyGenericPasswordQueryWithKey, accepted, genericPassword]
    using unprefixed other otherMember key member

/-- A single key is never itself with the account prefix. -/
theorem unprefixed_singleton (key : String) : Unprefixed {key} := by
  rintro _ rfl _ rfl equal
  have lengths := congrArg String.length equal
  simp [kAccountPrefix] at lengths

theorem legacy_apart {key other : String} (distinct : key ≠ other) :
    (legacyGenericPasswordQueryWithKey key).Apart
      (legacyGenericPasswordQueryWithKey other) := by
  intro attributes accepted
  simp only [legacyGenericPasswordQueryWithKey, decide_eq_true_eq]
    at accepted
  simpa [legacyGenericPasswordQueryWithKey, accepted] using distinct

/-! ## What single calls do -/

/-- A query that is answered finds the first item. -/
theorem itemWithQuery_ok {refusal : Option Int}
    {query : Query GenericPassword} {items : Items GenericPassword Data}
    {found : Option Data}
    (answered : itemWithQuery refusal query items = .ok found) :
    found = (matching query items).head? := by
  cases refusal with
  | some code => simp [itemWithQuery, secItemCopyMatching] at answered
  | none =>
      match all : matching query items with
      | [] =>
          simpa [itemWithQuery, secItemCopyMatching, all, eq_comm]
            using answered
      | [data] =>
          simpa [itemWithQuery, secItemCopyMatching, all, eq_comm]
            using answered
      | _ :: _ :: _ =>
          simp [itemWithQuery, secItemCopyMatching, all] at answered

/-- Setting an item puts the data under the attributes, or changes
nothing. -/
theorem setItemWithQuery_cases (refusals : Refusals)
    (attributes : GenericPassword) (data : Data)
    (items : Items GenericPassword Data) :
    (∃ error, setItemWithQuery refusals attributes data items =
      (.error error, items)) ∨
    ∃ later, setItemWithQuery refusals attributes data items =
        (.ok (), later) ∧
      matching (exactly attributes) later = [data] ∧
      ∀ other, (exactly attributes).Apart other →
        matching other later = matching other items := by
  have absent_iff := mem_iff_matching_exactly items attributes
  cases addRefused : refusals.add with
  | some code =>
      exact .inl ⟨_, by simp [setItemWithQuery, secItemAdd, addRefused]; rfl⟩
  | none =>
      by_cases present : attributes ∈ items
      · have found := absent_iff.mp present
        cases updateRefused : refusals.update with
        | some code =>
            exact .inl ⟨_, by
              simp [setItemWithQuery, secItemAdd, addRefused, present,
                secItemUpdate, updateRefused]; rfl⟩
        | none =>
            refine .inr ⟨overwrite (exactly attributes) data items, ?_, ?_,
              fun other apart => matching_overwrite_of_apart items apart data⟩
            · simp [setItemWithQuery, secItemAdd, addRefused, present,
                secItemUpdate, updateRefused, found]
            · have single := matching_exactly_length_le_one items attributes
              rw [matching_overwrite_self]
              match all : matching (exactly attributes) items with
              | [] => exact absurd all found
              | [old] => simp
              | _ :: _ :: _ => simp [all] at single
      · have missing : matching (exactly attributes) items = [] := by
          simpa [absent_iff] using present
        refine .inr ⟨items.insert attributes data, ?_, ?_, ?_⟩
        · simp [setItemWithQuery, secItemAdd, addRefused, present]
        · rw [matching_insert items present, missing]
          simp [exactly]
        · intro other apart
          rw [matching_insert items present,
            apart attributes (by simp [exactly])]
          simp

/-- Deleting an item leaves nothing to find, or is refused and changes
nothing. -/
theorem deleteItemWithQuery_cases (refusals : Refusals)
    (query : Query GenericPassword) (items : Items GenericPassword Data) :
    (refusals.delete ≠ none ∧ ∃ error,
      deleteItemWithQuery refusals query items = (.error error, items)) ∨
    ∃ later, deleteItemWithQuery refusals query items = (.ok (), later) ∧
      matching query later = [] ∧
      ∀ other, query.Apart other →
        matching other later = matching other items := by
  cases refused : refusals.delete with
  | some code =>
      exact .inl ⟨Option.some_ne_none code, _, by
        simp [deleteItemWithQuery, secItemDelete, refused]; rfl⟩
  | none =>
      have gone := matching_secItemDelete_self query items
      have kept := fun other (apart : query.Apart other) =>
        matching_secItemDelete_of_apart apart none items
      refine .inr ⟨(secItemDelete none query items).2, ?_, gone, kept⟩
      by_cases empty : (matching query items).isEmpty
      · simp [deleteItemWithQuery, refused, secItemDelete, empty]
      · simp [deleteItemWithQuery, refused, secItemDelete, empty]

/-! ## What operations do to the forms of a key -/

section Forms

variable {keys : Set String} {key : String}
variable {self next : FIRAuthKeychain Data} {refusals : Refusals}

/-- An operation gives one key new forms. -/
def Gives (keys : Set String) (key : String)
    (given : List Data × List Data)
    (before after : FIRAuthKeychain Data) : Prop :=
  Set.EqOn after.forms (Function.update before.forms key given) keys

theorem setData_cases {key : Key} (unprefixed : Unprefixed keys)
    (member : key.name ∈ keys) (refusals : Refusals) (data : Data)
    (self : FIRAuthKeychain Data) :
    (∃ error, self.setData refusals data key = (.error error, self)) ∨
    ∃ later, self.setData refusals data key = (.ok (), later) ∧
      Gives keys key.name ([data], (self.forms key.name).2) self later ∧
      later.legacyEntryDeletedForKey = self.legacyEntryDeletedForKey := by
  rcases setItemWithQuery_cases refusals
      (genericPassword self.service key.name) data self.items with
    ⟨error, failed⟩ | ⟨later, set, found, kept⟩
  · exact .inl ⟨error, by simp [setData, failed]⟩
  · refine .inr ⟨{ self with items := later }, by simp [setData, set],
      ?_, rfl⟩
    intro other otherMember
    have legacy := kept _ (genericPassword_apart_legacy unprefixed member
      otherMember self.service)
    by_cases same : other = key.name
    · subst same
      simpa [forms] using ⟨found, legacy⟩
    · have current := kept _ (genericPassword_apart (Ne.symm same)
        self.service)
      simpa [forms, same] using ⟨current, legacy⟩

/-- An erasure is refused and changes nothing, or it deletes the item of the
key and then tries to delete the legacy item. -/
theorem removeDataForKey_cases {key : Key} (unprefixed : Unprefixed keys)
    (member : key.name ∈ keys) (refusals : Refusals)
    (self : FIRAuthKeychain Data) :
    (refusals.delete ≠ none ∧ ∃ error,
      self.removeDataForKey refusals key = (.error error, self)) ∨
    ∃ middle, self.removeDataForKey refusals key =
        (.ok (), middle.deleteLegacyItemWithKey refusals key.name) ∧
      Gives keys key.name ([], (self.forms key.name).2) self middle ∧
      middle.legacyEntryDeletedForKey = self.legacyEntryDeletedForKey := by
  rcases deleteItemWithQuery_cases refusals
      (genericPasswordQueryWithKey self.service key.name) self.items with
    ⟨refused, error, failed⟩ | ⟨later, succeeded, gone, kept⟩
  · exact .inl ⟨refused, error, by simp [removeDataForKey, failed]⟩
  · refine .inr ⟨{ self with items := later },
      by simp [removeDataForKey, succeeded], ?_, rfl⟩
    intro other otherMember
    have legacy := kept _ (genericPassword_apart_legacy unprefixed member
      otherMember self.service)
    by_cases same : other = key.name
    · subst same
      simpa [forms] using ⟨gone, legacy⟩
    · have current := kept _ (genericPassword_apart (Ne.symm same)
        self.service)
      simpa [forms, same] using ⟨current, legacy⟩

/-- A legacy item is gone if its deletion is tried and not refused. -/
theorem deleteLegacyItemWithKey_gives (unprefixed : Unprefixed keys)
    (member : key ∈ keys) (refusals : Refusals)
    (self : FIRAuthKeychain Data) :
    Gives keys key
      ((self.forms key).1,
        if refusals.deleteLegacy = none ∧
            key ∉ self.legacyEntryDeletedForKey
          then [] else (self.forms key).2) self
      (self.deleteLegacyItemWithKey refusals key) := by
  by_cases known : key ∈ self.legacyEntryDeletedForKey
  · rw [deleteLegacyItemWithKey, if_pos known,
      if_neg (fun tried => tried.2 known), Prod.mk.eta, Gives,
      Function.update_eq_self]
    exact fun _ _ => rfl
  · rw [deleteLegacyItemWithKey, if_neg known]
    cases refused : refusals.deleteLegacy with
    | some code =>
        rw [if_neg (fun tried => nomatch tried.1), Prod.mk.eta, Gives,
          Function.update_eq_self]
        exact fun _ _ => rfl
    | none =>
        intro other otherMember
        have current := matching_secItemDelete_of_apart
          (genericPassword_apart_legacy unprefixed otherMember member
            self.service).symm none self.items
        by_cases same : other = key
        · subst same
          simpa [forms, known] using
            ⟨current, matching_secItemDelete_self _ self.items⟩
        · have legacy := matching_secItemDelete_of_apart
            (legacy_apart (Ne.symm same)) none self.items
          simpa [forms, same] using ⟨current, legacy⟩

theorem deleteLegacyItemWithKey_of_sound (unprefixed : Unprefixed keys)
    (sound : self.Sound keys) (member : key ∈ keys)
    (allowed : refusals.deleteLegacy = none) :
    Gives keys key ((self.forms key).1, []) self
      (self.deleteLegacyItemWithKey refusals key) := by
  have gives := deleteLegacyItemWithKey_gives unprefixed member refusals self
  by_cases known : key ∈ self.legacyEntryDeletedForKey
  · rwa [if_neg (fun tried => tried.2 known),
      sound.deleted key member known] at gives
  · rwa [if_pos ⟨allowed, known⟩] at gives

@[simp]
theorem mem_deleteLegacyItemWithKey_iff {other : String} :
    other ∈ (self.deleteLegacyItemWithKey refusals key
        ).legacyEntryDeletedForKey ↔
      other = key ∨ other ∈ self.legacyEntryDeletedForKey := by
  rw [deleteLegacyItemWithKey]
  split
  · next known =>
      constructor
      · exact .inr
      · rintro (rfl | other)
        · exact known
        · exact other
  · simp

/-- New forms with no more legacy items than before keep a storage sound. -/
theorem Sound.of_gives {given : List Data × List Data}
    (sound : self.Sound keys) (gives : Gives keys key given self next)
    (unique : given.2.length ≤ 1)
    (deleted : key ∈ next.legacyEntryDeletedForKey → given.2 = [])
    (others : ∀ other, other ≠ key →
      other ∈ next.legacyEntryDeletedForKey →
      other ∈ self.legacyEntryDeletedForKey) :
    next.Sound keys := by
  constructor
  · intro other member
    rw [gives member]
    by_cases same : other = key
    · simpa [same] using unique
    · simpa [same] using sound.unique other member
  · intro other member known
    rw [gives member]
    by_cases same : other = key
    · subst same
      simpa using deleted known
    · simpa [same] using sound.deleted other member (others other same known)

/-- What is stored after new forms are given. -/
theorem Gives.stored? {given : List Data × List Data}
    (gives : Gives keys key given self next) :
    Set.EqOn next.stored?
      (Function.update self.stored? key
        (given.1.head?.or given.2.head?)) keys := by
  intro other member
  rw [FIRAuthKeychain.stored?, gives member]
  by_cases same : other = key
  · simp [same]
  · simp [same, FIRAuthKeychain.stored?]

end Forms

/-! ## Specifications -/

section Specifications

variable {keys : Set String} {key : Key}
variable {self next : FIRAuthKeychain Data} {refusals : Refusals}

/-- A write that fails changes nothing. -/
theorem setData_error {data : Data} {error : KeychainError}
    (set : self.setData refusals data key = (.error error, next)) :
    next = self := by
  rcases setData_cases (unprefixed_singleton key.name)
      (Set.mem_singleton key.name) refusals data self with
    ⟨refused, failed⟩ | ⟨later, succeeded, -, -⟩
  · exact (Prod.mk.inj (set.symm.trans failed)).2
  · cases set.symm.trans succeeded

/-- A write that succeeds stores the data. -/
theorem setData_ok (unprefixed : Unprefixed keys)
    (sound : self.Sound keys) (member : key.name ∈ keys) {data : Data}
    (set : self.setData refusals data key = (.ok (), next)) :
    next.Sound keys ∧ Set.EqOn next.stored?
      (Function.update self.stored? key.name (some data)) keys := by
  rcases setData_cases unprefixed member refusals data self with
    ⟨error, failed⟩ | ⟨later, succeeded, gives, same⟩
  · cases set.symm.trans failed
  · obtain ⟨-, rfl⟩ := Prod.mk.inj (set.symm.trans succeeded)
    refine ⟨?_, by simpa using gives.stored?⟩
    apply sound.of_gives gives (sound.unique key.name member)
    · rw [same]
      exact sound.deleted key.name member
    · intro other _ known
      rwa [same] at known

/-- An erasure that fails changes nothing. -/
theorem removeDataForKey_error {error : KeychainError}
    (removed : self.removeDataForKey refusals key = (.error error, next)) :
    next = self := by
  rcases removeDataForKey_cases (unprefixed_singleton key.name)
      (Set.mem_singleton key.name) refusals self with
    ⟨-, refused, failed⟩ | ⟨middle, succeeded, -, -⟩
  · exact (Prod.mk.inj (removed.symm.trans failed)).2
  · cases removed.symm.trans succeeded

/-- An erasure succeeds unless the keychain refuses it. -/
theorem removeDataForKey_of_allowed (allowed : refusals.delete = none)
    (self : FIRAuthKeychain Data) (key : Key) :
    (self.removeDataForKey refusals key).1 = .ok () := by
  rcases removeDataForKey_cases (unprefixed_singleton key.name)
      (Set.mem_singleton key.name) refusals self with
    ⟨refused, -⟩ | ⟨middle, succeeded, -, -⟩
  · exact absurd allowed refused
  · rw [succeeded]

/-- An erasure that succeeds leaves nothing stored. -/
theorem removeDataForKey_ok (unprefixed : Unprefixed keys)
    (sound : self.Sound keys) (member : key.name ∈ keys)
    (allowed : refusals.deleteLegacy = none)
    (removed : self.removeDataForKey refusals key = (.ok (), next)) :
    next.Sound keys ∧ Set.EqOn next.stored?
      (Function.update self.stored? key.name none) keys := by
  rcases removeDataForKey_cases unprefixed member refusals self with
    ⟨-, error, failed⟩ | ⟨middle, succeeded, first, same⟩
  · cases removed.symm.trans failed
  · obtain ⟨-, rfl⟩ := Prod.mk.inj (removed.symm.trans succeeded)
    have between : middle.Sound keys := by
      apply sound.of_gives first (sound.unique key.name member)
      · rw [same]
        exact sound.deleted key.name member
      · intro other _ known
        rwa [same] at known
    have second := deleteLegacyItemWithKey_of_sound unprefixed between member
      allowed
    constructor
    · apply between.of_gives second (by simp)
      · intro _
        rfl
      · intro other distinct known
        simpa [distinct] using known
    · intro other otherMember
      rw [second.stored? otherMember, first member]
      by_cases equal : other = key.name
      · simp [equal]
      · simp [equal, first.stored? otherMember]

/-- An erasure that reports success is final, also for the next process, just
when there was no legacy item or its deletion has been tried and was not
refused. -/
theorem removeDataForKey_final_iff
    (removed : self.removeDataForKey refusals key = (.ok (), next)) :
    (initWithService next.service next.items).stored? key.name = none ↔
      (self.forms key.name).2 = [] ∨
        refusals.deleteLegacy = none ∧
          key.name ∉ self.legacyEntryDeletedForKey := by
  show next.stored? key.name = none ↔ _
  rcases removeDataForKey_cases (unprefixed_singleton key.name)
      (Set.mem_singleton key.name) refusals self with
    ⟨-, error, failed⟩ | ⟨middle, succeeded, first, same⟩
  · cases removed.symm.trans failed
  · obtain ⟨-, rfl⟩ := Prod.mk.inj (removed.symm.trans succeeded)
    have second := deleteLegacyItemWithKey_gives
      (unprefixed_singleton key.name) (Set.mem_singleton key.name) refusals
      middle
    rw [stored?, second (Set.mem_singleton key.name), Function.update_self,
      first (Set.mem_singleton key.name), Function.update_self, same]
    -- What is left of the legacy item decides.
    split
    · next deleted => simp [deleted]
    · next kept => simp [kept]

/-- The key of the examples. -/
def legacyKey : Key := ⟨"user", by decide⟩

/-- A storage with one item, in the legacy form. -/
def legacyStorage : FIRAuthKeychain String :=
  initWithService "service" (AList.singleton ⟨"user", ""⟩ "archive")

theorem unprefixed_user : Unprefixed {"user", ""} := by
  rintro _ (rfl | rfl) _ (rfl | rfl) <;> decide

theorem legacyStorage_sound : legacyStorage.Sound {"user", ""} := by
  constructor
  · rintro _ (rfl | rfl) <;> decide
  · intro _ _ known
    cases known

/-- A legacy item that must not be deleted comes back, also after a second
erasure in the same process. -/
theorem removeDataForKey_final_iff_of_refused :
    ∃ next later, legacyStorage.removeDataForKey
        { Refusals.none with deleteLegacy := some (-25308) } legacyKey =
          (.ok (), next) ∧
      (initWithService next.service next.items).stored? "user" ≠ none ∧
      next.removeDataForKey .none legacyKey = (.ok (), later) ∧
      (initWithService later.service later.items).stored? "user" ≠ none := by
  have removed : legacyStorage.removeDataForKey
      { Refusals.none with deleteLegacy := some (-25308) } legacyKey =
        (.ok (), _) := rfl
  have again : FIRAuthKeychain.removeDataForKey .none legacyKey
      (legacyStorage.removeDataForKey
        { Refusals.none with deleteLegacy := some (-25308) }
        legacyKey).2 = (.ok (), _) := rfl
  refine ⟨_, _, removed, ?_, again, ?_⟩
  · apply mt (removeDataForKey_final_iff removed).mp
    decide
  · apply mt (removeDataForKey_final_iff again).mp
    decide

/-- Moving a legacy item leaves the same data stored. -/
theorem migrate_spec (unprefixed : Unprefixed keys)
    (sound : self.Sound keys) (member : key.name ∈ keys)
    (allowed : refusals.deleteLegacy = none) {data : Data}
    (stored : self.stored? key.name = some data)
    (set : self.setData refusals data key = (.ok (), next)) :
    (next.deleteLegacyItemWithKey refusals key.name).Sound keys ∧
      Set.EqOn (next.deleteLegacyItemWithKey refusals key.name).stored?
        self.stored? keys := by
  rcases setData_cases unprefixed member refusals data self with
    ⟨error, failed⟩ | ⟨later, succeeded, first, same⟩
  · cases set.symm.trans failed
  · obtain ⟨-, rfl⟩ := Prod.mk.inj (set.symm.trans succeeded)
    have between : next.Sound keys :=
      (setData_ok unprefixed sound member set).1
    have second := deleteLegacyItemWithKey_of_sound unprefixed between member
      allowed
    constructor
    · apply between.of_gives second (by simp)
      · intro _
        rfl
      · intro other distinct known
        simpa [distinct] using known
    · intro other otherMember
      rw [second.stored? otherMember, first member]
      by_cases equal : other = key.name
      · simp [equal, stored]
      · simp [equal, first.stored? otherMember]

/-- Reading a key finds what is stored and leaves it stored. -/
theorem dataForKey_spec (unprefixed : Unprefixed keys)
    (sound : self.Sound keys) (member : key.name ∈ keys)
    (allowed : refusals.deleteLegacy = none)
    {result : Except KeychainError (Option Data)}
    (read : self.dataForKey refusals key = (result, next)) :
    next.Sound keys ∧ Set.EqOn next.stored? self.stored? keys ∧
      ∀ found, result = .ok found → found = self.stored? key.name := by
  have unchanged : Set.EqOn self.stored? self.stored? keys :=
    fun _ _ => rfl
  rw [dataForKey] at read
  split at read
  · obtain ⟨rfl, rfl⟩ := Prod.mk.inj read
    exact ⟨sound, unchanged, fun _ other => nomatch other⟩
  · next data found =>
      obtain ⟨rfl, rfl⟩ := Prod.mk.inj read
      refine ⟨sound, unchanged, ?_⟩
      rintro _ ⟨⟩
      simp [stored?, forms, ← itemWithQuery_ok found]
  · next missing =>
      have empty : (self.forms key.name).1.head? = none :=
        (itemWithQuery_ok missing).symm
      split at read
      · next known =>
          obtain ⟨rfl, rfl⟩ := Prod.mk.inj read
          refine ⟨sound, unchanged, ?_⟩
          rintro _ ⟨⟩
          simp [stored?, empty, sound.deleted key.name member known]
      · split at read
        · obtain ⟨rfl, rfl⟩ := Prod.mk.inj read
          exact ⟨sound, unchanged, fun _ other => nomatch other⟩
        · next absent =>
            have noLegacy : (self.forms key.name).2.head? = none :=
              (itemWithQuery_ok absent).symm
            obtain ⟨rfl, rfl⟩ := Prod.mk.inj read
            refine ⟨⟨sound.unique, ?_⟩, unchanged, ?_⟩
            · intro other otherMember known
              rcases List.mem_cons.mp known with rfl | known
              · exact List.head?_eq_none_iff.mp noLegacy
              · exact sound.deleted other otherMember known
            · rintro _ ⟨⟩
              simp [stored?, empty, noLegacy]
        · next data present =>
            have legacy : (self.forms key.name).2.head? = some data :=
              (itemWithQuery_ok present).symm
            have stored : self.stored? key.name = some data := by
              simp [stored?, empty, legacy]
            split at read
            · next moved failed =>
                obtain ⟨rfl, rfl⟩ := Prod.mk.inj read
                have same := setData_error failed
                rw [same]
                exact ⟨sound, unchanged, fun _ other => nomatch other⟩
            · next moved set =>
                obtain ⟨rfl, rfl⟩ := Prod.mk.inj read
                obtain ⟨sound, same⟩ :=
                  migrate_spec unprefixed sound member allowed stored set
                refine ⟨sound, same, ?_⟩
                rintro _ ⟨⟩
                exact stored.symm

end Specifications

/-! ## Registers -/

/-- What a client of the storage learns from an operation. -/
inductive Access (Data : Type) where
  | found (key : String) (data : Option Data)
  | wrote (key : String) (data : Data)
  | erased (key : String)
  | failed (key : String) (error : KeychainError)
  | raised (exception : NSException)
deriving DecidableEq

/-- An operation on the storage, with the calls refused in it; `restart` ends
the process and starts a new one. -/
inductive Operation (Data : Type) where
  | read (key : String) (refusals : Refusals)
  | write (key : String) (data : Data) (refusals : Refusals)
  | erase (key : String) (refusals : Refusals)
  | restart

/-- Only the operations that succeed are visible. -/
def Access.visible : Access Data → Option (Access Data)
  | .failed _ _ | .raised _ => none
  | access => some access

/-- What an operation on a key shows, given what a success shows. -/
def Access.outcome {Value : Type} (name : String)
    (success : Value → Access Data) :
    Except KeychainError Value → Access Data
  | .ok value => success value
  | .error error => .failed name error

/-- Check a key before an operation.  Nothing catches the exception that an
empty key raises: the process ends, and a new one follows. -/
def checked (name : String) (self : FIRAuthKeychain Data)
    (operation : Key → FIRAuthKeychain Data × Access Data) :
    Option (FIRAuthKeychain Data × List (Access Data)) :=
  match Key.check name with
  | .error exception =>
      some (initWithService self.service self.items, [.raised exception])
  | .ok key => some ((operation key).1, [(operation key).2])

/-- Run an operation. -/
def operate : PartialStep (FIRAuthKeychain Data) (Operation Data)
    (Access Data) := fun self operation =>
  match operation with
  | .read name refusals => checked name self fun key =>
      let read := self.dataForKey refusals key
      (read.2, .outcome name (.found name) read.1)
  | .write name data refusals => checked name self fun key =>
      let set := self.setData refusals data key
      (set.2, .outcome name (fun _ => .wrote name data) set.1)
  | .erase name refusals => checked name self fun key =>
      let removed := self.removeDataForKey refusals key
      (removed.2, .outcome name (fun _ => .erased name) removed.1)
  | .restart => some (initWithService self.service self.items, [])

/-- The operation uses a key of the set, and no deletion of a legacy item is
refused in it. -/
def Operation.Allowed (keys : Set String) : Operation Data → Prop
  | .read key refusals => key ∈ keys ∧ refusals.deleteLegacy = none
  | .write key _ _ => key ∈ keys
  | .erase key refusals => key ∈ keys ∧ refusals.deleteLegacy = none
  | .restart => True

instance (keys : Set String) [DecidablePred (· ∈ keys)] :
    DecidablePred (@Operation.Allowed Data keys)
  | .read key refusals | .erase key refusals =>
      inferInstanceAs (Decidable
        (key ∈ keys ∧ refusals.deleteLegacy = none))
  | .write key _ _ => inferInstanceAs (Decidable (key ∈ keys))
  | .restart => inferInstanceAs (Decidable True)

/-- One register for each key. -/
inductive RegisterStep :
    (String → Option Data) → List (Access Data) →
      (String → Option Data) → Prop where
  | found (registers : String → Option Data) (key : String) :
      RegisterStep registers [.found key (registers key)] registers
  | wrote (registers : String → Option Data) (key : String) (data : Data) :
      RegisterStep registers [.wrote key data]
        (Function.update registers key (some data))
  | erased (registers : String → Option Data) (key : String) :
      RegisterStep registers [.erased key]
        (Function.update registers key none)

/-- The registers of the keys hold what is stored. -/
structure Holds (keys : Set String) (storage : FIRAuthKeychain Data)
    (registers : String → Option Data) : Prop where
  sound : storage.Sound keys
  agree : Set.EqOn storage.stored? registers keys

theorem Holds.update {keys : Set String}
    {storage next : FIRAuthKeychain Data}
    {registers : String → Option Data} (holds : Holds keys storage registers)
    (sound : next.Sound keys) {key : String} {data : Option Data}
    (changed : Set.EqOn next.stored?
      (Function.update storage.stored? key data) keys) :
    Holds keys next (Function.update registers key data) := by
  refine ⟨sound, fun other member => ?_⟩
  rw [changed member]
  by_cases same : other = key
  · simp [same]
  · simp [same, holds.agree member]

/-- A new process finds the same registers. -/
theorem Holds.restart {keys : Set String} {storage : FIRAuthKeychain Data}
    {registers : String → Option Data}
    (holds : Holds keys storage registers) :
    Holds keys (initWithService storage.service storage.items) registers :=
  ⟨⟨holds.sound.unique, fun _ _ known => nomatch known⟩, holds.agree⟩

/-- The registers hold what is stored afterwards, with a step of theirs for
what is visible. -/
def Follows (keys : Set String) (registers : String → Option Data)
    (next : FIRAuthKeychain Data) (observed : List (Access Data)) : Prop :=
  ∃ later, Holds keys next later ∧
    (later = registers ∧ observed.filterMap Access.visible = [] ∨
      RegisterStep registers (observed.filterMap Access.visible) later)

section Following

variable {keys : Set String} {self : FIRAuthKeychain Data}
variable {registers : String → Option Data} {refusals : Refusals}
variable {key : Key}

/-- The registers follow an operation with the check of its key, if they
follow it for each key that passes. -/
theorem follows_checked (holds : Holds keys self registers) {name : String}
    {operation : Key → FIRAuthKeychain Data × Access Data}
    (follows : ∀ key : Key, key.name = name →
      Follows keys registers (operation key).1 [(operation key).2])
    {next : FIRAuthKeychain Data} {observed : List (Access Data)}
    (taken : checked name self operation = some (next, observed)) :
    Follows keys registers next observed := by
  rcases Key.check_cases name with
    ⟨exception, -, raised⟩ | ⟨key, passed, named⟩
  · simp only [checked, raised, Option.some.injEq, Prod.mk.injEq] at taken
    rcases taken with ⟨rfl, rfl⟩
    exact ⟨registers, holds.restart, .inl ⟨rfl, rfl⟩⟩
  · simp only [checked, passed, Option.some.injEq, Prod.mk.injEq] at taken
    rcases taken with ⟨rfl, rfl⟩
    exact follows key named

theorem follows_read (unprefixed : Unprefixed keys)
    (holds : Holds keys self registers) (member : key.name ∈ keys)
    (allowed : refusals.deleteLegacy = none) :
    Follows keys registers (self.dataForKey refusals key).2
      [.outcome key.name (.found key.name)
        (self.dataForKey refusals key).1] := by
  cases read : self.dataForKey refusals key with
  | mk result next =>
      rcases dataForKey_spec unprefixed holds.sound member allowed read with
        ⟨sound, same, finds⟩
      refine ⟨registers, ⟨sound, same.trans holds.agree⟩, ?_⟩
      cases result with
      | error error => exact .inl ⟨rfl, rfl⟩
      | ok data =>
          have found : data = registers key.name :=
            (finds data rfl).trans (holds.agree member)
          rw [found]
          exact .inr (.found registers key.name)

theorem follows_write (unprefixed : Unprefixed keys)
    (holds : Holds keys self registers) (member : key.name ∈ keys)
    (data : Data) :
    Follows keys registers (self.setData refusals data key).2
      [.outcome key.name (fun _ => .wrote key.name data)
        (self.setData refusals data key).1] := by
  cases set : self.setData refusals data key with
  | mk result next =>
      cases result with
      | error error =>
          have same := setData_error set
          rw [same]
          exact ⟨registers, holds, .inl ⟨rfl, rfl⟩⟩
      | ok done =>
          rcases setData_ok unprefixed holds.sound member set with
            ⟨sound, changed⟩
          exact ⟨_, holds.update sound changed,
            .inr (.wrote registers key.name data)⟩

theorem follows_erase (unprefixed : Unprefixed keys)
    (holds : Holds keys self registers) (member : key.name ∈ keys)
    (allowed : refusals.deleteLegacy = none) :
    Follows keys registers (self.removeDataForKey refusals key).2
      [.outcome key.name (fun _ => .erased key.name)
        (self.removeDataForKey refusals key).1] := by
  cases removed : self.removeDataForKey refusals key with
  | mk result next =>
      cases result with
      | error error =>
          have same := removeDataForKey_error removed
          rw [same]
          exact ⟨registers, holds, .inl ⟨rfl, rfl⟩⟩
      | ok done =>
          rcases removeDataForKey_ok unprefixed holds.sound member allowed
            removed with ⟨sound, changed⟩
          exact ⟨_, holds.update sound changed,
            .inr (.erased registers key.name)⟩

end Following

/-- The storage refines the registers. -/
theorem operate_refines {keys : Set String}
    (unprefixed : Unprefixed keys) :
    Refines (@operate Data)
      (fun _ operation => operation.Allowed keys)
      Access.visible RegisterStep (Holds keys) := by
  intro self operation next observed registers holds allowed taken
  cases operation with
  | read name refusals =>
      rcases allowed with ⟨member, allowed⟩
      apply follows_checked holds _ taken
      rintro key rfl
      exact follows_read unprefixed holds member allowed
  | write name data refusals =>
      apply follows_checked holds _ taken
      rintro key rfl
      exact follows_write unprefixed holds allowed data
  | erase name refusals =>
      rcases allowed with ⟨member, allowed⟩
      apply follows_checked holds _ taken
      rintro key rfl
      exact follows_erase unprefixed holds member allowed
  | restart =>
      rcases Prod.mk.inj (Option.some.inj taken) with ⟨rfl, rfl⟩
      exact ⟨registers, holds.restart, .inl ⟨rfl, rfl⟩⟩

/-- Every run of the storage, restarts included, reads and writes its
registers, which start with what is stored at its source. -/
theorem reads_last_write {keys : Set String}
    (unprefixed : Unprefixed keys)
    {source target : FIRAuthKeychain Data} (sound : source.Sound keys)
    {operations : List (Operation Data)} {accesses : List (Access Data)}
    (run : RunUnder operate (fun _ operation => operation.Allowed keys)
      source operations accesses target) :
    ∃ registers, Holds keys target registers ∧
      Trace RegisterStep source.stored?
        (accesses.filterMap Access.visible) registers :=
  (operate_refines unprefixed).trace ⟨sound, fun _ _ => rfl⟩ run

/-- A legacy item is read and erased, an empty key ends the process, and the
next one looks for the item. -/
theorem reads_last_write_legacy :
    ∃ accesses target registers,
      RunUnder operate
          (fun _ operation => operation.Allowed {"user", ""}) legacyStorage
          [.read "user" .none, .erase "user" .none, .read "" .none,
            .read "user" .none] accesses target ∧
        accesses = [.found "user" (some "archive"), .erased "user",
          .raised ⟨"NSInvalidArgumentException",
            "The key cannot be nil or empty."⟩,
          .found "user" none] ∧
        Holds {"user", ""} target registers ∧
        Trace RegisterStep legacyStorage.stored?
          (accesses.filterMap Access.visible) registers := by
  have passes : (exec operate
      (fun _ operation => operation.Allowed {"user", ""}) legacyStorage
      [.read "user" .none, .erase "user" .none, .read "" .none,
        .read "user" .none]).any (fun turn =>
          turn.2 == [.found "user" (some "archive"), .erased "user",
            .raised ⟨"NSInvalidArgumentException",
              "The key cannot be nil or empty."⟩,
            .found "user" none]) = true := by
    decide
  rcases run_of_any passes with ⟨accesses, target, run, checked⟩
  obtain ⟨registers, holds, trace⟩ :=
    reads_last_write unprefixed_user legacyStorage_sound run
  exact ⟨accesses, target, registers, run, eq_of_beq checked, holds, trace⟩

end FIRAuthKeychain

end BandBPools.Auth
