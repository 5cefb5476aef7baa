import Mathlib.Data.List.AList

/-!
# Keychain items

A keychain holds data under attributes.  Its clients reach it through four
calls that copy, add, update and delete the items a query finds.  Any call may
be refused, for instance on a device that has not been unlocked yet, and a
refused call changes nothing.

The attributes and the queries on them are parameters.
-/

namespace BandBPools.Keychain

variable {Attributes Data : Type}

/-! ## Statuses and queries -/

/-- What a call reports. -/
inductive OSStatus where
  | noErr
  | errSecDuplicateItem
  | errSecItemNotFound
  | refused (code : Int)
deriving DecidableEq, Repr

/-- A query accepts or rejects the attributes of an item. -/
abbrev Query (Attributes : Type) := Attributes → Bool

/-- Two queries that no item meets together. -/
def Query.Apart (left right : Query Attributes) : Prop :=
  ∀ attributes, left attributes = true → right attributes = false

theorem Query.Apart.symm {left right : Query Attributes}
    (apart : left.Apart right) : right.Apart left := by
  intro attributes accepted
  cases rejected : left attributes with
  | false => rfl
  | true => simp [apart attributes rejected] at accepted

/-- A query for one fixed choice of attributes. -/
def exactly [DecidableEq Attributes] (attributes : Attributes) :
    Query Attributes :=
  fun candidate => candidate = attributes

/-! ## Items -/

/-- The items of a keychain. -/
abbrev Items (Attributes Data : Type) := AList fun _ : Attributes => Data

/-- The data of the items that a query finds. -/
def matching (query : Query Attributes) (items : Items Attributes Data) :
    List Data :=
  (items.entries.filter fun entry => query entry.1).map Sigma.snd

/-- `SecItemCopyMatching`, with a limit on the number of items returned. -/
def secItemCopyMatching (limit : Nat) (refusal : Option Int)
    (query : Query Attributes) (items : Items Attributes Data) :
    Except OSStatus (List Data) :=
  match refusal with
  | some code => .error (.refused code)
  | none =>
      match (matching query items).take limit with
      | [] => .error .errSecItemNotFound
      | found => .ok found

/-- `SecItemAdd` -/
def secItemAdd [DecidableEq Attributes] (refusal : Option Int)
    (attributes : Attributes) (data : Data)
    (items : Items Attributes Data) :
    OSStatus × Items Attributes Data :=
  match refusal with
  | some code => (.refused code, items)
  | none =>
      if attributes ∈ items then
        (.errSecDuplicateItem, items)
      else
        (.noErr, items.insert attributes data)

/-- Give new data to every item that a query finds. -/
def overwrite (query : Query Attributes) (data : Data)
    (items : Items Attributes Data) : Items Attributes Data where
  entries := items.entries.map
    (Sigma.map id fun attributes old =>
      if query attributes then data else old)
  nodupKeys := List.NodupKeys.map₂ _ _ items.nodupKeys

/-- `SecItemUpdate` -/
def secItemUpdate (refusal : Option Int) (query : Query Attributes)
    (data : Data) (items : Items Attributes Data) :
    OSStatus × Items Attributes Data :=
  match refusal with
  | some code => (.refused code, items)
  | none =>
      if (matching query items).isEmpty then
        (.errSecItemNotFound, items)
      else
        (.noErr, overwrite query data items)

/-- Drop every item that a query finds. -/
def remove (query : Query Attributes) (items : Items Attributes Data) :
    Items Attributes Data where
  entries := items.entries.filter fun entry => !query entry.1
  nodupKeys := items.nodupKeys.sublist List.filter_sublist

/-- `SecItemDelete` -/
def secItemDelete (refusal : Option Int) (query : Query Attributes)
    (items : Items Attributes Data) :
    OSStatus × Items Attributes Data :=
  match refusal with
  | some code => (.refused code, items)
  | none =>
      if (matching query items).isEmpty then
        (.errSecItemNotFound, items)
      else
        (.noErr, remove query items)

/-! ## What the calls do to a query -/

section Matching

variable (items : Items Attributes Data)

theorem matching_exactly_length_le_one [DecidableEq Attributes]
    (attributes : Attributes) :
    (matching (exactly attributes) items).length ≤ 1 := by
  have distinct :
      (items.entries.filter fun entry =>
        exactly attributes entry.1).NodupKeys :=
    items.nodupKeys.sublist List.filter_sublist
  rw [matching, List.length_map]
  cases found : items.entries.filter
      (fun entry => exactly attributes entry.1) with
  | nil => simp
  | cons first rest =>
      cases rest with
      | nil => simp
      | cons second rest =>
          have accepted : ∀ entry ∈ first :: second :: rest,
              entry.1 = attributes := by
            intro entry member
            rw [← found, List.mem_filter] at member
            simpa [exactly] using member.2
          rw [found, List.nodupKeys_cons] at distinct
          apply absurd _ distinct.1
          rw [accepted first (by simp), ← accepted second (by simp)]
          simp

theorem mem_iff_matching_exactly [DecidableEq Attributes]
    (attributes : Attributes) :
    attributes ∈ items ↔ matching (exactly attributes) items ≠ [] := by
  simp [AList.mem_keys, AList.keys, List.keys, matching, exactly,
    List.filter_eq_nil_iff]

theorem matching_insert [DecidableEq Attributes]
    {attributes : Attributes} (new : attributes ∉ items)
    (query : Query Attributes) (data : Data) :
    matching query (items.insert attributes data) =
      (if query attributes then [data] else []) ++ matching query items := by
  rw [matching, AList.entries_insert_of_notMem new, List.filter_cons]
  cases query attributes <;> simp [matching]

theorem matching_overwrite_self
    (query : Query Attributes) (data : Data) :
    matching query (overwrite query data items) =
      (matching query items).map fun _ => data := by
  simp only [matching, overwrite]
  induction items.entries with
  | nil => rfl
  | cons entry rest induction =>
      cases accepted : query entry.1 <;>
        simpa [Sigma.map, accepted] using induction

theorem matching_overwrite_of_apart
    {query other : Query Attributes} (apart : query.Apart other)
    (data : Data) :
    matching other (overwrite query data items) = matching other items := by
  simp only [matching, overwrite]
  induction items.entries with
  | nil => rfl
  | cons entry rest induction =>
      cases accepted : query entry.1 with
      | true =>
          simpa [Sigma.map, accepted, apart entry.1 accepted] using induction
      | false =>
          cases found : other entry.1 <;>
            simpa [Sigma.map, accepted, found] using induction

@[simp]
theorem matching_remove_self (query : Query Attributes) :
    matching query (remove query items) = [] := by
  simp [matching, remove, List.filter_filter]

theorem matching_remove_of_apart
    {query other : Query Attributes} (apart : query.Apart other) :
    matching other (remove query items) = matching other items := by
  simp only [matching, remove, List.filter_filter]
  apply congrArg
  apply List.filter_congr
  intro entry _
  cases found : other entry.1 with
  | false => simp
  | true => simp [apart.symm entry.1 found]

end Matching

/-! ## Deleting -/

/-- A deletion that is not refused leaves nothing for its query to find,
whatever it reports. -/
theorem matching_secItemDelete_self (query : Query Attributes)
    (items : Items Attributes Data) :
    matching query (secItemDelete none query items).2 = [] := by
  simp only [secItemDelete]
  split
  · next empty => simpa using empty
  · exact matching_remove_self items query

theorem matching_secItemDelete_of_apart
    {query other : Query Attributes} (apart : query.Apart other)
    (refusal : Option Int) (items : Items Attributes Data) :
    matching other (secItemDelete refusal query items).2 =
      matching other items := by
  cases refusal with
  | some code => rfl
  | none =>
      simp only [secItemDelete]
      split
      · rfl
      · exact matching_remove_of_apart items apart

end BandBPools.Keychain
