import Mathlib.Data.List.AList

/-!
# Keyed archives

An archive holds the parts of an object under keys, and an absent object may
be archived as well.  A reader asks for a part by its key and its class; it
gets nothing when the key is missing, the part is absent or of another class.
-/

namespace BandBPools.Archive

/-! ## Coders -/

/-- The parts of an object under their keys; `none` is an archived `nil`. -/
abbrev Coder (Part : Type) := List (String × Option Part)

variable {Part : Type}

/-- The value archived under a key. -/
def decodeObject (key : String) (coder : Coder Part) : Option Part :=
  (coder.lookup key).join

/-- Whether a key has been used. -/
def containsValue (key : String) (coder : Coder Part) : Bool :=
  (coder.lookup key).isSome

@[simp]
theorem decodeObject_cons_self (key : String) (value : Option Part)
    (coder : Coder Part) :
    decodeObject key ((key, value) :: coder) = value := by
  simp [decodeObject]

@[simp]
theorem decodeObject_cons_of_ne {key other : String} (distinct : key ≠ other)
    (value : Option Part) (coder : Coder Part) :
    decodeObject key ((other, value) :: coder) = decodeObject key coder := by
  have differs : (key == other) = false := by simpa using distinct
  simp [decodeObject, List.lookup_cons, differs]

@[simp]
theorem containsValue_cons_self (key : String) (value : Option Part)
    (coder : Coder Part) :
    containsValue key ((key, value) :: coder) = true := by
  simp [containsValue]

@[simp]
theorem containsValue_cons_of_ne {key other : String}
    (distinct : key ≠ other) (value : Option Part) (coder : Coder Part) :
    containsValue key ((other, value) :: coder) =
      containsValue key coder := by
  have differs : (key == other) = false := by simpa using distinct
  simp [containsValue, List.lookup_cons, differs]

/-! ## Values -/

/-- A value without parts. -/
inductive Scalar where
  | string (value : String)
  | url (value : String)
  | date (seconds : Int)
  | bool (value : Bool)
deriving DecidableEq, Repr

namespace Scalar

@[simp]
def string? : Scalar → Option String
  | .string value => some value
  | _ => none

@[simp]
def url? : Scalar → Option String
  | .url value => some value
  | _ => none

@[simp]
def date? : Scalar → Option Int
  | .date seconds => some seconds
  | _ => none

@[simp]
def bool? : Scalar → Option Bool
  | .bool value => some value
  | _ => none

@[simp]
theorem bind_string? (value : Option String) :
    (value.map string).bind string? = value := by
  cases value <;> rfl

@[simp]
theorem bind_url? (value : Option String) :
    (value.map url).bind url? = value := by
  cases value <;> rfl

@[simp]
theorem bind_date? (value : Option Int) :
    (value.map date).bind date? = value := by
  cases value <;> rfl

end Scalar

/-- A dictionary with strings as keys. -/
abbrev Dictionary (Entry : Type) := AList fun _ : String => Entry

/-- A value of an archive: a scalar, an object made of scalars, or a
dictionary of such objects. -/
inductive Value where
  | scalar (value : Scalar)
  | object (parts : Coder Scalar)
  | dictionary (entries : Dictionary (Coder Scalar))

namespace Value

@[simp]
def scalar? : Value → Option Scalar
  | .scalar value => some value
  | _ => none

@[simp]
def object? : Value → Option (Coder Scalar)
  | .object parts => some parts
  | _ => none

@[simp]
def dictionary? : Value → Option (Dictionary (Coder Scalar))
  | .dictionary entries => some entries
  | _ => none

end Value

/-! ## Dictionaries -/

section Dictionary

variable {Entry Coded : Type}

/-- Change every entry of a dictionary. -/
def mapEntries (change : Entry → Coded) (dictionary : Dictionary Entry) :
    Dictionary Coded where
  entries := dictionary.entries.map (Sigma.map id fun _ => change)
  nodupKeys := List.NodupKeys.map₂ _ _ dictionary.nodupKeys

/-- Entries that can be read back one by one can be read back together. -/
theorem mapEntries_mapEntries {encode : Entry → Coded}
    {decode : Coded → Entry}
    (restores : ∀ entry, decode (encode entry) = entry)
    (dictionary : Dictionary Entry) :
    mapEntries decode (mapEntries encode dictionary) = dictionary := by
  apply AList.ext
  show (dictionary.entries.map _).map _ = dictionary.entries
  rw [List.map_map]
  calc
    dictionary.entries.map
        (Sigma.map id (fun _ => decode) ∘ Sigma.map id fun _ => encode) =
        dictionary.entries.map id := by
      apply List.map_congr_left
      rintro ⟨key, entry⟩ _
      simp [Sigma.map, restores]
    _ = dictionary.entries := List.map_id _

end Dictionary

end BandBPools.Archive
