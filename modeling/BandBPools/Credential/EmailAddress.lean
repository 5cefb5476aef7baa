import BandBPools.Credential.Text
import BandBPools.Regex.Cut

/-!
# The email pattern of the login screen

`isValidEmail` evaluates `SELF MATCHES` with a fixed pattern.  The pattern is
written here as a regular expression and its language is described without any
choice of split: one cut at the only `@`, one cut at the last `.`.
-/

namespace BandBPools.Credential

open BandBPools.Regex

/-! ## The pattern -/

/-- The scalars from `first` to `last`, as a bracketed class lists them. -/
def scalarRange (first last : Char) : List Char :=
  (List.range (last.toNat + 1 - first.toNat)).map
    fun offset => Char.ofNat (first.toNat + offset)

/-- `[A-Z0-9a-z._%+-]` -/
def localClass : List Char :=
  scalarRange 'A' 'Z' ++ scalarRange '0' '9' ++ scalarRange 'a' 'z' ++
    ['.', '_', '%', '+', '-']

/-- `[A-Za-z0-9.-]` -/
def domainClass : List Char :=
  scalarRange 'A' 'Z' ++ scalarRange 'a' 'z' ++ scalarRange '0' '9' ++
    ['.', '-']

/-- `[A-Za-z]` -/
def letterClass : List Char :=
  scalarRange 'A' 'Z' ++ scalarRange 'a' 'z'

/-- `[A-Z0-9a-z._%+-]+@[A-Za-z0-9.-]+\.[A-Za-z]{2,}` -/
def emailRegEx : RegularExpression Char :=
  oneOrMore (oneOf localClass) * .char '@' *
    (oneOrMore (oneOf domainClass) * .char '.' *
      atLeast 2 (oneOf letterClass))

/-- `LoginViewController.isValidEmail(testStr:)` -/
def isValidEmail (testStr : Text) : Bool :=
  emailRegEx.rmatch testStr.unicodeScalars

/-! ## Scalars inside the classes -/

/-- `A` to `Z` and `a` to `z`. -/
def IsLetter (scalar : Char) : Prop :=
  ('A' ≤ scalar ∧ scalar ≤ 'Z') ∨ ('a' ≤ scalar ∧ scalar ≤ 'z')

/-- `0` to `9`. -/
def IsDigit (scalar : Char) : Prop :=
  '0' ≤ scalar ∧ scalar ≤ '9'

/-- What may stand before the `@`. -/
def IsLocal (scalar : Char) : Prop :=
  IsLetter scalar ∨ IsDigit scalar ∨ scalar ∈ ['.', '_', '%', '+', '-']

/-- What may stand between the `@` and the last `.`. -/
def IsDomain (scalar : Char) : Prop :=
  IsLetter scalar ∨ IsDigit scalar ∨ scalar ∈ ['.', '-']

instance : DecidablePred IsLetter := fun _ =>
  inferInstanceAs (Decidable (_ ∨ _))

instance : DecidablePred IsDigit := fun _ =>
  inferInstanceAs (Decidable (_ ∧ _))

instance : DecidablePred IsLocal := fun _ =>
  inferInstanceAs (Decidable (_ ∨ _))

instance : DecidablePred IsDomain := fun _ =>
  inferInstanceAs (Decidable (_ ∨ _))

/-- Below the surrogates a range holds the scalars between its ends. -/
theorem mem_scalarRange
    {first last : Char} (plain : last.toNat < 0xD800) (scalar : Char) :
    scalar ∈ scalarRange first last ↔ first ≤ scalar ∧ scalar ≤ last := by
  have ordered :
      ∀ left right : Char, left ≤ right ↔ left.toNat ≤ right.toNat :=
    fun _ _ => UInt32.le_iff_toNat_le
  have toNat_ofNat :
      ∀ value, value < 0xD800 → (Char.ofNat value).toNat = value := by
    intro value small
    rw [Char.ofNat, dif_pos (Or.inl small)]
    rfl
  rw [scalarRange, List.mem_map, ordered, ordered]
  constructor
  · rintro ⟨offset, bounded, rfl⟩
    rw [List.mem_range] at bounded
    rw [toNat_ofNat _ (by omega)]
    omega
  · rintro ⟨lower, upper⟩
    refine ⟨scalar.toNat - first.toNat, ?_, ?_⟩
    · rw [List.mem_range]
      omega
    · rw [Nat.add_sub_cancel' lower, Char.ofNat_toNat]

theorem mem_localClass (scalar : Char) :
    scalar ∈ localClass ↔ IsLocal scalar := by
  simp only [localClass, List.mem_append, IsLocal, IsLetter, IsDigit,
    mem_scalarRange (show 'Z'.toNat < 0xD800 by decide),
    mem_scalarRange (show '9'.toNat < 0xD800 by decide),
    mem_scalarRange (show 'z'.toNat < 0xD800 by decide)]
  tauto

theorem mem_domainClass (scalar : Char) :
    scalar ∈ domainClass ↔ IsDomain scalar := by
  simp only [domainClass, List.mem_append, IsDomain, IsLetter, IsDigit,
    mem_scalarRange (show 'Z'.toNat < 0xD800 by decide),
    mem_scalarRange (show '9'.toNat < 0xD800 by decide),
    mem_scalarRange (show 'z'.toNat < 0xD800 by decide)]
  tauto

theorem mem_letterClass (scalar : Char) :
    scalar ∈ letterClass ↔ IsLetter scalar := by
  simp only [letterClass, List.mem_append, IsLetter,
    mem_scalarRange (show 'Z'.toNat < 0xD800 by decide),
    mem_scalarRange (show 'z'.toNat < 0xD800 by decide)]

theorem not_isLocal_at : ¬ IsLocal '@' := by decide

theorem not_isDomain_at : ¬ IsDomain '@' := by decide

theorem not_isLetter_at : ¬ IsLetter '@' := by decide

theorem not_isLetter_dot : ¬ IsLetter '.' := by decide

/-! ## The language it accepts -/

/--
The addresses that are meant: one `@`, a nonempty local part before it, and
after it a domain whose last `.` has a nonempty left side and at least two
letters to its right.
-/
def IsEmailAddress (scalars : List Char) : Prop :=
  scalars.count '@' = 1 ∧
    (beforeFirst '@' scalars ≠ [] ∧
      ∀ scalar ∈ beforeFirst '@' scalars, IsLocal scalar) ∧
    '.' ∈ afterFirst '@' scalars ∧
    (beforeLast '.' (afterFirst '@' scalars) ≠ [] ∧
      ∀ scalar ∈ beforeLast '.' (afterFirst '@' scalars),
        IsDomain scalar) ∧
    (2 ≤ (afterLast '.' (afterFirst '@' scalars)).length ∧
      ∀ scalar ∈ afterLast '.' (afterFirst '@' scalars),
        IsLetter scalar)

instance : DecidablePred IsEmailAddress := fun _ =>
  inferInstanceAs (Decidable (_ ∧ _))

/-- The pattern after the `@`, cut at the last `.`. -/
theorem mem_matches'_domain (word : List Char) :
    word ∈ (oneOrMore (oneOf domainClass) * .char '.' *
        atLeast 2 (oneOf letterClass)).matches' ↔
      '.' ∈ word ∧
        (beforeLast '.' word ≠ [] ∧
          ∀ scalar ∈ beforeLast '.' word, IsDomain scalar) ∧
        (2 ≤ (afterLast '.' word).length ∧
          ∀ scalar ∈ afterLast '.' word, IsLetter scalar) := by
  have free :
      ∀ back ∈ (atLeast 2 (oneOf letterClass)).matches', '.' ∉ back := by
    intro back matched member
    have inside := ((mem_matches'_atLeast_oneOf _ _ back).mp matched).2
    exact not_isLetter_dot ((mem_letterClass _).mp (inside '.' member))
  simp only [mem_matches'_separated_last free, mem_matches'_oneOrMore_oneOf,
    mem_matches'_atLeast_oneOf, mem_domainClass, mem_letterClass]

/-- A word of the pattern has no `@` after its first one. -/
theorem at_notMem_domain {word : List Char}
    (dot : '.' ∈ word)
    (left : ∀ scalar ∈ beforeLast '.' word, IsDomain scalar)
    (right : ∀ scalar ∈ afterLast '.' word, IsLetter scalar) :
    '@' ∉ word := by
  intro member
  rw [← beforeLast_append_afterLast dot] at member
  rcases List.mem_append.mp member with inLeft | inRight
  · exact not_isDomain_at (left '@' inLeft)
  · rcases List.mem_cons.mp inRight with equal | inRight
    · exact absurd equal (by decide)
    · exact not_isLetter_at (right '@' inRight)

/-- A word has exactly one `@` when neither side of its first one has any. -/
theorem count_at_eq_one_iff (word : List Char) :
    word.count '@' = 1 ↔
      '@' ∈ word ∧ '@' ∉ beforeFirst '@' word ∧
        '@' ∉ afterFirst '@' word := by
  by_cases member : '@' ∈ word
  · have counted := congrArg (List.count '@')
      (beforeFirst_append_afterFirst member)
    rw [List.count_append, List.count_cons_self] at counted
    rw [← List.count_eq_zero, ← List.count_eq_zero, ← counted]
    simp only [member, true_and]
    omega
  · rw [List.count_eq_zero.mpr member]
    simp [member]

/-- `isValidEmail` accepts exactly the email addresses. -/
theorem isValidEmail_iff (testStr : Text) :
    isValidEmail testStr = true ↔
      IsEmailAddress testStr.unicodeScalars := by
  have free :
      ∀ front ∈ (oneOrMore (oneOf localClass)).matches',
        '@' ∉ front := by
    intro front matched member
    have inside := ((mem_matches'_oneOrMore_oneOf _ front).mp matched).2
    exact not_isLocal_at ((mem_localClass _).mp (inside '@' member))
  simp only [isValidEmail, RegularExpression.rmatch_iff_matches',
    emailRegEx, mem_matches'_separated_first free,
    mem_matches'_oneOrMore_oneOf, mem_localClass, mem_matches'_domain,
    IsEmailAddress, count_at_eq_one_iff]
  constructor
  · rintro ⟨member, localPart, dot, left, right⟩
    exact ⟨⟨member, fun inFront =>
        not_isLocal_at (localPart.2 '@' inFront),
      at_notMem_domain dot left.2 right.2⟩, localPart, dot, left, right⟩
  · rintro ⟨⟨member, _, _⟩, localPart, dot, left, right⟩
    exact ⟨member, localPart, dot, left, right⟩

/-- The domain is cut at its last dot, and only letters may follow it. -/
example : isValidEmail (.ofLiteral "a.b@c.d.org") = true := by
  decide +kernel

example : isValidEmail (.ofLiteral "a.b@c.d-e") = false := by
  decide +kernel

end BandBPools.Credential
