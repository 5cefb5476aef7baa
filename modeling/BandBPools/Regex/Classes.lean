import Mathlib.Computability.RegularExpressions

/-!
# Character classes and bounded repetition

Patterns written with bracketed classes and the quantifiers `+` and `{n,}`
are built here from Mathlib's regular expressions, and each is described by
the words it matches.  A repeated class matches exactly the words that are
long enough and stay inside the class, which removes every existential split
from the description of such a pattern.
-/

namespace BandBPools.Regex

open RegularExpression

variable {α : Type*}

/-- One symbol out of a finite class. -/
def oneOf (symbols : List α) : RegularExpression α :=
  symbols.foldr (fun symbol rest => char symbol + rest) 0

/-- At least `count` repetitions, written `{count,}`. -/
def atLeast (count : Nat) (pattern : RegularExpression α) :
    RegularExpression α :=
  pattern ^ count * star pattern

/-- One or more repetitions, written `+`. -/
def oneOrMore (pattern : RegularExpression α) : RegularExpression α :=
  atLeast 1 pattern

theorem mem_matches'_oneOf (symbols word : List α) :
    word ∈ (oneOf symbols).matches' ↔
      ∃ symbol ∈ symbols, word = [symbol] := by
  induction symbols with
  | nil => simp [oneOf, Language.notMem_zero]
  | cons symbol rest induction =>
      have unfolded :
          oneOf (symbol :: rest) = char symbol + oneOf rest := rfl
      have single : word ∈ (char symbol).matches' ↔ word = [symbol] :=
        Iff.rfl
      rw [unfolded, matches'_add, Language.mem_add, single, induction]
      simp

theorem mem_matches'_star_oneOf (symbols word : List α) :
    word ∈ (star (oneOf symbols)).matches' ↔
      ∀ symbol ∈ word, symbol ∈ symbols := by
  rw [matches'_star, Language.mem_kstar]
  constructor
  · rintro ⟨words, rfl, inside⟩ symbol member
    obtain ⟨part, partMember, symbolMember⟩ :=
      List.mem_flatten.mp member
    obtain ⟨single, singleMember, rfl⟩ :=
      (mem_matches'_oneOf symbols part).mp (inside part partMember)
    rw [List.mem_singleton] at symbolMember
    exact symbolMember ▸ singleMember
  · intro inside
    refine ⟨word.map fun symbol => [symbol], ?_, ?_⟩
    · induction word with
      | nil => rfl
      | cons head tail induction =>
          have tailInside : ∀ symbol ∈ tail, symbol ∈ symbols :=
            fun symbol member =>
              inside symbol (List.mem_cons_of_mem _ member)
          simpa using induction tailInside
    · intro part partMember
      obtain ⟨symbol, member, rfl⟩ := List.mem_map.mp partMember
      exact (mem_matches'_oneOf symbols [symbol]).mpr
        ⟨symbol, inside symbol member, rfl⟩

theorem mem_matches'_pow_oneOf
    (symbols : List α) (count : Nat) (word : List α) :
    word ∈ (oneOf symbols ^ count).matches' ↔
      word.length = count ∧ ∀ symbol ∈ word, symbol ∈ symbols := by
  rw [matches'_pow]
  induction count generalizing word with
  | zero =>
      rw [pow_zero, Language.mem_one, List.length_eq_zero_iff]
      constructor
      · rintro rfl
        simp
      · exact fun both => both.1
  | succ count induction =>
      rw [pow_succ, Language.mem_mul]
      constructor
      · rintro ⟨front, frontMember, last, lastMember, rfl⟩
        obtain ⟨frontLength, frontInside⟩ :=
          (induction front).mp frontMember
        obtain ⟨symbol, symbolMember, rfl⟩ :=
          (mem_matches'_oneOf symbols last).mp lastMember
        refine ⟨by simp [frontLength], ?_⟩
        intro other member
        rcases List.mem_append.mp member with inFront | inLast
        · exact frontInside other inFront
        · rw [List.mem_singleton] at inLast
          exact inLast ▸ symbolMember
      · rintro ⟨length, inside⟩
        have nonempty : word ≠ [] := by
          rintro rfl
          simp at length
        refine ⟨word.dropLast, (induction _).mpr ⟨?_, ?_⟩,
          [word.getLast nonempty], ?_,
          List.dropLast_append_getLast nonempty⟩
        · rw [List.length_dropLast, length, Nat.add_sub_cancel]
        · exact fun symbol member =>
            inside symbol (List.mem_of_mem_dropLast member)
        · exact (mem_matches'_oneOf symbols _).mpr
            ⟨_, inside _ (List.getLast_mem nonempty), rfl⟩

/-- A repeated class matches the words inside it that are long enough. -/
theorem mem_matches'_atLeast_oneOf
    (symbols : List α) (count : Nat) (word : List α) :
    word ∈ (atLeast count (oneOf symbols)).matches' ↔
      count ≤ word.length ∧ ∀ symbol ∈ word, symbol ∈ symbols := by
  rw [atLeast, matches'_mul, Language.mem_mul]
  constructor
  · rintro ⟨front, frontMember, back, backMember, rfl⟩
    obtain ⟨frontLength, frontInside⟩ :=
      (mem_matches'_pow_oneOf symbols count front).mp frontMember
    have backInside :=
      (mem_matches'_star_oneOf symbols back).mp backMember
    refine ⟨by simp [frontLength], ?_⟩
    intro symbol member
    rcases List.mem_append.mp member with inFront | inBack
    · exact frontInside symbol inFront
    · exact backInside symbol inBack
  · rintro ⟨long, inside⟩
    refine ⟨word.take count, ?_, word.drop count, ?_,
      List.take_append_drop count word⟩
    · exact (mem_matches'_pow_oneOf symbols count _).mpr
        ⟨List.length_take_of_le long,
          fun symbol member =>
            inside symbol (List.mem_of_mem_take member)⟩
    · exact (mem_matches'_star_oneOf symbols _).mpr
        fun symbol member =>
          inside symbol (List.mem_of_mem_drop member)

theorem mem_matches'_oneOrMore_oneOf (symbols word : List α) :
    word ∈ (oneOrMore (oneOf symbols)).matches' ↔
      word ≠ [] ∧ ∀ symbol ∈ word, symbol ∈ symbols := by
  rw [oneOrMore, mem_matches'_atLeast_oneOf, Nat.one_le_iff_ne_zero,
    Ne, List.length_eq_zero_iff]

end BandBPools.Regex
