import BandBPools.Regex.Classes

/-!
# Cutting a word at a separator

A pattern `P sep Q` may match a word in as many ways as the word has
separators.  When the words of one side never contain the separator, only one
of these can be a match: the cut at the first separator if the left side is
free of it, the cut at the last one if the right side is.  The two main
theorems replace the existential match by that cut.
-/

namespace BandBPools.Regex

open RegularExpression

variable {α : Type*} [DecidableEq α]

/-! ## The two cuts -/

/-- What stands before the first separator. -/
def beforeFirst (separator : α) (word : List α) : List α :=
  word.takeWhile (· ≠ separator)

/-- What stands after the first separator. -/
def afterFirst (separator : α) (word : List α) : List α :=
  (word.dropWhile (· ≠ separator)).tail

/-- What stands before the last separator. -/
def beforeLast (separator : α) (word : List α) : List α :=
  (afterFirst separator word.reverse).reverse

/-- What stands after the last separator. -/
def afterLast (separator : α) (word : List α) : List α :=
  (beforeFirst separator word.reverse).reverse

theorem beforeFirst_append
    {separator : α} {front : List α} (free : separator ∉ front)
    (back : List α) :
    beforeFirst separator (front ++ separator :: back) = front := by
  induction front with
  | nil => simp [beforeFirst]
  | cons head tail induction =>
      rw [List.mem_cons, not_or] at free
      simpa [beforeFirst, Ne.symm free.1] using induction free.2

theorem afterFirst_append
    {separator : α} {front : List α} (free : separator ∉ front)
    (back : List α) :
    afterFirst separator (front ++ separator :: back) = back := by
  induction front with
  | nil => simp [afterFirst]
  | cons head tail induction =>
      rw [List.mem_cons, not_or] at free
      simpa [afterFirst, Ne.symm free.1] using induction free.2

theorem beforeFirst_append_afterFirst
    {separator : α} {word : List α} (member : separator ∈ word) :
    beforeFirst separator word ++ separator :: afterFirst separator word =
      word := by
  obtain ⟨front, back, rfl, free⟩ := List.eq_append_cons_of_mem member
  rw [beforeFirst_append free, afterFirst_append free]

theorem beforeLast_append
    {separator : α} {back : List α} (free : separator ∉ back)
    (front : List α) :
    beforeLast separator (front ++ separator :: back) = front := by
  have reversed :
      (front ++ separator :: back).reverse =
        back.reverse ++ separator :: front.reverse := by
    simp
  rw [beforeLast, reversed, afterFirst_append (by simpa using free),
    List.reverse_reverse]

theorem afterLast_append
    {separator : α} {back : List α} (free : separator ∉ back)
    (front : List α) :
    afterLast separator (front ++ separator :: back) = back := by
  have reversed :
      (front ++ separator :: back).reverse =
        back.reverse ++ separator :: front.reverse := by
    simp
  rw [afterLast, reversed, beforeFirst_append (by simpa using free),
    List.reverse_reverse]

theorem beforeLast_append_afterLast
    {separator : α} {word : List α} (member : separator ∈ word) :
    beforeLast separator word ++ separator :: afterLast separator word =
      word := by
  have joined :=
    beforeFirst_append_afterFirst (List.mem_reverse.mpr member)
  have reversed := congrArg List.reverse joined
  simpa [beforeLast, afterLast] using reversed

/-! ## Separated patterns -/

omit [DecidableEq α] in
theorem mem_matches'_separated
    (left right : RegularExpression α) (separator : α) (word : List α) :
    word ∈ (left * char separator * right).matches' ↔
      ∃ front ∈ left.matches', ∃ back ∈ right.matches',
        front ++ separator :: back = word := by
  have single :
      ∀ part, part ∈ (char separator).matches' ↔ part = [separator] :=
    fun _ => Iff.rfl
  simp only [matches'_mul, Language.mem_mul, single]
  constructor
  · rintro ⟨_, ⟨front, inLeft, _, rfl, rfl⟩, back, inRight, rfl⟩
    exact ⟨front, inLeft, back, inRight, by simp⟩
  · rintro ⟨front, inLeft, back, inRight, rfl⟩
    exact ⟨front ++ [separator], ⟨front, inLeft, _, rfl, rfl⟩,
      back, inRight, by simp⟩

/-- A left side free of the separator is matched before the first one. -/
theorem mem_matches'_separated_first
    {left right : RegularExpression α} {separator : α}
    (free : ∀ front ∈ left.matches', separator ∉ front)
    (word : List α) :
    word ∈ (left * char separator * right).matches' ↔
      separator ∈ word ∧
        beforeFirst separator word ∈ left.matches' ∧
          afterFirst separator word ∈ right.matches' := by
  rw [mem_matches'_separated]
  constructor
  · rintro ⟨front, inLeft, back, inRight, rfl⟩
    rw [beforeFirst_append (free front inLeft),
      afterFirst_append (free front inLeft)]
    exact ⟨by simp, inLeft, inRight⟩
  · rintro ⟨member, inLeft, inRight⟩
    exact ⟨_, inLeft, _, inRight, beforeFirst_append_afterFirst member⟩

/-- A right side free of the separator is matched after the last one. -/
theorem mem_matches'_separated_last
    {left right : RegularExpression α} {separator : α}
    (free : ∀ back ∈ right.matches', separator ∉ back)
    (word : List α) :
    word ∈ (left * char separator * right).matches' ↔
      separator ∈ word ∧
        beforeLast separator word ∈ left.matches' ∧
          afterLast separator word ∈ right.matches' := by
  rw [mem_matches'_separated]
  constructor
  · rintro ⟨front, inLeft, back, inRight, rfl⟩
    rw [beforeLast_append (free back inRight),
      afterLast_append (free back inRight)]
    exact ⟨by simp, inLeft, inRight⟩
  · rintro ⟨member, inLeft, inRight⟩
    exact ⟨_, inLeft, _, inRight, beforeLast_append_afterLast member⟩

end BandBPools.Regex
