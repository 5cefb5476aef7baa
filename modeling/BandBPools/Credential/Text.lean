import Mathlib.Data.List.Basic

/-!
# Swift text

A Swift `String` is a sequence of `Character`s, each of them an extended
grapheme cluster of one or more Unicode scalars.  `count` and `isEmpty` speak
of Characters, while `NSPredicate` matching sees the scalars.  The model keeps
both views: a text is its list of Characters, and its scalars are theirs in
order.  Any grouping of scalars is admitted, so what is proved for every text
holds for the groupings that Unicode segmentation produces.
-/

namespace BandBPools.Credential

/-- A Swift `Character`. -/
structure Character where
  scalars : List Char
  nonempty : scalars ≠ []
deriving DecidableEq

/-- A Swift `String`. -/
abbrev Text := List Character

namespace Text

/-- `String.unicodeScalars`. -/
def unicodeScalars (text : Text) : List Char :=
  text.flatMap Character.scalars

/-- `String.count`, the number of Characters. -/
def count (text : Text) : Nat :=
  text.length

/-- The text in which every scalar of a literal is a Character by itself. -/
def ofLiteral (literal : String) : Text :=
  literal.toList.map fun scalar => ⟨[scalar], by simp⟩

end Text

end BandBPools.Credential
