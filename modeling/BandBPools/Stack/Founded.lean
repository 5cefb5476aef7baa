import Mathlib.Data.List.Basic
import Mathlib.Data.List.Nodup

/-!
# Founded stacks

A stack is a list with its top first.  A requirement says what must lie below
an element for it to be where it is; a stack is founded when every element
meets its requirement against the part of the stack below it.  Pushing an
element that meets its requirement and popping the top keep a stack founded,
which makes this the natural invariant of a stack whose elements are pushed on
top of the elements that own or create them.
-/

namespace BandBPools.Stack

variable {α : Type*}

/-- Every element meets `rests` against the part of the stack below it. -/
def Founded (rests : α → List α → Prop) : List α → Prop
  | [] => True
  | top :: below => rests top below ∧ Founded rests below

namespace Founded

variable {rests : α → List α → Prop} {top element support : α}
variable {below stack : List α}

@[simp]
theorem founded_nil : Founded rests ([] : List α) :=
  True.intro

@[simp]
theorem founded_cons :
    Founded rests (top :: below) ↔
      rests top below ∧ Founded rests below :=
  Iff.rfl

/-- Popping keeps a stack founded. -/
theorem pop (founded : Founded rests (top :: below)) :
    Founded rests below :=
  founded.2

/-- Pushing an element that meets its requirement keeps a stack founded. -/
theorem push (meets : rests top below) (founded : Founded rests below) :
    Founded rests (top :: below) :=
  ⟨meets, founded⟩

/-- What an element needs below it is in the stack with it. -/
theorem mem_support
    (needs : ∀ rest, rests element rest → support ∈ rest)
    (founded : Founded rests stack)
    (member : element ∈ stack) :
    support ∈ stack := by
  induction stack with
  | nil => simp at member
  | cons head rest induction =>
      rcases List.mem_cons.mp member with equal | deeper
      · subst equal
        exact List.mem_cons_of_mem _ (needs rest founded.1)
      · exact List.mem_cons_of_mem _ (induction founded.2 deeper)

/-- If no element may rest on a stack that holds it, none occurs twice. -/
theorem nodup
    (absent : ∀ element rest, rests element rest → element ∉ rest)
    (founded : Founded rests stack) :
    stack.Nodup := by
  induction stack with
  | nil => exact List.nodup_nil
  | cons head rest induction =>
      exact List.nodup_cons.mpr
        ⟨absent head rest founded.1, induction founded.2⟩

/--
The top of a founded stack supports nothing in it: an element that needs the
top below it would make the top occur twice.
-/
theorem not_mem_of_top
    (absent : ∀ rest, rests top rest → top ∉ rest)
    (needs : ∀ rest, rests element rest → top ∈ rest)
    (founded : Founded rests (top :: below)) :
    element ∉ below := by
  intro member
  exact absent below founded.1
    (mem_support needs founded.2 member)

end Founded

end BandBPools.Stack
