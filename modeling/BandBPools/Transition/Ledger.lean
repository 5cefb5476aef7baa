import BandBPools.Transition.Refinement
import Mathlib.Logic.Function.Basic

/-!
# A ledger of obligations

Every owner owes at most one obligation at a time.  The obligations are
numbered in the order in which they are taken on; each is discharged, waived
or still owed, unless all of them have been abandoned at once since then.
-/

namespace BandBPools.Transition

variable {Owner : Type*}

structure Ledger (Owner : Type*) where
  owed : Owner → Option Nat
  next : Nat

inductive Entry where
  | taken (number : Nat)
  | discharged (number : Nat)
  | waived (number : Nat)
  | abandoned
deriving DecidableEq, Repr

inductive LedgerStep [DecidableEq Owner] :
    Ledger Owner → List Entry → Ledger Owner → Prop where
  | take {ledger : Ledger Owner} {owner : Owner}
      (free : ledger.owed owner = none) :
      LedgerStep ledger [.taken ledger.next]
        ⟨Function.update ledger.owed owner (some ledger.next),
          ledger.next + 1⟩
  | discharge {ledger : Ledger Owner} {owner : Owner} {number : Nat}
      (owes : ledger.owed owner = some number) :
      LedgerStep ledger [.discharged number]
        ⟨Function.update ledger.owed owner none, ledger.next⟩
  | waive {ledger : Ledger Owner} {owner : Owner} {number : Nat}
      (owes : ledger.owed owner = some number) :
      LedgerStep ledger [.waived number]
        ⟨Function.update ledger.owed owner none, ledger.next⟩
  | abandon (ledger : Ledger Owner) :
      LedgerStep ledger [.abandoned] ⟨fun _ => none, ledger.next⟩

namespace Ledger

/-- Nothing is owed. -/
def blank (Owner : Type*) (next : Nat) : Ledger Owner :=
  ⟨fun _ => none, next⟩

/-- How often an obligation has been met. -/
def met (entries : List Entry) (number : Nat) : Nat :=
  entries.count (.discharged number) + entries.count (.waived number)

theorem met_append (entries further : List Entry) (number : Nat) :
    met (entries ++ further) number =
      met entries number + met further number := by
  simp only [met, List.count_append]
  omega

/-- Everything has been abandoned since an obligation was taken on. -/
def AbandonedSince (entries : List Entry) (number : Nat) : Prop :=
  ∃ before after, entries = before ++ .taken number :: after ∧
    Entry.abandoned ∈ after

theorem AbandonedSince.append {entries : List Entry} {number : Nat}
    (since : AbandonedSince entries number) (further : List Entry) :
    AbandonedSince (entries ++ further) number := by
  rcases since with ⟨before, after, rfl, abandoned⟩
  refine ⟨before, after ++ further, by simp, ?_⟩
  exact List.mem_append_left _ abandoned

/-- What a ledger that was blank says about its entries. -/
structure Balanced (start : Nat) (entries : List Entry)
    (ledger : Ledger Owner) : Prop where
  le : start ≤ ledger.next
  single : ∀ {left right number},
    ledger.owed left = some number → ledger.owed right = some number →
      left = right
  owed : ∀ {owner number},
    ledger.owed owner = some number →
      number < ledger.next ∧ met entries number = 0
  taken : ∀ number,
    entries.count (.taken number) =
      if start ≤ number ∧ number < ledger.next then 1 else 0
  untaken : ∀ {number}, ledger.next ≤ number → met entries number = 0
  settled : ∀ {number}, start ≤ number → number < ledger.next →
    (∀ owner, ledger.owed owner ≠ some number) →
      met entries number = 1 ∨
        met entries number = 0 ∧ AbandonedSince entries number

theorem balanced_blank (start : Nat) :
    (blank Owner start).Balanced start [] where
  le := Nat.le_refl start
  single := by
    intro left right number owes
    cases owes
  owed := by
    intro owner number owes
    cases owes
  taken := by
    intro number
    have outside : ¬(start ≤ number ∧ number < start) := by omega
    simp [blank, outside]
  untaken := fun _ => rfl
  settled := by
    intro number above below
    exact absurd below (Nat.not_lt.mpr above)

variable {start : Nat} {entries : List Entry} {ledger : Ledger Owner}

theorem Balanced.abandon (balanced : ledger.Balanced start entries) :
    (blank Owner ledger.next).Balanced start
      (entries ++ [.abandoned]) := by
  have unmet : ∀ number,
      met (entries ++ [.abandoned]) number = met entries number := by
    intro number
    rw [met_append]
    simp [met]
  constructor
  · exact balanced.le
  · intro left right number owes
    cases owes
  · intro other number owes
    cases owes
  · intro number
    have none : [Entry.abandoned].count (.taken number) = 0 := by simp
    rw [List.count_append, balanced.taken, none]
    rfl
  · intro number above
    rw [unmet]
    exact balanced.untaken above
  · intro number above below _
    rw [unmet]
    by_cases isOwed : ∃ owner, ledger.owed owner = some number
    · rcases isOwed with ⟨owner, owes⟩
      have once := balanced.taken number
      rw [if_pos ⟨above, below⟩] at once
      have entered : Entry.taken number ∈ entries := by
        apply List.count_pos_iff.mp
        rw [once]
        exact Nat.zero_lt_one
      rcases List.append_of_mem entered with ⟨before, after, rfl⟩
      exact Or.inr ⟨(balanced.owed owes).2,
        ⟨before, after ++ [.abandoned], by simp, by simp⟩⟩
    · have notOwed : ∀ owner, ledger.owed owner ≠ some number := by
        intro owner owes
        exact isOwed ⟨owner, owes⟩
      rcases balanced.settled above below notOwed with met | ⟨met, gone⟩
      · exact Or.inl met
      · exact Or.inr ⟨met, gone.append _⟩

variable [DecidableEq Owner] {owner : Owner} {number : Nat}

theorem Balanced.take (balanced : ledger.Balanced start entries)
    (free : ledger.owed owner = none) :
    (Ledger.mk (Function.update ledger.owed owner (some ledger.next))
      (ledger.next + 1)).Balanced start
        (entries ++ [.taken ledger.next]) := by
  have unmet : ∀ number,
      met (entries ++ [.taken ledger.next]) number = met entries number := by
    intro number
    rw [met_append]
    simp [met]
  have owed : ∀ {other number},
      Function.update ledger.owed owner (some ledger.next) other =
          some number →
        other = owner ∧ number = ledger.next ∨
          other ≠ owner ∧ ledger.owed other = some number := by
    intro other number owes
    by_cases same : other = owner
    · subst other
      rw [Function.update_self] at owes
      exact Or.inl ⟨rfl, (Option.some.inj owes).symm⟩
    · rw [Function.update_of_ne same] at owes
      exact Or.inr ⟨same, owes⟩
  constructor
  · exact Nat.le_succ_of_le balanced.le
  · intro left right number owesLeft owesRight
    rcases owed owesLeft with ⟨rfl, rfl⟩ | ⟨-, owesLeft⟩
    · rcases owed owesRight with ⟨rfl, -⟩ | ⟨-, owesRight⟩
      · rfl
      · exact absurd (balanced.owed owesRight).1 (Nat.lt_irrefl _)
    · rcases owed owesRight with ⟨-, rfl⟩ | ⟨-, owesRight⟩
      · exact absurd (balanced.owed owesLeft).1 (Nat.lt_irrefl _)
      · exact balanced.single owesLeft owesRight
  · intro other number owes
    rw [unmet]
    rcases owed owes with ⟨-, rfl⟩ | ⟨-, owes⟩
    · exact ⟨Nat.lt_succ_self _, balanced.untaken (Nat.le_refl _)⟩
    · have standing := balanced.owed owes
      exact ⟨Nat.lt_succ_of_lt standing.1, standing.2⟩
  · intro number
    have le := balanced.le
    rw [List.count_append, balanced.taken]
    by_cases same : number = ledger.next
    · subst number
      simp [le]
    · have other : ledger.next ≠ number := Ne.symm same
      have below : number < ledger.next + 1 ↔ number < ledger.next := by
        omega
      simp [other, below]
  · intro number above
    rw [unmet]
    exact balanced.untaken (Nat.le_of_succ_le above)
  · intro number above below notOwed
    rw [unmet]
    by_cases same : number = ledger.next
    · subst number
      have own : Function.update ledger.owed owner (some ledger.next) owner =
          some ledger.next := Function.update_self ..
      exact absurd own (notOwed owner)
    · have older : ∀ other, ledger.owed other ≠ some number := by
        intro other owes
        have different : other ≠ owner := by
          rintro rfl
          rw [free] at owes
          cases owes
        apply notOwed other
        exact (Function.update_of_ne different ..).trans owes
      have before : number < ledger.next :=
        Nat.lt_of_le_of_ne (Nat.le_of_lt_succ below) same
      rcases balanced.settled above before older with met | ⟨met, gone⟩
      · exact Or.inl met
      · exact Or.inr ⟨met, gone.append _⟩

/-- An obligation is met by an entry that meets no other one. -/
theorem Balanced.meet (balanced : ledger.Balanced start entries)
    (owes : ledger.owed owner = some number) {entry : Entry}
    (meets : ∀ other, met [entry] other = if other = number then 1 else 0)
    (takes : ∀ other, entry ≠ .taken other) :
    (Ledger.mk (Function.update ledger.owed owner none)
      ledger.next).Balanced start (entries ++ [entry]) := by
  have standing := balanced.owed owes
  have owed : ∀ {other later},
      Function.update ledger.owed owner none other = some later →
        other ≠ owner ∧ ledger.owed other = some later := by
    intro other later owesLater
    by_cases same : other = owner
    · subst other
      rw [Function.update_self] at owesLater
      cases owesLater
    · rw [Function.update_of_ne same] at owesLater
      exact ⟨same, owesLater⟩
  constructor
  · exact balanced.le
  · intro left right later owesLeft owesRight
    exact balanced.single (owed owesLeft).2 (owed owesRight).2
  · intro other later owesLater
    rcases owed owesLater with ⟨different, before⟩
    have another : later ≠ number := by
      rintro rfl
      exact different (balanced.single before owes)
    have older := balanced.owed before
    rw [met_append, meets, if_neg another]
    exact ⟨older.1, older.2⟩
  · intro later
    have none : [entry].count (.taken later) = 0 := by
      simp [takes later]
    rw [List.count_append, balanced.taken, none]
    rfl
  · intro later above
    have another : later ≠ number := by
      rintro rfl
      exact absurd standing.1 (Nat.not_lt.mpr above)
    rw [met_append, meets, if_neg another]
    exact balanced.untaken above
  · intro later above below notOwed
    rw [met_append, meets]
    by_cases same : later = number
    · subst later
      rw [standing.2, if_pos rfl]
      exact Or.inl rfl
    · have older : ∀ other, ledger.owed other ≠ some later := by
        intro other before
        have different : other ≠ owner := by
          rintro rfl
          rw [owes] at before
          exact same (Option.some.inj before).symm
        apply notOwed other
        exact (Function.update_of_ne different ..).trans before
      rw [if_neg same]
      rcases balanced.settled above below older with met | ⟨met, gone⟩
      · exact Or.inl met
      · exact Or.inr ⟨met, gone.append _⟩

/-- The ledger of a run that started without obligations is balanced. -/
theorem balanced_of_trace
    (trace : Trace LedgerStep (blank Owner start) entries ledger) :
    ledger.Balanced start entries := by
  refine trace.historyInvariant ?_ ?_
  · intro seen before observed after balanced step
    cases step with
    | take free => exact balanced.take free
    | @discharge _ number owes =>
        apply balanced.meet owes
        · intro other
          by_cases same : other = number
          · simp [met, same]
          · simp [met, same, Ne.symm same]
        · intro other same
          cases same
    | @waive _ number owes =>
        apply balanced.meet owes
        · intro other
          by_cases same : other = number
          · simp [met, same]
          · simp [met, same, Ne.symm same]
        · intro other same
          cases same
    | abandon => exact balanced.abandon
  · exact balanced_blank start

end Ledger

end BandBPools.Transition
