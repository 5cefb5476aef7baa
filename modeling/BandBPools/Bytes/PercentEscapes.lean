import Mathlib.Data.List.Basic

/-!
# Percent escapes

A text is carried in a URL as the list of its UTF-8 bytes.  A byte that must
not appear there is written as a percent sign with two hexadecimal digits.  A
reader that takes every plus sign for a space first gets back what was
written, if percent and plus signs are among the bytes that are escaped.
-/

namespace BandBPools.Bytes

/-- The UTF-8 bytes of a text. -/
abbrev Text := List UInt8

/-- The text of a literal. -/
def utf8 (literal : String) : Text :=
  literal.toUTF8.data.toList

def percent : UInt8 := 0x25
def plus : UInt8 := 0x2B
def space : UInt8 := 0x20

/-- Replace one byte by another. -/
def replace (old new : UInt8) (text : Text) : Text :=
  text.map fun byte => if byte = old then new else byte

theorem not_mem_replace {old new : UInt8} (differ : new ≠ old)
    (text : Text) : old ∉ replace old new text := by
  intro member
  rcases List.mem_map.mp member with ⟨byte, -, replaced⟩
  split at replaced
  · exact differ replaced
  · next other => exact other replaced

theorem replace_of_not_mem {old new : UInt8} {text : Text}
    (absent : old ∉ text) : replace old new text = text := by
  rw [replace]
  conv => rhs; rw [← List.map_id text]
  apply List.map_congr_left
  intro byte member
  apply if_neg
  rintro rfl
  exact absent member

/-! ## Hexadecimal digits -/

/-- The digit for a value, in upper case. -/
def hexDigit (value : Fin 16) : UInt8 :=
  if value.val < 10 then .ofNat (0x30 + value.val)
  else .ofNat (0x37 + value.val)

/-- The value of a digit, in upper or lower case. -/
def hexValue (digit : UInt8) : Option (Fin 16) :=
  if 0x30 ≤ digit ∧ digit ≤ 0x39 then some (.ofNat 16 (digit.toNat - 0x30))
  else if 0x41 ≤ digit ∧ digit ≤ 0x46 then
    some (.ofNat 16 (digit.toNat - 0x37))
  else if 0x61 ≤ digit ∧ digit ≤ 0x66 then
    some (.ofNat 16 (digit.toNat - 0x57))
  else none

@[simp]
theorem hexValue_hexDigit (value : Fin 16) :
    hexValue (hexDigit value) = some value := by
  revert value
  decide

theorem hexDigit_ne_plus (value : Fin 16) : hexDigit value ≠ plus := by
  revert value
  decide

/-- The byte with the given digits. -/
def ofDigits (high low : Fin 16) : UInt8 :=
  .ofNat (16 * high.val + low.val)

def highDigit (byte : UInt8) : Fin 16 :=
  ⟨byte.toNat / 16, by
    have bound := byte.toNat_lt
    omega⟩

def lowDigit (byte : UInt8) : Fin 16 :=
  ⟨byte.toNat % 16, Nat.mod_lt _ (by decide)⟩

@[simp]
theorem ofDigits_digits (byte : UInt8) :
    ofDigits (highDigit byte) (lowDigit byte) = byte := by
  have whole : 16 * (byte.toNat / 16) + byte.toNat % 16 = byte.toNat :=
    Nat.div_add_mod byte.toNat 16
  simp [ofDigits, highDigit, lowDigit, whole]

/-! ## Escaping -/

/-- Escape the bytes that are not kept. -/
def addPercentEscapes (kept : UInt8 → Bool) (text : Text) : Text :=
  text.flatMap fun byte =>
    if kept byte then [byte]
    else [percent, hexDigit (highDigit byte), hexDigit (lowDigit byte)]

/-- Resolve the escapes; there is no result if one of them is malformed. -/
def replacingPercentEscapes : Text → Option Text
  | [] => some []
  | byte :: rest =>
      if byte = percent then
        match rest with
        | high :: low :: later =>
            match hexValue high, hexValue low with
            | some high, some low =>
                (replacingPercentEscapes later).map (ofDigits high low :: ·)
            | _, _ => none
        | _ => none
      else
        (replacingPercentEscapes rest).map (byte :: ·)

theorem replacingPercentEscapes_escape (byte : UInt8) (rest : Text) :
    replacingPercentEscapes
        (percent :: hexDigit (highDigit byte) :: hexDigit (lowDigit byte) ::
          rest) =
      (replacingPercentEscapes rest).map (byte :: ·) := by
  rw [replacingPercentEscapes]
  simp

theorem replacingPercentEscapes_of_ne {byte : UInt8}
    (plain : byte ≠ percent) (rest : Text) :
    replacingPercentEscapes (byte :: rest) =
      (replacingPercentEscapes rest).map (byte :: ·) := by
  rw [replacingPercentEscapes.eq_def]
  exact if_neg plain

theorem replacingPercentEscapes_addPercentEscapes {kept : UInt8 → Bool}
    (escaped : kept percent = false) (text : Text) :
    replacingPercentEscapes (addPercentEscapes kept text) = some text := by
  induction text with
  | nil => rfl
  | cons byte rest induction =>
      rw [addPercentEscapes, List.flatMap_cons, ← addPercentEscapes]
      cases keeps : kept byte with
      | true =>
          have plain : byte ≠ percent := by
            rintro rfl
            simp [escaped] at keeps
          rw [if_pos rfl, List.singleton_append,
            replacingPercentEscapes_of_ne plain, induction]
          rfl
      | false =>
          rw [if_neg Bool.false_ne_true]
          simp only [List.cons_append, List.nil_append]
          rw [replacingPercentEscapes_escape, induction]
          rfl

/-- No plus sign is left, so reading them as spaces changes nothing. -/
theorem plus_not_mem_addPercentEscapes {kept : UInt8 → Bool}
    (escaped : kept plus = false) (text : Text) :
    plus ∉ addPercentEscapes kept text := by
  intro member
  rcases List.mem_flatMap.mp member with ⟨byte, -, found⟩
  cases keeps : kept byte with
  | true =>
      rw [if_pos keeps, List.mem_singleton] at found
      rw [← found, escaped] at keeps
      cases keeps
  | false =>
      simp only [keeps, Bool.false_eq_true, if_false, List.mem_cons,
        List.not_mem_nil, or_false] at found
      rcases found with sign | high | low
      · exact absurd sign (by decide)
      · exact hexDigit_ne_plus _ high.symm
      · exact hexDigit_ne_plus _ low.symm

/-- What is written with percent and plus signs escaped is read back. -/
theorem replacingPercentEscapes_of_plus_as_space {kept : UInt8 → Bool}
    (percentEscaped : kept percent = false) (plusEscaped : kept plus = false)
    (text : Text) :
    replacingPercentEscapes
        (replace plus space (addPercentEscapes kept text)) =
      some text := by
  rw [replace_of_not_mem (plus_not_mem_addPercentEscapes plusEscaped text)]
  exact replacingPercentEscapes_addPercentEscapes percentEscaped text

end BandBPools.Bytes
