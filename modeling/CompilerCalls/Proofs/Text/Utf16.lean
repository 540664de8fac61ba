import CompilerCalls.Text.Hex
import CompilerCalls.Toml.Quotation
import Mathlib.Algebra.Group.Nat.Defs

/-!
# Code units

A character is one or two code units of UTF-16, and the characters of a text
come back from its code units.  A code unit written with enough hexadecimal
digits comes back from them.
-/

namespace CompilerCalls.Text

theorem hexNumber?_concat (value : Nat) (digits : List Char) (last : Char) :
    Toml.hexNumber? value (digits ++ [last]) =
      (Toml.hexNumber? value digits).bind fun number =>
        (hexValue? last).map (16 * number + ·) := by
  induction digits generalizing value with
  | nil => cases read : hexValue? last <;> simp [Toml.hexNumber?, read]
  | cons digit digits induction =>
      cases read : hexValue? digit with
      | none => simp [Toml.hexNumber?, read]
      | some next => simpa [Toml.hexNumber?, read] using induction _

theorem hexNumber?_hexDigits (width value : Nat) :
    Toml.hexNumber? 0 (hexDigits width value) =
      some (value % 16 ^ width) := by
  induction width generalizing value with
  | zero => simp [hexDigits, Toml.hexNumber?, Nat.mod_one]
  | succ width induction =>
      have digit := hexValue?_hexDigit (value % 16) (Nat.mod_lt _ (by decide))
      rw [hexDigits, hexNumber?_concat, induction, Option.bind_some, digit,
        Option.map_some, Nat.pow_succ, Nat.mul_comm (16 ^ width), Nat.mod_mul]
      congr 1
      omega

def IsHighSurrogate (unit : Nat) : Prop := 0xd800 ≤ unit ∧ unit < 0xdc00

def IsLowSurrogate (unit : Nat) : Prop := 0xdc00 ≤ unit ∧ unit < 0xe000

instance (unit : Nat) : Decidable (IsHighSurrogate unit) :=
  inferInstanceAs (Decidable (_ ∧ _))

instance (unit : Nat) : Decidable (IsLowSurrogate unit) :=
  inferInstanceAs (Decidable (_ ∧ _))

/-- The code units of a character. -/
def utf16 (character : Char) : List Nat :=
  if character.toNat ≤ 0xffff then [character.toNat]
  else
    let offset := character.toNat - 0x10000
    [0xd800 + offset / 0x400, 0xdc00 + offset % 0x400]

def charOf? (number : Nat) : Option Char :=
  if number.isValidChar then some (Char.ofNat number) else none

/-- The characters of some code units, unless one of these is half of a
character without the other half. -/
def ofUtf16? : List Nat → Option (List Char)
  | [] => some []
  | [unit] => (charOf? unit).map ([·])
  | unit :: next :: rest =>
      if IsHighSurrogate unit ∧ IsLowSurrogate next then
        (ofUtf16? rest).map
          (Char.ofNat
            (0x10000 + (unit - 0xd800) * 0x400 + (next - 0xdc00)) :: ·)
      else
        (charOf? unit).bind fun character =>
          (ofUtf16? (next :: rest)).map (character :: ·)

theorem charOf?_toNat (character : Char) :
    charOf? character.toNat = some character := by
  have valid : character.toNat.isValidChar := character.valid
  rw [charOf?, if_pos valid, Char.ofNat_toNat]

theorem not_isHighSurrogate_toNat (character : Char) :
    ¬IsHighSurrogate character.toNat := by
  have valid : character.toNat.isValidChar := character.valid
  unfold Nat.isValidChar at valid
  unfold IsHighSurrogate
  omega

theorem ofUtf16?_toNat_cons (character : Char) (units : List Nat) :
    ofUtf16? (character.toNat :: units) =
      (ofUtf16? units).map (character :: ·) := by
  cases units with
  | nil => simp [ofUtf16?, charOf?_toNat]
  | cons next rest =>
      simp [ofUtf16?, charOf?_toNat, not_isHighSurrogate_toNat]

theorem ofUtf16?_utf16_append (character : Char) (units : List Nat) :
    ofUtf16? (utf16 character ++ units) =
      (ofUtf16? units).map (character :: ·) := by
  unfold utf16
  split
  · exact ofUtf16?_toNat_cons character units
  · rename_i beyond
    have valid : character.toNat.isValidChar := character.valid
    unfold Nat.isValidChar at valid
    have high :
        IsHighSurrogate (0xd800 + (character.toNat - 0x10000) / 0x400) := by
      constructor <;> omega
    have low :
        IsLowSurrogate (0xdc00 + (character.toNat - 0x10000) % 0x400) := by
      constructor <;> omega
    have number :
        0x10000 +
            (0xd800 + (character.toNat - 0x10000) / 0x400 - 0xd800) * 0x400 +
            (0xdc00 + (character.toNat - 0x10000) % 0x400 - 0xdc00) =
          character.toNat := by
      omega
    simp only [List.cons_append, List.nil_append, ofUtf16?]
    rw [if_pos ⟨high, low⟩, number, Char.ofNat_toNat]

/-- A text comes back from its code units. -/
theorem ofUtf16?_flatMap_utf16 (text : List Char) :
    ofUtf16? (text.flatMap utf16) = some text := by
  induction text with
  | nil => rfl
  | cons character rest induction =>
      rw [List.flatMap_cons, ofUtf16?_utf16_append, induction,
        Option.map_some]

end CompilerCalls.Text
