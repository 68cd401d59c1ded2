import HLiquity.DecimalText

/-!
# Hexadecimal texts of decimals

Contracts and transactions are given the count of units of a decimal as a
hexadecimal text with an even number of digits.
-/

namespace HLiquity.Decimal

/-- The getter `hex`. -/
def hex (this : Decimal) : Text :=
  let hexDigits := Nat.toDigits 16 this.bigNumber
  '0' :: 'x' :: if hexDigits.length % 2 = 1 then '0' :: hexDigits else hexDigits

/-- The value of a hexadecimal digit. -/
def hexDigitValue (c : Char) : Nat :=
  if c.isDigit then c.toNat - '0'.toNat else c.toNat - 'a'.toNat + 10

/-- The value of a text of hexadecimal digits. -/
def hexValue (text : Text) : Nat := text.foldl (fun value c => value * 16 + hexDigitValue c) 0

/-- A text of hexadecimal digits. -/
def AllHexDigits (text : Text) : Prop := ∀ c ∈ text, c ∈ "0123456789abcdef".toList

/-- A number has hexadecimal digits that are worth it. -/
theorem toDigits_sixteen (n : Nat) :
    AllHexDigits (Nat.toDigits 16 n) ∧ hexValue (Nat.toDigits 16 n) = n := by
  have hdigit : ∀ d < 16, Nat.digitChar d ∈ "0123456789abcdef".toList ∧
      hexDigitValue (Nat.digitChar d) = d := by decide +kernel
  induction n using Nat.strong_induction_on with
  | _ n ih =>
      rw [Nat.toDigits_eq_if (by decide)]
      split_ifs with hn
      · obtain ⟨hmem, hvalue⟩ := hdigit n hn
        exact ⟨fun c hc => List.mem_singleton.mp hc ▸ hmem, (Nat.zero_add _).trans hvalue⟩
      · obtain ⟨hmem, hvalue⟩ := hdigit (n % 16) (Nat.mod_lt n (by decide))
        obtain ⟨hall, hless⟩ := ih (n / 16) (Nat.div_lt_self (by omega) (by decide))
        constructor
        · intro c hc
          rcases List.mem_append.mp hc with hfront | hlast
          · exact hall c hfront
          · exact List.mem_singleton.mp hlast ▸ hmem
        · rw [hexValue] at hless
          rw [hexValue, List.foldl_append, hless, List.foldl_cons, List.foldl_nil, hvalue]
          omega

/-- The text has hexadecimal digits that are worth the count of units. -/
theorem hex_eq (this : Decimal) :
    ∃ hexDigits, this.hex = '0' :: 'x' :: hexDigits ∧ AllHexDigits hexDigits ∧
      hexValue hexDigits = this.bigNumber := by
  obtain ⟨hall, hvalue⟩ := toDigits_sixteen this.bigNumber
  unfold hex
  dsimp only
  split_ifs
  · refine ⟨_, rfl, List.forall_mem_cons.mpr ⟨?_, hall⟩, hvalue⟩
    decide +kernel
  · exact ⟨_, rfl, hall, hvalue⟩

end HLiquity.Decimal
