import HLiquity.Decimal
import Mathlib.Data.List.DropRight

/-!
# Reading and printing decimals

Strings are lists of characters. A JavaScript number enters `Decimal.from` only
through its `toString`, so a number argument is the text that call produces.
-/

namespace HLiquity

/-- A JavaScript string. -/
abbrev Text := List Char

/-- Types that can be converted into a `Decimal`. A number is given by the text
of its `toString`. -/
inductive Decimalish where
  | decimal (d : Decimal)
  | number (text : Text)
  | string (text : Text)
  deriving DecidableEq, Repr

/-- Whether a value is taken by a JavaScript condition. Objects always are; the
numbers that print as `0` and `NaN` and the empty string are not. -/
def Decimalish.truthy : Decimalish → Bool
  | .decimal _ => true
  | .number text => text != ['0'] && text != ['N', 'a', 'N']
  | .string text => text != []

namespace Decimal

/-- `stringRepresentationFormat`: the rest after the coefficient is absent or an
`e`, one optional sign and at least one digit. -/
def matchesExponent : Text → Bool
  | [] => true
  | 'e' :: '-' :: rest => rest != [] && rest.all Char.isDigit
  | 'e' :: '+' :: rest => rest != [] && rest.all Char.isDigit
  | 'e' :: rest => rest != [] && rest.all Char.isDigit
  | _ => false

/-- `stringRepresentationFormat`: digits, an optional fraction, an optional exponent. -/
def stringRepresentationFormat (text : Text) : Bool :=
  match text.dropWhile Char.isDigit with
  | '.' :: rest => matchesExponent (rest.dropWhile Char.isDigit)
  | rest => matchesExponent rest

/-- `split(separator)` of a text with one separator, as its two parts. -/
def splitAtFirst (separator : Char) (text : Text) : Text × Text :=
  (text.takeWhile (· != separator), (text.dropWhile (· != separator)).tail)

/-- `BigNumber.from` of a string of digits; the empty string stands for the
source's `characteristic || 0`. -/
def bigNumberFrom (text : Text) : Nat := Nat.ofDigitChars 10 text 0

def badFormat (representation : Text) : Failure :=
  .error ("bad decimal format: \"" ++ String.ofList representation ++ "\"")

/-- `_fromString` on a representation without an exponent. -/
def fromCoefficient (representation : Text) : Result Decimal :=
  if representation == [] || !stringRepresentationFormat representation then
    .error (badFormat representation)
  else if !representation.contains '.' then
    .ok ⟨bigNumberFrom representation * digits⟩
  else
    let (characteristic, mantissa) := splitAtFirst '.' representation
    let mantissa :=
      if mantissa.length < precision then
        mantissa ++ List.replicate (precision - mantissa.length) '0'
      else mantissa.take precision
    .ok ⟨bigNumberFrom characteristic * digits + bigNumberFrom mantissa⟩

/-- `_fromString`. The coefficient before the first `e` contains no other, so the
recursive call of the source is `fromCoefficient`. -/
def fromString (representation : Text) : Result Decimal :=
  if representation == [] || !stringRepresentationFormat representation then
    .error (badFormat representation)
  else if representation.contains 'e' then
    let (coefficient, exponent) := splitAtFirst 'e' representation
    match exponent with
    | '-' :: rest => do
        let value ← fromCoefficient coefficient
        return ⟨value.bigNumber / 10 ^ bigNumberFrom rest⟩
    | '+' :: rest => do
        let value ← fromCoefficient coefficient
        return ⟨value.bigNumber * 10 ^ bigNumberFrom rest⟩
    | exponent => do
        let value ← fromCoefficient coefficient
        return ⟨value.bigNumber * 10 ^ bigNumberFrom exponent⟩
  else fromCoefficient representation

/-- `Decimal.from` -/
def «from» : Decimalish → Result Decimal
  | .decimal d => .ok d
  | .number text => fromString text
  | .string text => fromString text

@[simp] theorem from_decimal (d : Decimal) : Decimal.from (.decimal d) = .ok d := rfl

/-- `_toStringWithAutomaticPrecision` -/
def toStringWithAutomaticPrecision (this : Decimal) : Text :=
  let characteristic := this.bigNumber / digits
  let mantissa := this.bigNumber % digits
  if mantissa = 0 then Nat.toDigits 10 characteristic
  else
    let paddedMantissa := (Nat.toDigits 10 mantissa).leftpad precision '0'
    let trimmedMantissa := paddedMantissa.rdropWhile (· == '0')
    Nat.toDigits 10 characteristic ++ '.' :: trimmedMantissa

/-- `_roundUp`, called only for a precision below `PRECISION`. -/
def roundUp (this : Decimal) (precision : Nat) : Nat :=
  let halfDigit := 10 ^ (Decimal.precision - 1 - precision) * 5
  this.bigNumber + halfDigit

/-- `_toStringWithPrecision` -/
def toStringWithPrecision (this : Decimal) (precision : Int) : Result Text :=
  if precision < 0 then .error (.error "precision must not be negative")
  else
    let places := precision.toNat
    let value := if places < Decimal.precision then this.roundUp places else this.bigNumber
    let characteristic := value / digits
    let mantissa := value % digits
    if places = 0 then .ok (Nat.toDigits 10 characteristic)
    else
      let paddedMantissa := (Nat.toDigits 10 mantissa).leftpad Decimal.precision '0'
      let trimmedMantissa := paddedMantissa.take places
      .ok (Nat.toDigits 10 characteristic ++ '.' :: trimmedMantissa)

/-- `toString` -/
def toString (this : Decimal) (precision : Option Int) : Result Text :=
  if this.infinite.isSome then .ok ['∞']
  else
    match precision with
    | some precision => this.toStringWithPrecision precision
    | none => .ok this.toStringWithAutomaticPrecision

/-- `replace(/(\d)(?=(\d{3})+(?!\d))/g, "$1,")`: a digit is followed by a comma when
the digits after it form one or more whole groups of three. -/
def groupThousands : Text → Text
  | [] => []
  | c :: rest =>
      let following := (rest.takeWhile Char.isDigit).length
      if c.isDigit && 0 < following && following % 3 == 0 then c :: ',' :: groupThousands rest
      else c :: groupThousands rest

/-- `prettify`, whose precision defaults to two places. -/
def prettify (this : Decimal) (precision : Option Int) : Result Text := do
  let text ← this.toString (some (precision.getD 2))
  let (characteristic, mantissa) := splitAtFirst '.' text
  let prettyCharacteristic := groupThousands characteristic
  return if text.contains '.' then prettyCharacteristic ++ '.' :: mantissa
    else prettyCharacteristic

/-- Printing without a precision never throws. -/
theorem toString_none_ok (this : Decimal) : ∃ text, this.toString none = .ok text := by
  unfold toString
  split
  · exact ⟨_, rfl⟩
  · exact ⟨_, rfl⟩

/-- Printing throws only for a negative precision. -/
theorem toString_some_ok (this : Decimal) {precision : Int} (h : 0 ≤ precision) :
    ∃ text, this.toString (some precision) = .ok text := by
  unfold toString toStringWithPrecision
  split
  · exact ⟨_, rfl⟩
  · simp only [if_neg (Int.not_lt.mpr h)]
    split
    · exact ⟨_, rfl⟩
    · exact ⟨_, rfl⟩

/-- The default precision of `prettify` never throws. -/
theorem prettify_none_ok (this : Decimal) : ∃ text, this.prettify none = .ok text := by
  obtain ⟨text, htext⟩ := this.toString_some_ok (show (0 : Int) ≤ 2 by decide)
  simp only [prettify, Option.getD_none, htext, Result.ok_bind, Result.pure_eq]
  exact ⟨_, rfl⟩

end Decimal

/-- `new Percent(ratio).toString(precision)` of a decimal ratio. -/
def percentToString (ratio : Decimal) (precision : Int) : Result Text := do
  let percent := ratio.infinite.getD (ratio.mul ⟨100 * Decimal.digits⟩)
  let text ← percent.toString (some precision)
  return if percent.infinite.isSome then text else text ++ ['%']

theorem percentToString_ok (ratio : Decimal) {precision : Int} (h : 0 ≤ precision) :
    ∃ text, percentToString ratio precision = .ok text := by
  obtain ⟨text, htext⟩ :=
    (ratio.infinite.getD (ratio.mul ⟨100 * Decimal.digits⟩)).toString_some_ok h
  simp only [percentToString, htext, Result.ok_bind, Result.pure_eq]
  exact ⟨_, rfl⟩

end HLiquity
