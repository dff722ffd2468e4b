import FluidGateway.PythonTexts

/-!
# Python values

The values that a dictionary can hold when a payload is written, and what
`Decimal(str(value))` makes of them in `_scaled_decimal` of
`fluidgateway/fluidlink_v2.py`.
-/

namespace FluidGateway.FluidLink

open FluidGateway.Adapter (PyFloat Json)

/-! ## Decimals -/

inductive PyDecimal where
  | finite (negative : Bool) (coefficient : ℕ) (exponent : ℤ)
  | infinity (negative : Bool)
  | nan
  deriving DecidableEq, Repr

namespace PyDecimal

/-- The number that a finite `Decimal` is. -/
def number : PyDecimal → Option ℚ
  | .finite negative coefficient exponent =>
    some ((if negative then -1 else 1) * coefficient * 10 ^ exponent)
  | _ => none

/-- `MAX_EMAX` and `MIN_ETINY`, the limits of an exponent. -/
def maxEmax : ℤ := 999999999999999999

def minEtiny : ℤ := -1999999999999999997

/-- The constructor raises `InvalidOperation` when a number is not within the
limits; a zero is limited by its exponent alone. -/
def within : PyDecimal → Bool
  | .finite _ coefficient exponent =>
    minEtiny ≤ exponent && exponent + Nat.log 10 coefficient ≤ maxEmax
  | _ => true

/-! ### The text of a decimal -/

/-- The digit that a code point outside ASCII stands for
(`Py_UNICODE_TODECIMAL`). -/
abbrev DigitOf := CodePoint → Option (Fin 10)

/-- A text in ASCII, without the white space around it and without underscores. -/
def ascii (digitOf : DigitOf) (t : PyText) : Option (List Char) :=
  (t.strip.filter fun c => c.val ≠ '_'.toNat).mapM fun c =>
    if c.val < 128 then some (Char.ofNat c.val)
    else if CodePoint.isSpace c then some ' '
    else (digitOf c).map fun digit => Char.ofNat ('0'.toNat + digit.val)

/-- The number that digits stand for. -/
def digits (cs : List Char) : ℕ :=
  cs.foldl (fun n c => 10 * n + (c.toNat - '0'.toNat)) 0

/-- The sign in front of a number. -/
def sign : List Char → Bool × List Char
  | '-' :: cs => (true, cs)
  | '+' :: cs => (false, cs)
  | cs => (false, cs)

/-- The exponent behind the digits. -/
def exponentPart : List Char → Option ℤ
  | [] => some 0
  | c :: cs =>
    if c = 'e' ∨ c = 'E' then
      let (negative, cs) := sign cs
      if cs ≠ [] ∧ cs.all Char.isDigit then some (if negative then -digits cs else digits cs)
      else none
    else none

/-- Digits with a point among them, and an exponent. -/
def numeric (negative : Bool) (cs : List Char) : Option PyDecimal :=
  let (whole, cs) := cs.span Char.isDigit
  let (fraction, cs) : List Char × List Char :=
    match cs with
    | '.' :: cs => cs.span Char.isDigit
    | cs => ([], cs)
  if whole ++ fraction = [] then none
  else (exponentPart cs).map fun exponent =>
    .finite negative (digits (whole ++ fraction)) (exponent - fraction.length)

/-- An infinity, or a NaN with its digits. -/
def special (negative : Bool) (cs : List Char) : Option PyDecimal :=
  let cs := cs.map Char.toLower
  let payload := fun (head : String) =>
    head.toList.isPrefixOf cs && (cs.drop head.toList.length).all Char.isDigit
  if cs = "inf".toList ∨ cs = "infinity".toList then some (.infinity negative)
  else if payload "nan" ∨ payload "snan" then some .nan
  else none

/-- The grammar of `Decimal(text)`. -/
def parse (digitOf : DigitOf) (t : PyText) : Option PyDecimal := do
  let cs ← ascii digitOf t
  let (negative, cs) := sign cs
  special negative cs <|> numeric negative cs

end PyDecimal

/-! ## Values -/

/-- A value; `other` is any object that is neither a number nor a text nor a
container, whose text is no number either.  Objects of other classes whose text is
a number are left out. -/
inductive PyValue where
  | none
  | bool (value : Bool)
  | int (value : ℤ)
  | float (value : PyFloat)
  | decimal (value : PyDecimal)
  | text (value : PyText)
  | bytes (data : Native.Bytes)
  | list (items : List PyValue)
  | tuple (items : List PyValue)
  | dict (fields : List (String × PyValue))
  | other

namespace PyValue

/-- The most digits of an `int` that `str` writes. -/
def maxStrDigits : ℕ := 4300

def writable (value : ℤ) : Bool :=
  Nat.log 10 value.natAbs < maxStrDigits

/-- `isinstance(value, bool)`. -/
def isBool : PyValue → Bool
  | .bool _ => true
  | _ => false

/-- The decimal that `str` writes for a double. -/
def shortestOf (x : ℚ) : ℚ :=
  if x < 0 then -shortest (-x) else shortest x

/-- `Decimal(str(value))`: `none` when it raises, and no number when it is an
infinity or a NaN.  `Decimal` reads back what `str` writes.  Of a container `str`
writes no number; that it can reach the recursion limit first, where it raises
another error, is left out. -/
def decimalOf (digitOf : PyDecimal.DigitOf) : PyValue → Option (Option ℚ)
  | .int value => if writable value then some (some value) else Option.none
  | .float (.finite x) => some (some (shortestOf x))
  | .float _ => some Option.none
  | .decimal d => if d.within then some d.number else Option.none
  | .text t => (PyDecimal.parse digitOf t).bind fun d =>
      if d.within then some d.number else Option.none
  | _ => Option.none

end PyValue

end FluidGateway.FluidLink
