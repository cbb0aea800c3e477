import FleetBoard.Json.Fault

/-!
# Numbers

A number is kept as it is written: sign, whole part, the digits after the point
and the exponent. Whether it is in range is then a question about these parts,
answered in exact arithmetic.

A number is read into a significand of 64 bits. Digits that no longer fit only
count towards the exponent, and what the significand and the exponent denote
must round to a finite number of double precision.

## Main definitions

* `Number`: A number as it is written.
* `Number.isFinite`: Whether the number is in range.
* `Number.natural?`: The value of a number without sign, point and exponent.
* `readNumber`: Reading a number.
* `Number.render`: Writing a number.
-/

namespace FleetBoard

namespace Json

/-- A decimal digit. -/
abbrev Digit := Fin 10

/-- The character of a digit. -/
def Digit.char (d : Digit) : Char :=
  Char.ofNat (0x30 + d.val)

/-- The digit that a character stands for. -/
def digit? (c : Char) : Option Digit :=
  if h : 0x30 ≤ c.toNat ∧ c.toNat - 0x30 < 10 then some ⟨c.toNat - 0x30, h.2⟩ else none

/-- The digits at the front of a text and the text after them. -/
def readDigits : List Char → List Digit × List Char
  | [] => ([], [])
  | c :: cs =>
    match digit? c with
    | none => ([], c :: cs)
    | some d =>
      let (ds, rest) := readDigits cs
      (d :: ds, rest)

/-- The number that digits denote, the most significant one first. -/
def ofDigits (ds : List Digit) : Nat :=
  ds.foldl (fun n d => n * 10 + d.val) 0

/-- The exponent of a number. It has at least one digit. -/
structure Exponent where
  negative : Bool
  first : Digit
  rest : List Digit
  deriving DecidableEq, Repr

/-- A number as it is written. The whole part has no leading zeros, so that its
    value tells its digits, and a number without digits after the point is
    written without a point. -/
structure Number where
  negative : Bool
  whole : Nat
  fraction : List Digit
  exponent : Option Exponent
  deriving DecidableEq, Repr

/-- The digits of a natural number, with the given ones after them. -/
def digitsOnto : Nat → Nat → List Digit → List Digit
  | 0, _, tail => tail
  | fuel + 1, n, tail =>
    let d : Digit := ⟨n % 10, Nat.mod_lt n (by decide)⟩
    if n < 10 then d :: tail else digitsOnto fuel (n / 10) (d :: tail)

/-- The digits of a natural number without leading zeros. -/
def digitsOf (n : Nat) : List Digit :=
  digitsOnto (n + 1) n []

namespace Exponent

/-- The value of the exponent. -/
def value (e : Exponent) : Int :=
  let n : Int := ofDigits (e.first :: e.rest)
  if e.negative then -n else n

end Exponent

/-- The least number that does not fit into 64 bits. -/
def significandLimit : Nat := 18446744073709551616

/-- Digits taken into a significand of 64 bits as long as they fit, and the
    digits that do not. -/
def takeSignificand : Nat → List Digit → Nat × List Digit
  | s, [] => (s, [])
  | s, d :: ds =>
    if s * 10 + d.val < significandLimit then takeSignificand (s * 10 + d.val) ds
    else (s, d :: ds)

/-- A natural number rounded to 53 significant bits, ties to even. -/
def roundDouble (n : Nat) : Nat :=
  let excess := n.log2 + 1 - 53
  let unit := Nat.pow 2 excess
  let floor := n / unit
  let part := n % unit
  let up := 2 * part > unit || (2 * part == unit && floor % 2 == 1)
  if n = 0 then 0 else (if up then floor + 1 else floor) * unit

/-- The least number that rounds past the greatest finite one of double
    precision. -/
def doubleOverflow : Nat :=
  (Nat.pow 2 54 - 1) * Nat.pow 2 970

/-- Whether a significand at an exponent denotes a finite number. -/
def isFiniteAt (significand : Nat) (exponent : Int) : Bool :=
  if significand = 0 ∨ exponent < 0 then true
  else if 308 < exponent then false
  else roundDouble significand * roundDouble (Nat.pow 10 exponent.toNat) < doubleOverflow

namespace Number

/-- Whether the number is in range. A number with neither point nor exponent is
    too. -/
def isFinite (n : Number) : Bool :=
  let (s, extra) := takeSignificand 0 (digitsOf n.whole)
  let (s', left) := takeSignificand s n.fraction
  let shift : Int := (extra.length : Int) - ((n.fraction.length - left.length : Nat) : Int)
  match n.exponent with
  | none => isFiniteAt s' shift
  | some e => isFiniteAt s' (shift + e.value)

/-- The value of a number that is written without sign, point and exponent. -/
def natural? (n : Number) : Option Nat :=
  if !n.negative && n.fraction.isEmpty && n.exponent.isNone then some n.whole else none

/-- The text of an exponent. -/
def renderExponent : Option Exponent → List Char
  | none => []
  | some e =>
    'e' :: ((if e.negative then ['-'] else []) ++ (e.first :: e.rest).map Digit.char)

/-- The text of a number. -/
def render (n : Number) : List Char :=
  (if n.negative then ['-'] else []) ++ (digitsOf n.whole).map Digit.char ++
    (if n.fraction.isEmpty then [] else '.' :: n.fraction.map Digit.char) ++
    renderExponent n.exponent

end Number

/-- The whole part of a number: a zero, or digits that do not begin with
    one. `atEnd` is the fault of a text that ends too early. -/
def readWhole (atEnd : Fault) (cs : List Char) : Except Fault (Nat × List Char) :=
  match readDigits cs with
  | ([], []) => .error atEnd
  | ([], _) => .error .malformed
  | (d :: ds, rest) =>
    if d = 0 ∧ ds ≠ [] then .error .malformed else .ok (ofDigits (d :: ds), rest)

/-- The digits after the point, if there is a point. -/
def readFraction (atEnd : Fault) : Reader (List Digit)
  | '.' :: cs =>
    match readDigits cs with
    | ([], []) => .error atEnd
    | ([], _) => .error .malformed
    | (ds, rest) => .ok (ds, rest)
  | cs => .ok ([], cs)

/-- The sign of an exponent: negative or not. -/
def readSign : List Char → Bool × List Char
  | '+' :: cs => (false, cs)
  | '-' :: cs => (true, cs)
  | cs => (false, cs)

/-- The exponent, if there is one. -/
def readExponent (atEnd : Fault) : Reader (Option Exponent)
  | c :: cs =>
    if c = 'e' ∨ c = 'E' then
      let (negative, tail) := readSign cs
      match readDigits tail with
      | ([], []) => .error atEnd
      | ([], _) => .error .malformed
      | (d :: ds, rest) => .ok (some ⟨negative, d, ds⟩, rest)
    else .ok (none, c :: cs)
  | [] => .ok (none, [])

/-- A number in a text, in range or not. `atEnd` is the fault of a text that
    ends inside the number. -/
def scanNumber (atEnd : Fault) (cs : List Char) : Except Fault (Number × List Char) := do
  let (negative, cs) := match cs with
    | '-' :: rest => (true, rest)
    | _ => (false, cs)
  let (whole, cs) ← readWhole atEnd cs
  let (fraction, cs) ← readFraction atEnd cs
  let (exponent, cs) ← readExponent atEnd cs
  return (⟨negative, whole, fraction, exponent⟩, cs)

/-- A number in a text, which has to be in range. -/
def readNumber : Reader Number := fun cs => do
  let (n, rest) ← scanNumber .truncated cs
  if n.isFinite then return (n, rest) else throw .malformed

end Json

end FleetBoard
