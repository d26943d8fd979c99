/-
Decimal fractions: a sign, digits and a power of ten. A fraction is kept as the
binary number of 64 bits nearest to it would be written, with the fewest digits
that still name that number, and has one text.
-/
import TreeExplorer.Text.Numeral

namespace TreeExplorer

/-- The number `digits * 10 ^ exponent`, or its negative. -/
structure Decimal where
  negative : Bool
  digits : Nat
  exponent : Int
  deriving DecidableEq, Repr

namespace Decimal

/-- `10 ^ p`, or one for a negative `p`. -/
def pow10 (p : Int) : Nat := Nat.pow 10 p.toNat

/-- `2 ^ q`, or one for a negative `q`. -/
def pow2 (q : Int) : Nat := Nat.pow 2 q.toNat

/-- The quotient rounded to the nearest whole number, a half to the even one. -/
def roundDiv (n d : Nat) : Nat :=
  let q := n / d
  let r := 2 * (n % d)
  if r < d then q else if d < r then q + 1 else if q % 2 = 0 then q else q + 1

/-- `n / d` in units of `2 ^ q`, rounded. -/
def inUnits (n d : Nat) (q : Int) : Nat :=
  roundDiv (n * pow2 (-q)) (d * pow2 q)

/-- The binary number nearest to `n / d`: a significand below `2 ^ 53` and a power
of two, which is at least `-1074`. -/
def nearestBinary (n d : Nat) : Nat × Int :=
  let q : Int := max ((Nat.log2 n : Int) - (Nat.log2 d : Int) - 53) (-1074)
  let m := inUnits n d q
  if m < pow2 53 then (m, q)
  else
    let m' := inUnits n d (q + 1)
    if m' < pow2 53 then (m', q + 1) else (m' / 2, q + 2)

/-- Compares `c * 10 ^ p` with `b * 2 ^ q`. -/
def compareTo (c : Nat) (p : Int) (b : Nat) (q : Int) : Ordering :=
  compare (c * pow10 p * pow2 (-q)) (b * pow2 q * pow10 (-p))

/-- Whether `c * 10 ^ p` is read as `m * 2 ^ q`: it lies between the middles to
the neighbouring numbers, the middles included when `m` is even. -/
def names (m : Nat) (q : Int) (c : Nat) (p : Int) : Bool :=
  let below := if m = pow2 52 ∧ q ≠ -1074 then 4 * m - 1 else 4 * m - 2
  let low := compareTo c p below (q - 2)
  let high := compareTo c p (4 * m + 2) (q - 2)
  c ≠ 0 && (low == .gt || (low == .eq && m % 2 == 0)) && (high == .lt || (high == .eq && m % 2 == 0))

/-- The multiple of `10 ^ p` that names `m * 2 ^ q`, the nearer one of two. -/
def onGrid (m : Nat) (q p : Int) : Option Nat :=
  let c := (m * pow2 q * pow10 (-p)) / (pow10 p * pow2 (-q))
  match names m q c p, names m q (c + 1) p with
  | true, true => if compareTo (2 * c + 1) p (2 * m) q == .lt then some (c + 1) else some c
  | true, false => some c
  | false, true => some (c + 1)
  | false, false => none

/-- The coarsest grid from `10 ^ p` downwards with a multiple that names
`m * 2 ^ q`. -/
def coarsest (m : Nat) (q : Int) : Nat → Int → Nat × Int
  | 0, p => (0, p)
  | fuel + 1, p =>
    match onGrid m q p with
    | some c => (c, p)
    | none => coarsest m q fuel (p - 1)

/-- The fraction with the fewest digits that names the same binary number; none if
the number is out of range. -/
def rounded (d : Decimal) : Option Decimal :=
  let width : Int := (Text.decimalList d.digits).length + d.exponent
  if d.digits = 0 ∨ width < -330 then some ⟨d.negative, 0, 0⟩
  else if width > 310 then none
  else
    let (m, q) := nearestBinary (d.digits * pow10 d.exponent) (pow10 (-d.exponent))
    if m = 0 then some ⟨d.negative, 0, 0⟩
    else if q > 971 then none
    else
      let (c, p) := coarsest m q 700 310
      some ⟨d.negative, c, p⟩

/-- Drops zeros at the end of the digits; `fuel` bounds their count. -/
def stripZeros : Nat → Nat → Int → Nat × Int
  | 0, n, e => (n, e)
  | fuel + 1, n, e => if n ≠ 0 ∧ n % 10 = 0 then stripZeros fuel (n / 10) (e + 1) else (n, e)

/-- The exponent of ten with its sign, which is always written. -/
def exponentText (e : Int) : List Char :=
  (if e < 0 then '-' else '+') :: Text.decimalList e.natAbs

/-- The text of a magnitude with digits `ds` and exponent `e`. It is positional
from five places behind the point to sixteen before it. -/
def layout (ds : List Char) (e : Int) : List Char :=
  let point : Int := ds.length + e
  if 0 ≤ e ∧ point ≤ 16 then ds ++ List.replicate e.toNat '0' ++ ['.', '0']
  else if 0 < point ∧ point ≤ 16 then ds.take point.toNat ++ '.' :: ds.drop point.toNat
  else if -5 < point ∧ point ≤ 0 then '0' :: '.' :: List.replicate (-point).toNat '0' ++ ds
  else
    let mantissa :=
      match ds with
      | d :: rest@(_ :: _) => d :: '.' :: rest
      | ds => ds
    mantissa ++ 'e' :: exponentText (point - 1)

/-- The text of a fraction. -/
def text (d : Decimal) : String :=
  let (n, e) := stripZeros (d.digits + 1) d.digits d.exponent
  let body := if n = 0 then ['0', '.', '0'] else layout (Text.decimalList n) e
  String.ofList (if d.negative then '-' :: body else body)

/-! ## Reading -/

/-- Reads digits, and how many there are. -/
def digitRun (cs : List Char) : Nat × Nat × List Char :=
  let ds := cs.takeWhile fun c => (Text.digit? c).isSome
  (ds.foldl (fun n c => n * 10 + (Text.digit? c).getD 0) 0, ds.length,
    cs.dropWhile fun c => (Text.digit? c).isSome)

/-- Reads an exponent of ten, which may be absent. -/
def readExponent : List Char → Option Int
  | [] => some 0
  | e :: cs =>
    if e = 'e' || e = 'E' then
      let (negative, rest) :=
        match cs with
        | '-' :: r => (true, r)
        | '+' :: r => (false, r)
        | r => (false, r)
      match digitRun rest with
      | (n, _ + 1, []) => some (if negative then -(n : Int) else n)
      | _ => none
    else none

/-- Reads a fraction: a sign, digits around an optional point, an exponent. -/
def read (cs : List Char) : Option Decimal :=
  let (negative, body) :=
    match cs with
    | '-' :: r => (true, r)
    | '+' :: r => (false, r)
    | r => (false, r)
  let (whole, wholeCount, rest) := digitRun body
  let (part, partCount, rest) :=
    match rest with
    | '.' :: r => digitRun r
    | r => (0, 0, r)
  if wholeCount + partCount = 0 then none
  else
    (readExponent rest).map fun e =>
      ⟨negative, whole * pow10 partCount + part, e - (partCount : Int)⟩

/-! ## Shape -/

/-- Whether digits have no zero in front of others. -/
def isPlainWhole (ds : List Char) : Bool :=
  match ds with
  | [] => false
  | ['0'] => true
  | '0' :: _ => false
  | ds => ds.all Text.isDigit

/-- Splits a sign off. -/
def signed : List Char → Bool × List Char
  | '-' :: cs => (true, cs)
  | '+' :: cs => (false, cs)
  | cs => (false, cs)

/-- Whether the characters are an exponent of ten. -/
def isExponent : List Char → Bool
  | 'e' :: cs | 'E' :: cs => !(signed cs).2.isEmpty && (signed cs).2.all Text.isDigit
  | _ => false

/-- Whether what follows the whole part makes a fraction: digits after the point,
an exponent, or both. -/
def isFractionTail : List Char → Bool
  | '.' :: cs =>
    let rest := cs.dropWhile Text.isDigit
    !(cs.takeWhile Text.isDigit).isEmpty && (rest.isEmpty || isExponent rest)
  | cs => isExponent cs

end Decimal

end TreeExplorer
