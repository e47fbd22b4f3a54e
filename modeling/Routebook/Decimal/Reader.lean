/-!
# Decimal texts

* `readInt?` : an integer in some base;
* `readFloat?` : the binary64 value nearest to a decimal text.
-/

namespace Routebook.Decimal

def digitValue? (base : Nat) (c : Char) : Option Nat :=
  let v :=
    if c.isDigit then c.toNat - 48
    else if 'a' ≤ c ∧ c ≤ 'f' then c.toNat - 87
    else if 'A' ≤ c ∧ c ≤ 'F' then c.toNat - 55
    else base
  if v < base then some v else none

def readNat? (base : Nat) (ds : List Char) : Option Nat :=
  if ds.isEmpty then none
  else ds.foldlM (fun n c => (digitValue? base c).map (n * base + ·)) 0

def splitSign : List Char → Bool × List Char
  | '-' :: rest => (true, rest)
  | '+' :: rest => (false, rest)
  | s => (false, s)

def readInt? (base : Nat) (s : List Char) : Option Int :=
  let (negative, ds) := splitSign s
  (readNat? base ds).map fun n => if negative then -n else n

/-- The exponent part at the end of a number: nothing, or a sign and digits behind `e`. -/
def readExponent? : List Char → Option Int
  | [] => some 0
  | c :: rest => if c == 'e' || c == 'E' then readInt? 10 rest else none

/-- The binary64 value nearest to `m * 10 ^ e`, infinite where it is too large. -/
def nearest (m : Nat) (e : Int) : Float :=
  let size : Int := (Nat.toDigits 10 m).length + e
  if m == 0 || size < -400 then 0
  else if size > 400 then 1.0 / 0.0
  else Float.ofScientific m (e < 0) e.natAbs

/-- The binary64 value nearest to a decimal text: a sign, digits with at most one point among or beside
them, and an exponent. -/
def readFloat? (s : List Char) : Option Float := do
  let (negative, s) := splitSign s
  let whole := s.takeWhile Char.isDigit
  let rest := s.dropWhile Char.isDigit
  let (part, rest) := match rest with
    | '.' :: rest => (rest.takeWhile Char.isDigit, rest.dropWhile Char.isDigit)
    | rest => ([], rest)
  let e ← readExponent? rest
  let m ← readNat? 10 (whole ++ part)
  let x := nearest m (e - part.length)
  return if negative then -x else x

end Routebook.Decimal
