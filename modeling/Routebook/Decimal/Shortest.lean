/-!
# Shortest decimals

A finite binary64 value is identified by a decimal with few digits: among the decimals that round
to it, one with the fewest digits, and of those the nearest.

* `Binary.ofBits` : the value as `m * 2 ^ q`;
* `Binary.readsBack` : a decimal lies among the reals that round to the value;
* `Binary.shortest` : the decimal that is written for it.
-/

namespace Routebook.Decimal

/-- A finite non-negative binary64 value, `m * 2 ^ q`. -/
structure Binary where
  m : Nat
  q : Int
  /-- The gap to the value below is half the gap to the value above. -/
  narrowBelow : Bool

/-- The magnitude that the bits of a finite value stand for. -/
def Binary.ofBits (b : UInt64) : Binary :=
  let e := ((b >>> 52) &&& 0x7FF).toNat
  let f := (b &&& 0xFFFFFFFFFFFFF).toNat
  if e == 0 then ⟨f, -1074, false⟩ else ⟨(1 <<< 52) + f, (e : Int) - 1075, f == 0 && e > 1⟩

/-- The number `digits * 10 ^ exp`. -/
structure Dec where
  digits : Nat
  exp : Int
deriving Repr, DecidableEq

/-- Compares `a * 10 ^ i` with `n * 2 ^ j` exactly. -/
def cmpScaled (a : Nat) (i : Int) (n : Nat) (j : Int) : Ordering :=
  compare ((a * Nat.pow 10 i.toNat) <<< (-j).toNat) ((n * Nat.pow 10 (-i).toNat) <<< j.toNat)

/-- The decimal lies between the midpoints to the two neighbours of the value; a midpoint counts
when `m` is even, since a tie rounds to the even neighbour. -/
def Binary.readsBack (x : Binary) (d : Dec) : Bool :=
  let low := if x.narrowBelow then 4 * x.m - 1 else 4 * x.m - 2
  let high := 4 * x.m + 2
  let ends := x.m % 2 == 0
  let below := cmpScaled d.digits d.exp low (x.q - 2)
  let above := cmpScaled d.digits d.exp high (x.q - 2)
  (below == .gt || (ends && below == .eq)) && (above == .lt || (ends && above == .eq))

/-- The integer part of `m * 2 ^ q / 10 ^ e`. -/
def Binary.floorAt (x : Binary) (e : Int) : Nat :=
  ((x.m * Nat.pow 10 (-e).toNat) <<< x.q.toNat) / (Nat.pow 10 e.toNat <<< (-x.q).toNat)

/-- The number of decimal digits before the point, nonpositive for small values: the least `k`
with `m * 2 ^ q < 10 ^ k`, looked for upwards from a lower bound. -/
def Binary.scale (x : Binary) : Int :=
  let bits : Int := (x.m.log2 : Int) + x.q
  let guess : Int := bits * 30103 / 100000 - 1
  (List.range 6).foldl
    (fun k _ => if cmpScaled 1 k x.m x.q == .gt then k else k + 1) guess

/-- The nearer of the two neighbours of the value on the grid `10 ^ e` that read back; at a tie the
one with the even last digit. -/
def Binary.onGrid (x : Binary) (e : Int) : Option Dec :=
  let lower := x.floorAt e
  let down : Dec := ⟨lower, e⟩
  let up : Dec := ⟨lower + 1, e⟩
  match x.readsBack down, x.readsBack up with
  | true, true =>
    match cmpScaled (2 * lower + 1) e (2 * x.m) x.q with
    | .lt => some up
    | .gt => some down
    | .eq => some (if lower % 2 == 0 then down else up)
  | true, false => some down
  | false, true => some up
  | false, false => none

/-- Moves trailing zeros of the digits into the exponent, at most `n` of them. -/
def Dec.strip : Nat → Dec → Dec
  | 0, d => d
  | n + 1, d => if d.digits != 0 && d.digits % 10 == 0 then strip n ⟨d.digits / 10, d.exp + 1⟩ else d

/-- The decimal with the fewest digits that reads back as the value. Seventeen digits always
suffice; the exact value stands in should none be found. -/
def Binary.shortest (x : Binary) : Dec :=
  if x.m == 0 then ⟨0, 0⟩
  else
    let k := x.scale
    match (List.range 17).findSome? fun (n : Nat) => x.onGrid (k - 1 - n) with
    | some d => d.strip 400
    | none => ⟨(x.m * Nat.pow 5 (-x.q).toNat) <<< x.q.toNat, min x.q 0⟩

def digits (n : Nat) : List Char :=
  (Nat.toDigits 10 n)

end Routebook.Decimal
