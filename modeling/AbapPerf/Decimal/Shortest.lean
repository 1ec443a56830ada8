/-! The fewest decimal digits that identify a binary64 value. A finite positive value `m * 2^q`
stands for the interval of reals that round to it: from halfway to the value below to halfway to
the value above, both ends included exactly when `m` is even. The search tries one significant
digit, then two, and so on; on each grid it tests the two neighbours of the value, and the first
grid with a neighbour in the interval wins. Of two such neighbours the nearer is taken, and an
exact tie goes to the even one. All comparisons are exact, in natural numbers. -/
namespace AbapPerf.Decimal

/-- A finite positive binary64 magnitude `m * 2^q`; `narrowBelow` when the gap to the value below is
half the gap to the value above. -/
structure Binary where
  m : Nat
  q : Int
  narrowBelow : Bool

/-- The magnitude that the bits encode; the sign bit is ignored, and NaN and the infinities must be
tested for first. -/
def Binary.ofBits (b : UInt64) : Binary :=
  let e := ((b >>> 52) &&& 0x7FF).toNat
  let f := (b &&& 0xFFFFFFFFFFFFF).toNat
  if e == 0 then ⟨f, -1074, false⟩
  else ⟨Nat.pow 2 52 + f, (e : Int) - 1075, f == 0 && e > 1⟩

structure Dec where
  digits : Nat
  exp : Int
  deriving DecidableEq, Repr

def cmpScaled (a : Nat) (i : Int) (n : Nat) (j : Int) : Ordering :=
  compare (a * Nat.pow 10 i.toNat * Nat.pow 2 (-j).toNat)
    (n * Nat.pow 2 j.toNat * Nat.pow 10 (-i).toNat)

/-- Does the decimal lie among the reals that round to `x` (to nearest, ties to even)? -/
def Binary.readsBack (x : Binary) (d : Dec) : Bool :=
  let lo := if x.narrowBelow then 4 * x.m - 1 else 4 * x.m - 2
  let hi := 4 * x.m + 2
  let incl := x.m % 2 == 0
  let cl := cmpScaled d.digits d.exp lo (x.q - 2)
  let ch := cmpScaled d.digits d.exp hi (x.q - 2)
  (cl == .gt || (incl && cl == .eq)) && (ch == .lt || (incl && ch == .eq))

def digitCount (n : Nat) : Nat :=
  (Nat.toDigits 10 n).length

/-- The exponent `k` with `10^(k-1) ≤ x < 10^k`, read off the digits of `x * 10^400`, which is at
least one for every positive binary64 value. -/
def Binary.scale (x : Binary) : Int :=
  let num := x.m * Nat.pow 2 x.q.toNat * Nat.pow 10 400
  let den := Nat.pow 2 (-x.q).toNat
  (digitCount (num / den) : Int) - 400

def Binary.floorOn (x : Binary) (e : Int) : Nat :=
  (x.m * Nat.pow 2 x.q.toNat * Nat.pow 10 (-e).toNat) /
    (Nat.pow 2 (-x.q).toNat * Nat.pow 10 e.toNat)

def Binary.pick (x : Binary) (e : Int) : Option Nat :=
  let a := x.floorOn e
  match x.readsBack ⟨a, e⟩, x.readsBack ⟨a + 1, e⟩ with
  | true, true =>
    match cmpScaled (2 * a + 1) e (2 * x.m) x.q with
    | .gt => some a
    | .lt => some (a + 1)
    | .eq => some (if a % 2 == 0 then a else a + 1)
  | true, false => some a
  | false, true => some (a + 1)
  | false, false => none

def Dec.trim (d : Dec) : Dec :=
  if h : d.digits ≠ 0 ∧ d.digits % 10 = 0 then
    Dec.trim ⟨d.digits / 10, d.exp + 1⟩
  else d
termination_by d.digits
decreasing_by omega

def Binary.exact (x : Binary) : Dec :=
  if 0 ≤ x.q then ⟨x.m * Nat.pow 2 x.q.toNat, 0⟩ else ⟨x.m * Nat.pow 5 (-x.q).toNat, x.q⟩

/-- The shortest decimal that reads back to `x`, without trailing zeros. Seventeen digits always
suffice; should none be found, the exact value stands in. -/
def Binary.shortest (x : Binary) : Dec :=
  let k := x.scale
  let found := (List.range 17).findSome? fun i =>
    (x.pick (k - (i + 1 : Nat))).map fun c => (⟨c, k - (i + 1 : Nat)⟩ : Dec)
  (found.getD x.exact).trim

example : (Binary.ofBits (0.3 : Float).toBits).shortest = ⟨3, -1⟩ := by decide +kernel

end AbapPerf.Decimal
