import AbapPerf.Decimal.Shortest

/-! How a selected decimal is written. Every decision of the layout is a field of `Notation`, and
the service writes its numbers with one value of it, `Notation.report`. -/
namespace AbapPerf.Decimal

/-- The decisions of a number layout: a leading digit with exponent from `plainFrom` up to below
`plainBelow` is written positionally, any other in scientific form with at least `expWidth`
exponent digits. -/
structure Notation where
  plainFrom : Int
  plainBelow : Int
  expWidth : Nat
  nan : String
  inf : String

def padded (width n : Nat) : String :=
  let s := Nat.toDigits 10 n
  String.ofList (List.replicate (width - s.length) '0' ++ s)

def Notation.layout (nt : Notation) (d : Dec) : String :=
  let s := Nat.toDigits 10 d.digits
  let n := s.length
  let lead := d.exp + n - 1
  if nt.plainFrom ≤ lead ∧ lead < nt.plainBelow then
    if 0 ≤ d.exp then
      String.ofList (s ++ List.replicate d.exp.toNat '0') ++ ".0"
    else if 0 ≤ lead then
      let whole := (lead + 1).toNat
      String.ofList (s.take whole) ++ "." ++ String.ofList (s.drop whole)
    else
      "0." ++ String.ofList (List.replicate (-lead - 1).toNat '0') ++ String.ofList s
  else
    let mantissa :=
      match s with
      | [c] => String.singleton c
      | c :: rest => String.singleton c ++ "." ++ String.ofList rest
      | [] => "0"
    let sign := if lead < 0 then "-" else "+"
    mantissa ++ "e" ++ sign ++ padded nt.expWidth lead.natAbs

/-- Writes a float: its sign, then zero, a special value, or the shortest decimal that reads back. -/
def Notation.render (nt : Notation) (x : Float) : String :=
  if x.isNaN then nt.nan
  else
    let sign := if x.toBits >>> 63 == 1 then "-" else ""
    if x.isInf then sign ++ nt.inf
    else if x == 0.0 then sign ++ "0.0"
    else sign ++ nt.layout (Binary.ofBits x.toBits).shortest

/-- Numbers in the service's output: positional for leading exponents from -4 to 15, otherwise
scientific with a signed exponent of at least two digits; NaN and infinity as JSON readers
accept them. -/
def Notation.report : Notation where
  plainFrom := -4
  plainBelow := 16
  expWidth := 2
  nan := "NaN"
  inf := "Infinity"

/-- Numbers turned into text inside the service: as `Notation.report`, with the special values
written `nan` and `inf`. -/
def Notation.text : Notation where
  plainFrom := -4
  plainBelow := 16
  expWidth := 2
  nan := "nan"
  inf := "inf"

example : Notation.report.render 1e20 = "1e+20" ∧ Notation.report.render 2.5 = "2.5" ∧
    Notation.report.render 1e-5 = "1e-05" ∧ Notation.report.render 100.0 = "100.0" ∧
    Notation.report.render 0.001 = "0.001" := by
  decide +kernel

end AbapPerf.Decimal
