import GatewayRecipes.Number.Shortest

/-! Floating-point numbers as text, by their shortest digits. -/
namespace GatewayRecipes.Number

/-- Digits with the point where it belongs. Whole numbers end with `whole`. -/
def Digits.positional (d : Digits) (whole : List Char) : List Char :=
  if d.point ≤ 0 then '0' :: '.' :: List.replicate (-d.point).toNat '0' ++ d.digits
  else
    let n := d.point.toNat
    if d.digits.length ≤ n then d.digits ++ List.replicate (n - d.digits.length) '0' ++ whole
    else d.digits.take n ++ '.' :: d.digits.drop n

/-- Digits with the point behind the first and an exponent of ten. -/
def Digits.scientific (d : Digits) : List Char :=
  let mantissa := match d.digits with
    | [] => ['0']
    | [c] => [c]
    | c :: rest => c :: '.' :: rest
  mantissa ++ 'e' :: (toString (d.point - 1)).toList

/-- The text of a number by the text of its size. Only infinities and what is not a number have
words for that. -/
def signedText (x : Float) (size : Digits → List Char) (zero : String) : String :=
  if x.isNaN then "NaN"
  else
    let sign := if x.toBits < 0x8000000000000000 then "" else "-"
    if x.isInf then sign ++ "inf"
    else if x == 0.0 then sign ++ zero
    else sign ++ String.ofList (size (shortest (.ofBits x.toBits)))

/-- A number without exponent, and without a point where it is whole. -/
def plainText (x : Float) : String := signedText x (·.positional []) "0"

/-- A number that can be told from an integer: with a point or, far from one, an exponent. -/
def markedText (x : Float) : String :=
  signedText x
    (fun d => if d.point < -3 || 16 < d.point then d.scientific else d.positional ['.', '0']) "0.0"

end GatewayRecipes.Number
