import OptionalContainers.Decimal.Shortest

namespace OptionalContainers.Decimal

/-- How a number is laid out: the mark after a whole number, and the exponents of the leading
digit that are written in scientific form. -/
structure Layout where
  wholeMark : String
  scientific : Int → Bool

def plain : Layout where
  wholeMark := ""
  scientific := fun _ => false

def inspected : Layout where
  wholeMark := ".0"
  scientific := fun exponent => exponent < -4 || 16 ≤ exponent

def dropZeros (digits : List Char) : List Char :=
  (digits.reverse.dropWhile (· == '0')).reverse

def Point.figures (p : Point) : List Char :=
  dropZeros (Nat.toDigits 10 p.digits)

def Point.leading (p : Point) : Int :=
  p.exponent + (digitCount p.digits : Int) - 1

def zeros (n : Nat) : List Char :=
  List.replicate n '0'

def positional (wholeMark : String) (figures : List Char) (leading : Int) : List Char :=
  if leading < 0 then
    '0' :: '.' :: zeros (-leading - 1).toNat ++ figures
  else
    let whole := leading.toNat + 1
    let kept := figures.take whole ++ zeros (whole - figures.length)
    match figures.drop whole with
    | [] => kept ++ wholeMark.toList
    | rest => kept ++ '.' :: rest

def exponential (figures : List Char) (leading : Int) : List Char :=
  let mantissa :=
    match figures with
    | first :: second :: rest => first :: '.' :: second :: rest
    | short => short
  mantissa ++ 'e' :: (toString leading).toList

def Layout.unsigned (layout : Layout) (x : Binary64) : List Char :=
  if x.isInfinite then ['i', 'n', 'f']
  else if x.magnitude = 0 then '0' :: layout.wholeMark.toList
  else
    let p := shortest x
    if layout.scientific p.leading then exponential p.figures p.leading
    else positional layout.wholeMark p.figures p.leading

def Layout.write (layout : Layout) (x : Binary64) : String :=
  if x.isNaN then "NaN"
  else if x.isNegative then String.ofList ('-' :: layout.unsigned x)
  else String.ofList (layout.unsigned x)

end OptionalContainers.Decimal
