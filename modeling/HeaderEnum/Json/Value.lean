/-!
# JSON values

Values of JSON texts. Numbers keep their digits: a number with a fraction or an exponent is a
decimal, which counts as the nearest binary floating-point number where its size matters. The names
`NaN` and `Infinity` are values too.
-/

namespace HeaderEnum.Json

/-- A number written with a fraction or an exponent: its digits times a power of ten. -/
structure Decimal where
  /-- A minus comes before it. -/
  negative : Bool
  /-- All its digits, read as one whole number. -/
  digits : Nat
  /-- The power of ten. -/
  exponent : Int
  deriving DecidableEq, Repr

/-- The nearest binary floating-point number. Beyond the range of those, the exact exponent makes no
difference and is not raised. -/
def Decimal.toFloat (decimal : Decimal) : Float :=
  let magnitude := (toString decimal.digits).length + decimal.exponent
  let size :=
    if decimal.digits = 0 || magnitude < -400 then 0.0
    else if magnitude > 400 then 1.0 / 0.0
    else Float.ofScientific decimal.digits (decimal.exponent < 0) decimal.exponent.natAbs
  if decimal.negative then -size else size

/-- A JSON value. -/
inductive Value where
  /-- The value null. -/
  | null
  /-- A truth value. -/
  | bool (value : Bool)
  /-- A whole number without fraction and exponent. -/
  | integer (value : Int)
  /-- A number with a fraction or an exponent. -/
  | decimal (value : Decimal)
  /-- Infinity, or not a number at all. -/
  | unbounded
  /-- A text. -/
  | text (value : String)
  /-- Values in order. -/
  | array (values : List Value)
  /-- Names with their values; each name stands once. -/
  | object (members : List (String × Value))
  deriving Repr

/-- Give a name a value, at the place of an earlier value of that name. -/
def insertMember (name : String) (value : Value) :
    List (String × Value) → List (String × Value)
  | [] => [(name, value)]
  | (other, old) :: rest =>
    if other = name then (name, value) :: rest
    else (other, old) :: insertMember name value rest

end HeaderEnum.Json
