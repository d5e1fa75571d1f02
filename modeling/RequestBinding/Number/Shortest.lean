/-!
# Shortest decimal text of a float

A float stands for all real numbers that round to it. Among the decimals in that interval the one
with the fewest digits is written, and of several such the one nearest to the float. The plain text
never has an exponent, and in it an exact half goes up. The descriptive text uses an exponent
outside a range of magnitudes; a `FloatStyle` fixes that range and what happens to a half.
-/

namespace RequestBinding

/-- A positive binary fraction `mantissa * 2 ^ exponent` together with the rounding rule of its
format: whether the next smaller float is only half as far away as the next larger one. -/
structure BinaryFraction where
  mantissa : Nat
  exponent : Int
  lowerIsCloser : Bool

/-- What the bits of a float say. -/
inductive FloatClass where
  | undefined
  | infinite (negative : Bool)
  | zero (negative : Bool)
  | finite (negative : Bool) (value : BinaryFraction)

namespace FloatClass

/-- Takes the bits of a float apart; the format has `fractionBits` bits of fraction below
`exponentBits` bits of exponent and a sign. -/
def ofBits (fractionBits exponentBits : Nat) (bits : Nat) : FloatClass :=
  let fraction := bits % Nat.pow 2 fractionBits
  let biased := bits / Nat.pow 2 fractionBits % Nat.pow 2 exponentBits
  let negative := bits / Nat.pow 2 (fractionBits + exponentBits) % 2 == 1
  let lowest : Int := 2 - Nat.pow 2 (exponentBits - 1) - fractionBits
  if biased == Nat.pow 2 exponentBits - 1 then
    if fraction == 0 then .infinite negative else .undefined
  else if biased == 0 then
    if fraction == 0 then .zero negative else .finite negative ⟨fraction, lowest, false⟩
  else
    .finite negative ⟨Nat.pow 2 fractionBits + fraction, lowest + biased - 1, fraction == 0⟩

/-- The parts of a binary64 number. -/
def ofFloat (x : Float) : FloatClass :=
  ofBits 52 11 x.toBits.toNat

/-- The parts of a binary32 number. -/
def ofFloat32 (x : Float32) : FloatClass :=
  ofBits 23 8 x.toBits.toNat

end FloatClass

/-- A positive decimal `digits * 10 ^ exponent`. -/
structure DecimalFraction where
  digits : Nat
  exponent : Int

/-- What happens to a value right between two decimals. -/
inductive Tie where
  | up
  | toEven

/-- Of the neighbours `d` and `d + 1` of a half, the lower one is chosen. -/
def Tie.goesDown : Tie → (d : Nat) → Bool
  | up, _ => false
  | toEven, d => d % 2 == 0

namespace BinaryFraction

/-- The value as a quotient of natural numbers, in quarters of the last binary place. -/
def quarters (v : BinaryFraction) : Nat × Nat :=
  let e := v.exponent - 2
  (Nat.pow 2 e.toNat, Nat.pow 2 (-e).toNat)

/-- The decimal exponent of the leading digit. The first guess comes from the binary size and is
at most one too small. -/
def leadingExponent (v : BinaryFraction) : Int :=
  let (up, down) := v.quarters
  let guess : Int := Int.fdiv ((Nat.log2 v.mantissa + v.exponent) * 30103) 100000 - 1
  let reaches (p : Int) : Bool :=
    Nat.pow 10 p.toNat * down ≤ 4 * v.mantissa * up * Nat.pow 10 (-p).toNat
  if reaches (guess + 2) then guess + 2 else if reaches (guess + 1) then guess + 1 else guess

/-- The decimals with exponent `k` next to the value, tried against the interval of reals that
round to it: the nearer one that lies inside, of two equally near ones the one that `tie` names. -/
def hit? (v : BinaryFraction) (tie : Tie) (k : Int) : Option DecimalFraction :=
  let (up, down) := v.quarters
  let scaled := up * Nat.pow 10 (-k).toNat
  let unit := down * Nat.pow 10 k.toNat
  let centre := 4 * v.mantissa * scaled
  let below := (4 * v.mantissa - (if v.lowerIsCloser then 1 else 2)) * scaled
  let above := (4 * v.mantissa + 2) * scaled
  let inside (d : Nat) : Bool :=
    if v.mantissa % 2 == 0 then below ≤ d * unit && d * unit ≤ above
    else below < d * unit && d * unit < above
  let d := centre / unit
  let rest := centre % unit
  match inside d, inside (d + 1) with
  | true, true =>
    let down := 2 * rest < unit || (2 * rest == unit && tie.goesDown d)
    some ⟨if down then d else d + 1, k⟩
  | true, false => some ⟨d, k⟩
  | false, true => some ⟨d + 1, k⟩
  | false, false => none

/-- Tries ever finer decimal places, at most `tries` of them. -/
def search (v : BinaryFraction) (tie : Tie) : (tries : Nat) → (k : Int) → DecimalFraction
  | 0, k => ⟨0, k⟩
  | tries + 1, k => (v.hit? tie k).getD (v.search tie tries (k - 1))

/-- The shortest decimal that rounds to the value. Seventeen digits always suffice; one more try
covers a leading digit that comes from rounding up. -/
def shortest (v : BinaryFraction) (tie : Tie) : DecimalFraction :=
  v.search tie 18 v.leadingExponent

end BinaryFraction

/-- The decisions of a descriptive text. -/
structure FloatStyle where
  /-- The smallest power of ten whose leading digit is written without exponent. -/
  least : Int
  /-- The largest such power of ten. -/
  most : Int
  /-- A positive exponent has a sign. -/
  plus : Bool
  tie : Tie

/-- A leading digit at this power of ten is written without exponent. -/
def FloatStyle.isOrdinary (style : FloatStyle) (power : Int) : Bool :=
  style.least ≤ power && power ≤ style.most

namespace DecimalFraction

/-- The same decimal without zeros at the end of its digits, for a positive number of digits. -/
def dropZeros : (fuel : Nat) → DecimalFraction → DecimalFraction
  | 0, d => d
  | fuel + 1, d =>
    if d.digits % 10 == 0 then dropZeros fuel ⟨d.digits / 10, d.exponent + 1⟩ else d

/-- The digits as characters, without zeros at the end, and the exponent that goes with them. -/
def parts (d : DecimalFraction) : List Char × Int :=
  let d := d.dropZeros 18
  (Nat.toDigits 10 d.digits, d.exponent)

/-- Digits around a point; a whole number has no point. -/
def positional (d : DecimalFraction) : List Char :=
  let (digits, e) := d.parts
  if 0 ≤ e then digits ++ List.replicate e.toNat '0'
  else
    let places := e.natAbs
    if places < digits.length then
      digits.take (digits.length - places) ++ '.' :: digits.drop (digits.length - places)
    else '0' :: '.' :: List.replicate (places - digits.length) '0' ++ digits

/-- The power of ten that the leading digit stands for. -/
def power (d : DecimalFraction) : Int :=
  let (digits, e) := d.parts
  e + digits.length - 1

/-- One digit before the point and a power of ten in the given style. -/
def scientific (style : FloatStyle) (d : DecimalFraction) : List Char :=
  let digits := d.parts.1
  digits.take 1 ++ (if digits.length > 1 then '.' :: digits.drop 1 else [])
    ++ 'e' :: (if style.plus && 0 ≤ d.power then ['+'] else []) ++ (toString d.power).toList

end DecimalFraction

namespace FloatClass

/-- A sign in front of a text. -/
def signed (negative : Bool) (text : List Char) : String :=
  String.ofList (if negative then '-' :: text else text)

/-- The shortest text, without exponent and without a point behind whole numbers. -/
def text : FloatClass → String
  | undefined => "NaN"
  | infinite negative => signed negative "inf".toList
  | zero negative => signed negative ['0']
  | finite negative v => signed negative (v.shortest .up).positional

/-- The descriptive text: a whole number keeps `.0`, and very large and very small numbers have an
exponent. -/
def descriptive (style : FloatStyle) : FloatClass → String
  | undefined => "NaN"
  | infinite negative => signed negative "inf".toList
  | zero negative => signed negative "0.0".toList
  | finite negative v =>
    let d := v.shortest style.tie
    if style.isOrdinary d.power then
      let text := d.positional
      signed negative (if text.contains '.' then text else text ++ ['.', '0'])
    else signed negative (d.scientific style)

end FloatClass

/-- The shortest text of a binary64 number. -/
def floatText (x : Float) : String :=
  (FloatClass.ofFloat x).text

/-- The shortest text of a binary32 number. -/
def float32Text (x : Float32) : String :=
  (FloatClass.ofFloat32 x).text

end RequestBinding
