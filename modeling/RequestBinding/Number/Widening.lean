/-!
# Widening

Every number of single precision is one of double precision, and rounding it to double precision
leaves it as it is.
-/

namespace RequestBinding

/-- The number of double precision that is the same number. -/
def widen (x : Float32) : Float :=
  .ofModel <| .pack <|
    match x.toModel.unpack with
    | .finite sign mantissa exponent _ =>
      Float.Model.UnpackedFloat.round Float.Model.Format.binary64 sign mantissa exponent
    | special => special

end RequestBinding
