/-
**Parameters of synthetic grain.**

A set of parameters holds the scaling functions of the three planes, the coefficients of the
filters that shape the grain, and how the planes of colour depend on luma.  The filters of a given
lag have a fixed number of coefficients: `2 * lag * (lag + 1)` for luma, and one more for each
plane of colour, which takes the luma grain at the same place into account.

Main definitions:

* `FilmGrain.GrainFields` — the fields of a set of parameters;
* `FilmGrain.GrainParams` — fields whose filters have the length that their lag asks for;
* `GrainParams.ofFields` — the check, with `FilmGrain.ParamsError` for what it refuses;
* `GrainParams.ofCurve` — the parameters of grain in luma only.

Main results:

* `GrainParams.ofFields_toGrainFields` — **the check accepts every set of parameters, unchanged**.
-/

import FilmGrain.Scaling.Curve

set_option autoImplicit false

namespace FilmGrain

/-! ### Fields -/

/-- The fields of a set of parameters; those of photon noise unless given otherwise. -/
structure GrainFields where
  /-- Whether grain is added at all. -/
  applyGrain : Int := 1
  /-- Whether the other fields replace those in force. -/
  updateParameters : Int := 1
  /-- The scaling function of luma. -/
  scalingPointsY : List (Int × Int) := []
  /-- The scaling function of the blue difference. -/
  scalingPointsCb : List (Int × Int) := []
  /-- The scaling function of the red difference. -/
  scalingPointsCr : List (Int × Int) := []
  /-- The shift of scaled grain. -/
  scalingShift : Int := 8
  /-- The lag of the filters. -/
  arCoeffLag : Int := 0
  /-- The filter of luma. -/
  arCoeffsY : List Int := []
  /-- The filter of the blue difference. -/
  arCoeffsCb : List Int := [0]
  /-- The filter of the red difference. -/
  arCoeffsCr : List Int := [0]
  /-- The shift of the coefficients. -/
  arCoeffShift : Int := 6
  /-- The shift of the grain template. -/
  grainScaleShift : Int := 0
  /-- The multiplier of the blue difference in its scaling index. -/
  cbMult : Int := 0
  /-- The multiplier of luma in the scaling index of the blue difference. -/
  cbLumaMult : Int := 0
  /-- The offset of the scaling index of the blue difference. -/
  cbOffset : Int := 0
  /-- The multiplier of the red difference in its scaling index. -/
  crMult : Int := 0
  /-- The multiplier of luma in the scaling index of the red difference. -/
  crLumaMult : Int := 0
  /-- The offset of the scaling index of the red difference. -/
  crOffset : Int := 0
  /-- Whether blocks of grain overlap. -/
  overlapFlag : Int := 1
  /-- The seed of the grain. -/
  randomSeed : Int := 7391
  /-- Whether the planes of colour are scaled as luma is. -/
  chromaScalingFromLuma : Int := 0
deriving DecidableEq

/-- The number of coefficients of the luma filter of a lag. -/
def lumaCoefficients (lag : Int) : Int := 2 * lag * (lag + 1)

/-! ### Faults -/

/-- A plane of an image. -/
inductive Plane where
  | luma
  | blue
  | red
deriving DecidableEq

/-- The name of the filter of a plane. -/
def Plane.filterName : Plane → String
  | luma => "ar_coeffs_y"
  | blue => "ar_coeffs_cb"
  | red => "ar_coeffs_cr"

/-- The number of coefficients of the filter of a plane. -/
def Plane.coefficients (lag : Int) : Plane → Int
  | luma => lumaCoefficients lag
  | blue | red => lumaCoefficients lag + 1

/-- Why fields are no set of parameters. -/
inductive ParamsError where
  /-- The filter of a plane has not the length that the lag asks for. -/
  | filterLength (plane : Plane) (lag : Int)
deriving DecidableEq

/-- The message of a fault. -/
def ParamsError.message (limit : DigitLimit) : ParamsError → String
  | filterLength plane lag =>
      limit.phrase [plane.coefficients lag, lag]
        (plane.filterName ++ " needs " ++ toString (plane.coefficients lag) ++ " values for lag "
          ++ toString lag)

/-! ### Parameters -/

/-- Whether the filter of a plane has the length that the lag asks for. -/
def GrainFields.HasFilter (g : GrainFields) (plane : Plane) (filter : List Int) : Prop :=
  (filter.length : Int) = plane.coefficients g.arCoeffLag

instance (g : GrainFields) (plane : Plane) (filter : List Int) :
    Decidable (g.HasFilter plane filter) :=
  inferInstanceAs (Decidable ((filter.length : Int) = plane.coefficients g.arCoeffLag))

/-- A set of parameters. -/
structure GrainParams extends GrainFields where
  /-- The luma filter is as long as the lag asks for. -/
  luma_filter : toGrainFields.HasFilter .luma arCoeffsY
  /-- So is the filter of the blue difference. -/
  blue_filter : toGrainFields.HasFilter .blue arCoeffsCb
  /-- So is the filter of the red difference. -/
  red_filter : toGrainFields.HasFilter .red arCoeffsCr
deriving DecidableEq

namespace GrainParams

/-- **The set of parameters with given fields**, if its filters have the right length. -/
def ofFields (g : GrainFields) : Except ParamsError GrainParams :=
  if hluma : g.HasFilter .luma g.arCoeffsY then
    if hblue : g.HasFilter .blue g.arCoeffsCb then
      if hred : g.HasFilter .red g.arCoeffsCr then .ok ⟨g, hluma, hblue, hred⟩
      else .error (.filterLength .red g.arCoeffLag)
    else .error (.filterLength .blue g.arCoeffLag)
  else .error (.filterLength .luma g.arCoeffLag)

/-- **The check accepts every set of parameters, unchanged.** -/
theorem ofFields_toGrainFields (p : GrainParams) : ofFields p.toGrainFields = .ok p := by
  rw [ofFields, dif_pos p.luma_filter, dif_pos p.blue_filter, dif_pos p.red_filter]

/-- The parameters that hold unless others are given. -/
instance : Inhabited GrainParams := ⟨⟨{}, rfl, rfl, rfl⟩⟩

/-- The fields of grain in luma only, scaled by a curve. -/
def fieldsOfCurve (curve : ScalingCurve) : GrainFields :=
  { scalingPointsY := curve.points.map fun p => ((p.x.val : Int), (p.noise.val : Int)) }

/-- The parameters of grain in luma only, scaled by a curve. -/
def ofCurve (curve : ScalingCurve) : GrainParams :=
  ⟨fieldsOfCurve curve, rfl, rfl, rfl⟩

end GrainParams

end FilmGrain
