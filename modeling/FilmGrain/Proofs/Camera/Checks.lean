/-
**Which settings of the camera are accepted, and which one is complained of.**

Settings are valid if both sides of the image are positive integers, the exposure index is a
positive, finite number and the transfer function is one; truth values are no numbers.  Valid
settings are to be accepted as they are given, and others refused with a complaint about the first
that is not valid.  The checks answer so, with two exceptions.

* An exposure index is read in double precision before anything else is asked of it, and an integer
  beyond the numbers of that precision is refused for its size alone, whether it is positive or
  negative, and whatever the transfer function is.
* A complaint shows the value.  Where an integer in it has more digits than the limit, it is refused
  for its length instead.

Main definitions:

* `FilmGrain.GivenSettings` — the four given values, with `isValid` and `firstInvalid?`;
* `GivenSettings.complaint` — what is said of a setting that is not valid;
* `GivenSettings.Settled` — **the answer that given settings should get**;
* `GivenSettings.Overflows`, `GivenSettings.Unshown` — the exceptions.

Main results:

* `CameraSettings.checkSide_of_valid`, `CameraSettings.checkIso_of_valid` and their likes — what
  each check answers;
* `GivenSettings.answered_of_not_overflows` — the checks in their order, before anything is shown;
* `GivenSettings.check_eq_integerTooLarge_iff`, `GivenSettings.check_eq_overlong_iff` — **the
  exceptions are exact**;
* `GivenSettings.settled_iff` — **all other settings get the answer they should**;
* `GivenSettings.settled_lost` — an exposure index that is negative and too large does not, nor does
  a width that is negative and too long.
-/

import FilmGrain.Proofs.Pass.Plan

set_option autoImplicit false

namespace FilmGrain

open Number

/-! ### Valid values -/

/-- Whether a value is a positive integer. -/
def Setting.isPositiveInteger : Setting → Bool
  | .integer n => decide (0 < n)
  | .real _ | .text _ | .flag _ | .absent | .list _ => false

/-- Whether a value is a positive, finite number. -/
def Setting.isPositiveNumber : Setting → Bool
  | .integer n => decide (0 < n)
  | .real x => x.toRat.any fun q => decide (0 < q)
  | .text _ | .flag _ | .absent | .list _ => false

/-- Whether a value is a transfer function. -/
def GivenFunction.isFunction : GivenFunction → Bool
  | .registered _ => true
  | .other _ => false

/-- A value is read as a number: one of double precision exactly, an integer as the nearest one. -/
def Setting.ReadsAs (given : Setting) (q : Rat) : Prop :=
  ∃ x : Double, x.toRat = some q ∧ (given = .real x ∨ ∃ n : Int, given = .integer n ∧ .ofRat n = x)

/-- Whether a fault is one of the configuration, and not of an integer that is too large or too
long. -/
def SettingsError.isConfiguration : SettingsError → Bool
  | .notPositiveInteger _ _ | .notPositiveNumber _ | .notTransferFunction _ => true
  | .integerTooLarge | .overlong _ => false

/-! ### Given settings -/

/-- The settings, in the order in which they are checked. -/
inductive SettingsField where
  | width
  | height
  | iso
  | function
deriving DecidableEq

namespace SettingsField

/-- The name of a setting. -/
def name : SettingsField → String
  | width => "width"
  | height => "height"
  | iso => "iso_setting"
  | function => "transfer_function"

/-- What a setting must be. -/
def demand : SettingsField → String
  | width | height => "a positive integer"
  | iso => "a positive number"
  | function => "a TransferFunction"

/-- The settings in the order of their checks. -/
def all : List SettingsField := [width, height, iso, function]

end SettingsField

/-- The values that are given for the settings. -/
structure GivenSettings where
  /-- The width of the image. -/
  width : Setting
  /-- The height of the image. -/
  height : Setting
  /-- The exposure index. -/
  iso : Setting
  /-- The transfer function. -/
  function : GivenFunction

namespace GivenSettings

/-- The answer to given settings. -/
def check (limit : DigitLimit) (g : GivenSettings) : Except SettingsError CameraSettings :=
  CameraSettings.check limit g.width g.height g.iso g.function

/-- Whether the value of a setting is valid. -/
def isValid (g : GivenSettings) : SettingsField → Bool
  | .width => g.width.isPositiveInteger
  | .height => g.height.isPositiveInteger
  | .iso => g.iso.isPositiveNumber
  | .function => g.function.isFunction

/-- The first setting whose value is not valid. -/
def firstInvalid? (g : GivenSettings) : Option SettingsField :=
  SettingsField.all.find? fun field => !g.isValid field

/-- How the value of a setting is shown: a transfer function by its kind. -/
def shown (g : GivenSettings) : SettingsField → String
  | .width => g.width.display
  | .height => g.height.display
  | .iso => g.iso.display
  | .function =>
      match g.function with
      | .registered _ => "TransferFunction"
      | .other value => value.kind

/-- The integers in what is shown of a setting. -/
def integers (g : GivenSettings) : SettingsField → List Int
  | .width => g.width.integers
  | .height => g.height.integers
  | .iso => g.iso.integers
  | .function => []

/-- What is said of a setting that is not valid. -/
def complaint (g : GivenSettings) (field : SettingsField) : String :=
  field.name ++ " must be " ++ field.demand ++ ", got " ++ g.shown field

/-- The settings hold what was given. -/
structure HeldBy (g : GivenSettings) (s : CameraSettings) : Prop where
  width : g.width = .integer s.width
  height : g.height = .integer s.height
  iso : g.iso.ReadsAs s.iso
  function : g.function = .registered s.function

/-- **The answer that given settings should get.**  Valid ones are accepted as they are; others are
refused as a wrong configuration, with a complaint about the first that is not valid. -/
def Settled (limit : DigitLimit) (g : GivenSettings) : Prop :=
  match g.firstInvalid? with
  | none => ∃ s, g.check limit = .ok s ∧ g.HeldBy s
  | some field =>
      ∃ e, g.check limit = .error e ∧ e.isConfiguration = true ∧ e.message = g.complaint field

/-- The sides are valid, and the exposure index is an integer beyond the numbers of double
precision. -/
def Overflows (g : GivenSettings) : Prop :=
  g.width.isPositiveInteger ∧ g.height.isPositiveInteger ∧
    ∃ n, g.iso = .integer n ∧ pixelLimit ≤ n.natAbs

/-- The value of the first setting that is not valid cannot be shown, since an integer in it is too
long. -/
def Unshown (limit : DigitLimit) (g : GivenSettings) : Prop :=
  ¬ g.Overflows ∧
    ∃ field, g.firstInvalid? = some field ∧ ∃ n ∈ g.integers field, ¬ limit.Admits n

end GivenSettings

/-! ### The checks one by one -/

namespace CameraSettings

theorem checkSide_of_valid (side : Side) {given : Setting} (h : given.isPositiveInteger) :
    ∃ n, checkSide side given = .ok n ∧ given = .integer n.val := by
  cases given with
  | integer n =>
      have hpos : 0 < n := decide_eq_true_iff.1 h
      have hnat : 0 < n.toNat := by omega
      exact ⟨⟨n.toNat, hnat⟩, dif_pos hnat, by rw [Int.toNat_of_nonneg hpos.le]⟩
  | real | text | flag | absent | list => cases h

theorem checkSide_of_invalid (side : Side) {given : Setting} (h : ¬ given.isPositiveInteger) :
    checkSide side given = .error (.notPositiveInteger side given) := by
  cases given with
  | integer n =>
      have hnot : ¬ 0 < n := fun hpos => h (decide_eq_true_iff.2 hpos)
      exact dif_neg (by omega)
  | real | text | flag | absent | list => rfl

/-- A finite number is accepted or refused for its sign. -/
theorem checkPositive_of_toRat (given : Setting) {x : Double} {q : Rat} (hx : x.toRat = some q) :
    checkPositive given x =
      if h : 0 < q then .ok ⟨q, h⟩ else .error (.notPositiveNumber given) := by
  rw [checkPositive]
  split
  · rename_i r hr
    obtain rfl := Option.some.inj (hr.symm.trans hx)
    rfl
  · rename_i hnone
    rw [hnone] at hx
    cases hx

/-- Rounding keeps the sign of an integer. -/
theorem rounded_intCast_pos_iff {n : Int} : 0 < Format.double.rounded n ↔ 0 < n := by
  constructor
  · intro h
    by_contra hle
    have hle' : (n : Rat) ≤ 0 := by exact_mod_cast not_lt.1 hle
    have := Format.double.rounded_mono hle'
    rw [Format.rounded_eq_self Format.represents_zero] at this
    exact absurd h (not_lt.2 this)
  · intro h
    have hone : (1 : Rat) ≤ n := by exact_mod_cast h
    have := Format.double.rounded_mono hone
    rw [Format.rounded_eq_self Format.represents_one] at this
    exact one_pos.trans_le this

/-- An integer as an exposure index. -/
theorem checkIso_integer (n : Int) :
    checkIso (.integer n) =
      if n.natAbs < pixelLimit then checkPositive (.integer n) (.ofRat n)
      else .error .integerTooLarge := by
  rw [checkIso]
  by_cases h : n.natAbs < pixelLimit
  · rw [if_pos h, Binary.ofInt?_of_inRange (inRange_intCast_iff.2 h)]
  · rw [if_neg h, Binary.ofInt?_of_not_inRange (mt inRange_intCast_iff.1 h)]

theorem checkIso_of_valid {given : Setting} (h : given.isPositiveNumber)
    (hsmall : ∀ n, given = .integer n → n.natAbs < pixelLimit) :
    ∃ q, checkIso given = .ok q ∧ given.ReadsAs q.val := by
  cases given with
  | integer n =>
      have hval := Binary.toRat_ofRat (inRange_intCast_iff.2 (hsmall n rfl))
      have hpos : 0 < Format.double.rounded n :=
        rounded_intCast_pos_iff.2 (decide_eq_true_iff.1 h)
      refine ⟨⟨_, hpos⟩, ?_, _, hval, Or.inr ⟨n, rfl, rfl⟩⟩
      rw [checkIso_integer, if_pos (hsmall n rfl), checkPositive_of_toRat _ hval, dif_pos hpos]
  | real x =>
      obtain ⟨q, hq, hpos⟩ := (Option.any_eq_true _ _).1 h
      have hpos : 0 < q := decide_eq_true_iff.1 hpos
      refine ⟨⟨q, hpos⟩, ?_, x, hq, Or.inl rfl⟩
      rw [checkIso, checkPositive_of_toRat _ hq, dif_pos hpos]
  | text | flag | absent | list => cases h

theorem checkIso_of_invalid {given : Setting} (h : ¬ given.isPositiveNumber)
    (hsmall : ∀ n, given = .integer n → n.natAbs < pixelLimit) :
    checkIso given = .error (.notPositiveNumber given) := by
  cases given with
  | integer n =>
      have hval := Binary.toRat_ofRat (inRange_intCast_iff.2 (hsmall n rfl))
      have hnot : ¬ 0 < Format.double.rounded n :=
        fun hpos => h (decide_eq_true_iff.2 (rounded_intCast_pos_iff.1 hpos))
      rw [checkIso_integer, if_pos (hsmall n rfl), checkPositive_of_toRat _ hval, dif_neg hnot]
  | real x =>
      cases hx : x.toRat with
      | none => rw [checkIso, checkPositive, hx]
      | some q =>
          have hnot : ¬ 0 < q := by
            intro hpos
            refine h ?_
            rw [Setting.isPositiveNumber, hx]
            exact decide_eq_true_iff.2 hpos
          rw [checkIso, checkPositive_of_toRat _ hx, dif_neg hnot]
  | text | flag | absent | list => rfl

end CameraSettings

/-! ### The checks in their order -/

namespace GivenSettings

variable {g : GivenSettings} {limit : DigitLimit}

/-- The answer before anything is shown. -/
def checkAll (g : GivenSettings) : Except SettingsError CameraSettings :=
  CameraSettings.checkAll g.width g.height g.iso g.function

theorem checkAll_of_width (h : ¬ g.width.isPositiveInteger) :
    g.checkAll = .error (.notPositiveInteger .width g.width) := by
  rw [checkAll, CameraSettings.checkAll, CameraSettings.checkSide_of_invalid .width h]
  rfl

theorem checkAll_of_height (hwidth : g.width.isPositiveInteger)
    (h : ¬ g.height.isPositiveInteger) :
    g.checkAll = .error (.notPositiveInteger .height g.height) := by
  obtain ⟨_, hwidth, -⟩ := CameraSettings.checkSide_of_valid .width hwidth
  rw [checkAll, CameraSettings.checkAll, hwidth, CameraSettings.checkSide_of_invalid .height h]
  rfl

/-- Once the sides have passed, the exposure index is checked. -/
theorem checkAll_of_iso_error (hwidth : g.width.isPositiveInteger)
    (hheight : g.height.isPositiveInteger) {e : SettingsError}
    (h : CameraSettings.checkIso g.iso = .error e) : g.checkAll = .error e := by
  obtain ⟨_, hwidth, -⟩ := CameraSettings.checkSide_of_valid .width hwidth
  obtain ⟨_, hheight, -⟩ := CameraSettings.checkSide_of_valid .height hheight
  rw [checkAll, CameraSettings.checkAll, hwidth, hheight, h]
  rfl

theorem checkAll_of_overflows (h : g.Overflows) : g.checkAll = .error .integerTooLarge := by
  obtain ⟨hwidth, hheight, n, hiso, hlarge⟩ := h
  refine checkAll_of_iso_error hwidth hheight ?_
  rw [hiso, CameraSettings.checkIso_integer, if_neg (not_lt.2 hlarge)]

/-- Without the first exception an integer as an exposure index is small enough. -/
theorem natAbs_lt_of_not_overflows (h : ¬ g.Overflows) (hwidth : g.width.isPositiveInteger)
    (hheight : g.height.isPositiveInteger) {n : Int} (hiso : g.iso = .integer n) :
    n.natAbs < pixelLimit := by
  by_contra hlarge
  exact h ⟨hwidth, hheight, n, hiso, not_lt.1 hlarge⟩

/-- Once the sides and the exposure index have passed, the transfer function is checked. -/
theorem checkAll_of_valid (h : ¬ g.Overflows) (hwidth : g.width.isPositiveInteger)
    (hheight : g.height.isPositiveInteger) (hiso : g.iso.isPositiveNumber) :
    (∀ value, g.function = .other value → g.checkAll = .error (.notTransferFunction value)) ∧
    ∀ function, g.function = .registered function → ∃ s, g.checkAll = .ok s ∧ g.HeldBy s := by
  have hsmall (n : Int) := natAbs_lt_of_not_overflows (n := n) h hwidth hheight
  obtain ⟨w, hcheckWidth, hwidth⟩ := CameraSettings.checkSide_of_valid .width hwidth
  obtain ⟨l, hcheckHeight, hheight⟩ := CameraSettings.checkSide_of_valid .height hheight
  obtain ⟨q, hcheckIso, hiso⟩ := CameraSettings.checkIso_of_valid hiso hsmall
  constructor
  · intro value hfunction
    rw [checkAll, CameraSettings.checkAll, hcheckWidth, hcheckHeight, hcheckIso, hfunction]
    rfl
  · intro function hfunction
    refine ⟨⟨w, l, q, function, w.property, l.property, q.property⟩, ?_, ⟨hwidth, hheight, hiso,
      hfunction⟩⟩
    rw [checkAll, CameraSettings.checkAll, hcheckWidth, hcheckHeight, hcheckIso, hfunction]
    rfl

/-- What the checks find: nothing, or the fault of the first setting that is not valid, with the
integers that are shown of it. -/
def Answered (g : GivenSettings) : Prop :=
  match g.firstInvalid? with
  | none => ∃ s, g.checkAll = .ok s ∧ g.HeldBy s
  | some field =>
      ∃ e, g.checkAll = .error e ∧ e.isConfiguration = true ∧ e.message = g.complaint field ∧
        e.integers = g.integers field

/-- **Without the first exception the checks find what they should.** -/
theorem answered_of_not_overflows (h : ¬ g.Overflows) : g.Answered := by
  rw [Answered]
  by_cases hwidth : g.width.isPositiveInteger
  case neg =>
    have hfirst : g.firstInvalid? = some .width := by
      simp [firstInvalid?, SettingsField.all, isValid, hwidth]
    rw [hfirst]
    exact ⟨_, checkAll_of_width hwidth, rfl, rfl, rfl⟩
  by_cases hheight : g.height.isPositiveInteger
  case neg =>
    have hfirst : g.firstInvalid? = some .height := by
      simp [firstInvalid?, SettingsField.all, isValid, hwidth, hheight]
    rw [hfirst]
    exact ⟨_, checkAll_of_height hwidth hheight, rfl, rfl, rfl⟩
  by_cases hiso : g.iso.isPositiveNumber
  case neg =>
    have hfirst : g.firstInvalid? = some .iso := by
      simp [firstInvalid?, SettingsField.all, isValid, hwidth, hheight, hiso]
    have hcheck := CameraSettings.checkIso_of_invalid hiso
      fun n => natAbs_lt_of_not_overflows h hwidth hheight
    rw [hfirst]
    exact ⟨_, checkAll_of_iso_error hwidth hheight hcheck, rfl, rfl, rfl⟩
  obtain ⟨hother, hregistered⟩ := checkAll_of_valid h hwidth hheight hiso
  cases hfunction : g.function with
  | other value =>
      have hfirst : g.firstInvalid? = some .function := by
        simp [firstInvalid?, SettingsField.all, isValid, hwidth, hheight, hiso, hfunction,
          GivenFunction.isFunction]
      rw [hfirst]
      refine ⟨_, hother value hfunction, rfl, ?_, rfl⟩
      simp only [complaint, shown, hfunction]
      rfl
  | registered function =>
      have hfirst : g.firstInvalid? = none := by
        simp [firstInvalid?, SettingsField.all, isValid, hwidth, hheight, hiso, hfunction,
          GivenFunction.isFunction]
      rw [hfirst]
      exact hregistered function hfunction

/-! ### What is shown -/

/-- What the checks find is the answer if its integers may be written. -/
theorem check_of_error {e : SettingsError} (h : g.checkAll = .error e) :
    g.check limit = .error (limit.raised .overlong e.integers e) := by
  rw [checkAll] at h
  rw [check, CameraSettings.check, h]
  rfl

theorem check_of_overflows (h : g.Overflows) : g.check limit = .error .integerTooLarge := by
  have hshown : limit.raised .overlong [] SettingsError.integerTooLarge = .integerTooLarge :=
    DigitLimit.raised_of_admits (List.forall_mem_nil _) _ _
  exact (check_of_error (checkAll_of_overflows h)).trans (congrArg Except.error hshown)

/-- An integer that is too long is refused in the place of the complaint. -/
theorem check_of_unshown (h : g.Unshown limit) :
    ∃ most, limit.digits = some most ∧ g.check limit = .error (.overlong ⟨most⟩) := by
  obtain ⟨hsmall, field, hfirst, hlong⟩ := h
  have hanswered := answered_of_not_overflows hsmall
  rw [Answered, hfirst] at hanswered
  obtain ⟨e, hcheck, -, -, hintegers⟩ := hanswered
  rw [← hintegers] at hlong
  obtain ⟨most, hmost, hrefused⟩ := DigitLimit.raised_of_not_admits hlong .overlong e
  exact ⟨most, hmost, by rw [check_of_error hcheck, hrefused]⟩

/-- So it is where the width is long and negative, whatever else is given. -/
theorem unshown_of_width {n : Int} (hwidth : g.width = .integer n) (hnegative : n < 0)
    (hlong : ¬ limit.Admits n) : g.firstInvalid? = some .width ∧ g.Unshown limit := by
  have hinvalid : ¬ g.width.isPositiveInteger := by
    rw [hwidth]
    exact fun hpositive => absurd (decide_eq_true_iff.1 hpositive) (by omega)
  have hfirst : g.firstInvalid? = some .width := by
    simp [firstInvalid?, SettingsField.all, isValid, hinvalid]
  have hshown : n ∈ g.integers .width := by
    rw [integers, hwidth]
    exact List.mem_singleton_self n
  exact ⟨hfirst, fun hlarge => hinvalid hlarge.1, .width, hfirst, n, hshown, hlong⟩

/-- Without the exceptions given settings get the answer they should. -/
theorem settled_of_shown (hsmall : ¬ g.Overflows) (hshown : ¬ g.Unshown limit) :
    g.Settled limit := by
  have hanswered := answered_of_not_overflows hsmall
  rw [Answered] at hanswered
  rw [Settled]
  cases hfirst : g.firstInvalid? with
  | none =>
      rw [hfirst] at hanswered
      obtain ⟨s, hcheck, hheld⟩ := hanswered
      exact ⟨s, CameraSettings.check_eq_ok_iff.2 hcheck, hheld⟩
  | some field =>
      rw [hfirst] at hanswered
      obtain ⟨e, hcheck, hconfiguration, hmessage, hintegers⟩ := hanswered
      have hadmits : ∀ n ∈ e.integers, limit.Admits n := by
        intro n hn
        by_contra hlong
        exact hshown ⟨hsmall, field, hfirst, n, hintegers ▸ hn, hlong⟩
      refine ⟨e, ?_, hconfiguration, hmessage⟩
      rw [check_of_error hcheck, DigitLimit.raised_of_admits hadmits]

/-- A refusal that is none of the configuration is not the answer that settings should get. -/
theorem not_settled {e : SettingsError} (hcheck : g.check limit = .error e)
    (he : e.isConfiguration = false) : ¬ g.Settled limit := by
  intro h
  rw [Settled] at h
  split at h
  · obtain ⟨s, hs, -⟩ := h
    cases hcheck.symm.trans hs
  · obtain ⟨other, hother, hconfiguration, -⟩ := h
    obtain rfl := Except.error.inj (hcheck.symm.trans hother)
    rw [he] at hconfiguration
    cases hconfiguration

/-- **The first exception is exact.** -/
theorem check_eq_integerTooLarge_iff :
    g.check limit = .error .integerTooLarge ↔ g.Overflows := by
  refine ⟨fun hcheck => ?_, check_of_overflows⟩
  by_contra h
  by_cases hshown : g.Unshown limit
  · obtain ⟨most, -, hrefused⟩ := check_of_unshown hshown
    cases hcheck.symm.trans hrefused
  · exact not_settled hcheck rfl (settled_of_shown h hshown)

/-- **So is the second.** -/
theorem check_eq_overlong_iff :
    (∃ refusal, g.check limit = .error (.overlong refusal)) ↔ g.Unshown limit := by
  refine ⟨fun ⟨refusal, hcheck⟩ => ?_, fun hshown => ?_⟩
  swap
  · obtain ⟨most, -, hrefused⟩ := check_of_unshown hshown
    exact ⟨_, hrefused⟩
  by_contra hshown
  by_cases h : g.Overflows
  · cases hcheck.symm.trans (check_of_overflows h)
  · exact not_settled hcheck rfl (settled_of_shown h hshown)

/-- **Settings get the answer they should, unless an integer in them is too large or too long.**
What should be accepted is accepted as it was given, and anything else is refused as a wrong
configuration for the first setting that is not valid, in the order width, height, exposure index
and transfer function.  Where the sides are valid and the exposure index is an integer of either
sign from `pixelLimit` on, this is refused for its size instead; otherwise an integer with too many
digits is refused where it was to be shown. -/
theorem settled_iff (limit : DigitLimit) (g : GivenSettings) :
    (g.Settled limit ↔ ¬ g.Overflows ∧ ¬ g.Unshown limit) ∧
    (g.check limit = .error .integerTooLarge ↔ g.Overflows) ∧
    ((∃ refusal, g.check limit = .error (.overlong refusal)) ↔ g.Unshown limit) := by
  refine ⟨⟨fun hsettled => ⟨fun hlarge => ?_, fun hlong => ?_⟩, fun h => settled_of_shown h.1 h.2⟩,
    check_eq_integerTooLarge_iff, check_eq_overlong_iff⟩
  · exact not_settled (check_of_overflows hlarge) rfl hsettled
  · obtain ⟨most, -, hcheck⟩ := check_of_unshown hlong
    exact not_settled hcheck rfl hsettled

/-- A negative exposure index is the first setting that is not valid, but with 401 digits it is not
complained of; nor is a negative width with 5001 digits. -/
theorem settled_lost :
    (let g : GivenSettings :=
        ⟨.integer 1920, .integer 1080, .integer (-10 ^ 400), .registered .srgb⟩
     g.firstInvalid? = some .iso ∧ g.check .usual = .error .integerTooLarge ∧
        ¬ g.Settled .usual) ∧
    (let g : GivenSettings :=
        ⟨.integer (-10 ^ 5000), .integer 1080, .integer 800, .registered .srgb⟩
     g.firstInvalid? = some .width ∧ g.check .usual = .error (.overlong ⟨4300⟩) ∧
        ¬ g.Settled .usual) := by
  constructor
  · intro g
    have hcheck : g.check .usual = .error .integerTooLarge :=
      check_of_overflows ⟨rfl, rfl, _, rfl, by decide +kernel⟩
    exact ⟨by decide +kernel, hcheck, not_settled hcheck rfl⟩
  · intro g
    have hlong : ¬ DigitLimit.usual.Admits (-10 ^ 5000) := by
      rw [DigitLimit.admits_iff]
      exact fun h => absurd (h 4300 rfl) (by decide +kernel)
    obtain ⟨hfirst, hunshown⟩ := unshown_of_width (g := g) rfl (by decide +kernel) hlong
    obtain ⟨most, hmost, hcheck⟩ := check_of_unshown hunshown
    obtain rfl := Option.some.inj hmost
    exact ⟨hfirst, hcheck, not_settled hcheck rfl⟩

end GivenSettings

end FilmGrain
