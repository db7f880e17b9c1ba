import FrontZone.Drive
import Mathlib.Data.Int.Order.Basic
import Mathlib.Order.Basic
/-!
# The drive signal over its domain

The drive signal of a position is an exact integer held to the drive domain and stored in a word;
`toNat_mapToDrive` says that storing it loses nothing. The exact integer departs from the neutral
value by a share of one half of the domain: of the upper half for a position above zero, of the
lower for one below (`driveValue_of_nonneg`, `driveValue_of_nonpos`). What is true of the drive
signal over all positions is then true of a share; `mapToDrive_spreads` is the list.
-/

namespace FrontZone

lemma toNat_ofInt_uint16 {n : Int} (h₁ : 0 ≤ n) (h₂ : n < 65536) :
    ((UInt16.ofInt n).toNat : Int) = n := by
  have hmod : n % 2 ^ 16 = n := Int.emod_eq_of_lt h₁ (by omega)
  rw [UInt16.ofInt, hmod, UInt16.toNat_ofNat']
  omega

/-! ## Shares of a half -/

/-- What belongs to the `p`-th of `r` positions that are spread over `d` values; where there is no
position to be spread, nothing. -/
def share (p r d : Int) : Int :=
  if 0 < r then (p * d).tdiv r else 0

section Share
variable {p q r d : Int}

lemma share_of_pos (hr : 0 < r) : share p r d = (p * d).tdiv r :=
  if_pos hr

lemma share_zero (r d : Int) : share 0 r d = 0 := by
  rw [share, Int.zero_mul, Int.zero_tdiv, ite_self]

/-- The last position gets all values. -/
lemma share_self (hr : 0 < r) (d : Int) : share r r d = d := by
  rw [share_of_pos hr, Int.mul_tdiv_cancel_left d hr.ne']

lemma share_nonneg (hp : 0 ≤ p) (hd : 0 ≤ d) (r : Int) : 0 ≤ share p r d := by
  unfold share
  split
  · next hr => exact Int.tdiv_nonneg (Int.mul_nonneg hp hd) hr.le
  · exact Int.le_refl 0

lemma share_mono (hpq : p ≤ q) (hd : 0 ≤ d) (r : Int) : share p r d ≤ share q r d := by
  unfold share
  split
  · next hr => exact Int.tdiv_le_tdiv hr (Int.mul_le_mul_of_nonneg_right hpq hd)
  · exact Int.le_refl 0

/-- No position gets more than all values. -/
lemma share_le (hpr : p ≤ r) (hd : 0 ≤ d) : share p r d ≤ d := by
  by_cases hr : 0 < r
  · exact (share_mono hpr hd r).trans (share_self hr d).le
  · rw [share, if_neg hr]
    exact hd

end Share

/-! ## The drive value -/

section Value
variable {p q : Int} {range : PositionRange} {domain : DriveDomain}

/-- Positions above zero get their share of the upper half of the domain. -/
lemma driveValue_of_nonneg (hp : 0 ≤ p) :
    driveValue p range domain = domain.center.toNat +
      share p range.max.toInt (domain.max.toNat - domain.center.toNat) := by
  unfold driveValue
  dsimp only
  by_cases hpos : 0 < p
  · rw [if_neg (c := p < 0 ∧ _) (by omega), share]
    by_cases hr : 0 < range.max.toInt
    · rw [if_pos ⟨hpos, hr⟩, if_pos hr]
    · rw [if_neg (by omega), if_neg hr, Int.add_zero]
  · obtain rfl : p = 0 := by omega
    rw [if_neg (by omega), if_neg (by omega), share_zero, Int.add_zero]

/-- Positions below zero get their share of the lower half of the domain. -/
lemma driveValue_of_nonpos (hp : p ≤ 0) :
    driveValue p range domain = domain.center.toNat -
      share (-p) (-range.min.toInt) (domain.center.toNat - domain.min.toNat) := by
  unfold driveValue
  dsimp only
  rw [if_neg (by omega)]
  by_cases hneg : p < 0
  · rw [share]
    by_cases hr : range.min.toInt < 0
    · rw [if_pos ⟨hneg, hr⟩, if_pos (by omega), Int.neg_mul, Int.neg_tdiv, Int.sub_neg]
    · rw [if_neg (by omega), if_neg (by omega), Int.sub_zero]
  · obtain rfl : p = 0 := by omega
    rw [if_neg (by omega), Int.neg_zero, share_zero, Int.sub_zero]

section Halves
variable (hmin : domain.min.toNat ≤ domain.center.toNat)
  (hmax : domain.center.toNat ≤ domain.max.toNat)
include hmin hmax

/-- A farther position never gets a smaller drive value, not even across zero. -/
lemma driveValue_mono (hpq : p ≤ q) : driveValue p range domain ≤ driveValue q range domain := by
  by_cases hp : 0 ≤ p
  · have hmono := share_mono hpq (d := domain.max.toNat - domain.center.toNat) (by omega)
      range.max.toInt
    rw [driveValue_of_nonneg hp, driveValue_of_nonneg (hp.trans hpq)]
    omega
  rw [driveValue_of_nonpos (by omega)]
  by_cases hq : q ≤ 0
  · have hmono := share_mono (p := -q) (q := -p) (by omega)
      (d := domain.center.toNat - domain.min.toNat) (by omega) (-range.min.toInt)
    rw [driveValue_of_nonpos hq]
    omega
  · -- below zero nothing lies above the neutral value, and above zero nothing below it
    have hlow := share_nonneg (p := -p) (by omega) (d := domain.center.toNat - domain.min.toNat)
      (by omega) (-range.min.toInt)
    have hhigh := share_nonneg (p := q) (by omega) (d := domain.max.toNat - domain.center.toNat)
      (by omega) range.max.toInt
    rw [driveValue_of_nonneg (by omega)]
    omega

/-- The drive value of a position in range is in the domain. -/
lemma driveValue_mem (hlow : range.min.toInt ≤ p) (hhigh : p ≤ range.max.toInt) :
    domain.min.toNat ≤ driveValue p range domain ∧ driveValue p range domain ≤ domain.max.toNat := by
  by_cases hp : 0 ≤ p
  · have hnonneg := share_nonneg hp (d := domain.max.toNat - domain.center.toNat) (by omega)
      range.max.toInt
    have hle := share_le hhigh (d := domain.max.toNat - domain.center.toNat) (by omega)
    rw [driveValue_of_nonneg hp]
    omega
  · have hnonneg := share_nonneg (p := -p) (by omega)
      (d := domain.center.toNat - domain.min.toNat) (by omega) (-range.min.toInt)
    have hle := share_le (p := -p) (r := -range.min.toInt) (by omega)
      (d := domain.center.toNat - domain.min.toNat) (by omega)
    rw [driveValue_of_nonpos (by omega)]
    omega

end Halves

/-- Over a range and a domain that are the same on both sides, opposite positions get opposite
departures from the neutral value. -/
lemma driveValue_neg (hrange : range.min.toInt = -range.max.toInt)
    (hdomain : (domain.center.toNat : Int) - domain.min.toNat =
      domain.max.toNat - domain.center.toNat) (p : Int) :
    driveValue (-p) range domain - domain.center.toNat =
      -(driveValue p range domain - domain.center.toNat) := by
  by_cases hp : 0 ≤ p
  · rw [driveValue_of_nonneg hp, driveValue_of_nonpos (p := -p) (by omega), hrange, hdomain,
      Int.neg_neg, Int.neg_neg]
    omega
  · rw [driveValue_of_nonpos (p := p) (by omega), driveValue_of_nonneg (p := -p) (by omega), hrange,
      hdomain, Int.neg_neg]
    omega

end Value

/-! ## The drive signal -/

/-- Holding two numbers to the same bounds keeps their order. -/
lemma clampInt_mono {lo hi m n : Int} (hle : lo ≤ hi) (h : m ≤ n) :
    clampInt lo hi m ≤ clampInt lo hi n := by
  unfold clampInt
  split_ifs <;> omega

/-- The drive signal is the drive value held to the domain. -/
theorem toNat_mapToDrive (position : Int32) (range : PositionRange) {domain : DriveDomain}
    (h : domain.min ≤ domain.max) :
    ((mapToDrive position range domain).toNat : Int) =
      clampInt domain.min.toNat domain.max.toNat (driveValue position.toInt range domain) := by
  have hle : (domain.min.toNat : Int) ≤ domain.max.toNat := by
    exact_mod_cast UInt16.le_iff_toNat_le.mp h
  have hmax := domain.max.toNat_lt
  have hlo : (domain.min.toNat : Int) ≤ clampInt domain.min.toNat domain.max.toNat
      (driveValue position.toInt range domain) := le_clampInt hle
  have hhi : clampInt domain.min.toNat domain.max.toNat
      (driveValue position.toInt range domain) ≤ domain.max.toNat := clampInt_le hle
  exact toNat_ofInt_uint16 (by omega) (by omega)

/-- The drive signal never leaves its domain. -/
theorem mapToDrive_mem {position : Int32} {range : PositionRange} {domain : DriveDomain}
    (h : domain.min ≤ domain.max) :
    domain.min ≤ mapToDrive position range domain ∧
      mapToDrive position range domain ≤ domain.max := by
  have hle : (domain.min.toNat : Int) ≤ domain.max.toNat := by
    exact_mod_cast UInt16.le_iff_toNat_le.mp h
  have hval := toNat_mapToDrive position range h
  rw [UInt16.le_iff_toNat_le, UInt16.le_iff_toNat_le]
  constructor
  · have hlo : (domain.min.toNat : Int) ≤ (mapToDrive position range domain).toNat :=
      hval ▸ le_clampInt hle
    omega
  · have hhi : ((mapToDrive position range domain).toNat : Int) ≤ domain.max.toNat :=
      hval ▸ clampInt_le hle
    omega

/-- The drive value of a position in range is stored as it is. -/
lemma toNat_mapToDrive_of_mem {position : Int32} {range : PositionRange} {domain : DriveDomain}
    (hmin : domain.min ≤ domain.center) (hmax : domain.center ≤ domain.max)
    (hlow : range.min.toInt ≤ position.toInt) (hhigh : position.toInt ≤ range.max.toInt) :
    ((mapToDrive position range domain).toNat : Int) =
      driveValue position.toInt range domain := by
  rw [toNat_mapToDrive _ _ (UInt16.le_trans hmin hmax)]
  rw [UInt16.le_iff_toNat_le] at hmin hmax
  obtain ⟨hlo, hhi⟩ := driveValue_mem hmin hmax hlow hhigh
  exact clampInt_eq_self hlo hhi

/-! ## Laws of the drive signal -/

/-- A map that spreads the positions of a range over the signals of a domain. -/
structure Spreads (range : PositionRange) (domain : DriveDomain) (signal : Int32 → UInt16) :
    Prop where
  mono : ∀ p q, p ≤ q → signal p ≤ signal q
  mem : ∀ p, domain.min ≤ signal p ∧ signal p ≤ domain.max
  zero_eq : signal 0 = domain.center
  max_eq : 0 < range.max → signal range.max = domain.max
  min_eq : range.min < 0 → signal range.min = domain.min
  /-- Within the range the drive value needs no holding to the domain. -/
  value_eq : ∀ p, range.min ≤ p → p ≤ range.max →
    ((signal p).toNat : Int) = driveValue p.toInt range domain
  mirrored : range.min.toInt = -range.max.toInt →
    (domain.center.toNat : Int) - domain.min.toNat = domain.max.toNat - domain.center.toNat →
    ∀ p, range.min ≤ p → p ≤ range.max →
      ((signal (-p)).toNat : Int) - domain.center.toNat =
        -((signal p).toNat - domain.center.toNat)

/-- A word that is not the least has an opposite. -/
lemma toInt_neg_of_gt {p : Int32} (h : -2147483648 < p.toInt) : (-p).toInt = -p.toInt := by
  have hlt := p.toInt_lt
  rw [Int32.toInt_neg]
  exact Int.bmod_eq_of_le (by omega) (by omega)

/-- Over every domain with its neutral value inside, the drive signal is defined for every position
and spreads the range over the domain. -/
theorem mapToDrive_spreads (range : PositionRange) {domain : DriveDomain}
    (hmin : domain.min ≤ domain.center) (hmax : domain.center ≤ domain.max) :
    (∀ p, mapToDrive? p range domain = some (mapToDrive p range domain)) ∧
      Spreads range domain (mapToDrive · range domain) := by
  have hle : domain.min ≤ domain.max := UInt16.le_trans hmin hmax
  have hlow := UInt16.le_iff_toNat_le.mp hmin
  have hhigh := UInt16.le_iff_toNat_le.mp hmax
  have hin : ∀ p : Int32, range.min ≤ p → p ≤ range.max →
      ((mapToDrive p range domain).toNat : Int) = driveValue p.toInt range domain :=
    fun p hp hp' => toNat_mapToDrive_of_mem hmin hmax (Int32.le_iff_toInt_le.mp hp)
      (Int32.le_iff_toInt_le.mp hp')
  refine ⟨fun p => if_pos hle, ?_, fun p => mapToDrive_mem hle, ?_, ?_, ?_, hin, ?_⟩
  · intro p q hpq
    have hvalue : driveValue p.toInt range domain ≤ driveValue q.toInt range domain :=
      driveValue_mono hlow hhigh (Int32.le_iff_toInt_le.mp hpq)
    have hclamp :=
      clampInt_mono (show (domain.min.toNat : Int) ≤ domain.max.toNat by omega) hvalue
    rw [← toNat_mapToDrive p range hle, ← toNat_mapToDrive q range hle] at hclamp
    exact UInt16.le_iff_toNat_le.mpr (by omega)
  · have hvalue := toNat_mapToDrive 0 range hle
    rw [Int32.toInt_zero, driveValue_of_nonneg (Int.le_refl 0), share_zero, Int.add_zero,
      clampInt_eq_self (by omega) (by omega)] at hvalue
    exact UInt16.toNat_inj.mp (by omega)
  · intro hpos
    rw [Int32.lt_iff_toInt_lt, Int32.toInt_zero] at hpos
    have hvalue := toNat_mapToDrive range.max range hle
    rw [driveValue_of_nonneg hpos.le, share_self hpos, clampInt_eq_self (by omega) (by omega)]
      at hvalue
    exact UInt16.toNat_inj.mp (by omega)
  · intro hneg
    rw [Int32.lt_iff_toInt_lt, Int32.toInt_zero] at hneg
    have hvalue := toNat_mapToDrive range.min range hle
    rw [driveValue_of_nonpos hneg.le, share_self (by omega),
      clampInt_eq_self (by omega) (by omega)] at hvalue
    exact UInt16.toNat_inj.mp (by omega)
  · intro hrange hdomain p hp hp'
    -- the range ends at the opposite of a word, so it does not reach down to the least one
    have hend := range.max.toInt_lt
    rw [Int32.le_iff_toInt_le] at hp hp'
    have hopposite : (-p).toInt = -p.toInt := toInt_neg_of_gt (by omega)
    rw [toNat_mapToDrive_of_mem hmin hmax (by omega) (by omega),
      toNat_mapToDrive_of_mem hmin hmax hp hp', hopposite, driveValue_neg hrange hdomain]

/-- Steering is the same to both sides: twenty degrees to the left are driven as far below the
neutral signal as twenty to the right above it, and the ends of the range to those of the domain.
-/
theorem steering_drive_mirrored :
    let c := Calibration.steering
    let signal := (mapToDrive · c.range c.output)
    c.output.min ≤ c.output.center ∧ c.output.center ≤ c.output.max ∧
      signal 200 = 1722 ∧ signal (-200) = 1278 ∧ signal (-450) = 1000 ∧ signal 450 = 2000 := by
  intro c signal
  have hmin : c.output.min ≤ c.output.center := by decide
  have hmax : c.output.center ≤ c.output.max := by decide
  obtain ⟨-, hspreads⟩ := mapToDrive_spreads c.range hmin hmax
  have hright : signal 200 = 1722 := by decide
  have hleft := hspreads.mirrored (by decide) (by decide) 200 (by decide) (by decide)
  have hcenter : (c.output.center.toNat : Int) = 1500 := rfl
  have hright' : ((mapToDrive 200 c.range c.output).toNat : Int) = 1722 :=
    congrArg (fun d : UInt16 => (d.toNat : Int)) hright
  rw [hcenter, hright'] at hleft
  have hleft' : (signal (-200)).toNat = (1278 : UInt16).toNat := by
    show (mapToDrive (-200) c.range c.output).toNat = 1278
    omega
  exact ⟨hmin, hmax, hright, UInt16.toNat_inj.mp hleft', hspreads.min_eq (by decide),
    hspreads.max_eq (by decide)⟩

end FrontZone
