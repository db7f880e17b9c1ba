import FrontZone.Proofs.Injector
/-!
# How long a fault lasts

The cycle in which a fault begins is the first of its duration, and each cycle that opens after it
is one more. Between the beginning and the end an injector can only count down, so what is left is
read off the number of cycles that have opened (`inForce_run`), and the main statement is that the
fault goes with the opening of the first cycle that was not asked for.
-/

namespace FrontZone

lemma toNat_sub_one {n : UInt32} (h : n ≠ 0) : (n - 1).toNat = n.toNat - 1 := by
  have hne : n.toNat ≠ 0 := fun hzero => h (UInt32.toNat_inj.mp hzero)
  have hle : (1 : UInt32) ≤ n := by
    rw [UInt32.le_iff_toNat_le, UInt32.toNat_one]
    omega
  exact UInt32.toNat_sub_of_le _ _ hle

namespace Injector
namespace Bench

variable {b b' : Bench} {e : Event} {es : List Event} {fault : SensorFault}
  {duration : Option UInt32} {left : Option Nat} {struck : Rig}

/-! ## Countdown -/

/-- A fault in force with so many further cycles left, if it has an end, and alone on the sensor, as
it was given to the rig `struck`. -/
structure InForce (b : Bench) (fault : SensorFault) (left : Option Nat) (struck : Rig) : Prop where
  active_eq : ∃ a, b.injector.active = some a ∧ a.fault = fault ∧
    a.remainingCycles.map UInt32.toNat = left
  disturbance_eq : b.rig.disturbance = struck.disturbanceOf fault

/-- A fault in force goes: the sensor loses it, it is counted once, and no other begins. -/
structure Expires (b b' : Bench) : Prop where
  active_eq : b'.injector.active = none
  rig_eq : b'.rig = b.rig.clearFaults
  /-- Reads succeed again, with nothing added and nothing in place of what is measured. -/
  disturbance_eq : b'.rig.disturbance = ⟨false, 0, 0, none⟩
  kept_eq : b'.rig = { b.rig with disturbance := b'.rig.disturbance }
  stats_eq : b'.injector.stats =
    { b.injector.stats with expired := b.injector.stats.expired + 1 }

lemma Begun.inForce (h : Begun b b' fault duration) :
    b'.InForce fault (duration.map fun d => max d.toNat 1 - 1) b.rig := by
  obtain ⟨cycle, hactive⟩ := h.active_eq
  refine ⟨⟨_, hactive, rfl, ?_⟩, by rw [h.rig_eq]; rfl⟩
  rw [Option.map_map]
  congr 1
  funext d
  show (if d = 0 then (0 : UInt32) else d - 1).toNat = _
  split
  · next hd =>
    subst hd
    rfl
  · next hd =>
    rw [toNat_sub_one hd]
    omega

/-- Whether an event opens a control cycle. -/
def Event.opensCycle : Event → Bool
  | .update => true
  | _ => false

lemma eq_update_of_opensCycle (h : e.opensCycle) : e = .update := by
  cases e with
  | update => rfl
  | _ => exact nomatch h

lemma InForce.pendingFailures_eq (h : b.InForce fault left struck) :
    b.rig.disturbance.pendingFailures = 0 := by
  rw [h.disturbance_eq]
  exact (struck.shows_disturbanceOf fault).pendingFailures_eq

/-- Between the cycles nothing but a hand on the injector touches a fault in force. -/
lemma InForce.handle (h : b.InForce fault left struck) (hhand : e.interferes = false)
    (hopens : ¬ e.opensCycle) :
    (b.handle e).InForce fault left struck ∧ (b.handle e).injector.stats = b.injector.stats := by
  cases e with
  | update => exact absurd rfl hopens
  | inject fault duration => exact nomatch hhand
  | clear => exact nomatch hhand
  | setEnabled enabled => exact ⟨⟨h.active_eq, h.disturbance_eq⟩, rfl⟩
  | use u =>
    exact ⟨⟨h.active_eq, (Rig.disturbance_use h.pendingFailures_eq u).trans h.disturbance_eq⟩, rfl⟩

/-- The opening of a cycle takes one from what is left. -/
lemma InForce.opens (h : b.InForce fault left struck) (hopens : Opens b b')
    (hleft : left ≠ some 0) :
    b'.InForce fault (left.map (· - 1)) struck ∧ b'.injector.stats = b.injector.stats := by
  obtain ⟨⟨a, hactive, rfl, rfl⟩, hdisturbance⟩ := h
  cases hopens with
  | expires hactive' hdone =>
    obtain rfl := Option.some.inj (hactive.symm.trans hactive')
    exact absurd (by rw [hdone]; rfl) hleft
  | @ages _ n _ hactive' hn hne haged hstats =>
    obtain rfl := Option.some.inj (hactive.symm.trans hactive')
    refine ⟨⟨⟨_, haged, rfl, ?_⟩, hdisturbance⟩, hstats⟩
    rw [hn]
    exact congrArg some (toNat_sub_one hne)
  | lasts hactive' hforever hsame hstats =>
    obtain rfl := Option.some.inj (hactive.symm.trans hactive')
    exact ⟨⟨⟨_, hsame, rfl, by rw [hforever]; rfl⟩, hdisturbance⟩, hstats⟩
  | begins hidle => exact nomatch hidle.symm.trans hactive
  | passes hidle => exact nomatch hidle.symm.trans hactive

/-- With nothing left, the fault goes. -/
lemma InForce.expires (h : b.InForce fault (some 0) struck) (hopens : Opens b b') :
    Expires b b' := by
  obtain ⟨⟨a, hactive, -, hleft⟩, -⟩ := h
  cases hopens with
  | expires hactive' hdone hnone hstats => exact ⟨hnone, rfl, rfl, rfl, hstats⟩
  | ages hactive' hn hne =>
    obtain rfl := Option.some.inj (hactive.symm.trans hactive')
    rw [hn] at hleft
    have hzero := Option.some.inj hleft
    exact absurd (UInt32.toNat_inj.mp hzero) hne
  | lasts hactive' hforever =>
    obtain rfl := Option.some.inj (hactive.symm.trans hactive')
    rw [hforever] at hleft
    exact nomatch hleft
  | begins hidle => exact nomatch hidle.symm.trans hactive
  | passes hidle => exact nomatch hidle.symm.trans hactive

/-! ## Runs -/

/-- How many cycles open in a run. -/
def openings (es : List Event) : Nat :=
  es.countP Event.opensCycle

lemma openings_concat (es : List Event) (e : Event) :
    openings (es ++ [e]) = openings es + if e.opensCycle then 1 else 0 := by
  rw [openings, List.countP_append, List.countP_singleton]
  rfl

/-- Until as many cycles have opened as were asked for, a fault left alone is in force. -/
theorem inForce_run (hbegins : b.begins? e = some (fault, duration))
    (hes : ∀ e' ∈ es, e'.interferes = false)
    (hshort : ∀ d ∈ duration, openings es < max d.toNat 1) :
    ((b.handle e).run es).InForce fault
        (duration.map fun d => max d.toNat 1 - 1 - openings es) b.rig ∧
      ((b.handle e).run es).injector.stats = (b.handle e).injector.stats := by
  induction es using List.reverseRecOn with
  | nil => exact ⟨(begins_handle hbegins).inForce, rfl⟩
  | append_singleton es e' ih =>
    rw [openings_concat] at hshort
    have hlast := hes e' (List.mem_append_right _ (List.mem_singleton_self e'))
    obtain ⟨hforce, hstats⟩ := ih (fun x hx => hes x (List.mem_append_left _ hx))
      (fun d hd => lt_of_le_of_lt (Nat.le_add_right _ _) (hshort d hd))
    rw [run_concat, openings_concat]
    by_cases hopens : e'.opensCycle
    · obtain rfl := eq_update_of_opensCycle hopens
      rw [if_pos hopens] at hshort ⊢
      have hnext := hforce.opens (Bench.opens_update _) (by
        cases duration with
        | none => exact nofun
        | some d =>
          have hd := hshort d rfl
          intro hnone
          have hzero : max d.toNat 1 - 1 - openings es = 0 := Option.some.inj hnone
          omega)
      refine ⟨?_, hnext.2.trans hstats⟩
      have hleft := hnext.1
      rw [Option.map_map] at hleft
      exact hleft
    · rw [if_neg hopens]
      obtain ⟨hsame, hstats'⟩ := hforce.handle hlast hopens
      exact ⟨hsame, hstats'.trans hstats⟩

/-! ## Durations drawn at random -/

/-- A duration lies between the shortest, or one cycle, and the longest, which is left out unless
there is no room for another. -/
lemma duration_mem (c : InjectionSettings) (word : UInt32) :
    max 1 c.minDurationCycles.toNat ≤ (c.duration word).toNat ∧
      (c.minDurationCycles.toNat + 1 < c.maxDurationCycles.toNat →
        (c.duration word).toNat < c.maxDurationCycles.toNat) := by
  have htoNat_max (n : UInt32) : (max n 1).toNat = max n.toNat 1 := by
    show (if n ≤ 1 then (1 : UInt32) else n).toNat = _
    split
    · next h =>
      rw [UInt32.le_iff_toNat_le, UInt32.toNat_one] at h
      rw [UInt32.toNat_one]
      omega
    · next h =>
      rw [UInt32.le_iff_toNat_le, UInt32.toNat_one] at h
      omega
  unfold InjectionSettings.duration InjectionSettings.durationVaries
  simp only [decide_eq_true_eq]
  split
  · next hvaries =>
    have hle := UInt32.le_of_lt hvaries
    rw [UInt32.lt_iff_toNat_lt] at hvaries
    have hmax := c.maxDurationCycles.toNat_lt
    have hspan := UInt32.toNat_sub_of_le _ _ hle
    have hmod := Nat.mod_lt word.toNat
      (show 0 < (c.maxDurationCycles - c.minDurationCycles).toNat by omega)
    rw [htoNat_max, UInt32.toNat_add, UInt32.toNat_mod]
    omega
  · next hfixed =>
    rw [UInt32.lt_iff_toNat_lt] at hfixed
    rw [htoNat_max]
    omega

/-! ## Faults last as long as asked -/

/-- A fault that begins, asked for or drawn, and is neither cleared nor replaced, is in force in
exactly as many control cycles as asked for, at least one, that in which it begins included; the
opening of the next one takes it. Without a duration it stays. A duration drawn at random keeps to
the settings. -/
theorem lasts_as_asked (hbegins : b.begins? e = some (fault, duration))
    (hes : ∀ e' ∈ es, e'.interferes = false) :
    let begun := b.handle e
    let now := begun.run es
    ((∀ d ∈ duration, openings es < max d.toNat 1) →
        now.InForce fault (duration.map fun d => max d.toNat 1 - 1 - openings es) b.rig ∧
          now.injector.stats = begun.injector.stats) ∧
      (∀ d ∈ duration, openings es + 1 = max d.toNat 1 → Expires now (now.handle .update)) ∧
      (e = .update → ∃ d, duration = some d ∧
        max 1 b.injector.settings.minDurationCycles.toNat ≤ d.toNat ∧
        (b.injector.settings.minDurationCycles.toNat + 1 <
            b.injector.settings.maxDurationCycles.toNat →
          d.toNat < b.injector.settings.maxDurationCycles.toNat)) := by
  intro begun now
  refine ⟨inForce_run hbegins hes, fun d hd hlast => ?_, ?_⟩
  · obtain rfl := Option.mem_def.mp hd
    obtain ⟨hforce, -⟩ := inForce_run hbegins hes
      (fun d' hd' => by obtain rfl := Option.some.inj hd'; omega)
    have hleft : max d.toNat 1 - 1 - openings es = 0 := by omega
    rw [Option.map_some, hleft] at hforce
    exact hforce.expires (Bench.opens_update _)
  · rintro rfl
    obtain ⟨⟨fault', d⟩, hdrawn, hx⟩ := Option.map_eq_some_iff.mp hbegins
    obtain ⟨rfl, rfl⟩ := Prod.mk.inj hx
    obtain ⟨-, byte, word, -, -, rfl⟩ := drawn?_eq_some hdrawn
    exact ⟨_, rfl, duration_mem _ word⟩

/-- A dropout for three cycles, through which the sensor is read and random faults are enabled, goes
with the third opening. Then an update draws a fault of 42 cycles, which has 41 to go. -/
theorem dropout_for_three_cycles :
    let b : Bench := ⟨{ settings := { ratePercent := 100 } }, .scripted 3⟩
    let e : Event := .inject .dropout (some 3)
    let es : List Event := [.use .read, .update, .setEnabled true, .update]
    let now := (b.handle e).run es
    let after := now.handle .update
    b.begins? e = some (.dropout, some 3) ∧ (∀ e' ∈ es, e'.interferes = false) ∧
      now.InForce .dropout (some 0) b.rig ∧ Expires now after ∧
      after.begins? .update = some (.dropout, some 42) ∧
      (after.handle .update).InForce .dropout (some 41) after.rig := by
  intro b e es now after
  have hbegins : b.begins? e = some (.dropout, some 3) := rfl
  have hes : ∀ e' ∈ es, e'.interferes = false := by decide
  obtain ⟨hforce, hexpires, -⟩ := lasts_as_asked hbegins hes
  have hdrawn : after.begins? .update = some (.dropout, some 42) := by decide +kernel
  have hnone : ∀ e' ∈ ([] : List Event), e'.interferes = false := nofun
  obtain ⟨hagain, -⟩ := lasts_as_asked hdrawn hnone
  have hshort : ∀ d ∈ some (3 : UInt32), openings es < max d.toNat 1 := by
    rintro _ ⟨⟩
    decide
  have hlong : ∀ d ∈ some (42 : UInt32), openings [] < max d.toNat 1 := by
    rintro _ ⟨⟩
    decide
  exact ⟨hbegins, hes, (hforce hshort).1, hexpires 3 rfl rfl, hdrawn, (hagain hlong).1⟩

end Bench
end Injector
end FrontZone
