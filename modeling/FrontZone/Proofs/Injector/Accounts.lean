import FrontZone.Proofs.Injector
/-!
# Accounts of an injector

The counters of an injector are words, and the history of its bench is a list. As long as fewer
faults have begun than a word can count, the two agree: every fault that began was of one kind, and
it has expired, been cleared, been replaced, or is in force (`accounts_run`).
-/

namespace FrontZone

/-! ## Weights -/

namespace InjectionSettings

/-- The weight of a kind of fault. -/
def weight (c : InjectionSettings) : SensorFault → UInt8
  | .dropout => c.dropoutWeight
  | .offset _ => c.offsetWeight
  | .stuck => c.stuckWeight

/-- A kind without weight is not picked, by whatever byte. -/
lemma weight_pick_ne_zero {c : InjectionSettings} (h : c.hasWeight) (byte : UInt8) :
    c.weight (c.pick byte) ≠ 0 := by
  have htotal : c.totalWeight ≠ 0 := of_decide_eq_true h
  have hpoint : byte.toNat * c.totalWeight / 256 < c.totalWeight := by
    rw [Nat.div_lt_iff_lt_mul (by decide), Nat.mul_comm]
    exact Nat.mul_lt_mul_of_pos_left byte.toNat_lt (Nat.pos_of_ne_zero htotal)
  rw [ne_eq, ← UInt8.toNat_inj, UInt8.toNat_zero]
  unfold pick
  generalize byte.toNat * c.totalWeight / 256 = point at hpoint
  unfold totalWeight at hpoint
  dsimp only
  split
  · show c.dropoutWeight.toNat ≠ 0
    omega
  · split
    · show c.offsetWeight.toNat ≠ 0
      omega
    · show c.stuckWeight.toNat ≠ 0
      omega

end InjectionSettings

/-- One more, where there is room for it. -/
lemma toNat_add_one_of_lt {n : UInt32} (h : n.toNat + 1 < 2 ^ 32) :
    (n + 1).toNat = n.toNat + 1 := by
  rw [UInt32.toNat_add, UInt32.toNat_one, Nat.mod_eq_of_lt h]

namespace InjectionStats

variable (s : InjectionStats) (fault : SensorFault)

lemma totalInjected_count : (s.count fault).totalInjected = s.totalInjected + 1 := by
  cases fault <;> rfl

lemma expired_count : (s.count fault).expired = s.expired := by
  cases fault <;> rfl

lemma manualCleared_count : (s.count fault).manualCleared = s.manualCleared := by
  cases fault <;> rfl

variable {s}

/-- The kinds together count every fault, whatever its kind. -/
lemma toNat_kinds_count (h : s.dropouts.toNat + s.offsets.toNat + s.stuck.toNat + 1 < 2 ^ 32) :
    (s.count fault).dropouts.toNat + (s.count fault).offsets.toNat + (s.count fault).stuck.toNat =
      s.dropouts.toNat + s.offsets.toNat + s.stuck.toNat + 1 := by
  cases fault with
  | dropout =>
    have hcount := toNat_add_one_of_lt (n := s.dropouts) (by omega)
    show (s.dropouts + 1).toNat + s.offsets.toNat + s.stuck.toNat = _
    omega
  | offset deg =>
    have hcount := toNat_add_one_of_lt (n := s.offsets) (by omega)
    show s.dropouts.toNat + (s.offsets + 1).toNat + s.stuck.toNat = _
    omega
  | stuck =>
    have hcount := toNat_add_one_of_lt (n := s.stuck) (by omega)
    show s.dropouts.toNat + s.offsets.toNat + (s.stuck + 1).toNat = _
    omega

end InjectionStats

namespace Injector
namespace Bench

variable {b b' : Bench} {e : Event} {es : List Event} {fault : SensorFault}
  {duration : Option UInt32} {injected replaced : Nat}

/-! ## History -/

/-- How many events of a run are such as `p` says, on the bench that they find. -/
def tally (b : Bench) (p : Bench → Event → Bool) (es : List Event) : Nat :=
  (withPast es).countP fun x => p (b.run x.1) x.2

/-- Whether an event begins a fault. -/
def begins (b : Bench) (e : Event) : Bool :=
  (b.begins? e).isSome

/-- Whether an event begins a fault while another one is in force. -/
def replaces (b : Bench) (e : Event) : Bool :=
  b.begins e && b.injector.active.isSome

lemma tally_concat (b : Bench) (p : Bench → Event → Bool) (es : List Event) (e : Event) :
    b.tally p (es ++ [e]) = b.tally p es + if p (b.run es) e then 1 else 0 := by
  rw [tally, withPast_concat, List.countP_append, List.countP_singleton]
  rfl

/-! ## Counters -/

/-- The counters of an injector that has begun so many faults, so many of them in place of another.
-/
structure Accounts (b : Bench) (injected replaced : Nat) : Prop where
  total_eq : b.injector.stats.totalInjected.toNat = injected
  kinds_eq : b.injector.stats.totalInjected.toNat =
    b.injector.stats.dropouts.toNat + b.injector.stats.offsets.toNat +
      b.injector.stats.stuck.toNat
  ends_eq : b.injector.stats.totalInjected.toNat =
    b.injector.stats.expired.toNat + b.injector.stats.manualCleared.toNat + replaced +
      if b.injector.active.isSome then 1 else 0

/-- Only the counters and whether a fault is in force matter. -/
lemma Accounts.congr (h : Accounts b injected replaced)
    (hstats : b'.injector.stats = b.injector.stats)
    (hactive : b'.injector.active.isSome = b.injector.active.isSome) :
    Accounts b' injected replaced := by
  obtain ⟨htotal, hkinds, hends⟩ := h
  rw [← hstats] at htotal hkinds hends
  rw [← hactive] at hends
  exact ⟨htotal, hkinds, hends⟩

/-- A fault that begins is counted with its kind, and ends the one before it. -/
lemma Accounts.begun (h : Accounts b injected replaced) (hbegun : Begun b b' fault duration)
    (hfew : injected + 1 < 2 ^ 32) :
    Accounts b' (injected + 1) (replaced + if b.injector.active.isSome then 1 else 0) := by
  obtain ⟨htotal, hkinds, hends⟩ := h
  obtain ⟨cycle, hactive⟩ := hbegun.active_eq
  have hmore := toNat_add_one_of_lt (n := b.injector.stats.totalInjected) (by omega)
  have hmet : b'.injector.active.isSome := by rw [hactive]; rfl
  constructor
  · rw [hbegun.stats_eq, InjectionStats.totalInjected_count, hmore, htotal]
  · rw [hbegun.stats_eq, InjectionStats.totalInjected_count, hmore, hkinds,
      InjectionStats.toNat_kinds_count fault (by omega)]
  · rw [hbegun.stats_eq, InjectionStats.totalInjected_count, hmore, InjectionStats.expired_count,
      InjectionStats.manualCleared_count, if_pos hmet]
    omega

/-- A fault that goes with the opening of a cycle is counted as expired. -/
lemma Accounts.expired (h : Accounts b injected replaced) (hactive : b.injector.active.isSome)
    (hnone : b'.injector.active = none)
    (hstats : b'.injector.stats =
      { b.injector.stats with expired := b.injector.stats.expired + 1 }) :
    Accounts b' injected replaced := by
  obtain ⟨htotal, hkinds, hends⟩ := h
  have hroom := b.injector.stats.totalInjected.toNat_lt
  rw [if_pos hactive] at hends
  have hcount := toNat_add_one_of_lt (n := b.injector.stats.expired) (by omega)
  refine ⟨by rw [hstats]; exact htotal, by rw [hstats]; exact hkinds, ?_⟩
  rw [hstats, hnone]
  show b.injector.stats.totalInjected.toNat = (b.injector.stats.expired + 1).toNat +
    b.injector.stats.manualCleared.toNat + replaced + 0
  omega

/-- A clear request counts only where it ends a fault. -/
lemma Accounts.cleared (h : Accounts b injected replaced) :
    Accounts (b.handle .clear) injected replaced := by
  obtain ⟨htotal, hkinds, hends⟩ := h
  have hroom := b.injector.stats.totalInjected.toNat_lt
  have hstats : (b.handle .clear).injector.stats = if b.injector.active.isSome then
      { b.injector.stats with manualCleared := b.injector.stats.manualCleared + 1 }
      else b.injector.stats := rfl
  have hnone : (b.handle .clear).injector.active = none := rfl
  by_cases hactive : b.injector.active.isSome
  · rw [if_pos hactive] at hends hstats
    have hcount := toNat_add_one_of_lt (n := b.injector.stats.manualCleared) (by omega)
    refine ⟨by rw [hstats]; exact htotal, by rw [hstats]; exact hkinds, ?_⟩
    rw [hstats, hnone]
    show b.injector.stats.totalInjected.toNat = b.injector.stats.expired.toNat +
      (b.injector.stats.manualCleared + 1).toNat + replaced + 0
    omega
  · rw [if_neg hactive] at hstats
    have hidle : b.injector.active = none := by simpa using hactive
    exact Accounts.congr ⟨htotal, hkinds, hends⟩ hstats (by rw [hnone, hidle])

/-- An update that begins no fault keeps the accounts. -/
lemma Accounts.opens (h : Accounts b injected replaced) (hopens : Opens b b')
    (hnone : b.drawn? = none) : Accounts b' injected replaced := by
  cases hopens with
  | expires hactive hdone hgone hstats => exact h.expired (by rw [hactive]; rfl) hgone hstats
  | ages hactive hleft hn haged hstats =>
    exact h.congr hstats ((congrArg Option.isSome haged).trans (by rw [hactive]; rfl))
  | lasts hactive hforever hsame hstats =>
    exact h.congr hstats ((congrArg Option.isSome hsame).trans (by rw [hactive]))
  | begins hidle hdrawn hbegun => exact nomatch hnone.symm.trans hdrawn
  | passes hidle hdrawn hgone hstats =>
    exact h.congr hstats ((congrArg Option.isSome hgone).trans (by rw [hidle]))

/-- One event keeps the accounts. -/
lemma accounts_handle (h : Accounts b injected replaced)
    (hfew : injected + (if b.begins e then 1 else 0) < 2 ^ 32) :
    Accounts (b.handle e) (injected + if b.begins e then 1 else 0)
      (replaced + if b.replaces e then 1 else 0) := by
  unfold begins at hfew
  unfold replaces begins
  cases hbegins : b.begins? e with
  | some x =>
    rw [hbegins] at hfew
    exact h.begun (begins_handle hbegins) hfew
  | none =>
    show Accounts (b.handle e) injected replaced
    cases e with
    | update => exact h.opens b.opens_update (Option.map_eq_none_iff.mp hbegins)
    | inject fault duration => exact nomatch hbegins
    | clear => exact h.cleared
    | setEnabled enabled => exact h.congr rfl rfl
    | use u => exact h.congr rfl rfl

/-- A run keeps the accounts as long as a word can count the faults. -/
theorem accounts_run (hactive : b.injector.active = none) (hstats : b.injector.stats = {})
    (hfew : b.tally begins es < 2 ^ 32) :
    Accounts (b.run es) (b.tally begins es) (b.tally replaces es) := by
  induction es using List.reverseRecOn with
  | nil =>
    show Accounts b 0 0
    refine ⟨by rw [hstats]; rfl, by rw [hstats]; rfl, ?_⟩
    rw [hstats, hactive]
    rfl
  | append_singleton es e ih =>
    rw [tally_concat] at hfew
    rw [run_concat, tally_concat, tally_concat]
    exact accounts_handle (ih (lt_of_le_of_lt (Nat.le_add_right _ _) hfew)) hfew

/-! ## Consistency -/

/-- Injector, sensor and counters agree after every run of a fresh injector on a rig without faults,
as long as a word can count the faults that have begun; and no kind without weight is drawn. -/
theorem stays_consistent (hactive : b.injector.active = none) (hstats : b.injector.stats = {})
    (hclean : b.rig.disturbance = {}) (hfew : b.tally begins es < 2 ^ 32) :
    let now := b.run es
    let stats := now.injector.stats
    now.rig.disturbance.Shows (now.injector.active.map (·.fault)) ∧
      stats.totalInjected.toNat =
        stats.dropouts.toNat + stats.offsets.toNat + stats.stuck.toNat ∧
      stats.totalInjected.toNat =
        stats.expired.toNat + stats.manualCleared.toNat + b.tally replaces es +
          (if now.injector.active.isSome then 1 else 0) ∧
      ∀ fault d, now.drawn? = some (fault, d) → now.injector.settings.weight fault ≠ 0 := by
  intro now stats
  have hmatches : b.Matches := by
    unfold Matches
    rw [hactive]
    exact hclean
  obtain ⟨-, hkinds, hends⟩ := accounts_run hactive hstats hfew
  refine ⟨matches_run hmatches es, hkinds, hends, fun fault d hdrawn => ?_⟩
  obtain ⟨-, byte, word, hweight, rfl, -⟩ := drawn?_eq_some hdrawn
  exact InjectionSettings.weight_pick_ne_zero hweight byte

/-- An offset that a stuck sensor replaces, a clear request, one more with nothing to clear, and a
dropout of one cycle, after which random faults are enabled where only dropouts have a weight. -/
theorem replaced_cleared_and_expired :
    let b : Bench :=
      ⟨{ settings := { ratePercent := 100, offsetWeight := 0, stuckWeight := 0 } }, .scripted 3⟩
    let es : List Event :=
      [.inject (.offset 8) none, .inject .stuck (some 5), .clear, .clear, .inject .dropout (some 1),
        .use .read, .update, .setEnabled true]
    let now := b.run es
    b.injector.active = none ∧ b.injector.stats = {} ∧ b.rig.disturbance = {} ∧
      b.tally begins es < 2 ^ 32 ∧ now.rig.disturbance = {} ∧
      now.injector.stats = ⟨3, 1, 1, 1, 1, 1⟩ ∧ b.tally replaces es = 1 ∧
      ∃ d, now.drawn? = some (.dropout, d) ∧ now.injector.settings.weight .dropout ≠ 0 := by
  intro b es now
  have hfew : b.tally begins es < 2 ^ 32 := by decide +kernel
  obtain ⟨hshows, -, hends, hweight⟩ := stays_consistent rfl rfl rfl hfew
  have hstats : now.injector.stats = ⟨3, 1, 1, 1, 1, 1⟩ := by decide +kernel
  have hidle : now.injector.active = none := by decide +kernel
  have hdrawn : now.drawn? = some (.dropout, 42) := by decide +kernel
  rw [hidle] at hshows hends
  rw [hstats] at hends
  change 3 = 1 + 1 + b.tally replaces es + 0 at hends
  exact ⟨rfl, rfl, rfl, hfew, hshows, hstats, by omega, 42, hdrawn, hweight _ _ hdrawn⟩

end Bench
end Injector
end FrontZone
