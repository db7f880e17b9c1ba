import FrontZone.Diagnostics
import Mathlib.Data.List.Nodup
import Mathlib.Data.List.Perm.Subperm
/-!
# What the event store knows of one code

The store keeps one entry for each code it meets, as long as it has room. Where the codes reported
are known to be few, room is never short, and the entry of a code depends only on what was reported
of this code: `entry_recordAll` reads it off the outcomes of the code alone.

A test that reports the changes of a verdict need not report every cycle. `Announces` says which
reports go with which change, and the last section what such reports make of the entry.
-/

namespace FrontZone

/-- The entry of a code after one more report, made if there was none. -/
def DtcEntry.next (code : Dtc) (entry : Option DtcEntry) (status : EventStatus) : DtcEntry :=
  entry.elim (.first code status) (·.update status)

namespace EventStore

variable {s : EventStore} {codes : List Dtc} {code other : Dtc}

/-- How often a code has failed anew, zero if it was never reported. -/
def occurrences (s : EventStore) (code : Dtc) : Nat :=
  ((s.entry? code).map (·.occurrences.toNat)).getD 0

/-- The outcomes reported of a code, in order. -/
def outcomesOf (code : Dtc) (events : List (Dtc × EventStatus)) : List EventStatus :=
  (events.filter (·.1 = code)).map (·.2)

lemma outcomesOf_cons (code : Dtc) (e : Dtc × EventStatus) (events : List (Dtc × EventStatus)) :
    outcomesOf code (e :: events) =
      if e.1 = code then e.2 :: outcomesOf code events else outcomesOf code events := by
  unfold outcomesOf
  split
  · next h => rw [List.filter_cons_of_pos (by simpa using h), List.map_cons]
  · next h => rw [List.filter_cons_of_neg (by simpa using h)]

@[simp] lemma outcomesOf_append (code : Dtc) (events later : List (Dtc × EventStatus)) :
    outcomesOf code (events ++ later) = outcomesOf code events ++ outcomesOf code later := by
  simp [outcomesOf]

/-- Reports of other codes have nothing to say of a code. -/
lemma outcomesOf_eq_nil {events : List (Dtc × EventStatus)} (h : ∀ e ∈ events, e.1 ≠ code) :
    outcomesOf code events = [] := by
  rw [outcomesOf, List.map_eq_nil_iff, List.filter_eq_nil_iff]
  exact fun e he heq => h e he (of_decide_eq_true heq)

/-- A store whose entries are of different codes, all of them among `codes`. -/
structure Within (codes : List Dtc) (s : EventStore) : Prop where
  nodup : (s.entries.map (·.code)).Nodup
  mem : ∀ e ∈ s.entries, e.code ∈ codes

lemma within_empty (codes : List Dtc) : Within codes {} :=
  ⟨List.nodup_nil, fun _ h => nomatch h⟩

lemma within_clear (codes : List Dtc) (s : EventStore) : Within codes s.clear :=
  ⟨List.nodup_nil, fun _ h => nomatch h⟩

/-! ## Entries -/

lemma code_eq_of_entry {e : DtcEntry} (h : s.entry? code = some e) : e.code = code := by
  simpa using List.find?_some h

lemma entry_eq_find (s : EventStore) (code : Dtc) :
    s.entry? code = s.entries.find? (·.code = code) := rfl

lemma entry_eq_none_iff : s.entry? code = none ↔ code ∉ s.entries.map (·.code) := by
  simp [entry_eq_find]

/-- A store of few codes has room for each of them. -/
lemma Within.room (h : s.Within codes) (hlen : codes.length ≤ maxEventEntries) (hcode : code ∈ codes)
    (hnone : s.entry? code = none) : s.entries.length < maxEventEntries := by
  have hnodup : (code :: s.entries.map (·.code)).Nodup :=
    List.nodup_cons.mpr ⟨entry_eq_none_iff.mp hnone, h.nodup⟩
  have hsub : code :: s.entries.map (·.code) ⊆ codes := by
    intro x hx
    rcases List.mem_cons.mp hx with rfl | hx
    · exact hcode
    · obtain ⟨e, he, rfl⟩ := List.mem_map.mp hx
      exact h.mem e he
  have hle := (hnodup.subperm hsub).length_le
  rw [List.length_cons, List.length_map] at hle
  omega

/-- The entries after a report of a code that has one. -/
lemma entries_record_of_known {e : DtcEntry} (h : s.entry? code = some e) (status : EventStatus) :
    (s.record code status).entries =
      s.entries.map fun e => if e.code = code then e.update status else e := by
  show (s.updateEntries code status).entries = _
  rw [updateEntries, if_pos (by rw [h]; rfl)]

/-- The entries after the first report of a code, where there is room. -/
lemma entries_record_of_new (h : s.entry? code = none) (hroom : s.entries.length < maxEventEntries)
    (status : EventStatus) :
    (s.record code status).entries = s.entries ++ [DtcEntry.first code status] := by
  show (s.updateEntries code status).entries = _
  rw [updateEntries, if_neg (by rw [h]; exact Bool.false_ne_true), if_pos hroom]

/-- A report brings up to date the entry of its code and no other. -/
lemma entry_record (h : s.Within codes) (hlen : codes.length ≤ maxEventEntries)
    (hcode : code ∈ codes) (status : EventStatus) (other : Dtc) :
    EventStore.entry? (s.record code status) other =
      if other = code then some (DtcEntry.next code (s.entry? code) status)
      else s.entry? other := by
  cases hentry : s.entry? code with
  | some e =>
    have hkeep : ((fun e : DtcEntry => decide (e.code = other)) ∘
        fun e => if e.code = code then e.update status else e) =
          fun e => decide (e.code = other) := by
      funext e
      rw [Function.comp_apply]
      split <;> rfl
    rw [entry_eq_find, entries_record_of_known hentry, List.find?_map, hkeep]
    show (s.entry? other).map _ = _
    split
    · next hsame =>
      rw [hsame, hentry, Option.map_some, if_pos (code_eq_of_entry hentry)]
      rfl
    · next hdiff =>
      cases hother : s.entry? other with
      | none => rfl
      | some e' =>
        have hne : e'.code ≠ code := code_eq_of_entry hother ▸ hdiff
        rw [Option.map_some, if_neg hne]
  | none =>
    rw [entry_eq_find, entries_record_of_new hentry (h.room hlen hcode hentry), List.find?_append]
    show (s.entry? other).or _ = _
    split
    · next hsame =>
      rw [hsame, hentry, Option.none_or]
      exact List.find?_cons_of_pos (decide_eq_true rfl)
    · next hdiff =>
      have hnew : decide ((DtcEntry.first code status).code = other) = false :=
        decide_eq_false (Ne.symm hdiff)
      rw [List.find?_cons, hnew]
      exact Option.or_none

lemma within_record (h : s.Within codes) (hlen : codes.length ≤ maxEventEntries)
    (hcode : code ∈ codes) (status : EventStatus) : (s.record code status).Within codes := by
  cases hentry : s.entry? code with
  | some e =>
    have hcodes : (s.record code status).entries.map (·.code) = s.entries.map (·.code) := by
      rw [entries_record_of_known hentry, List.map_map]
      apply List.map_congr_left
      intro e _
      rw [Function.comp_apply]
      split <;> rfl
    refine ⟨hcodes ▸ h.nodup, fun e he => ?_⟩
    have hmem : e.code ∈ s.entries.map (·.code) := hcodes ▸ List.mem_map_of_mem he
    obtain ⟨e', he', hsame⟩ := List.mem_map.mp hmem
    exact hsame ▸ h.mem e' he'
  | none =>
    rw [entry_eq_none_iff] at hentry
    have hentries := entries_record_of_new (entry_eq_none_iff.mpr hentry)
      (h.room hlen hcode (entry_eq_none_iff.mpr hentry)) status
    constructor
    · rw [hentries, List.map_append, List.map_singleton]
      exact List.nodup_append_comm.mp (List.nodup_cons.mpr ⟨hentry, h.nodup⟩)
    · rw [hentries]
      intro e he
      rcases List.mem_append.mp he with he | he
      · exact h.mem e he
      · rw [List.mem_singleton.mp he]
        exact hcode

/-! ## Many reports -/

/-- The entry of a code after many reports depends on those of the code alone. -/
theorem entry_recordAll (h : s.Within codes) (hlen : codes.length ≤ maxEventEntries)
    {events : List (Dtc × EventStatus)} (hevents : ∀ e ∈ events, e.1 ∈ codes) :
    (s.recordAll events).Within codes ∧ ∀ code,
      EventStore.entry? (s.recordAll events) code =
        (outcomesOf code events).foldl (fun e status => some (DtcEntry.next code e status))
          (s.entry? code) := by
  induction events generalizing s with
  | nil => exact ⟨h, fun _ => rfl⟩
  | cons e events ih =>
    obtain ⟨reported, status⟩ := e
    have hreported : reported ∈ codes := hevents _ List.mem_cons_self
    obtain ⟨hwithin, hentry⟩ := ih (within_record h hlen hreported status)
      fun e he => hevents e (List.mem_cons_of_mem _ he)
    refine ⟨hwithin, fun code => ?_⟩
    show EventStore.entry? ((s.record reported status).recordAll events) code = _
    rw [hentry, entry_record h hlen hreported, outcomesOf_cons]
    by_cases hsame : reported = code
    · rw [if_pos hsame.symm, if_pos hsame, List.foldl_cons, hsame]
    · rw [if_neg (Ne.symm hsame), if_neg hsame]

/-- In a store without duplicates the active codes are those that are failed. -/
lemma mem_activeCodes_iff (h : s.Within codes) : code ∈ s.activeCodes ↔ s.isFailed code := by
  unfold activeCodes isFailed
  rw [List.mem_map]
  constructor
  · intro hactive
    obtain ⟨e, he, hcode⟩ := hactive
    obtain ⟨hmem, hfailed⟩ := List.mem_filter.mp he
    cases hentry : s.entry? code with
    | none =>
      rw [entry_eq_none_iff] at hentry
      exact absurd (hcode ▸ List.mem_map_of_mem hmem) hentry
    | some e' =>
      have hmem' : e' ∈ s.entries := List.mem_of_find?_eq_some hentry
      have hsame : e = e' :=
        List.inj_on_of_nodup_map h.nodup hmem hmem' (hcode.trans (code_eq_of_entry hentry).symm)
      exact hsame ▸ hfailed
  · intro hfailed
    obtain ⟨e, hentry, he⟩ : ∃ e, s.entry? code = some e ∧ e.testFailed := by
      simpa [Option.any_eq_true] using hfailed
    exact ⟨e, List.mem_filter.mpr ⟨List.mem_of_find?_eq_some hentry, he⟩, code_eq_of_entry hentry⟩

/-! ## Reports of a verdict -/

/-- What is to be reported of a test whose verdict of failure was `before` and is `after`: a new
failure, a recovery, or, while it goes on failing, at most the failure again. -/
def Announces (before after : Bool) (outcomes : List EventStatus) : Prop :=
  match before, after with
  | false, false => outcomes = []
  | false, true => outcomes = [.failed]
  | true, true => outcomes = [] ∨ outcomes = [.failed]
  | true, false => outcomes = [.passed]

lemma Announces.refl (verdict : Bool) : Announces verdict verdict [] := by
  cases verdict
  · rfl
  · exact Or.inl rfl

variable {before after : Bool} {events : List (Dtc × EventStatus)}

/-- An entry after a failure counts it unless it directly follows another. -/
lemma occurrences_next_failed (code : Dtc) (entry : Option DtcEntry) :
    (DtcEntry.next code entry .failed).occurrences.toNat =
      if entry.any (·.testFailed) then (entry.map (·.occurrences.toNat)).getD 0
      else min 65535 ((entry.map (·.occurrences.toNat)).getD 0 + 1) := by
  cases entry with
  | none => rfl
  | some e =>
    show (DtcEntry.update e .failed).occurrences.toNat =
      if e.testFailed then e.occurrences.toNat else min 65535 (e.occurrences.toNat + 1)
    cases hfailed : e.testFailed with
    | true => simp [DtcEntry.update, hfailed]
    | false => simp [DtcEntry.update, hfailed, toNat_countUp16]

lemma occurrences_next_passed (code : Dtc) (entry : Option DtcEntry) :
    (DtcEntry.next code entry .passed).occurrences.toNat =
      (entry.map (·.occurrences.toNat)).getD 0 := by
  cases entry <;> rfl

lemma testFailed_next (code : Dtc) (entry : Option DtcEntry) (status : EventStatus) :
    (DtcEntry.next code entry status).testFailed = decide (status = .failed) := by
  cases entry <;> rfl

/-- A verdict that is no failure is what the store has, unless it was no failure before either. -/
lemma isFailed_of_announces (h : s.Within codes) (hlen : codes.length ≤ maxEventEntries)
    (hevents : ∀ e ∈ events, e.1 ∈ codes) (ha : Announces before after (outcomesOf code events))
    (hafter : after = false) :
    (s.recordAll events).isFailed code = (!before && s.isFailed code) := by
  obtain ⟨-, hentry⟩ := entry_recordAll h hlen hevents
  subst hafter
  rw [isFailed, hentry]
  cases before with
  | false =>
    rw [show outcomesOf code events = [] from ha]
    exact (Bool.true_and _).symm
  | true =>
    rw [show outcomesOf code events = [.passed] from ha]
    exact testFailed_next ..

/-- A store that has the verdict of a test before has it after, and has counted it if it is a new
failure. -/
theorem recordAll_of_announces (h : s.Within codes) (hlen : codes.length ≤ maxEventEntries)
    (hevents : ∀ e ∈ events, e.1 ∈ codes) (ha : Announces before after (outcomesOf code events))
    (hbefore : s.isFailed code = before) :
    (s.recordAll events).isFailed code = after ∧
      (s.recordAll events).occurrences code =
        if after && !before then min 65535 (s.occurrences code + 1) else s.occurrences code := by
  obtain ⟨-, hentry⟩ := entry_recordAll h hlen hevents
  unfold isFailed at hbefore
  unfold isFailed occurrences
  rw [hentry]
  cases before <;> cases after
  case false.false =>
    rw [show outcomesOf code events = [] from ha]
    exact ⟨hbefore, rfl⟩
  case false.true =>
    rw [show outcomesOf code events = [.failed] from ha]
    refine ⟨testFailed_next .., (occurrences_next_failed ..).trans ?_⟩
    rw [hbefore]
    rfl
  case true.false =>
    rw [show outcomesOf code events = [.passed] from ha]
    exact ⟨testFailed_next .., occurrences_next_passed ..⟩
  case true.true =>
    rcases show outcomesOf code events = [] ∨ outcomesOf code events = [.failed] from ha with ha | ha
    · rw [ha]
      exact ⟨hbefore, rfl⟩
    · rw [ha]
      refine ⟨testFailed_next .., (occurrences_next_failed ..).trans ?_⟩
      rw [hbefore]
      rfl

end EventStore
end FrontZone
