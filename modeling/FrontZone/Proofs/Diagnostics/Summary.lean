import FrontZone.Proofs.Diagnostics
import FrontZone.Proofs.History
/-!
# The store as a summary

The event store is told one report after the other and cleared now and then; `summarizes_run` reads
all of it off what it was told. The table lists the first codes reported since the last clear, each
with what its reports come to, the history ends with the newest report, and both counts that a clear
leaves alone go by everything that was ever reported. A table that is full stays as it is, so
whether a code is listed depends on the order of first appearance alone.
-/

namespace FrontZone

namespace EventStore

/-! ## Operations -/

/-- What a store is asked to do. -/
inductive Operation where
  | record (code : Dtc) (status : EventStatus)
  | clear

/-- What an operation reports, if anything. -/
def Operation.report? : Operation → Option (Dtc × EventStatus)
  | .record code status => some (code, status)
  | .clear => none

/-- Whether an operation is a report. -/
def Operation.isReport (op : Operation) : Bool := op.report?.isSome

/-- The store after an operation. -/
def operate (s : EventStore) : Operation → EventStore
  | .record code status => s.record code status
  | .clear => s.clear

/-- The store after operations in order. -/
def run (s : EventStore) (ops : List Operation) : EventStore :=
  ops.foldl operate s

/-- What operations report, in order. -/
def reportsIn (ops : List Operation) : List (Dtc × EventStatus) :=
  ops.filterMap Operation.report?

/-- The reports since the last clear. -/
def sinceClear (ops : List Operation) : List (Dtc × EventStatus) :=
  reportsIn (ops.rtakeWhile Operation.isReport)

/-- How many reports there were up to the last clear. -/
def beforeClear (ops : List Operation) : Nat :=
  (reportsIn (ops.rdropWhile Operation.isReport)).length

variable {ops : List Operation} {code : Dtc} {status : EventStatus}

lemma run_concat (s : EventStore) (ops : List Operation) (op : Operation) :
    s.run (ops ++ [op]) = (s.run ops).operate op :=
  List.foldl_concat ..

lemma isReport_record : (Operation.record code status).isReport = true := rfl

lemma not_isReport_clear : ¬ Operation.clear.isReport = true := Bool.false_ne_true

lemma reportsIn_append (ops later : List Operation) :
    reportsIn (ops ++ later) = reportsIn ops ++ reportsIn later :=
  List.filterMap_append

lemma sinceClear_record :
    sinceClear (ops ++ [.record code status]) = sinceClear ops ++ [(code, status)] := by
  rw [sinceClear, List.rtakeWhile_concat, if_pos isReport_record, reportsIn_append]
  rfl

lemma sinceClear_clear : sinceClear (ops ++ [.clear]) = [] := by
  rw [sinceClear, List.rtakeWhile_concat, if_neg not_isReport_clear]
  rfl

lemma beforeClear_record : beforeClear (ops ++ [.record code status]) = beforeClear ops := by
  rw [beforeClear, List.rdropWhile_concat, if_pos isReport_record, beforeClear]

/-- A clear leaves behind it whatever was reported before. -/
lemma beforeClear_clear :
    beforeClear (ops ++ [.clear]) = beforeClear ops + (sinceClear ops).length := by
  have hsplit : ops.rdropWhile Operation.isReport ++ ops.rtakeWhile Operation.isReport = ops :=
    List.rdropWhile_append_rtakeWhile ..
  have hclear : reportsIn [.clear] = [] := rfl
  rw [beforeClear, List.rdropWhile_concat, if_neg not_isReport_clear, beforeClear, sinceClear,
    ← List.length_append, ← reportsIn_append, hsplit, reportsIn_append, hclear, List.append_nil]

/-! ## What reports come to -/

/-- The failures that did not directly follow another failure. -/
def onsets (outcomes : List EventStatus) : Nat :=
  (withPast outcomes).countP fun o => o.2 = .failed ∧ o.1.getLast? ≠ some .failed

/-- What the reports of a code come to. -/
def summary (events : List (Dtc × EventStatus)) (code : Dtc) : DtcEntry where
  code
  testFailed := (outcomesOf code events).getLast? = some .failed
  confirmed := .failed ∈ outcomesOf code events
  occurrences := UInt16.ofNat (min 65535 (onsets (outcomesOf code events)))

/-- The codes reported, each where it first appears. -/
def codesIn (events : List (Dtc × EventStatus)) : List Dtc :=
  (events.map (·.1)).eraseDups

/-- The codes for which the table has room: the first ones reported. -/
def listed (events : List (Dtc × EventStatus)) : List Dtc :=
  (codesIn events).take maxEventEntries

/-- Reports with their numbers, counted on from `start`. -/
def numbered (start : Nat) (events : List (Dtc × EventStatus)) : List EventRecord :=
  events.mapIdx fun i e => ⟨UInt32.ofNat (start + i), e.1, e.2⟩

/-- Whether an operation reports a code that is not listed, while the table is full. -/
def FindsNoRoom (past : List Operation) (op : Operation) : Prop :=
  ∃ e ∈ op.report?, e.1 ∉ listed (sinceClear past) ∧
    (listed (sinceClear past)).length = maxEventEntries

instance (past : List Operation) (op : Operation) : Decidable (FindsNoRoom past op) :=
  inferInstanceAs (Decidable (∃ e ∈ op.report?, _))

/-- How many reports have found no room, whatever was cleared since. -/
def unplaced (ops : List Operation) : Nat :=
  (withPast ops).countP fun o => FindsNoRoom o.1 o.2

/-! ## One more report -/

lemma onsets_concat (outcomes : List EventStatus) (status : EventStatus) :
    onsets (outcomes ++ [status]) =
      if status = .failed ∧ outcomes.getLast? ≠ some .failed then onsets outcomes + 1
      else onsets outcomes := by
  rw [onsets, withPast_concat, List.countP_append, List.countP_singleton, onsets]
  split <;> simp_all

lemma countUp16_ofNat (n : Nat) :
    countUp16 (UInt16.ofNat (min 65535 n)) = UInt16.ofNat (min 65535 (n + 1)) := by
  have hlt (m : Nat) : min 65535 m < UInt16.size := Nat.lt_succ_of_le (Nat.min_le_left ..)
  apply UInt16.toNat_inj.mp
  rw [toNat_countUp16, UInt16.toNat_ofNat_of_lt' (hlt n), UInt16.toNat_ofNat_of_lt' (hlt (n + 1))]
  omega

lemma outcomesOf_concat (events : List (Dtc × EventStatus)) (code other : Dtc)
    (status : EventStatus) :
    outcomesOf other (events ++ [(code, status)]) =
      if other = code then outcomesOf other events ++ [status] else outcomesOf other events := by
  rw [outcomesOf_append, outcomesOf_cons]
  by_cases h : other = code
  · rw [if_pos h.symm, if_pos h]
    rfl
  · rw [if_neg (Ne.symm h), if_neg h]
    exact List.append_nil _

/-- What the reports of a code come to is brought up to date by its next report. -/
lemma summary_concat (events : List (Dtc × EventStatus)) (code other : Dtc)
    (status : EventStatus) :
    summary (events ++ [(code, status)]) other =
      if other = code then (summary events other).update status else summary events other := by
  unfold summary
  rw [outcomesOf_concat]
  by_cases h : other = code
  · rw [if_pos h, if_pos h, onsets_concat]
    unfold DtcEntry.update
    congr 1
    · simp
    · simp [eq_comm]
    · rw [countUp16_ofNat]
      cases status with
      | passed => rfl
      | failed =>
        by_cases hlast : (outcomesOf other events).getLast? = some .failed <;> simp [hlast]
  · rw [if_neg h, if_neg h]

/-- A code that was not reported so far is summed up by the entry of its first report. -/
lemma summary_of_new {events : List (Dtc × EventStatus)} (h : code ∉ codesIn events) :
    summary (events ++ [(code, status)]) code = DtcEntry.first code status := by
  have hnone : outcomesOf code events = [] := by
    refine outcomesOf_eq_nil fun e he hcode => h ?_
    exact List.mem_eraseDups.mpr (hcode ▸ List.mem_map_of_mem he)
  rw [summary_concat, if_pos rfl, summary, hnone]
  cases status <;> rfl

lemma codesIn_concat (events : List (Dtc × EventStatus)) (code : Dtc) (status : EventStatus) :
    codesIn (events ++ [(code, status)]) =
      if code ∈ codesIn events then codesIn events else codesIn events ++ [code] := by
  unfold codesIn
  rw [List.map_append, List.map_singleton, List.eraseDups_append, List.removeAll]
  by_cases h : code ∈ events.map (·.1)
  · rw [if_pos (List.mem_eraseDups.mpr h)]
    simp [h]
  · rw [if_neg fun hmem => h (List.mem_eraseDups.mp hmem)]
    simp [h, List.eraseDups_cons]

lemma length_listed_le (events : List (Dtc × EventStatus)) :
    (listed events).length ≤ maxEventEntries :=
  List.length_take_le ..

/-- While the table has room, every code reported is in it. -/
lemma listed_of_room {events : List (Dtc × EventStatus)}
    (h : (listed events).length < maxEventEntries) : listed events = codesIn events := by
  rw [listed, List.length_take] at h
  exact List.take_of_length_le (by omega)

/-- A report of a code adds it to the table if it is not yet there and there is room. -/
lemma listed_concat (events : List (Dtc × EventStatus)) (code : Dtc) (status : EventStatus) :
    listed (events ++ [(code, status)]) =
      if code ∉ listed events ∧ (listed events).length < maxEventEntries then
        listed events ++ [code]
      else listed events := by
  by_cases hroom : (listed events).length < maxEventEntries
  · have hall := listed_of_room hroom
    rw [hall] at hroom ⊢
    rw [listed, codesIn_concat]
    by_cases hmem : code ∈ codesIn events
    · rw [if_pos hmem, if_neg fun h => h.1 hmem]
      exact hall
    · rw [if_neg hmem, if_pos ⟨hmem, hroom⟩]
      exact List.take_of_length_le (by rwa [List.length_append])
  · -- a table that is full has the first codes already, whatever comes after them
    have hfull : maxEventEntries ≤ (codesIn events).length := by
      rw [listed, List.length_take] at hroom
      omega
    rw [if_neg fun h => hroom h.2, listed, codesIn_concat]
    split
    · rfl
    · exact List.take_append_of_le_length hfull

lemma numbered_concat (start : Nat) (events : List (Dtc × EventStatus)) (code : Dtc)
    (status : EventStatus) :
    numbered start (events ++ [(code, status)]) =
      numbered start events ++ [⟨UInt32.ofNat (start + events.length), code, status⟩] :=
  List.mapIdx_concat

lemma unplaced_concat (ops : List Operation) (op : Operation) :
    unplaced (ops ++ [op]) = if FindsNoRoom ops op then unplaced ops + 1 else unplaced ops := by
  rw [unplaced, withPast_concat, List.countP_append, List.countP_singleton, unplaced]
  split <;> simp_all

/-! ## The store -/

/-- What a store holds after operations on an empty one. -/
structure Summarizes (ops : List Operation) (s : EventStore) : Prop where
  entries_eq : s.entries = (listed (sinceClear ops)).map (summary (sinceClear ops))
  history_eq : s.history =
    lastN maxEventHistory (numbered (beforeClear ops) (sinceClear ops))
  nextSequence_eq : s.nextSequence = UInt32.ofNat (beforeClear ops + (sinceClear ops).length)
  droppedCodes_eq : s.droppedCodes.toNat = min 4294967295 (unplaced ops)

lemma summarizes_empty : Summarizes [] {} :=
  ⟨rfl, rfl, rfl, rfl⟩

variable {s : EventStore}

lemma summarizes_clear (h : Summarizes ops s) : Summarizes (ops ++ [.clear]) s.clear := by
  have hroom : ¬ FindsNoRoom ops .clear := by
    rintro ⟨e, he, -⟩
    exact nomatch he
  constructor
  · rw [sinceClear_clear]
    rfl
  · rw [sinceClear_clear]
    rfl
  · rw [sinceClear_clear, beforeClear_clear]
    exact h.nextSequence_eq
  · rw [unplaced_concat, if_neg hroom]
    exact h.droppedCodes_eq

/-- A store has an entry for each code that is listed, and for no other. -/
lemma Summarizes.codes_eq (h : Summarizes ops s) :
    s.entries.map (·.code) = listed (sinceClear ops) := by
  rw [h.entries_eq, List.map_map]
  exact List.map_id _

lemma Summarizes.length_entries (h : Summarizes ops s) :
    s.entries.length = (listed (sinceClear ops)).length := by
  rw [h.entries_eq, List.length_map]

lemma Summarizes.entry_isSome_iff (h : Summarizes ops s) :
    (s.entry? code).isSome ↔ code ∈ listed (sinceClear ops) := by
  rw [← h.codes_eq, Option.isSome_iff_ne_none, Ne, entry_eq_none_iff, not_not]

/-- Summaries of codes of which nothing is reported stay as they are. -/
lemma map_summary_of_not_mem {events : List (Dtc × EventStatus)} {codes : List Dtc}
    (h : code ∉ codes) :
    codes.map (summary (events ++ [(code, status)])) = codes.map (summary events) := by
  refine List.map_congr_left fun other hother => ?_
  rw [summary_concat, if_neg]
  rintro rfl
  exact h hother

/-- A report brings the table up to date. -/
lemma Summarizes.entries_record (h : Summarizes ops s) (code : Dtc) (status : EventStatus) :
    (s.record code status).entries =
      (listed (sinceClear ops ++ [(code, status)])).map
        (summary (sinceClear ops ++ [(code, status)])) := by
  show (s.updateEntries code status).entries = _
  unfold updateEntries
  rw [listed_concat, ← h.length_entries]
  by_cases hmem : code ∈ listed (sinceClear ops)
  · -- every entry is brought up to date, which changes that of the code reported only
    rw [if_pos (h.entry_isSome_iff.mpr hmem), if_neg fun hnew => hnew.1 hmem, h.entries_eq,
      List.map_map]
    refine List.map_congr_left fun other _ => ?_
    rw [summary_concat]
    rfl
  rw [if_neg (h.entry_isSome_iff.not.mpr hmem)]
  by_cases hroom : s.entries.length < maxEventEntries
  · -- with room left, a code that is not listed was not reported at all
    have hnew : code ∉ codesIn (sinceClear ops) := listed_of_room (h.length_entries ▸ hroom) ▸ hmem
    rw [if_pos hroom, if_pos ⟨hmem, hroom⟩, List.map_append, map_summary_of_not_mem hmem,
      List.map_singleton, summary_of_new hnew, h.entries_eq]
  · rw [if_neg hroom, if_neg fun hnew => hroom hnew.2, map_summary_of_not_mem hmem, h.entries_eq]

/-- A report is counted as dropped exactly if it finds no room. -/
lemma Summarizes.droppedCodes_record (h : Summarizes ops s) (code : Dtc) (status : EventStatus) :
    (s.record code status).droppedCodes.toNat =
      min 4294967295 (unplaced (ops ++ [.record code status])) := by
  show (s.updateEntries code status).droppedCodes.toNat = _
  have hle := length_listed_le (sinceClear ops)
  have hiff : FindsNoRoom ops (.record code status) ↔
      ¬ (s.entry? code).isSome ∧ ¬ s.entries.length < maxEventEntries := by
    rw [h.entry_isSome_iff, h.length_entries]
    unfold FindsNoRoom Operation.report?
    simp only [Option.mem_some_iff, exists_eq_left']
    exact and_congr_right fun _ => by omega
  rw [unplaced_concat]
  unfold updateEntries
  split
  · next hknown =>
    rw [if_neg fun hno => (hiff.mp hno).1 hknown]
    exact h.droppedCodes_eq
  split
  · next hroom =>
    rw [if_neg fun hno => (hiff.mp hno).2 hroom]
    exact h.droppedCodes_eq
  · next hknown hroom =>
    rw [if_pos (hiff.mpr ⟨hknown, hroom⟩), toNat_countUp32, h.droppedCodes_eq]
    omega

/-- The table has no part in the history. -/
lemma updateEntries_history (s : EventStore) (code : Dtc) (status : EventStatus) :
    (s.updateEntries code status).history = s.history ∧
      (s.updateEntries code status).nextSequence = s.nextSequence := by
  unfold updateEntries
  split
  · exact ⟨rfl, rfl⟩
  split <;> exact ⟨rfl, rfl⟩

lemma summarizes_record (h : Summarizes ops s) (code : Dtc) (status : EventStatus) :
    Summarizes (ops ++ [.record code status]) (s.record code status) := by
  obtain ⟨hhistory, hnumber⟩ := s.updateEntries_history code status
  constructor
  · rw [sinceClear_record]
    exact h.entries_record code status
  · rw [sinceClear_record, beforeClear_record, numbered_concat, ← pushRecent_lastN, ← h.history_eq,
      ← h.nextSequence_eq, ← hhistory, ← hnumber]
    rfl
  · show (s.updateEntries code status).nextSequence + 1 = _
    rw [sinceClear_record, beforeClear_record, hnumber, h.nextSequence_eq, List.length_append,
      ← Nat.add_assoc]
    exact (UInt32.ofNat_add _ 1).symm
  · exact h.droppedCodes_record code status

/-- Every operation is taken into account. -/
theorem summarizes_run (ops : List Operation) : Summarizes ops (run {} ops) := by
  -- what counts is what comes after the last clear, so the newest operation is split off
  induction ops using List.reverseRecOn with
  | nil => exact summarizes_empty
  | append_singleton ops op ih =>
    rw [run_concat]
    cases op with
    | record code status => exact summarizes_record ih code status
    | clear => exact summarizes_clear ih

/-- The codes that are active are those listed whose last report was a failure. -/
lemma Summarizes.activeCodes_eq (h : Summarizes ops s) :
    s.activeCodes =
      (listed (sinceClear ops)).filter fun code =>
        (outcomesOf code (sinceClear ops)).getLast? = some .failed := by
  rw [activeCodes, h.entries_eq, List.filter_map, List.map_map]
  exact List.map_id _

/-- After any reports and clears a store holds the first codes reported since the last clear, each
with what its reports come to, and those of them are active whose last report was a failure. Its
history is the newest of these reports, listed or not, numbered on from the reports before the
clear, and it has counted every report that found no room. -/
theorem store_sums_up (ops : List Operation) :
    let s := run {} ops
    let events := sinceClear ops
    s.entries = (listed events).map (summary events) ∧
      (s.activeCodes =
        (listed events).filter fun code => (outcomesOf code events).getLast? = some .failed) ∧
      s.history = lastN maxEventHistory (numbered (beforeClear ops) events) ∧
      s.droppedCodes.toNat = min 4294967295 (unplaced ops) := by
  have h := summarizes_run ops
  exact ⟨h.entries_eq, h.activeCodes_eq, h.history_eq, h.droppedCodes_eq⟩

end EventStore
end FrontZone
