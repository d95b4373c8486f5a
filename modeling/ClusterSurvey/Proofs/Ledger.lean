import ClusterSurvey.Collection.Ledger
import ClusterSurvey.Proofs.Result.Status
import Mathlib.Data.Finset.Card
import Mathlib.Data.Finset.Dedup
import Mathlib.Data.List.Nodup

/-!
# A ledger is what has been recorded

The ledger of a run depends only on the keys that the run expects and on the first record of each of
them.  `Ledger.after` adds a history of records up; recording a pending key is the next step of it,
and a record of a key that has come before changes nothing.
-/

namespace ClusterSurvey

/-- What the first record of a key makes of its status; the flag tells whether it was a failure. -/
def Status.ofRecord : Option Bool → Status
  | none => .running
  | some true => .failed
  | some false => .complete

/-- The status tells what the first record was. -/
theorem Status.ofRecord_injective : Function.Injective Status.ofRecord := by
  rintro (_ | _ | _) (_ | _ | _) h <;> first | rfl | cases h

namespace ResultKey

/-- The keys without repetitions are those of the list. -/
@[simp]
theorem mem_distinct {k : ResultKey} {keys : List ResultKey} : k ∈ distinct keys ↔ k ∈ keys := by
  induction keys with
  | nil => simp [distinct]
  | cons a ks ih =>
    by_cases h : k = a
    · simp [distinct, h]
    · simp [distinct, h, ih]

/-- None of them is named twice. -/
theorem nodup_distinct (keys : List ResultKey) : (distinct keys).Nodup := by
  induction keys with
  | nil => exact List.nodup_nil
  | cons a ks ih =>
    rw [distinct, List.nodup_cons]
    exact ⟨by simp, ih.filter _⟩

end ResultKey

namespace Ledger

variable {expected : List ResultKey} {records : List (ResultKey × Bool)}

/-- The entry of a key in the status of a run, by the records so far. -/
def entryAfter (records : List (ResultKey × Bool)) (k : ResultKey) : ResultStatus :=
  ⟨k.resultType, k.node, .ofRecord (records.lookup k)⟩

/-- The receipt of an expected key, by the records so far. -/
def receiptAfter (records : List (ResultKey × Bool)) (k : ResultKey) : Receipt :=
  if (records.lookup k).isSome then .received else .pending

/-- The ledger of a run that expects these results, after some have been recorded. -/
def after (expected : List ResultKey) (records : List (ResultKey × Bool)) : Ledger :=
  let keys := ResultKey.distinct expected
  ⟨keys.map fun k => (k, receiptAfter records k),
    (keys.filter fun k => (records.lookup k).isNone).length,
    .ofEntries (keys.map (entryAfter records))⟩

/-- The entry of a key is about it. -/
@[simp]
theorem key_entryAfter (records : List (ResultKey × Bool)) (k : ResultKey) :
    (entryAfter records k).key = k := rfl

/-- Nothing has been recorded at the start. -/
theorem after_nil (expected : List ResultKey) : after expected [] = start expected := by
  have hentry : entryAfter [] = ResultStatus.awaiting := rfl
  simp [after, start, RunStatus.start, receiptAfter, hentry]

/-- The first record of a key is not changed by later ones. -/
theorem lookup_concat (records : List (ResultKey × Bool)) (k j : ResultKey) (b : Bool) :
    (records ++ [(k, b)]).lookup j = (records.lookup j).or (if j = k then some b else none) := by
  rw [List.lookup_append, List.lookup_cons, List.lookup_nil]
  by_cases h : j = k
  · simp [h]
  · have hb : (j == k) = false := beq_eq_false_iff_ne.mpr h
    simp [h, hb]

private theorem lookup_concat_of_ne {k j : ResultKey} (b : Bool) (h : j ≠ k) :
    (records ++ [(k, b)]).lookup j = records.lookup j := by
  simp [lookup_concat, h]

private theorem lookup_concat_self {k : ResultKey} (b : Bool) (h : records.lookup k = none) :
    (records ++ [(k, b)]).lookup k = some b := by
  simp [lookup_concat, h]

/-- Histories with the same first records of the expected keys add up to the same ledger. -/
theorem after_congr {more : List (ResultKey × Bool)}
    (h : ∀ k ∈ expected, records.lookup k = more.lookup k) :
    after expected records = after expected more := by
  have hkeys : ∀ k ∈ ResultKey.distinct expected, records.lookup k = more.lookup k :=
    fun k hk => h k (ResultKey.mem_distinct.mp hk)
  have hreceipts : (ResultKey.distinct expected).map (fun k => (k, receiptAfter records k)) =
      (ResultKey.distinct expected).map fun k => (k, receiptAfter more k) :=
    List.map_congr_left fun k hk => by rw [receiptAfter, receiptAfter, hkeys k hk]
  have hpending : (ResultKey.distinct expected).filter (fun k => (records.lookup k).isNone) =
      (ResultKey.distinct expected).filter fun k => (more.lookup k).isNone :=
    List.filter_congr fun k hk => by rw [hkeys k hk]
  have hentries : (ResultKey.distinct expected).map (entryAfter records) =
      (ResultKey.distinct expected).map (entryAfter more) :=
    List.map_congr_left fun k hk => by rw [entryAfter, entryAfter, hkeys k hk]
  simp only [after, hreceipts, hpending, hentries]

/-- When every expected key has been recorded, further records add nothing. -/
theorem after_append_of_settled (h : ∀ k ∈ expected, (records.lookup k).isSome)
    (more : List (ResultKey × Bool)) :
    after expected (records ++ more) = after expected records := by
  refine after_congr fun k hk => ?_
  obtain ⟨b, hb⟩ := Option.isSome_iff_exists.mp (h k hk)
  rw [List.lookup_append, hb, Option.some_or]

/-- A record of a key that has come before adds nothing. -/
theorem after_concat_of_isSome {k : ResultKey} (b : Bool) (h : (records.lookup k).isSome) :
    after expected (records ++ [(k, b)]) = after expected records := by
  refine after_congr fun j _ => ?_
  by_cases hj : j = k
  · subst hj
    obtain ⟨c, hc⟩ := Option.isSome_iff_exists.mp h
    simp [lookup_concat, hc]
  · exact lookup_concat_of_ne b hj

/-- The receipt of a key tells whether it is expected and whether it has been recorded. -/
theorem receipt?_after (k : ResultKey) :
    (after expected records).receipt? k =
      if k ∈ expected then some (receiptAfter records k) else none := by
  have hlookup : ∀ keys : List ResultKey,
      (keys.map fun k => (k, receiptAfter records k)).lookup k =
        if k ∈ keys then some (receiptAfter records k) else none := by
    intro keys
    induction keys with
    | nil => rfl
    | cons a ks ih =>
      rw [List.map_cons, List.lookup_cons, ih]
      by_cases h : k = a
      · simp [h]
      · have hb : (k == a) = false := beq_eq_false_iff_ne.mpr h
        simp [h, hb]
  rw [receipt?, after, hlookup]
  simp only [ResultKey.mem_distinct]

/-- The entries of the status are one for each expected key. -/
theorem entries_after :
    (after expected records).status.entries =
      (ResultKey.distinct expected).map (entryAfter records) := rfl

/-- The status that the first record of a key gives it, if there is one. -/
def recorded? (records : List (ResultKey × Bool)) (k : ResultKey) : Option Status :=
  (records.lookup k).map fun b => .ofRecord (some b)

private theorem recorded?_concat {k : ResultKey} (b : Bool) (h : records.lookup k = none) :
    recorded? (records ++ [(k, b)]) =
      Function.update (recorded? records) k (some (.ofRecord (some b))) := by
  funext j
  by_cases hj : j = k
  · subst hj
    rw [recorded?, lookup_concat_self b h, Function.update_self, Option.map_some]
  · rw [recorded?, lookup_concat_of_ne b hj, Function.update_of_ne hj, recorded?]

/-- The entries of a ledger are what was last written into it. -/
theorem map_entryAfter {keys : List ResultKey} (hn : keys.Nodup)
    (records : List (ResultKey × Bool)) :
    keys.map (entryAfter records) = RunStatus.entriesOf (recorded? records) keys := by
  rw [RunStatus.entriesOf_of_nodup hn]
  apply List.map_congr_left
  intro k _
  rw [entryAfter, RunStatus.entryOf, recorded?]
  cases records.lookup k <;> rfl

/-- The status of an expected key that is pending can be changed by its first record. -/
theorem update_after {k : ResultKey} (b : Bool) (hk : k ∈ expected)
    (h : records.lookup k = none) :
    (after expected records).status.update k (.ofRecord (some b)) =
      .ok (after expected (records ++ [(k, b)])).status := by
  have nodup := ResultKey.nodup_distinct expected
  have hmem : k ∈ (after expected records).status.entries.map (·.key) := by
    rw [entries_after, map_entryAfter nodup, RunStatus.keys_entriesOf]
    exact ResultKey.mem_distinct.mpr hk
  rw [RunStatus.update_of_mem hmem, entries_after, map_entryAfter nodup,
    RunStatus.setFirst_entriesOf, ← recorded?_concat b h, ← map_entryAfter nodup]
  rfl

private theorem pending_concat {keys : List ResultKey} (hn : keys.Nodup) {k : ResultKey} (b : Bool)
    (h : records.lookup k = none) :
    (keys.filter fun j => ((records ++ [(k, b)]).lookup j).isNone) =
      (keys.filter fun j => (records.lookup j).isNone).erase k := by
  rw [(hn.filter _).erase_eq_filter, List.filter_filter]
  apply List.filter_congr
  intro j _
  by_cases hj : j = k
  · subst hj
    simp [lookup_concat_self b h]
  · simp [lookup_concat_of_ne b hj, hj]

/-- The first record of an expected key leaves one result less outstanding. -/
theorem outstanding_after_concat {k : ResultKey} (b : Bool) (hk : k ∈ expected)
    (h : records.lookup k = none) :
    (after expected (records ++ [(k, b)])).outstanding + 1 =
      (after expected records).outstanding := by
  have hmem : k ∈ (ResultKey.distinct expected).filter fun j => (records.lookup j).isNone :=
    List.mem_filter.mpr ⟨ResultKey.mem_distinct.mpr hk, by simp [h]⟩
  have hpos := List.length_pos_of_mem hmem
  simp only [after, pending_concat (ResultKey.nodup_distinct expected) b h,
    List.length_erase_of_mem hmem]
  omega

private theorem markReceived_map (keys : List ResultKey) (k : ResultKey) (b : Bool) :
    markReceived k (keys.map fun j => (j, receiptAfter records j)) =
      keys.map fun j => (j, receiptAfter (records ++ [(k, b)]) j) := by
  rw [markReceived, List.map_map]
  apply List.map_congr_left
  intro j _
  by_cases hj : j = k
  · cases hr : records.lookup k <;> simp [receiptAfter, lookup_concat, hj, hr]
  · simp [receiptAfter, lookup_concat_of_ne b hj, hj]

/-- Recording an expected key that is pending is the next step of the history. -/
theorem record_after {k : ResultKey} (b : Bool) (hk : k ∈ expected) (h : records.lookup k = none) :
    (after expected records).record k (.ofRecord (some b)) =
      after expected (records ++ [(k, b)]) := by
  have hstatus : noteStatus (after expected records).status k (.ofRecord (some b)) =
      (after expected (records ++ [(k, b)])).status := by
    rw [noteStatus, update_after b hk h]
  have hcount : (after expected records).outstanding - 1 =
      (after expected (records ++ [(k, b)])).outstanding := by
    rw [← outstanding_after_concat b hk h]
    rfl
  simp only [record, hstatus, hcount]
  simp only [after, markReceived_map _ k b]

/-! ### What a history adds up to -/

/-- The expected keys of a ledger, each once. -/
theorem keys_after : (after expected records).receipts.map (·.1) = ResultKey.distinct expected := by
  simp [after, Function.comp_def]

/-- As many results are outstanding as keys are pending. -/
theorem outstanding_eq_pending :
    (after expected records).outstanding =
      ((after expected records).receipts.filter (·.2 = .pending)).length := by
  have h : ∀ j, (records.lookup j).isNone = decide (receiptAfter records j = .pending) := by
    intro j
    cases hr : records.lookup j <;> simp [receiptAfter, hr]
  simp only [after, List.filter_map, List.length_map, Function.comp_def, h]

/-- A key has a first record if it is recorded at all. -/
theorem isSome_lookup_iff {k : ResultKey} :
    (records.lookup k).isSome ↔ k ∈ records.map (·.1) := by
  rw [List.lookup_isSome_iff, List.mem_map]
  constructor
  · rintro ⟨p, hp, hk⟩
    exact ⟨p, hp, (eq_of_beq hk).symm⟩
  · rintro ⟨p, hp, rfl⟩
    exact ⟨p, hp, beq_self_eq_true _⟩

/-- The outstanding results and the recorded keys together are the expected keys. -/
theorem outstanding_add_card (h : ∀ p ∈ records, p.1 ∈ expected) :
    (after expected records).outstanding + (records.map (·.1)).toFinset.card =
      expected.toFinset.card := by
  have hpending : (after expected records).outstanding =
      (expected.toFinset \ (records.map (·.1)).toFinset).card := by
    have hset : ((ResultKey.distinct expected).filter fun k => (records.lookup k).isNone).toFinset =
        expected.toFinset \ (records.map (·.1)).toFinset := by
      ext k
      rw [List.mem_toFinset, List.mem_filter, Finset.mem_sdiff, List.mem_toFinset,
        List.mem_toFinset, ResultKey.mem_distinct, ← isSome_lookup_iff]
      cases records.lookup k <;> simp
    rw [← hset, List.toFinset_card_of_nodup ((ResultKey.nodup_distinct expected).filter _)]
    rfl
  have hsub : (records.map (·.1)).toFinset ⊆ expected.toFinset := by
    intro k hk
    obtain ⟨p, hp, rfl⟩ := List.mem_map.mp (List.mem_toFinset.mp hk)
    exact List.mem_toFinset.mpr (h p hp)
  rw [hpending, Finset.card_sdiff_add_card_eq_card hsub]

/-- Nothing is outstanding exactly if every expected key has been recorded. -/
theorem outstanding_eq_zero_iff :
    (after expected records).outstanding = 0 ↔ ∀ k ∈ expected, (records.lookup k).isSome := by
  rw [after, List.length_eq_zero_iff, List.filter_eq_nil_iff]
  constructor
  · intro h k hk
    have hk' := h k (ResultKey.mem_distinct.mpr hk)
    rwa [Bool.not_eq_true, Option.isNone_eq_false_iff] at hk'
  · intro h k hk
    rw [Bool.not_eq_true, Option.isNone_eq_false_iff]
    exact h k (ResultKey.mem_distinct.mp hk)

/-- When every expected key has been recorded, no entry is running. -/
theorem status_ne_running (h : ∀ k ∈ expected, (records.lookup k).isSome) :
    ∀ s ∈ (after expected records).status.entries, s.status ≠ .running := by
  intro s hs
  obtain ⟨k, hk, rfl⟩ := List.mem_map.mp hs
  obtain ⟨b, hb⟩ := Option.isSome_iff_exists.mp (h k (ResultKey.mem_distinct.mp hk))
  cases b <;> simp [entryAfter, Status.ofRecord, hb]

/-- An entry has failed if the first record of its key was a failure. -/
theorem failed_mem_statuses :
    .failed ∈ (after expected records).status.entries.map (·.status) ↔
      ∃ k ∈ expected, records.lookup k = some true := by
  have hentry (k : ResultKey) : (entryAfter records k).status = .failed ↔
      records.lookup k = some true :=
    Status.ofRecord_injective.eq_iff (b := some true)
  rw [entries_after, List.map_map, List.mem_map]
  constructor
  · rintro ⟨k, hk, hf⟩
    exact ⟨k, ResultKey.mem_distinct.mp hk, (hentry k).mp hf⟩
  · rintro ⟨k, hk, hf⟩
    exact ⟨k, ResultKey.mem_distinct.mpr hk, (hentry k).mpr hf⟩

/-- The status of an expected key is what its first record made of it. -/
theorem get?_after (k : ResultKey) :
    (after expected records).status.get? k =
      if k ∈ expected then some (.ofRecord (records.lookup k)) else none := by
  rw [RunStatus.get?, entries_after, map_entryAfter (ResultKey.nodup_distinct expected),
    RunStatus.find?_entriesOf]
  by_cases hk : k ∈ expected
  · rw [if_pos hk, if_pos (ResultKey.mem_distinct.mpr hk), Option.map_some, RunStatus.entryOf,
      recorded?]
    cases records.lookup k <;> rfl
  · rw [if_neg hk, if_neg (mt ResultKey.mem_distinct.mp hk), Option.map_none]

/-- The run has failed as soon as the first record of some key was a failure. -/
theorem status_eq_failed_iff :
    (after expected records).status.status = .failed ↔
      ∃ k ∈ expected, records.lookup k = some true := by
  rw [← failed_mem_statuses]
  exact Status.aggregate_eq_failed_iff

/-- When every expected key has been recorded, the run has failed if the first record of some key was
a failure, and else it is complete. -/
theorem status_of_settled (h : ∀ k ∈ expected, (records.lookup k).isSome) :
    (after expected records).status.status =
      if ∃ k ∈ expected, records.lookup k = some true then .failed else .complete := by
  have hsettled : ∀ s ∈ (after expected records).status.entries.map (·.status), s ≠ .running := by
    intro s hs
    obtain ⟨entry, hentry, rfl⟩ := List.mem_map.mp hs
    exact status_ne_running h entry hentry
  have haggregate : (after expected records).status.status =
      Status.aggregate ((after expected records).status.entries.map (·.status)) := rfl
  rw [haggregate, Status.aggregate_of_settled hsettled]
  simp only [failed_mem_statuses]

end Ledger

end ClusterSurvey
