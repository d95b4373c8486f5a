import ClusterSurvey.Proofs.Collector.Step
import ClusterSurvey.Proofs.Ledger

/-!
# Counting results

Whatever goes on at a collector, its ledger is the one that the records so far add up to.  What has to
be known of the deliveries on their way is little: their keys are expected, and a failure keeps the
ledger to itself, so that its key is still pending when it is recorded.
-/

namespace ClusterSurvey

namespace Collector

variable {root : String} {expected : List ResultKey} {records : List (ResultKey × Bool)}
variable {c c' : Collector} {e : Event} {events : List Event}

/-- The records of a run: for each delivery that is recorded its key and whether it is a failure. -/
def recordings (c : Collector) (events : List Event) : List (ResultKey × Bool) :=
  Machine.history step? recordOf c events

/-- The keys of the records of a run. -/
def recordedKeys (c : Collector) (events : List Event) : List ResultKey :=
  (c.recordings events).map (·.1)

/-- A collector whose ledger is what the records so far make of it. -/
structure Orderly (expected : List ResultKey) (records : List (ResultKey × Bool))
    (c : Collector) : Prop where
  ledger : c.ledger = .after expected records
  announced : c.announced = c.ledger.outstanding
  recorded : ∀ p ∈ records, p.1 ∈ expected
  owed : ∀ (id : Nat) (d : Delivery), c.deliveries[id]? = some d → d.isOpen = true →
    d.key ∈ expected
  held : ∀ (id : Nat) (d : Delivery), c.deliveries[id]? = some d → d.isOpen = true →
    d.isFailure = true → c.holder = some id ∧ records.lookup d.key = none

/-! ### The invariant -/

/-- Another delivery that holds the ledger keeps it. -/
theorem holderWithout_of_ne {i id : Nat} (hid : id ≠ i) (h : c.holder = some id) :
    c.holderWithout i = some id := by
  have hne : ¬ c.holder = some i := by
    rw [h, Option.some.injEq]
    exact hid
  rw [holderWithout, if_neg hne, h]

/-- Nothing has been recorded at the start. -/
theorem orderly_start (root : String) (expected : List ResultKey) :
    Orderly expected [] (start root expected) where
  ledger := (Ledger.after_nil expected).symm
  announced := rfl
  recorded := by simp
  owed := by simp [start]
  held := by simp [start]

namespace Orderly

/-- The receipt of a key that the run expects. -/
theorem receipt?_eq (h : Orderly expected records c) (k : ResultKey) :
    c.ledger.receipt? k = if k ∈ expected then some (Ledger.receiptAfter records k) else none := by
  rw [h.ledger, Ledger.receipt?_after]

/-- A key without a receipt is not expected. -/
theorem receipt?_eq_none_iff (h : Orderly expected records c) {k : ResultKey} :
    c.ledger.receipt? k = none ↔ k ∉ expected := by
  rw [h.receipt?_eq]
  split <;> simp_all

private theorem lookup_of_pending {k : ResultKey} (h : Orderly expected records c)
    (hk : c.ledger.receipt? k = some .pending) : k ∈ expected ∧ records.lookup k = none := by
  rw [h.receipt?_eq] at hk
  split at hk
  · next hmem =>
    refine ⟨hmem, ?_⟩
    cases hl : records.lookup k with
    | none => rfl
    | some b => simp [Ledger.receiptAfter, hl] at hk
  · cases hk

private theorem isSome_of_received {k : ResultKey} (h : Orderly expected records c)
    (hk : c.ledger.receipt? k = some .received) : (records.lookup k).isSome = true := by
  rw [h.receipt?_eq] at hk
  cases hl : records.lookup k with
  | none => simp [Ledger.receiptAfter, hl] at hk
  | some b => rfl

/-- A result whose body is written is expected, and if it is a failure its key is pending. -/
theorem of_wants {k : ResultKey} {isFailure : Bool} (h : Orderly expected records c)
    (hw : c.wants k isFailure = true) :
    k ∈ expected ∧ (isFailure = true → records.lookup k = none) := by
  unfold wants at hw
  split at hw
  · cases hw
  · next hr =>
    rw [h.receipt?_eq] at hr
    refine ⟨by_contra fun hmem => by simp [hmem] at hr, fun hf => ?_⟩
    simp [hf] at hw
  · next hr => exact ⟨(h.lookup_of_pending hr).1, fun _ => (h.lookup_of_pending hr).2⟩

/-- A delivery that is recorded for the first time, or a failure, finds its key pending. -/
theorem lookup_of_first {id : Nat} {d : Delivery} (h : Orderly expected records c)
    (at_id : c.deliveries[id]? = some d) (committed : d.isCommitted = true)
    (first : d.isFailure = true ∨ c.ledger.receipt? d.key ≠ some .received) :
    records.lookup d.key = none := by
  have hopen := isOpen_of_isCommitted committed
  rcases first with hf | hr
  · exact (h.held id d at_id hopen hf).2
  · have hmem := h.owed id d at_id hopen
    rw [h.receipt?_eq, if_pos hmem, Ledger.receiptAfter] at hr
    cases hl : records.lookup d.key with
    | none => rfl
    | some b => simp [hl] at hr

/-- A state with the same ledger is orderly if each of its deliveries on their way was one before. -/
private theorem of_open (h : Orderly expected records c) (ledger : c'.ledger = c.ledger)
    (announced : c'.announced = c.announced)
    (deliveries : ∀ (id : Nat) (d' : Delivery), c'.deliveries[id]? = some d' → d'.isOpen = true →
      (c.holder = some id → c'.holder = some id) ∧
        ∃ d, c.deliveries[id]? = some d ∧ d.isOpen = true ∧ d.key = d'.key ∧
          d.isFailure = d'.isFailure) :
    Orderly expected records c' where
  ledger := by rw [ledger, h.ledger]
  announced := by rw [announced, ledger, h.announced]
  recorded := h.recorded
  owed id d' hd' ho' := by
    obtain ⟨-, d, hd, ho, hk, -⟩ := deliveries id d' hd' ho'
    exact hk ▸ h.owed id d hd ho
  held id d' hd' ho' hf' := by
    obtain ⟨hh, d, hd, ho, hk, hf⟩ := deliveries id d' hd' ho'
    obtain ⟨hid, hl⟩ := h.held id d hd ho (hf.trans hf')
    exact ⟨hh hid, hk ▸ hl⟩

private theorem of_begun {key : ResultKey} {isFailure : Bool} {body : ByteArray} {mark : String}
    {tree : Tree} (h : Orderly expected records c) (wanted : c.wants key isFailure = true)
    (free : c.holder = none) :
    Orderly expected records
      { c with
        tree := tree
        deliveries := c.deliveries ++ [⟨key, isFailure, body, mark, .writing⟩]
        holder := if isFailure then some c.deliveries.length else c.holder } where
  ledger := h.ledger
  announced := h.announced
  recorded := h.recorded
  owed id d' hd' ho' := by
    obtain hd | ⟨-, rfl⟩ := getElem?_concat hd'
    · exact h.owed id d' hd ho'
    · exact (h.of_wants wanted).1
  held id d' hd' ho' hf' := by
    obtain hd | ⟨rfl, rfl⟩ := getElem?_concat hd'
    · -- No failure is on its way while nobody holds the ledger.
      have hid := (h.held id d' hd ho' hf').1
      rw [free] at hid
      cases hid
    · have hf : isFailure = true := hf'
      exact ⟨by simp [hf], (h.of_wants wanted).2 hf⟩

/-- No other failure is on its way when a delivery is recorded. -/
private theorem isFailure_of_free {i id : Nat} {d : Delivery} (h : Orderly expected records c)
    (free : c.holder = none ∨ c.holder = some i) (hid : id ≠ i) (hd : c.deliveries[id]? = some d)
    (ho : d.isOpen = true) : d.isFailure = false := by
  rw [← Bool.not_eq_true]
  intro hf
  have hheld := (h.held id d hd ho hf).1
  rcases free with hnone | hsome
  · rw [hnone] at hheld
    cases hheld
  · rw [hsome, Option.some.injEq] at hheld
    exact hid hheld.symm

private theorem of_recorded {id : Nat} {d : Delivery} {ledger : Ledger} {announced : Nat}
    (h : Orderly expected records c) (at_id : c.deliveries[id]? = some d)
    (committed : d.isCommitted = true) (free : c.holder = none ∨ c.holder = some id)
    (hledger : ledger = .after expected (records ++ [(d.key, d.isFailure)]))
    (hannounced : announced = ledger.outstanding) :
    Orderly expected (records ++ [(d.key, d.isFailure)])
      { c with
        ledger := ledger
        announced := announced
        deliveries := c.deliveries.set id { d with stage := .ended (.ok ()) }
        holder := c.holderWithout id } where
  ledger := hledger
  announced := hannounced
  recorded p hp := by
    rcases List.mem_append.mp hp with hp | hp
    · exact h.recorded p hp
    · obtain rfl := List.mem_singleton.mp hp
      exact h.owed id d at_id (isOpen_of_isCommitted committed)
  owed j d' hd' ho' := by
    obtain ⟨-, hd⟩ := getElem?_set_of_lost Delivery.isOpen rfl hd' ho'
    exact h.owed j d' hd ho'
  held j d' hd' ho' hf' := by
    obtain ⟨hj, hd⟩ := getElem?_set_of_lost Delivery.isOpen rfl hd' ho'
    rw [h.isFailure_of_free free hj hd ho'] at hf'
    cases hf'

/-- What becomes of the ledger when a delivery is recorded for the first time. -/
theorem record_eq {id : Nat} {d : Delivery} (h : Orderly expected records c)
    (at_id : c.deliveries[id]? = some d) (committed : d.isCommitted = true)
    (first : d.isFailure = true ∨ c.ledger.receipt? d.key ≠ some .received) :
    c.ledger.record d.key (if d.isFailure then .failed else .complete) =
      .after expected (records ++ [(d.key, d.isFailure)]) := by
  have hstatus : (if d.isFailure then .failed else .complete : Status) =
      .ofRecord (some d.isFailure) := by
    cases d.isFailure <;> rfl
  rw [hstatus, h.ledger, Ledger.record_after d.isFailure
    (h.owed id d at_id (isOpen_of_isCommitted committed)) (h.lookup_of_first at_id committed first)]

end Orderly

private theorem isOpen_set_stage {d : Delivery} {stage : Stage}
    (closed : stage = .cancelled ∨ ∃ o, stage = .ended o) :
    ({ d with stage := stage } : Delivery).isOpen = false := by
  rcases closed with rfl | ⟨o, rfl⟩ <;> rfl

/-- An event adds its records to an orderly state. -/
theorem orderly_move (h : Orderly expected records c) (m : Move c e c') :
    Orderly expected (records ++ c.recordOf e) c' := by
  have unrecorded (hc' : Orderly expected records c') (hr : c.recordOf e = []) :
      Orderly expected (records ++ c.recordOf e) c' := by
    rwa [hr, List.append_nil]
  cases m with
  | answered outcome tree files =>
    refine unrecorded (h.of_open rfl rfl fun id d' hd' ho' => ⟨fun hh => hh, ?_⟩) rfl
    obtain hd | ⟨-, rfl⟩ := getElem?_concat hd'
    · exact ⟨d', hd, ho', rfl, rfl⟩
    · cases ho'
  | begun tree valid wanted free unused files => exact unrecorded (h.of_begun wanted free) rfl
  | wrote d tree at_id writing remote files =>
    refine unrecorded (h.of_open rfl rfl fun id d' hd' ho' => ⟨fun hh => hh, ?_⟩) rfl
    obtain ⟨-, hd⟩ | ⟨rfl, rfl⟩ := getElem?_set hd'
    · exact ⟨d', hd, ho', rfl, rfl⟩
    · exact ⟨d, at_id, ho', rfl, rfl⟩
  | gaveUp i d stage at_id writing closed silent =>
    have hclosed := isOpen_set_stage (d := d) (closed.imp And.left fun ⟨err, herr⟩ => ⟨_, herr⟩)
    refine unrecorded (h.of_open rfl rfl fun id d' hd' ho' => ?_) silent.records
    obtain ⟨hid, hd⟩ := getElem?_set_of_lost Delivery.isOpen hclosed hd' ho'
    exact ⟨holderWithout_of_ne hid, d', hd, ho', rfl, rfl⟩
  | committed d tree at_id writing moved =>
    refine unrecorded (h.of_open rfl rfl fun id d' hd' ho' => ⟨fun hh => hh, ?_⟩) rfl
    obtain ⟨-, hd⟩ | ⟨rfl, rfl⟩ := getElem?_set hd'
    · exact ⟨d', hd, ho', rfl, rfl⟩
    · exact ⟨d, at_id, isOpen_of_isWriting writing, rfl, rfl⟩
  | abandoned d at_id committed remote =>
    refine unrecorded (h.of_open rfl rfl fun id d' hd' ho' => ⟨fun hh => hh, ?_⟩) rfl
    obtain ⟨-, hd⟩ := getElem?_set_of_lost Delivery.isOpen rfl hd' ho'
    exact ⟨d', hd, ho', rfl, rfl⟩
  | repeated d at_id committed free remote received =>
    rw [recordOf_record at_id]
    refine h.of_recorded at_id committed free ?_ h.announced
    rw [Ledger.after_concat_of_isSome _ (h.isSome_of_received received), h.ledger]
  | counted d at_id committed free first =>
    rw [recordOf_record at_id]
    exact h.of_recorded at_id committed free (h.record_eq at_id committed first) rfl
  | waited waits change =>
    refine unrecorded (h.of_open rfl rfl fun id d' hd' ho' => ?_) change.silent.records
    exact ⟨fun hh => hh, d', hd', ho', rfl, rfl⟩
  | disturbed tree =>
    refine unrecorded (h.of_open rfl rfl fun id d' hd' ho' => ?_) rfl
    exact ⟨fun hh => hh, d', hd', ho', rfl, rfl⟩

/-- Every state of a run is orderly. -/
theorem orderly_run (h : (start root expected).run? events = some c) :
    Orderly expected ((start root expected).recordings events) c := by
  refine Machine.run?_induction
    (P := fun es c => Orderly expected ((start root expected).recordings es) c)
    (orderly_start root expected) ?_ h
  intro es s e s' hs ih he
  rw [recordings, Machine.history_concat recordOf hs he]
  exact orderly_move ih (move_of_step? he)

/-- A run that goes on only adds to the records. -/
theorem Orderly.run (h : Orderly expected records c) {later : List Event}
    (hl : c.run? later = some c') : ∃ more, Orderly expected (records ++ more) c' := by
  refine Machine.run?_induction (P := fun _ c' => ∃ more, Orderly expected (records ++ more) c')
    ⟨[], by rwa [List.append_nil]⟩ ?_ hl
  rintro es s e s' - ⟨more, ho⟩ he
  refine ⟨more ++ s.recordOf e, ?_⟩
  rw [← List.append_assoc]
  exact orderly_move ho (move_of_step? he)

/-! ### Where the status of a key comes from -/

/-- The status of a key is what its first record made of it. -/
theorem Orderly.get?_status (h : Orderly expected records c) (k : ResultKey) :
    c.ledger.status.get? k =
      if k ∈ expected then some (.ofRecord (records.lookup k)) else none := by
  rw [h.ledger, Ledger.get?_after]

/-- The status of a key that has one tells what its first record was. -/
theorem Orderly.lookup_of_get? (h : Orderly expected records c) {k : ResultKey} {r : Option Bool}
    (hk : c.ledger.status.get? k = some (.ofRecord r)) : records.lookup k = r := by
  rw [h.get?_status] at hk
  split at hk
  · exact Status.ofRecord_injective (Option.some.inj hk)
  · cases hk

/-- A failure of a key that has failed has been recorded. -/
theorem Orderly.mem_of_failed (h : Orderly expected records c) {k : ResultKey}
    (hk : c.ledger.status.get? k = some .failed) : (k, true) ∈ records := by
  have hl : records.lookup k = some true := h.lookup_of_get? hk
  obtain ⟨before, after, hsplit, -⟩ := List.lookup_eq_some_iff.mp hl
  rw [hsplit]
  exact List.mem_append_right _ List.mem_cons_self

/-- Every delivery was opened. -/
theorem opened_of_delivery (h : (start root expected).run? events = some c) {id : Nat} {d : Delivery}
    (hd : c.deliveries[id]? = some d) :
    ∃ body mark, .openResult d.key d.isFailure body mark ∈ events := by
  refine Machine.run?_induction
    (P := fun es c => ∀ d, c.deliveries[id]? = some d →
      ∃ body mark, .openResult d.key d.isFailure body mark ∈ es) (by simp [start]) ?_ h d hd
  intro es s e s' hs ih he d hd
  rcases delivery_move (move_of_step? he) hd with ⟨x, hx, hkey, hkind⟩ | ⟨body, mark, rfl⟩
  · obtain ⟨body, mark, hmem⟩ := ih x hx
    exact ⟨body, mark, List.mem_append_left _ (hkey ▸ hkind ▸ hmem)⟩
  · exact ⟨body, mark, List.mem_append_right _ List.mem_cons_self⟩

/-- Every delivery that is recorded was opened. -/
theorem opened_of_mem_recordings (h : (start root expected).run? events = some c) {k : ResultKey}
    {b : Bool} (hk : (k, b) ∈ (start root expected).recordings events) :
    ∃ body mark, .openResult k b body mark ∈ events := by
  revert hk
  refine Machine.run?_induction
    (P := fun es _ => (k, b) ∈ (start root expected).recordings es →
      ∃ body mark, .openResult k b body mark ∈ es) (fun hk => by cases hk) ?_ h
  intro es s e s' hs ih he hk
  rw [recordings, Machine.history_concat recordOf hs he] at hk
  rcases List.mem_append.mp hk with hold | hnew
  · obtain ⟨body, mark, hmem⟩ := ih hold
    exact ⟨body, mark, List.mem_append_left _ hmem⟩
  · obtain ⟨id, d, hd, rfl, rfl⟩ := delivery_of_mem_recordOf hnew
    obtain ⟨body, mark, hmem⟩ := opened_of_delivery hs hd
    exact ⟨body, mark, List.mem_append_left _ hmem⟩

/-- A key has failed only if a failure of it has come. -/
theorem opened_of_failed (h : (start root expected).run? events = some c) {k : ResultKey}
    (hk : c.ledger.status.get? k = some .failed) :
    ∃ body mark, .openResult k true body mark ∈ events :=
  opened_of_mem_recordings h ((orderly_run h).mem_of_failed hk)

/-! ### What an orderly ledger shows -/

/-- What is to be seen of a collector that expects these keys when some have been recorded. -/
structure Balanced (expected recorded : List ResultKey) (c : Collector) : Prop where
  /-- Each expected key has one receipt, and no other key has one. -/
  receipts : (c.ledger.receipts.map (·.1)).Nodup ∧
    ∀ k, k ∈ c.ledger.receipts.map (·.1) ↔ k ∈ expected
  /-- A key has been received if it has been recorded. -/
  received : ∀ k, c.ledger.receipt? k = some .received ↔ k ∈ recorded
  /-- As many results are outstanding as keys are pending. -/
  pending : c.ledger.outstanding = (c.ledger.receipts.filter (·.2 = .pending)).length
  /-- So many have been announced. -/
  announced : c.announced = c.ledger.outstanding
  /-- The outstanding results and the recorded keys add up to the expected keys. -/
  balance : c.ledger.outstanding + recorded.toFinset.card = expected.toFinset.card
  /-- Nothing is outstanding when every expected key has been recorded. -/
  settled : c.ledger.outstanding = 0 ↔ ∀ k ∈ expected, k ∈ recorded
  /-- The status has one entry for each expected key, and no other ones. -/
  entries : (c.ledger.status.entries.map (·.key)).Nodup ∧
    ∀ k, k ∈ c.ledger.status.entries.map (·.key) ↔ k ∈ expected
  /-- The entry of a key is running while it is pending. -/
  running : ∀ s ∈ c.ledger.status.entries,
    s.status = .running ↔ c.ledger.receipt? s.key = some .pending

private theorem mem_keys_iff {k : ResultKey} :
    k ∈ records.map (·.1) ↔ (records.lookup k).isSome = true :=
  Ledger.isSome_lookup_iff.symm

/-- An orderly collector is balanced. -/
theorem Orderly.balanced (h : Orderly expected records c) :
    Balanced expected (records.map (·.1)) c where
  receipts := by
    rw [h.ledger, Ledger.keys_after]
    exact ⟨ResultKey.nodup_distinct expected, fun k => ResultKey.mem_distinct⟩
  received k := by
    rw [h.receipt?_eq, mem_keys_iff, Ledger.receiptAfter]
    constructor
    · intro hr
      split at hr
      · cases hl : records.lookup k with
        | none => simp [hl] at hr
        | some b => rfl
      · cases hr
    · intro hl
      obtain ⟨p, hp, rfl⟩ := List.mem_map.mp (mem_keys_iff.mpr hl)
      rw [if_pos (h.recorded p hp), if_pos hl]
  pending := by rw [h.ledger, Ledger.outstanding_eq_pending]
  announced := h.announced
  balance := by rw [h.ledger, Ledger.outstanding_add_card h.recorded]
  settled := by
    rw [h.ledger, Ledger.outstanding_eq_zero_iff]
    simp only [mem_keys_iff]
  entries := by
    rw [h.ledger, Ledger.entries_after, List.map_map]
    have hkey : (ResultStatus.key ∘ Ledger.entryAfter records) = id := rfl
    rw [hkey, List.map_id]
    exact ⟨ResultKey.nodup_distinct expected, fun k => ResultKey.mem_distinct⟩
  running s hs := by
    rw [h.ledger, Ledger.entries_after] at hs
    obtain ⟨k, hk, rfl⟩ := List.mem_map.mp hs
    rw [Ledger.key_entryAfter, h.receipt?_eq, if_pos (ResultKey.mem_distinct.mp hk)]
    cases hl : records.lookup k with
    | none => simp [Ledger.entryAfter, Ledger.receiptAfter, Status.ofRecord, hl]
    | some b => cases b <;> simp [Ledger.entryAfter, Ledger.receiptAfter, Status.ofRecord, hl]

/-- An event adds one record at most. -/
theorem recordOf_cases (c : Collector) (e : Event) :
    c.recordOf e = [] ∨ ∃ k b, c.recordOf e = [(k, b)] := by
  cases e with
  | record id =>
    cases hd : c.deliveries[id]? with
    | none =>
      left
      simp only [recordOf, hd]
      rfl
    | some d => exact .inr ⟨d.key, d.isFailure, recordOf_record hd⟩
  | _ => exact .inl rfl

/-- What an event makes of the ledger: a first record counts, and nothing else does. -/
structure CountsOnce (recorded : List ResultKey) (c : Collector) (e : Event) (c' : Collector) :
    Prop where
  /-- The first record of a key leaves one less outstanding and is noted in the status. -/
  first : ∀ k b, c.recordOf e = [(k, b)] → k ∉ recorded →
    c'.ledger.outstanding + 1 = c.ledger.outstanding ∧
      c.ledger.status.update k (.ofRecord (some b)) = .ok c'.ledger.status
  /-- Any other event leaves the ledger and what has been announced as they are. -/
  other : (∀ p ∈ c.recordOf e, p.1 ∈ recorded) →
    c'.ledger = c.ledger ∧ c'.announced = c.announced

/-- Each key is counted once, whatever happens to an orderly collector. -/
theorem Orderly.countsOnce (h : Orderly expected records c) (he : c.step? e = some c') :
    CountsOnce (records.map (·.1)) c e c' := by
  have h' := orderly_move h (move_of_step? he)
  constructor
  · intro k b hr hk
    rw [mem_keys_iff, Bool.not_eq_true, Option.isSome_eq_false_iff, Option.isNone_iff_eq_none] at hk
    rw [hr] at h'
    have hmem : k ∈ expected := h'.recorded (k, b) (by simp)
    rw [h'.ledger, h.ledger]
    exact ⟨Ledger.outstanding_after_concat b hmem hk, Ledger.update_after b hmem hk⟩
  · intro hr
    suffices hl : c'.ledger = c.ledger from ⟨hl, by rw [h'.announced, hl, h.announced]⟩
    rw [h'.ledger, h.ledger]
    obtain hnone | ⟨k, b, hone⟩ := recordOf_cases c e
    · rw [hnone, List.append_nil]
    · rw [hone] at hr ⊢
      exact Ledger.after_concat_of_isSome b (mem_keys_iff.mp (hr (k, b) (by simp)))

/-- The number of outstanding results does not rise. -/
theorem Orderly.outstanding_le (h : Orderly expected records c) (he : c.step? e = some c') :
    c'.ledger.outstanding ≤ c.ledger.outstanding := by
  have counts := h.countsOnce he
  by_cases hr : ∀ p ∈ c.recordOf e, p.1 ∈ records.map (·.1)
  · rw [(counts.other hr).1]
  · obtain hnone | ⟨k, b, hone⟩ := recordOf_cases c e
    · rw [hnone] at hr
      exact absurd (fun p hp => absurd hp List.not_mem_nil) hr
    · have hk : k ∉ records.map (·.1) := by
        intro hk
        apply hr
        rw [hone]
        intro p hp
        obtain rfl := List.mem_singleton.mp hp
        exact hk
      have hless := (counts.first k b hone hk).1
      omega

/-- At every state of every run the three ways to count agree, each key is counted at its first
record and only then, and the number of outstanding results never rises again. -/
theorem balanced_run (h : (start root expected).run? events = some c) :
    Balanced expected ((start root expected).recordedKeys events) c ∧
      (∀ e c', c.step? e = some c' →
        CountsOnce ((start root expected).recordedKeys events) c e c') ∧
      ∀ later c', c.run? later = some c' → c'.ledger.outstanding ≤ c.ledger.outstanding := by
  have horderly := orderly_run h
  refine ⟨horderly.balanced, fun e c' he => horderly.countsOnce he, fun later c' hl => ?_⟩
  refine (Machine.run?_induction (P := fun es c' => (∃ records, Orderly expected records c') ∧
    c'.ledger.outstanding ≤ c.ledger.outstanding) ⟨⟨_, horderly⟩, Nat.le_refl _⟩ ?_ hl).2
  rintro es s e s' - ⟨⟨records, ho⟩, hle⟩ he
  exact ⟨⟨_, orderly_move ho (move_of_step? he)⟩, Nat.le_trans (ho.outstanding_le he) hle⟩

/-- A key that is delivered twice at once, and then a failure whose place is obstructed. -/
def duplicateAndObstructed : List Event :=
  [.openResult ⟨"a", "t"⟩ false .empty "000000", .openResult ⟨"a", "t"⟩ false .empty "000001",
    .commit 1, .record 1, .commit 0, .record 0,
    .disturb ⟨[(["a"], .directory), (["b"], .directory), (["b", "t"], .directory)]⟩,
    .openResult ⟨"b", "t"⟩ true .empty "000002", .commit 2]

/-- The first of the two counts, and the failure that cannot be filed leaves its key pending. -/
theorem balanced_duplicateAndObstructed :
    ∃ c, (start "out" [⟨"a", "t"⟩, ⟨"a", "t"⟩, ⟨"b", "t"⟩]).run? duplicateAndObstructed = some c ∧
      Balanced [⟨"a", "t"⟩, ⟨"a", "t"⟩, ⟨"b", "t"⟩] [⟨"a", "t"⟩, ⟨"a", "t"⟩] c ∧
      c.ledger.outstanding = 1 := by
  obtain ⟨c, hc⟩ := Option.isSome_iff_exists.mp
    (rfl : ((start "out" [⟨"a", "t"⟩, ⟨"a", "t"⟩, ⟨"b", "t"⟩]).run?
      duplicateAndObstructed).isSome = true)
  have hb : Balanced [⟨"a", "t"⟩, ⟨"a", "t"⟩, ⟨"b", "t"⟩] [⟨"a", "t"⟩, ⟨"a", "t"⟩] c :=
    (balanced_run hc).1
  have hsum : c.ledger.outstanding + 1 = 2 := hb.balance
  exact ⟨c, hc, hb, by omega⟩

end Collector

end ClusterSurvey
