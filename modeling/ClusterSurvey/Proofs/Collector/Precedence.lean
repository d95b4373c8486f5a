import ClusterSurvey.Proofs.Collector.Artifacts

/-!
# The first record of a key decides

A delivery is moved into place before it is recorded, while a failure holds the ledger from the look at
its key until its record.  So a failure can take the place of a delivery that is not recorded yet, but
then it is recorded first, and the delivery comes too late to complete the key.  What lies at the place
of a complete key is therefore the body of a delivery.
-/

namespace ClusterSurvey

namespace Collector

variable {root : String} {expected : List ResultKey} {records : List (ResultKey × Bool)}
variable {filed : List (ResultKey × Nat)}
variable {c c' : Collector} {e : Event} {events later : List Event} {k : ResultKey}

/-- Whether an event leaves what a run has filed as it is.  Others may change the rest of the tree. -/
def Preserves (expected : List ResultKey) (c : Collector) : Event → Prop
  | .disturb tree =>
    (∀ k ∈ expected, tree.content? k.place = c.tree.content? k.place) ∧
    ∀ (k : ResultKey) (mark : String),
      tree.content? (k.scratchPlace mark) = c.tree.content? (k.scratchPlace mark)
  | _ => True

/-- Who leaves everything as it is spares it. -/
theorem Preserves.spares (h : Preserves expected c e) : Spares expected c e := by
  cases e with
  | disturb tree => exact ⟨fun k hk => .inl (h.1 k hk), h.2⟩
  | _ => trivial

private theorem lookup_append_of_some {b : Bool} (h : records.lookup k = some b)
    (more : List (ResultKey × Bool)) : (records ++ more).lookup k = some b := by
  rw [List.lookup_append, h, Option.some_or]

/-! ### Who was moved into place, and who was recorded -/

/-- How the records and the moves into place go together: only deliveries of valid keys are under way,
each is moved before it is recorded, and a failure that was moved is recorded first or holds the
ledger. -/
structure Traced (filed : List (ResultKey × Nat)) (records : List (ResultKey × Bool))
    (c : Collector) : Prop where
  underway : ∀ (id : Nat) (d : Delivery), c.deliveries[id]? = some d → d.isOpen = true →
    d.key.isValid = true
  valid : ∀ p ∈ records, p.1.isValid = true
  moved : ∀ k id, (k, id) ∈ filed → ∃ d, c.deliveries[id]? = some d ∧ d.key = k ∧
    d.isWriting = false ∧
      (d.isFailure = true → d.isCommitted = true ∨ records.lookup k = some true)
  committed : ∀ (id : Nat) (d : Delivery), c.deliveries[id]? = some d → d.isCommitted = true →
    (d.key, id) ∈ filed
  recorded : ∀ p ∈ records, ∃ id, (p.1, id) ∈ filed

namespace Traced

private theorem not_moved {i : Nat} {d : Delivery} (h : Traced filed records c)
    (at_i : c.deliveries[i]? = some d) (writing : d.isWriting = true) (k : ResultKey) :
    (k, i) ∉ filed := by
  intro hmem
  obtain ⟨x, hx, -, hw, -⟩ := h.moved k i hmem
  obtain rfl : d = x := Option.some.inj (at_i.symm.trans hx)
  rw [writing] at hw
  cases hw

/-- A state in which another delivery has come, which is at most being written. -/
private theorem of_added {d : Delivery} (h : Traced filed records c)
    (deliveries : c'.deliveries = c.deliveries ++ [d]) (uncommitted : d.isCommitted = false)
    (valid : d.isOpen = true → d.key.isValid = true) : Traced filed records c' where
  underway id x hx ho := by
    rw [deliveries] at hx
    obtain hx | ⟨-, rfl⟩ := getElem?_concat hx
    · exact h.underway id x hx ho
    · exact valid ho
  valid := h.valid
  moved k id hmem := by
    obtain ⟨x, hx, hrest⟩ := h.moved k id hmem
    exact ⟨x, by rw [deliveries]; exact getElem?_append_left_of_some hx, hrest⟩
  committed id x hx hc := by
    rw [deliveries] at hx
    obtain hx | ⟨-, rfl⟩ := getElem?_concat hx
    · exact h.committed id x hx hc
    · rw [uncommitted] at hc
      cases hc
  recorded := h.recorded

/-- A state in which a delivery has changed, which may have been moved or recorded by that. -/
private theorem of_set {i : Nat} {d x : Delivery} {more : List (ResultKey × Nat)}
    {added : List (ResultKey × Bool)} (h : Traced filed records c)
    (at_i : c.deliveries[i]? = some d) (deliveries : c'.deliveries = c.deliveries.set i x)
    (key : x.key = d.key) (kind : x.isFailure = d.isFailure)
    (closing : x.isOpen = true → d.isOpen = true) (moves : ∀ p ∈ more, p = (d.key, i))
    (records_ : ∀ p ∈ added, p.1 = d.key ∧ d.isCommitted = true)
    (here : (d.key, i) ∈ filed ++ more → x.isWriting = false ∧
      (d.isFailure = true → x.isCommitted = true ∨ (records ++ added).lookup d.key = some true))
    (placed : x.isCommitted = true → (d.key, i) ∈ filed ++ more) :
    Traced (filed ++ more) (records ++ added) c' where
  underway id y hy ho := by
    rw [deliveries] at hy
    obtain ⟨-, hy⟩ | ⟨rfl, rfl⟩ := getElem?_set hy
    · exact h.underway id y hy ho
    · rw [key]
      exact h.underway id d at_i (closing ho)
  valid p hp := by
    rcases List.mem_append.mp hp with hp | hp
    · exact h.valid p hp
    · obtain ⟨hkey, hc⟩ := records_ p hp
      rw [hkey]
      exact h.underway i d at_i (isOpen_of_isCommitted hc)
  moved k id hmem := by
    by_cases hid : id = i
    · subst hid
      have hk : k = d.key := by
        rcases List.mem_append.mp hmem with hold | hnew
        · obtain ⟨y, hy, hkey, -⟩ := h.moved k id hold
          obtain rfl : d = y := Option.some.inj (at_i.symm.trans hy)
          exact hkey.symm
        · exact (Prod.mk.inj (moves _ hnew)).1
      subst hk
      obtain ⟨hw, hf⟩ := here hmem
      refine ⟨x, ?_, key, hw, fun hx => hf (kind ▸ hx)⟩
      rw [deliveries]
      exact getElem?_set_self_of_some at_i
    · have hold : (k, id) ∈ filed := by
        rcases List.mem_append.mp hmem with hold | hnew
        · exact hold
        · exact absurd (Prod.mk.inj (moves _ hnew)).2 hid
      obtain ⟨y, hy, hkey, hw, hf⟩ := h.moved k id hold
      refine ⟨y, ?_, hkey, hw, fun hy => ?_⟩
      · rw [deliveries, List.getElem?_set_ne (Ne.symm hid), hy]
      · exact (hf hy).imp (fun hc => hc) fun hl => lookup_append_of_some hl added
  committed id y hy hc := by
    rw [deliveries] at hy
    obtain ⟨-, hy⟩ | ⟨rfl, rfl⟩ := getElem?_set hy
    · exact List.mem_append_left _ (h.committed id y hy hc)
    · rw [key]
      exact placed hc
  recorded p hp := by
    rcases List.mem_append.mp hp with hp | hp
    · obtain ⟨id, hid⟩ := h.recorded p hp
      exact ⟨id, List.mem_append_left _ hid⟩
    · obtain ⟨hkey, hc⟩ := records_ p hp
      rw [hkey]
      exact ⟨i, List.mem_append_left _ (h.committed i d at_i hc)⟩

/-- A state in which a delivery that is being written goes on or ends. -/
private theorem of_writing {i : Nat} {d x : Delivery} (h : Traced filed records c)
    (at_i : c.deliveries[i]? = some d) (writing : d.isWriting = true)
    (deliveries : c'.deliveries = c.deliveries.set i x) (key : x.key = d.key)
    (kind : x.isFailure = d.isFailure) (uncommitted : x.isCommitted = false) :
    Traced filed records c' := by
  have hset : Traced (filed ++ []) (records ++ []) c' := by
    refine h.of_set at_i deliveries key kind (fun _ => isOpen_of_isWriting writing) (by simp)
      (by simp) (fun hmem => ?_) fun hc => ?_
    · rw [List.append_nil] at hmem
      exact absurd hmem (h.not_moved at_i writing _)
    · rw [uncommitted] at hc
      cases hc
  rwa [List.append_nil, List.append_nil] at hset

/-- A state in which a delivery that lies in place is closed, and may have been recorded by that. -/
private theorem of_closed {i : Nat} {d : Delivery} {stage : Stage} {added : List (ResultKey × Bool)}
    (h : Traced filed records c) (at_i : c.deliveries[i]? = some d)
    (committed : d.isCommitted = true)
    (deliveries : c'.deliveries = c.deliveries.set i { d with stage := stage })
    (closed : stage = .cancelled ∨ ∃ o, stage = .ended o)
    (records_ : ∀ p ∈ added, p.1 = d.key)
    (first : d.isFailure = true → (records ++ added).lookup d.key = some true) :
    Traced filed (records ++ added) c' := by
  have hstage : ({ d with stage := stage } : Delivery).isWriting = false ∧
      ({ d with stage := stage } : Delivery).isCommitted = false := by
    rcases closed with rfl | ⟨o, rfl⟩ <;> exact ⟨rfl, rfl⟩
  have hset : Traced (filed ++ []) (records ++ added) c' := by
    refine h.of_set at_i deliveries rfl rfl (fun _ => isOpen_of_isCommitted committed) (by simp)
      (fun p hp => ⟨records_ p hp, committed⟩) (fun _ => ⟨hstage.1, fun hf => .inr (first hf)⟩)
      fun hc => ?_
    rw [hstage.2] at hc
    cases hc
  rwa [List.append_nil] at hset

private theorem of_same (h : Traced filed records c) (deliveries : c'.deliveries = c.deliveries) :
    Traced filed records c' where
  underway := by
    rw [deliveries]
    exact h.underway
  valid := h.valid
  moved := by
    rw [deliveries]
    exact h.moved
  committed := by
    rw [deliveries]
    exact h.committed
  recorded := h.recorded

/-- A delivery that is being written does not lie in place. -/
private theorem isCommitted_of_isWriting {d : Delivery} (h : d.isWriting = true) :
    d.isCommitted = false := by
  unfold Delivery.isWriting at h
  split at h
  · next hs => rw [Delivery.isCommitted, hs]
  · cases h

private theorem filingOf_record (c : Collector) (id : Nat) : c.filingOf (.record id) = [] := rfl

/-- Every event adds its moves and its records in this order. -/
theorem move (h : Traced filed records c) (ordered : Orderly expected records c) (m : Move c e c') :
    Traced (filed ++ c.filingOf e) (records ++ c.recordOf e) c' := by
  have quiet (hc' : Traced filed records c') (hf : c.filingOf e = []) (hr : c.recordOf e = []) :
      Traced (filed ++ c.filingOf e) (records ++ c.recordOf e) c' := by
    rwa [hf, hr, List.append_nil, List.append_nil]
  cases m with
  | answered outcome tree files =>
    exact quiet (h.of_added rfl rfl fun ho => by cases ho) rfl rfl
  | begun tree valid wanted free unused files =>
    exact quiet (h.of_added rfl rfl fun _ => valid) rfl rfl
  | @wrote id data d tree at_id writing remote files =>
    have uncommitted : ({ d with body := d.body ++ data } : Delivery).isCommitted = false :=
      isCommitted_of_isWriting writing
    exact quiet (h.of_writing at_id writing rfl rfl rfl uncommitted) rfl rfl
  | gaveUp i d stage at_id writing closed silent =>
    have uncommitted : ({ d with stage := stage } : Delivery).isCommitted = false := by
      rcases closed with ⟨rfl, -⟩ | ⟨err, rfl⟩ <;> rfl
    exact quiet (h.of_writing at_id writing rfl rfl rfl uncommitted) silent.filings silent.records
  | @committed id d tree at_id writing moved =>
    have hmem : (d.key, id) ∈ filed ++ [(d.key, id)] := List.mem_append_right _ List.mem_cons_self
    rw [filingOf_commit at_id moved]
    exact h.of_set at_id rfl rfl rfl (fun _ => isOpen_of_isWriting writing)
      (fun p hp => List.mem_singleton.mp hp) (fun p hp => by cases hp)
      (fun _ => ⟨rfl, fun _ => .inl rfl⟩) fun _ => hmem
  | abandoned d at_id committed remote =>
    refine quiet ?_ rfl rfl
    rw [← List.append_nil records]
    exact h.of_closed at_id committed rfl (.inl rfl) (by simp) fun hf => by
      rw [remote] at hf
      cases hf
  | repeated d at_id committed free remote received =>
    rw [recordOf_record at_id, filingOf_record, List.append_nil]
    exact h.of_closed at_id committed rfl (.inr ⟨_, rfl⟩) (by simp) fun hf => by
      rw [remote] at hf
      cases hf
  | counted d at_id committed free first =>
    rw [recordOf_record at_id, filingOf_record, List.append_nil]
    have hnone := ordered.lookup_of_first at_id committed first
    exact h.of_closed at_id committed rfl (.inr ⟨_, rfl⟩) (by simp) fun hf => by
      simp [Ledger.lookup_concat, hnone, hf]
  | waited waits change =>
    exact quiet (h.of_same rfl) change.silent.filings change.silent.records
  | disturbed tree => exact quiet (h.of_same rfl) rfl rfl

/-- No failure is ever moved to the place of a key whose first record was no failure. -/
theorem remote_of_lookup (h : Traced filed records c) (ordered : Orderly expected records c)
    (first : records.lookup k = some false) {id : Nat} (hid : (k, id) ∈ filed) {d : Delivery}
    (hd : c.deliveries[id]? = some d) : d.isFailure = false := by
  obtain ⟨x, hx, rfl, -, hplaced⟩ := h.moved k id hid
  obtain rfl : d = x := Option.some.inj (hd.symm.trans hx)
  rw [← Bool.not_eq_true]
  intro hf
  rcases hplaced hf with hcommitted | hfailed
  · -- A failure that waits for its record holds the ledger, so its key has no record yet.
    have hnone := (ordered.held id d hd (isOpen_of_isCommitted hcommitted) hf).2
    rw [first] at hnone
    cases hnone
  · rw [first] at hfailed
    cases hfailed

end Traced

/-- In every run the records and the moves go together. -/
theorem traced_run (h : (start root expected).run? events = some c) :
    Traced ((start root expected).filings events) ((start root expected).recordings events) c := by
  have initially : Traced [] [] (start root expected) :=
    ⟨by simp [start], by simp, by simp, by simp [start], by simp⟩
  refine Machine.run?_induction
    (P := fun es c => Traced ((start root expected).filings es)
      ((start root expected).recordings es) c) initially ?_ h
  intro es s e s' hs ih he
  rw [filings, recordings, Machine.history_concat filingOf hs he,
    Machine.history_concat recordOf hs he]
  exact ih.move (orderly_run hs) (move_of_step? he)

/-! ### What lies at the place of a key -/

private theorem mem_of_lastFiled? {id : Nat} (h : lastFiled? filed k = some id) :
    (k, id) ∈ filed := by
  obtain ⟨before, after, hsplit, -⟩ := List.lookup_eq_some_iff.mp h
  rw [← List.mem_reverse, hsplit]
  exact List.mem_append_right _ List.mem_cons_self

section

variable (distinct : ∀ k ∈ expected, ∀ j ∈ expected, k.path root = j.path root → k = j)

include distinct

/-- Once something has been moved to the place of a key, something lies there. -/
theorem content?_place_ne_none (h : (start root expected).run? events = some c)
    (preserves : Machine.Along step? (Preserves expected) (start root expected) events)
    (expects : k ∈ expected) (valid : k.isValid = true) {id : Nat}
    (hid : (k, id) ∈ (start root expected).filings events) : c.tree.content? k.place ≠ none := by
  revert preserves hid
  refine Machine.run?_induction
    (P := fun es c => Machine.Along step? (Preserves expected) (start root expected) es →
      (k, id) ∈ (start root expected).filings es → c.tree.content? k.place ≠ none)
    (fun _ hid => by cases hid) ?_ h
  intro es s e s' hs ih he preserves hid
  obtain ⟨hbefore, hnow⟩ := (Machine.along_concat hs).mp preserves
  have scratched := scratched_run hs (hbefore.imp fun _ _ => Preserves.spares)
  have m := move_of_step? he
  rw [filings, Machine.history_concat filingOf hs he] at hid
  by_cases hfile : ∃ j, (k, j) ∈ s.filingOf e
  · obtain ⟨j, hj⟩ := hfile
    obtain ⟨-, d, -, -, -, hb⟩ := filing_move scratched m hj
    rw [hb]
    exact Option.some_ne_none _
  · have unfiled : ∀ j, (k, j) ∉ s.filingOf e := fun j hj => hfile ⟨j, hj⟩
    have hold := (List.mem_append.mp hid).resolve_right (unfiled id)
    have same : s'.tree.content? k.place = s.tree.content? k.place := by
      by_cases hcalm : ∃ tree, e = .disturb tree
      · obtain ⟨tree, rfl⟩ := hcalm
        cases he
        exact hnow.1 k expects
      · exact content?_place_move distinct (orderly_run hs) m
          (fun tree he => hcalm ⟨tree, he⟩) expects (ResultKey.place_ne_scratchPlace valid) unfiled
    rw [same]
    exact ih hbefore hold

/-- What lies at the place of a key whose first record was no failure is the body of the delivery
that was moved there last. -/
theorem content?_place_of_lookup (h : (start root expected).run? events = some c)
    (preserves : Machine.Along step? (Preserves expected) (start root expected) events)
    (first : ((start root expected).recordings events).lookup k = some false) :
    ∃ id d, lastFiled? ((start root expected).filings events) k = some id ∧
      c.deliveries[id]? = some d ∧ d.key = k ∧ d.isFailure = false ∧ d.isWriting = false ∧
      c.tree.content? k.place = some d.body := by
  have ordered := orderly_run h
  have traced := traced_run h
  obtain ⟨p, hp, rfl⟩ := List.mem_map.mp
    (Ledger.isSome_lookup_iff.mp (Option.isSome_of_eq_some first))
  have valid := traced.valid p hp
  have expects := ordered.recorded p hp
  obtain ⟨i, hi⟩ := traced.recorded p hp
  have present := content?_place_ne_none distinct h preserves expects valid hi
  rcases isWhole_run distinct h (preserves.imp fun _ _ => Preserves.spares) expects
    (ResultKey.place_ne_scratchPlace valid) with hnone | ⟨id, d, hl, hd, hk, hw, hb⟩
  · exact absurd hnone present
  · have hremote := traced.remote_of_lookup ordered first (mem_of_lastFiled? hl) hd
    exact ⟨id, d, hl, hd, hk, hremote, hw, hb⟩

end

/-! ### Late failures -/

/-- A failure of a key that has been received is answered as soon as nobody holds the ledger, and
changes nothing. -/
theorem step?_lateFailure (valid : k.isValid = true) (received : c.ledger.receipt? k = some .received)
    (body : ByteArray) (mark : String) :
    c.step? (.openResult k true body mark) =
      if c.holder = none then some (c.answerAtOnce k true body mark (.ok ())) else none := by
  have hmay : c.mayOpen k true mark = c.holder.isNone := by
    simp [mayOpen, valid, wants, received]
  have hopened : c.openResult k true body mark = c.answerAtOnce k true body mark (.ok ()) := by
    simp [openResult, k.check_eq_ok_iff.mpr valid, received]
  simp only [step?, hmay, hopened, Option.isNone_iff_eq_none]

/-! ### What decides a key -/

/-- What is to be seen of a collector that expects these keys when these deliveries have been recorded
and moved into place. -/
structure Decided (expected : List ResultKey) (records : List (ResultKey × Bool))
    (filed : List (ResultKey × Nat)) (c : Collector) : Prop where
  /-- An expected key runs until it is recorded.  It is complete if its first record was a delivery,
  and has failed if that was a failure. -/
  status : ∀ k ∈ expected, c.ledger.status.get? k = some (.ofRecord (records.lookup k))
  /-- At the place of a complete key lies the body of the delivery that was moved there last. -/
  complete : ∀ k, c.ledger.status.get? k = some .complete →
    ∃ id d, lastFiled? filed k = some id ∧ c.deliveries[id]? = some d ∧ d.key = k ∧
      d.isFailure = false ∧ d.isWriting = false ∧ c.tree.content? k.place = some d.body
  /-- No failure has ever been moved to the place of a complete key. -/
  untouched : ∀ k, c.ledger.status.get? k = some .complete → ∀ (id : Nat) (d : Delivery),
    (k, id) ∈ filed → c.deliveries[id]? = some d → d.isFailure = false
  /-- A failure of a key that has been received is answered and changes nothing. -/
  ignored : ∀ k, c.ledger.receipt? k = some .received → ∀ (body : ByteArray) (mark : String),
    c.step? (.openResult k true body mark) =
      if c.holder = none then some (c.answerAtOnce k true body mark (.ok ())) else none

/-- What stays as it is however a run goes on. -/
structure Persists (c c' : Collector) : Prop where
  /-- The status of a key that is no more running. -/
  status : ∀ k s, c.ledger.status.get? k = some s → s ≠ .running →
    c'.ledger.status.get? k = some s
  /-- The failure of the run. -/
  failed : c.ledger.status.status = .failed → c'.ledger.status.status = .failed

/-- What has been decided stays so. -/
theorem Orderly.persists (h : Orderly expected records c) (hl : c.run? later = some c') :
    Persists c c' := by
  obtain ⟨more, h'⟩ := h.run hl
  constructor
  · intro k s hs settled
    rw [h.get?_status] at hs
    rw [h'.get?_status]
    split at hs
    · next expects =>
      rw [if_pos expects]
      cases hr : records.lookup k with
      | none =>
        rw [hr] at hs
        exact absurd (Option.some.inj hs).symm settled
      | some b => rw [lookup_append_of_some hr, ← hr, hs]
    · cases hs
  · rw [h.ledger, h'.ledger, Ledger.status_eq_failed_iff, Ledger.status_eq_failed_iff]
    rintro ⟨k, expects, hk⟩
    exact ⟨k, expects, lookup_append_of_some hk more⟩

/-- In every run the first record of a key decides what becomes of it, whatever comes later and in
whatever order deliveries and failures take their steps. -/
theorem decided_run (distinct : ∀ k ∈ expected, ∀ j ∈ expected, k.path root = j.path root → k = j)
    (h : (start root expected).run? events = some c)
    (preserves : Machine.Along step? (Preserves expected) (start root expected) events) :
    Decided expected ((start root expected).recordings events)
      ((start root expected).filings events) c ∧
      ∀ later c', c.run? later = some c' → Persists c c' := by
  have ordered := orderly_run h
  have traced := traced_run h
  refine ⟨⟨?_, ?_, ?_, ?_⟩, fun later c' hl => ordered.persists hl⟩
  · intro k expects
    rw [ordered.get?_status, if_pos expects]
  · intro k hk
    exact content?_place_of_lookup distinct h preserves (ordered.lookup_of_get? (r := some false) hk)
  · intro k hk id d hid hd
    exact traced.remote_of_lookup ordered (ordered.lookup_of_get? (r := some false) hk) hid hd
  · intro k received body mark
    obtain ⟨p, hp, rfl⟩ := List.mem_map.mp ((ordered.balanced.received k).mp received)
    exact step?_lateFailure (traced.valid p hp) received body mark

/-- A failure comes between the move of a delivery into place and its record.  Another failure comes
for a key that is complete. -/
def overtakenAndLate : List Event :=
  [.openResult ⟨"a", "t"⟩ false ⟨#[1]⟩ "000000", .commit 0,
    .openResult ⟨"a", "t"⟩ true ⟨#[2]⟩ "000001", .commit 1, .record 1, .record 0,
    .openResult ⟨"", "t"⟩ false ⟨#[3]⟩ "000002", .commit 2, .record 2,
    .openResult ⟨"", "t"⟩ true ⟨#[4]⟩ "000003"]

/-- The first key has then failed and the second one is complete, and what lies at their places goes
with that. -/
theorem decided_overtakenAndLate :
    ∃ c, (start "out" [⟨"a", "t"⟩, ⟨"", "t"⟩]).run? overtakenAndLate = some c ∧
      Decided [⟨"a", "t"⟩, ⟨"", "t"⟩]
        [(⟨"a", "t"⟩, true), (⟨"a", "t"⟩, false), (⟨"", "t"⟩, false)]
        [(⟨"a", "t"⟩, 0), (⟨"a", "t"⟩, 1), (⟨"", "t"⟩, 2)] c ∧
      c.ledger.status.get? ⟨"a", "t"⟩ = some .failed ∧
      c.tree.content? ["a", "t"] = some ⟨#[2]⟩ ∧
      c.ledger.status.get? ⟨"", "t"⟩ = some .complete ∧
      c.tree.content? ["global", "t"] = some ⟨#[3]⟩ := by
  have hsome : ((start "out" [⟨"a", "t"⟩, ⟨"", "t"⟩]).run? overtakenAndLate).isSome = true := rfl
  have preserves : Machine.Along step? (Preserves [⟨"a", "t"⟩, ⟨"", "t"⟩])
      (start "out" [⟨"a", "t"⟩, ⟨"", "t"⟩]) overtakenAndLate := by
    refine Machine.along_of_forall fun e he s => ?_
    simp only [overtakenAndLate, List.mem_cons, List.not_mem_nil, or_false] at he
    rcases he with rfl | rfl | rfl | rfl | rfl | rfl | rfl | rfl | rfl | rfl <;> trivial
  exact ⟨_, (Option.some_get hsome).symm,
    (decided_run (by decide +kernel) (Option.some_get hsome).symm preserves).1, rfl, rfl, rfl, rfl⟩

end Collector

end ClusterSurvey
