import ClusterSurvey.Proofs.Collector.Counting

/-!
# What becomes of a delivery

An event opens a delivery, acts on one that has been opened and not been answered, or leaves all of them
as they are.  So the stage of a delivery tells which event has brought it there, and what was found then.
-/

namespace ClusterSurvey

namespace Collector

variable {c c' : Collector} {e : Event}

/-! ### Events and deliveries -/

/-- The delivery that an event opens, or on which it acts. -/
def subject? (c : Collector) : Event → Option Nat
  | .openResult .. => some c.deliveries.length
  | .write id _ | .breakOff id _ | .cancel id | .commit id | .record id => some id
  | .beginWait _ | .setStop .. | .endWait .. | .disturb _ => none

/-- How an event acts on a delivery. -/
inductive Acts (c : Collector) (id : Nat) (d : Delivery) : Event → Collector → Prop where
  | write (data : ByteArray) (writing : d.isWriting = true) (remote : d.isFailure = false) :
      Acts c id d (.write id data) (c.write id d data)
  | breakOff (text : String) (writing : d.isWriting = true) :
      Acts c id d (.breakOff id text)
        (c.giveUp id d (.ended (.error (c.persistence d.key (.body text)))))
  | cancel (writing : d.isWriting = true) : Acts c id d (.cancel id) (c.giveUp id d .cancelled)
  | abandon (committed : d.isCommitted = true) :
      Acts c id d (.cancel id) (c.setDelivery id { d with stage := .cancelled })
  | commit (writing : d.isWriting = true) : Acts c id d (.commit id) (c.commit id d)
  | record (committed : d.isCommitted = true) : Acts c id d (.record id) (c.record id d)

/-- What an event does to the deliveries. -/
inductive Does (c : Collector) : Event → Collector → Prop where
  | opened {key : ResultKey} {isFailure : Bool} {body : ByteArray} {mark : String} :
      Does c (.openResult key isFailure body mark) (c.openResult key isFailure body mark)
  | acted {e : Event} {c' : Collector} (id : Nat) (d : Delivery) (at_id : c.deliveries[id]? = some d)
      (acts : Acts c id d e c') : Does c e c'
  | other {e : Event} {c' : Collector} (same : c'.deliveries = c.deliveries)
      (unsubjected : c.subject? e = none) : Does c e c'

/-- Every event that can happen opens a delivery, acts on one, or leaves them as they are. -/
theorem does_of_step? (he : c.step? e = some c') : Does c e c' := by
  cases e with
  | openResult key isFailure body mark =>
    simp only [step?] at he
    split at he
    · cases he
      exact .opened
    · cases he
  | write id data =>
    simp only [step?] at he
    split at he
    · next d hd =>
      split at he
      · next hw =>
        cases he
        exact .acted id d hd (.write data hw.1 (by simpa using hw.2))
      · cases he
    · cases he
  | breakOff id text =>
    simp only [step?] at he
    split at he
    · next d hd =>
      split at he
      · next hw =>
        cases he
        exact .acted id d hd (.breakOff text hw)
      · cases he
    · cases he
  | cancel id =>
    simp only [step?] at he
    split at he
    · next d hd =>
      split at he
      · next hw =>
        cases he
        exact .acted id d hd (.cancel hw)
      · split at he
        · next hc =>
          cases he
          exact .acted id d hd (.abandon hc.1)
        · cases he
    · cases he
  | commit id =>
    simp only [step?] at he
    split at he
    · next d hd =>
      split at he
      · next hw =>
        cases he
        exact .acted id d hd (.commit hw)
      · cases he
    · cases he
  | record id =>
    simp only [step?] at he
    split at he
    · next d hd =>
      split at he
      · next hc =>
        cases he
        exact .acted id d hd (.record hc.1)
      · cases he
    · cases he
  | beginWait stop =>
    cases he
    exact .other rfl rfl
  | setStop i s =>
    simp only [step?] at he
    split at he
    · split at he
      · cases he
        exact .other rfl rfl
      · cases he
    · cases he
  | endWait i o =>
    simp only [step?] at he
    split at he
    · split at he
      · cases he
        exact .other rfl rfl
      · cases he
    · cases he
  | disturb tree =>
    cases he
    exact .other rfl rfl

namespace Acts

variable {id : Nat} {d : Delivery}

/-- Nothing acts on a delivery that has been answered or given up. -/
theorem isOpen (acts : Acts c id d e c') : d.isOpen = true := by
  cases acts with
  | write _ writing _ | breakOff _ writing | cancel writing | commit writing =>
    exact isOpen_of_isWriting writing
  | abandon committed | record committed => exact isOpen_of_isCommitted committed

/-- What an event acts on is its subject. -/
theorem subject (acts : Acts c id d e c') : c.subject? e = some id := by
  cases acts <;> rfl

end Acts

/-- Deliveries stay, and keep their keys. -/
theorem kept_move (m : Move c e c') {id : Nat} {d : Delivery} (hd : c.deliveries[id]? = some d) :
    ∃ d', c'.deliveries[id]? = some d' ∧ d'.key = d.key ∧ d'.isFailure = d.isFailure := by
  have changed {i : Nat} {x y : Delivery} (at_i : c.deliveries[i]? = some x) (key : y.key = x.key)
      (kind : y.isFailure = x.isFailure) :
      ∃ d', (c.deliveries.set i y)[id]? = some d' ∧ d'.key = d.key ∧ d'.isFailure = d.isFailure := by
    obtain ⟨-, hsame⟩ | ⟨-, rfl, hset⟩ := getElem?_set_of_some y hd at_i
    · exact ⟨d, hsame, rfl, rfl⟩
    · exact ⟨y, hset, key, kind⟩
  cases m with
  | answered outcome tree files => exact ⟨d, getElem?_append_left_of_some hd, rfl, rfl⟩
  | begun tree valid wanted free unused files =>
    exact ⟨d, getElem?_append_left_of_some hd, rfl, rfl⟩
  | wrote x tree at_id writing remote files => exact changed at_id rfl rfl
  | gaveUp i x stage at_id writing closed silent => exact changed at_id rfl rfl
  | committed x tree at_id writing moved => exact changed at_id rfl rfl
  | abandoned x at_id committed remote => exact changed at_id rfl rfl
  | repeated x at_id committed free remote received => exact changed at_id rfl rfl
  | counted x at_id committed free first => exact changed at_id rfl rfl
  | waited waits change => exact ⟨d, hd, rfl, rfl⟩
  | disturbed tree => exact ⟨d, hd, rfl, rfl⟩

/-- What is opened is added to the deliveries. -/
theorem opened_move {key : ResultKey} {isFailure : Bool} {body : ByteArray} {mark : String}
    (m : Move c (.openResult key isFailure body mark) c') :
    ∃ stage, c'.deliveries = c.deliveries ++ [⟨key, isFailure, body, mark, stage⟩] := by
  cases m with
  | answered outcome tree files => exact ⟨_, rfl⟩
  | begun tree valid wanted free unused files => exact ⟨_, rfl⟩
  | gaveUp i d stage at_id writing closed silent => exact absurd silent not_silent_openResult
  | waited waits change => exact absurd change.silent not_silent_openResult

/-- What is moved into place has the body that it had before. -/
theorem body_of_filing (m : Move c e c') {k : ResultKey} {id : Nat} (h : (k, id) ∈ c.filingOf e) :
    e = .commit id ∧ ∃ d d', c.deliveries[id]? = some d ∧ c'.deliveries[id]? = some d' ∧
      d'.body = d.body := by
  obtain ⟨rfl, d, tree, at_id, -, -, -, rfl⟩ := filing_inv m h
  exact ⟨rfl, d, _, at_id, getElem?_set_self_of_some at_id, rfl⟩

/-- A piece that is written is added to the body of its delivery. -/
theorem deliveries_write (c : Collector) (id : Nat) (d : Delivery) (data : ByteArray) :
    (c.write id d data).deliveries = c.deliveries.set id { d with body := d.body ++ data } := by
  unfold write
  dsimp only
  split <;> rfl

/-- A delivery that is recorded has been answered. -/
theorem deliveries_record (c : Collector) (id : Nat) (d : Delivery) :
    (c.record id d).deliveries = c.deliveries.set id { d with stage := .ended (.ok ()) } := by
  have hrelease (c : Collector) : (c.release id).deliveries = c.deliveries := by
    unfold release
    split <;> rfl
  unfold record
  dsimp only
  split <;> exact hrelease _

/-- Its file lies in place already. -/
theorem tree_record (c : Collector) (id : Nat) (d : Delivery) : (c.record id d).tree = c.tree := by
  have hrelease (c : Collector) : (c.release id).tree = c.tree := by
    unfold release
    split <;> rfl
  unfold record
  dsimp only
  split <;> exact hrelease _

/-- Only to a delivery on its way something happens. -/
theorem isOpen_of_subject (he : c.step? e = some c') {id : Nat} (subject : c.subject? e = some id)
    {d : Delivery} (hd : c.deliveries[id]? = some d) : d.isOpen = true := by
  cases does_of_step? he with
  | opened =>
    rw [← Option.some.inj subject, List.getElem?_eq_none (Nat.le_refl _)] at hd
    cases hd
  | acted i x at_i acts =>
    obtain rfl : i = id := Option.some.inj (acts.subject.symm.trans subject)
    obtain rfl : x = d := Option.some.inj (at_i.symm.trans hd)
    exact acts.isOpen
  | other same unsubjected =>
    rw [unsubjected] at subject
    cases subject

/-- A delivery to which something happens is there afterwards. -/
theorem delivery_of_subject (he : c.step? e = some c') {id : Nat} (subject : c.subject? e = some id) :
    ∃ d, c'.deliveries[id]? = some d := by
  have m := move_of_step? he
  cases does_of_step? he with
  | opened =>
    obtain ⟨stage, hopened⟩ := opened_move m
    rw [← Option.some.inj subject, hopened]
    exact ⟨_, List.getElem?_concat_length⟩
  | acted i x at_i acts =>
    obtain rfl : i = id := Option.some.inj (acts.subject.symm.trans subject)
    obtain ⟨d, hd, -⟩ := kept_move m at_i
    exact ⟨d, hd⟩
  | other same unsubjected =>
    rw [unsubjected] at subject
    cases subject

/-! ### How a delivery comes to its stage -/

/-- How an event brings a delivery to its stage. -/
inductive Enters (c : Collector) (e : Event) (id : Nat) (d : Delivery) : Prop where
  /-- Its body begins to be written. -/
  | writing (stage : d.stage = .writing)
  /-- It is moved into place. -/
  | filed (stage : d.stage = .committed) (moved : (d.key, id) ∈ c.filingOf e)
  /-- It is recorded. -/
  | recorded (stage : d.stage = .ended (.ok ())) (before : Delivery)
      (at_id : c.deliveries[id]? = some before) (committed : before.isCommitted = true)
      (key : before.key = d.key) (record : (d.key, d.isFailure) ∈ c.recordOf e)
  /-- It is a failure of a key that has been received. -/
  | ignored (stage : d.stage = .ended (.ok ())) (failure : d.isFailure = true)
  /-- Its sender has gone away. -/
  | cancelled (stage : d.stage = .cancelled)
  /-- It could not be filed. -/
  | lost (path : String) (cause : StorageCause)
      (stage : d.stage = .ended (.error (.persistence path cause)))
  /-- Its key is not valid. -/
  | invalid (reason : String) (stage : d.stage = .ended (.error (.invalidKey reason)))
      (bad : d.key.isValid = false)
  /-- Its key is not expected. -/
  | unexpected (stage : d.stage = .ended (.error (.unexpected d.key)))
      (foreign : c.ledger.receipt? d.key = none)

private theorem beginWriting_enters (c : Collector) (key : ResultKey) (isFailure : Bool)
    (body : ByteArray) (mark : String) :
    ∃ d, (c.beginWriting key isFailure body mark).deliveries = c.deliveries ++ [d] ∧
      Enters c (.openResult key isFailure body mark) c.deliveries.length d := by
  unfold beginWriting
  split
  · exact ⟨_, rfl, .writing rfl⟩
  · dsimp only
    split <;> exact ⟨_, rfl, .lost _ _ rfl⟩

private theorem openResult_enters (c : Collector) (key : ResultKey) (isFailure : Bool)
    (body : ByteArray) (mark : String) :
    ∃ d, (c.openResult key isFailure body mark).deliveries = c.deliveries ++ [d] ∧
      Enters c (.openResult key isFailure body mark) c.deliveries.length d := by
  unfold openResult
  split
  · next e he => exact ⟨_, rfl, .invalid _ rfl (ResultKey.isValid_of_check_eq_error he)⟩
  · split
    · next hr => exact ⟨_, rfl, .unexpected rfl hr⟩
    · split
      · next hf => exact ⟨_, rfl, .ignored rfl hf⟩
      · exact beginWriting_enters c key isFailure body mark
    · exact beginWriting_enters c key isFailure body mark

private theorem commit_enters {id : Nat} {d : Delivery} (at_id : c.deliveries[id]? = some d) :
    ∃ x, (c.commit id d).deliveries = c.deliveries.set id x ∧ Enters c (.commit id) id x := by
  unfold commit
  split
  · next t ht =>
    refine ⟨_, rfl, .filed rfl ?_⟩
    rw [filingOf_commit at_id ht]
    exact List.mem_singleton.mpr rfl
  · rw [giveUp_eq]
    exact ⟨_, rfl, .lost _ _ rfl⟩

private theorem Acts.enters {id : Nat} {d : Delivery} (acts : Acts c id d e c')
    (at_id : c.deliveries[id]? = some d) :
    ∃ x, c'.deliveries = c.deliveries.set id x ∧
      (x.key = d.key ∧ x.isFailure = d.isFailure ∧ x.stage = d.stage ∨ Enters c e id x) := by
  cases acts with
  | write data writing remote => exact ⟨_, deliveries_write c id d data, .inl ⟨rfl, rfl, rfl⟩⟩
  | breakOff text writing =>
    rw [giveUp_eq]
    exact ⟨_, rfl, .inr (.lost _ _ rfl)⟩
  | cancel writing =>
    rw [giveUp_eq]
    exact ⟨_, rfl, .inr (.cancelled rfl)⟩
  | abandon committed => exact ⟨_, rfl, .inr (.cancelled rfl)⟩
  | commit writing =>
    obtain ⟨x, hx, enters⟩ := commit_enters at_id
    exact ⟨x, hx, .inr enters⟩
  | record committed =>
    refine ⟨_, deliveries_record c id d, .inr (.recorded rfl d at_id committed rfl ?_)⟩
    rw [recordOf_record at_id]
    exact List.mem_singleton.mpr rfl

/-- A delivery is in the stage in which it was, or an event has brought it there. -/
theorem stage_step (he : c.step? e = some c') {id : Nat} {d : Delivery}
    (hd : c'.deliveries[id]? = some d) :
    (∃ before, c.deliveries[id]? = some before ∧ before.key = d.key ∧
        before.isFailure = d.isFailure ∧ before.stage = d.stage) ∨ Enters c e id d := by
  cases does_of_step? he with
  | @opened key isFailure body mark =>
    obtain ⟨x, hx, enters⟩ := openResult_enters c key isFailure body mark
    rw [hx] at hd
    obtain hd | ⟨rfl, rfl⟩ := getElem?_concat hd
    · exact .inl ⟨d, hd, rfl, rfl, rfl⟩
    · exact .inr enters
  | acted i y at_i acts =>
    obtain ⟨x, hx, hstage⟩ := acts.enters at_i
    rw [hx] at hd
    obtain ⟨-, hd⟩ | ⟨rfl, rfl⟩ := getElem?_set hd
    · exact .inl ⟨d, hd, rfl, rfl, rfl⟩
    · exact hstage.imp_left fun ⟨key, kind, stage⟩ => ⟨y, at_i, key.symm, kind.symm, stage.symm⟩
  | other same unsubjected =>
    rw [same] at hd
    exact .inl ⟨d, hd, rfl, rfl, rfl⟩

end Collector

end ClusterSurvey
