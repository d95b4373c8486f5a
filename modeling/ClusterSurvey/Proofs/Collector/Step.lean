import ClusterSurvey.Collection.Collector

/-!
# What an event does to a collector

An event at a collector changes one delivery, the tree beside it, and the ledger only when a result is
recorded.  `Collector.Move` lists what can happen, with everything that is known when it does, so that
an invariant is shown by one case for each way in which a state can change.
-/

namespace ClusterSurvey

namespace Delivery

/-- Whether a delivery is on its way: its body is being written, or it lies in place and is not
recorded yet. -/
def isOpen (d : Delivery) : Bool := d.isWriting || d.isCommitted

end Delivery

namespace Collector

/-- What an event adds to the records: the key of a delivery and whether it was a failure. -/
def recordOf (c : Collector) : Event → List (ResultKey × Bool)
  | .record id => (c.deliveries[id]?.map fun d => (d.key, d.isFailure)).toList
  | _ => []

/-- What an event moves into place: the key of a delivery, and which one it is. -/
def filingOf (c : Collector) : Event → List (ResultKey × Nat)
  | .commit id =>
    match c.deliveries[id]? with
    | some d => if (c.tree.rename d.scratch d.key.place).isOk then [(d.key, id)] else []
    | none => []
  | _ => []

/-- What an event adds to the body of a delivery. -/
def pieceOf (id : Nat) (c : Collector) : Event → List ByteArray
  | .openResult _ _ body _ => if id = c.deliveries.length then [body] else []
  | .write i data => if id = i then [data] else []
  | _ => []

/-- An event that brings nothing, moves nothing into place and records nothing. -/
structure Silent (c : Collector) (e : Event) : Prop where
  records : c.recordOf e = []
  filings : c.filingOf e = []
  pieces : ∀ id, pieceOf id c e = []

/-- What the record of a delivery adds. -/
theorem recordOf_record {c : Collector} {id : Nat} {d : Delivery}
    (at_id : c.deliveries[id]? = some d) :
    c.recordOf (.record id) = [(d.key, d.isFailure)] := by
  simp only [recordOf, at_id]
  rfl

/-- What an event adds to the records is one of the deliveries. -/
theorem delivery_of_mem_recordOf {c : Collector} {e : Event} {k : ResultKey} {b : Bool}
    (h : (k, b) ∈ c.recordOf e) :
    ∃ (id : Nat) (d : Delivery), c.deliveries[id]? = some d ∧ d.key = k ∧ d.isFailure = b := by
  cases e with
  | record id =>
    cases hd : c.deliveries[id]? with
    | none => simp [recordOf, hd] at h
    | some d =>
      rw [recordOf_record hd, List.mem_singleton, Prod.mk.injEq] at h
      exact ⟨id, d, hd, h.1.symm, h.2.symm⟩
  | _ => cases h

/-- What a successful commit moves into place. -/
theorem filingOf_commit {c : Collector} {id : Nat} {d : Delivery} {t : Tree}
    (at_id : c.deliveries[id]? = some d) (moved : c.tree.rename d.scratch d.key.place = .ok t) :
    c.filingOf (.commit id) = [(d.key, id)] := by
  simp only [filingOf, at_id, moved]
  rfl

/-- The delivery that holds the ledger once this one has let go of it. -/
def holderWithout (c : Collector) (id : Nat) : Option Nat :=
  if c.holder = some id then none else c.holder

/-- What an event makes of the waits. -/
inductive WaitMove (c : Collector) : Event → List Wait → Prop where
  /-- Another wait begins. -/
  | begun {stop} : WaitMove c (.beginWait stop) (c.beginWait stop).waits
  /-- The signal of a wait is fired or dropped. -/
  | signalled {i s} : WaitMove c (.setStop i s) (c.setStop i s).waits
  /-- A wait ends. -/
  | ended {i o} (w : Wait) (at_i : c.waits[i]? = some w) (unanswered : w.answer = none)
      (may : c.mayEnd w o = true) :
      WaitMove c (.endWait i o) (c.endWait i o).waits

/-- Whatever happens to a wait is silent. -/
theorem WaitMove.silent {c : Collector} {e : Event} {waits : List Wait} (m : WaitMove c e waits) :
    c.Silent e := by
  cases m <;> exact ⟨rfl, rfl, fun _ => rfl⟩

/-- A state that an event makes of a state. -/
inductive Move (c : Collector) : Event → Collector → Prop where
  /-- A result is answered when it comes.  At most its directory is made. -/
  | answered {key isFailure body mark} (outcome : Except CollectError Unit) (tree : Tree)
      (files : ∀ p, tree.content? p = c.tree.content? p) :
      Move c (.openResult key isFailure body mark)
        { c with
          tree := tree
          deliveries := c.deliveries ++ [⟨key, isFailure, body, mark, .ended outcome⟩] }
  /-- The body of a result begins to be written. -/
  | begun {key isFailure body mark} (tree : Tree) (valid : key.isValid = true)
      (wanted : c.wants key isFailure = true) (free : c.holder = none)
      (unused : c.tree.get? (key.scratchPlace mark) = none)
      (files : ∀ p, tree.content? p =
        if p = key.scratchPlace mark then some body else c.tree.content? p) :
      Move c (.openResult key isFailure body mark)
        { c with
          tree := tree
          deliveries := c.deliveries ++ [⟨key, isFailure, body, mark, .writing⟩]
          holder := if isFailure then some c.deliveries.length else c.holder }
  /-- A piece of a body is written. -/
  | wrote {id data} (d : Delivery) (tree : Tree) (at_id : c.deliveries[id]? = some d)
      (writing : d.isWriting = true) (remote : d.isFailure = false)
      (files : ∀ p, tree.content? p =
        if p = d.scratch then (c.tree.content? p).map fun _ => d.body ++ data
        else c.tree.content? p) :
      Move c (.write id data)
        { c with
          tree := tree
          deliveries := c.deliveries.set id { d with body := d.body ++ data } }
  /-- A delivery whose body is being written is given up. -/
  | gaveUp {e} (id : Nat) (d : Delivery) (stage : Stage) (at_id : c.deliveries[id]? = some d)
      (writing : d.isWriting = true)
      (closed : (stage = .cancelled ∧ e = .cancel id) ∨ ∃ err, stage = .ended (.error err))
      (silent : c.Silent e) :
      Move c e
        { c with
          tree := c.tree.erase d.scratch
          deliveries := c.deliveries.set id { d with stage := stage }
          holder := c.holderWithout id }
  /-- A body is complete and is moved into place. -/
  | committed {id} (d : Delivery) (tree : Tree) (at_id : c.deliveries[id]? = some d)
      (writing : d.isWriting = true) (moved : c.tree.rename d.scratch d.key.place = .ok tree) :
      Move c (.commit id)
        { c with
          tree := tree
          deliveries := c.deliveries.set id { d with stage := .committed } }
  /-- A delivery that lies in place is cancelled before it is recorded. -/
  | abandoned {id} (d : Delivery) (at_id : c.deliveries[id]? = some d)
      (committed : d.isCommitted = true) (remote : d.isFailure = false) :
      Move c (.cancel id)
        { c with deliveries := c.deliveries.set id { d with stage := .cancelled } }
  /-- A delivery is recorded for a key that has come before, and is not counted. -/
  | repeated {id} (d : Delivery) (at_id : c.deliveries[id]? = some d)
      (committed : d.isCommitted = true) (free : c.holder = none ∨ c.holder = some id)
      (remote : d.isFailure = false) (received : c.ledger.receipt? d.key = some .received) :
      Move c (.record id)
        { c with
          deliveries := c.deliveries.set id { d with stage := .ended (.ok ()) }
          holder := c.holderWithout id }
  /-- A delivery is recorded and counted. -/
  | counted {id} (d : Delivery) (at_id : c.deliveries[id]? = some d)
      (committed : d.isCommitted = true) (free : c.holder = none ∨ c.holder = some id)
      (first : d.isFailure = true ∨ c.ledger.receipt? d.key ≠ some .received) :
      Move c (.record id)
        { c with
          ledger := c.ledger.record d.key (if d.isFailure then .failed else .complete)
          announced := (c.ledger.record d.key (if d.isFailure then .failed else .complete)).outstanding
          deliveries := c.deliveries.set id { d with stage := .ended (.ok ()) }
          holder := c.holderWithout id }
  /-- Something happens to a wait. -/
  | waited {e} (waits : List Wait) (change : WaitMove c e waits) :
      Move c e { c with waits := waits }
  /-- Somebody else changes the tree. -/
  | disturbed (tree : Tree) : Move c (.disturb tree) { c with tree := tree }

private theorem makeScratch_ok {c : Collector} {key : ResultKey} {mark : String} {body : ByteArray}
    {t : Tree} (h : c.makeScratch key mark body = .ok t) (p : Place) :
    t.content? p = if p = key.scratchPlace mark then some body else c.tree.content? p := by
  unfold makeScratch at h
  split at h
  · cases h
  · next u hu =>
    split at h
    · cases h
    · next v hv =>
      cases h
      rw [Tree.content?_writeFile hv, Tree.content?_makeDirectories hu]

private theorem beginWriting_move {c : Collector} {key : ResultKey} {isFailure : Bool}
    {body : ByteArray} {mark : String} (valid : key.isValid = true)
    (wanted : c.wants key isFailure = true) (may : c.mayOpen key isFailure mark = true) :
    Move c (.openResult key isFailure body mark) (c.beginWriting key isFailure body mark) := by
  obtain ⟨free, -, unused⟩ : c.holder = none ∧ mark.utf8ByteSize = 6 ∧
      c.tree.get? (key.scratchPlace mark) = none := by
    simpa [mayOpen, valid, wanted, markIsFree] using may
  unfold beginWriting
  split
  · next t ht => exact .begun t valid wanted free unused (makeScratch_ok ht)
  · dsimp only [answerAtOnce]
    split
    · next t ht => exact .answered _ t (Tree.content?_makeDirectories ht)
    · exact .answered _ c.tree fun _ => rfl

private theorem isValid_of_check {key : ResultKey} (h : key.check = .ok ()) : key.isValid = true :=
  key.check_eq_ok_iff.mp h

private theorem openResult_move {c : Collector} {key : ResultKey} {isFailure : Bool}
    {body : ByteArray} {mark : String} (may : c.mayOpen key isFailure mark = true) :
    Move c (.openResult key isFailure body mark) (c.openResult key isFailure body mark) := by
  unfold openResult
  split
  · exact .answered _ c.tree fun _ => rfl
  · next hvalid =>
    have valid := isValid_of_check hvalid
    split
    · exact .answered _ c.tree fun _ => rfl
    · next hr =>
      split
      · exact .answered _ c.tree fun _ => rfl
      · next hf => exact beginWriting_move valid (by simp [wants, hr, hf]) may
    · next hr => exact beginWriting_move valid (by simp [wants, hr]) may

private theorem write_move {c : Collector} {id : Nat} {d : Delivery} {data : ByteArray}
    (at_id : c.deliveries[id]? = some d) (writing : d.isWriting = true)
    (remote : d.isFailure = false) : Move c (.write id data) (c.write id d data) := by
  by_cases hs : (c.tree.content? d.scratch).isSome = true
  · have heq : c.write id d data =
        { c with
          tree := c.tree.set d.scratch (.file (d.body ++ data))
          deliveries := c.deliveries.set id { d with body := d.body ++ data } } := if_pos hs
    rw [heq]
    refine .wrote d _ at_id writing remote fun p => ?_
    by_cases hp : p = d.scratch
    · subst hp
      obtain ⟨b, hb⟩ := Option.isSome_iff_exists.mp hs
      simp [hb, Tree.content?_set_self]
    · simp [hp, Tree.content?_set_of_ne]
  · have heq : c.write id d data =
        { c with deliveries := c.deliveries.set id { d with body := d.body ++ data } } := if_neg hs
    rw [heq]
    refine .wrote d c.tree at_id writing remote fun p => ?_
    by_cases hp : p = d.scratch
    · subst hp
      have hnone : c.tree.content? d.scratch = none := by simpa using hs
      simp [hnone]
    · simp [hp]

/-- A delivery that is changed lets go of the ledger. -/
theorem release_setDelivery (c : Collector) (id : Nat) (d : Delivery) :
    (c.setDelivery id d).release id =
      { c with
        deliveries := c.deliveries.set id d
        holder := c.holderWithout id } := by
  unfold release setDelivery holderWithout
  dsimp only
  split <;> rfl

/-- What is left of a delivery that is given up. -/
theorem giveUp_eq (c : Collector) (id : Nat) (d : Delivery) (stage : Stage) :
    c.giveUp id d stage =
      { c with
        tree := c.tree.erase d.scratch
        deliveries := c.deliveries.set id { d with stage := stage }
        holder := c.holderWithout id } := by
  rw [giveUp, release_setDelivery]

private theorem commit_move {c : Collector} {id : Nat} {d : Delivery}
    (at_id : c.deliveries[id]? = some d) (writing : d.isWriting = true) :
    Move c (.commit id) (c.commit id d) := by
  unfold commit
  split
  · next t ht => exact .committed d t at_id writing ht
  · next f hf =>
    rw [giveUp_eq]
    refine .gaveUp id d _ at_id writing (.inr ⟨_, rfl⟩) ⟨rfl, ?_, fun _ => rfl⟩
    simp only [filingOf, at_id, hf]
    rfl

private theorem record_move {c : Collector} {id : Nat} {d : Delivery}
    (at_id : c.deliveries[id]? = some d) (committed : d.isCommitted = true)
    (free : c.holder = none ∨ c.holder = some id) : Move c (.record id) (c.record id d) := by
  rw [record, release_setDelivery]
  dsimp only
  split
  · next h =>
    exact .repeated d at_id committed free (by simpa using h.1) h.2
  · next h =>
    refine .counted d at_id committed free ?_
    by_cases hf : d.isFailure = true
    · exact .inl hf
    · refine .inr fun hr => h ⟨by simpa using hf, hr⟩

/-- Every event that can happen is one of the moves. -/
theorem move_of_step? {c c' : Collector} {e : Event} (h : c.step? e = some c') : Move c e c' := by
  cases e with
  | openResult key isFailure body mark =>
    simp only [step?] at h
    split at h
    · next may =>
      cases h
      exact openResult_move may
    · cases h
  | write id data =>
    simp only [step?] at h
    split at h
    · next d hd =>
      split at h
      · next hw =>
        cases h
        exact write_move hd hw.1 (by simpa using hw.2)
      · cases h
    · cases h
  | breakOff id text =>
    simp only [step?] at h
    split at h
    · next d hd =>
      split at h
      · next hw =>
        cases h
        rw [giveUp_eq]
        exact .gaveUp id d _ hd hw (.inr ⟨_, rfl⟩) ⟨rfl, rfl, fun _ => rfl⟩
      · cases h
    · cases h
  | cancel id =>
    simp only [step?] at h
    split at h
    · next d hd =>
      split at h
      · next hw =>
        cases h
        rw [giveUp_eq]
        exact .gaveUp id d _ hd hw (.inl ⟨rfl, rfl⟩) ⟨rfl, rfl, fun _ => rfl⟩
      · split at h
        · next hc =>
          cases h
          exact .abandoned d hd hc.1 (by simpa using hc.2)
        · cases h
    · cases h
  | commit id =>
    simp only [step?] at h
    split at h
    · next d hd =>
      split at h
      · next hw =>
        cases h
        exact commit_move hd hw
      · cases h
    · cases h
  | record id =>
    simp only [step?] at h
    split at h
    · next d hd =>
      split at h
      · next hc =>
        cases h
        exact record_move hd hc.1 hc.2
      · cases h
    · cases h
  | beginWait stop =>
    cases h
    exact .waited _ .begun
  | setStop i s =>
    simp only [step?] at h
    split at h
    · split at h
      · cases h
        exact .waited _ .signalled
      · cases h
    · cases h
  | endWait i o =>
    simp only [step?] at h
    split at h
    · next w hw =>
      split at h
      · next hend =>
        cases h
        exact .waited _ (.ended w hw (by simpa using hend.1) hend.2)
      · cases h
    · cases h
  | disturb tree =>
    cases h
    exact .disturbed tree

/-! ### Deliveries after an event -/

/-- A delivery whose body is being written is on its way. -/
theorem isOpen_of_isWriting {d : Delivery} (h : d.isWriting = true) : d.isOpen = true := by
  simp [Delivery.isOpen, h]

/-- A delivery that lies in place and is not recorded is on its way. -/
theorem isOpen_of_isCommitted {d : Delivery} (h : d.isCommitted = true) : d.isOpen = true := by
  simp [Delivery.isOpen, h]

/-- Its body is no more written. -/
theorem isWriting_of_isCommitted {d : Delivery} (h : d.isCommitted = true) :
    d.isWriting = false := by
  unfold Delivery.isCommitted at h
  split at h
  · next hs => rw [Delivery.isWriting, hs]
  · cases h

/-- A delivery of a list to which another one has been added. -/
theorem getElem?_concat {ds : List Delivery} {d d' : Delivery} {id : Nat}
    (h : (ds ++ [d])[id]? = some d') : ds[id]? = some d' ∨ (id = ds.length ∧ d' = d) := by
  rcases Nat.lt_or_ge id ds.length with hlt | hge
  · left
    rwa [List.getElem?_append_left hlt] at h
  · right
    rw [List.getElem?_append_right hge] at h
    obtain ⟨hid, hd⟩ := List.getElem?_eq_some_iff.mp h
    have hzero : id - ds.length = 0 := by
      rw [List.length_singleton] at hid
      omega
    simp only [hzero, List.getElem_singleton] at hd
    exact ⟨by omega, hd.symm⟩

/-- A delivery of a list in which another one has been changed. -/
theorem getElem?_set {ds : List Delivery} {d d' : Delivery} {i id : Nat}
    (h : (ds.set i d)[id]? = some d') : (id ≠ i ∧ ds[id]? = some d') ∨ (id = i ∧ d' = d) := by
  by_cases hid : id = i
  · right
    subst hid
    obtain ⟨hlt, hd⟩ := List.getElem?_eq_some_iff.mp h
    rw [List.getElem_set_self] at hd
    exact ⟨rfl, hd.symm⟩
  · left
    rw [List.getElem?_set_ne (Ne.symm hid)] at h
    exact ⟨hid, h⟩

/-- A delivery with a property that the changed one has lost is another one. -/
theorem getElem?_set_of_lost (p : Delivery → Bool) {ds : List Delivery} {d d' : Delivery} {i id : Nat}
    (lost : p d = false) (h : (ds.set i d)[id]? = some d') (hp : p d' = true) :
    id ≠ i ∧ ds[id]? = some d' := by
  obtain hne | ⟨-, rfl⟩ := getElem?_set h
  · exact hne
  · rw [lost] at hp
    cases hp

/-- A delivery of a list is still there when another one has been added. -/
theorem getElem?_append_left_of_some {ds : List Delivery} {d x : Delivery} {id : Nat}
    (h : ds[id]? = some d) : (ds ++ [x])[id]? = some d := by
  rw [List.getElem?_append_left (List.getElem?_eq_some_iff.mp h).1, h]

/-- A delivery that has been changed stands where it stood. -/
theorem getElem?_set_self_of_some {ds : List Delivery} {d x : Delivery} {id : Nat}
    (h : ds[id]? = some d) : (ds.set id x)[id]? = some x :=
  List.getElem?_set_self (List.getElem?_eq_some_iff.mp h).1

/-- A delivery after a change is the same, or it is the changed one. -/
theorem getElem?_set_of_some {ds : List Delivery} {d y : Delivery} {i id : Nat} (x : Delivery)
    (hd : ds[id]? = some d) (hy : ds[i]? = some y) :
    (id ≠ i ∧ (ds.set i x)[id]? = some d) ∨ (id = i ∧ d = y ∧ (ds.set i x)[id]? = some x) := by
  by_cases hid : id = i
  · subst hid
    exact .inr ⟨rfl, Option.some.inj (hd.symm.trans hy), getElem?_set_self_of_some hd⟩
  · exact .inl ⟨hid, by rw [List.getElem?_set_ne (Ne.symm hid), hd]⟩

/-! ### What an event keeps -/

variable {c c' : Collector} {e : Event}

/-- A step that can happen is made. -/
theorem step_eq (he : c.step? e = some c') : c.step e = c' := by
  rw [step, he, Option.getD_some]

/-- A step that cannot happen leaves everything as it is. -/
theorem step_eq_self (he : c.step? e = none) : c.step e = c := by
  rw [step, he, Option.getD_none]

/-- The waits change only by what happens to them. -/
theorem waits_move (m : Move c e c') : c'.waits = c.waits ∨ WaitMove c e c'.waits := by
  cases m with
  | waited waits change => exact .inr change
  | _ => exact .inl rfl

/-- Every delivery was opened once and keeps its key and its kind. -/
theorem delivery_move (m : Move c e c') {id : Nat} {d' : Delivery}
    (hd' : c'.deliveries[id]? = some d') :
    (∃ d, c.deliveries[id]? = some d ∧ d.key = d'.key ∧ d.isFailure = d'.isFailure) ∨
      ∃ body mark, e = .openResult d'.key d'.isFailure body mark := by
  have unchanged (hd : c.deliveries[id]? = some d') :
      ∃ d, c.deliveries[id]? = some d ∧ d.key = d'.key ∧ d.isFailure = d'.isFailure :=
    ⟨d', hd, rfl, rfl⟩
  have changed {i : Nat} {d x : Delivery} (at_i : c.deliveries[i]? = some d)
      (hx : (c.deliveries.set i x)[id]? = some d') (key : x.key = d.key)
      (kind : x.isFailure = d.isFailure) :
      ∃ d, c.deliveries[id]? = some d ∧ d.key = d'.key ∧ d.isFailure = d'.isFailure := by
    obtain ⟨-, hd⟩ | ⟨rfl, rfl⟩ := getElem?_set hx
    · exact unchanged hd
    · exact ⟨d, at_i, key.symm, kind.symm⟩
  cases m with
  | answered outcome tree files =>
    obtain hd | ⟨-, rfl⟩ := getElem?_concat hd'
    · exact .inl (unchanged hd)
    · exact .inr ⟨_, _, rfl⟩
  | begun tree valid wanted free unused files =>
    obtain hd | ⟨-, rfl⟩ := getElem?_concat hd'
    · exact .inl (unchanged hd)
    · exact .inr ⟨_, _, rfl⟩
  | wrote d tree at_id writing remote files => exact .inl (changed at_id hd' rfl rfl)
  | gaveUp i d stage at_id writing closed silent => exact .inl (changed at_id hd' rfl rfl)
  | committed d tree at_id writing moved => exact .inl (changed at_id hd' rfl rfl)
  | abandoned d at_id committed remote => exact .inl (changed at_id hd' rfl rfl)
  | repeated d at_id committed free remote received => exact .inl (changed at_id hd' rfl rfl)
  | counted d at_id committed free first => exact .inl (changed at_id hd' rfl rfl)
  | waited waits change => exact .inl (unchanged hd')
  | disturbed tree => exact .inl (unchanged hd')

/-- The opening of a delivery does not go unnoticed. -/
theorem not_silent_openResult {key : ResultKey} {isFailure : Bool} {body : ByteArray} {mark : String} :
    ¬ c.Silent (.openResult key isFailure body mark) := by
  intro silent
  have hpieces := silent.pieces c.deliveries.length
  simp [pieceOf] at hpieces

/-- A result that comes is on its way or answered. -/
theorem openResult_move_deliveries {key : ResultKey} {isFailure : Bool} {body : ByteArray}
    {mark : String} (m : Move c (.openResult key isFailure body mark) c') :
    ∃ d, c'.deliveries = c.deliveries ++ [d] ∧ d.key = key ∧ d.isFailure = isFailure ∧
      (d.isOpen = true ∨ d.outcome?.isSome = true) := by
  cases m with
  | answered outcome tree files => exact ⟨_, rfl, rfl, rfl, .inr rfl⟩
  | begun tree valid wanted free unused files => exact ⟨_, rfl, rfl, rfl, .inl rfl⟩
  | gaveUp i d stage at_id writing closed silent => exact absurd silent not_silent_openResult
  | waited waits change => exact absurd change.silent not_silent_openResult

/-- A failure stays on its way until it is answered, unless it is cancelled. -/
theorem failure_move (m : Move c e c') {id : Nat} {d : Delivery}
    (hd : c.deliveries[id]? = some d) (hf : d.isFailure = true)
    (alive : d.isOpen = true ∨ d.outcome?.isSome = true) (kept : e ≠ .cancel id) :
    ∃ d', c'.deliveries[id]? = some d' ∧ d'.isFailure = true ∧
      (d'.isOpen = true ∨ d'.outcome?.isSome = true) := by
  have remote_ne {i : Nat} {x : Delivery} (at_i : c.deliveries[i]? = some x)
      (remote : x.isFailure = false) : i ≠ id := by
    rintro rfl
    obtain rfl : d = x := Option.some.inj (hd.symm.trans at_i)
    rw [hf] at remote
    cases remote
  have elsewhere {i : Nat} (x : Delivery) (hid : i ≠ id) :
      (c.deliveries.set i x)[id]? = some d := by
    rw [List.getElem?_set_ne hid, hd]
  cases m with
  | answered outcome tree files => exact ⟨d, getElem?_append_left_of_some hd, hf, alive⟩
  | begun tree valid wanted free unused files =>
    exact ⟨d, getElem?_append_left_of_some hd, hf, alive⟩
  | wrote x tree at_id writing remote files =>
    exact ⟨d, elsewhere _ (remote_ne at_id remote), hf, alive⟩
  | gaveUp i x stage at_id writing closed silent =>
    obtain ⟨-, hsame⟩ | ⟨rfl, rfl, hset⟩ := getElem?_set_of_some { x with stage := stage } hd at_id
    · exact ⟨d, hsame, hf, alive⟩
    · rcases closed with ⟨-, hcancel⟩ | ⟨err, rfl⟩
      · exact absurd hcancel kept
      · exact ⟨_, hset, hf, .inr rfl⟩
  | committed x tree at_id writing moved =>
    obtain ⟨-, hsame⟩ | ⟨rfl, rfl, hset⟩ :=
      getElem?_set_of_some { x with stage := .committed } hd at_id
    · exact ⟨d, hsame, hf, alive⟩
    · exact ⟨_, hset, hf, .inl rfl⟩
  | abandoned x at_id committed remote =>
    exact ⟨d, elsewhere _ (remote_ne at_id remote), hf, alive⟩
  | repeated x at_id committed free remote received =>
    exact ⟨d, elsewhere _ (remote_ne at_id remote), hf, alive⟩
  | counted x at_id committed free first =>
    obtain ⟨-, hsame⟩ | ⟨rfl, rfl, hset⟩ :=
      getElem?_set_of_some { x with stage := .ended (.ok ()) } hd at_id
    · exact ⟨d, hsame, hf, alive⟩
    · exact ⟨_, hset, hf, .inr rfl⟩
  | waited waits change => exact ⟨d, hd, hf, alive⟩
  | disturbed tree => exact ⟨d, hd, hf, alive⟩

/-- What an event moves into place is the file of a delivery whose body has been written so far. -/
theorem filing_inv (m : Move c e c') {k : ResultKey} {id : Nat} (h : (k, id) ∈ c.filingOf e) :
    e = .commit id ∧ ∃ d tree, c.deliveries[id]? = some d ∧ d.key = k ∧ d.isWriting = true ∧
      c.tree.rename d.scratch d.key.place = .ok tree ∧
      c' =
        { c with
          tree := tree
          deliveries := c.deliveries.set id { d with stage := .committed } } := by
  cases m with
  | committed d tree at_id writing moved =>
    rw [filingOf_commit at_id moved] at h
    obtain ⟨rfl, rfl⟩ := Prod.mk.inj (List.mem_singleton.mp h)
    exact ⟨rfl, d, tree, at_id, rfl, writing, moved, rfl⟩
  | gaveUp i d stage at_id writing closed silent =>
    rw [silent.filings] at h
    cases h
  | waited waits change =>
    rw [change.silent.filings] at h
    cases h
  | _ => cases h

/-- Whoever holds the ledger is a failure on its way. -/
def HeldByFailure (c : Collector) : Prop :=
  ∀ id, c.holder = some id →
    ∃ d, c.deliveries[id]? = some d ∧ d.isOpen = true ∧ d.isFailure = true

private theorem holder_of_holderWithout {i id : Nat} (h : c.holderWithout i = some id) :
    c.holder = some id ∧ id ≠ i := by
  unfold holderWithout at h
  split at h
  · cases h
  · next hne =>
    refine ⟨h, ?_⟩
    rintro rfl
    exact hne h

/-- Every event leaves the ledger with failures only. -/
theorem heldByFailure_move (h : HeldByFailure c) (m : Move c e c') : HeldByFailure c' := by
  have elsewhere {i id : Nat} (x : Delivery) (hh : c.holder = some id) (hid : id ≠ i) :
      ∃ d, (c.deliveries.set i x)[id]? = some d ∧ d.isOpen = true ∧ d.isFailure = true := by
    obtain ⟨d, hd, ho, hf⟩ := h id hh
    exact ⟨d, by rw [List.getElem?_set_ne (Ne.symm hid), hd], ho, hf⟩
  have remote_ne {i id : Nat} {x : Delivery} (hh : c.holder = some id)
      (at_i : c.deliveries[i]? = some x) (remote : x.isFailure = false) : id ≠ i := by
    rintro rfl
    obtain ⟨d, hd, -, hf⟩ := h id hh
    obtain rfl : d = x := Option.some.inj (hd.symm.trans at_i)
    rw [hf] at remote
    cases remote
  intro id hid
  cases m with
  | answered outcome tree files =>
    obtain ⟨d, hd, ho, hf⟩ := h id hid
    exact ⟨d, getElem?_append_left_of_some hd, ho, hf⟩
  | @begun key isFailure body mark tree valid wanted free unused files =>
    cases isFailure with
    | true =>
      obtain rfl := Option.some.inj hid
      exact ⟨_, List.getElem?_concat_length, rfl, rfl⟩
    | false =>
      obtain ⟨d, hd, ho, hf⟩ := h id hid
      exact ⟨d, getElem?_append_left_of_some hd, ho, hf⟩
  | wrote x tree at_id writing remote files =>
    exact elsewhere _ hid (remote_ne hid at_id remote)
  | gaveUp i x stage at_id writing closed silent =>
    obtain ⟨hh, hne⟩ := holder_of_holderWithout hid
    exact elsewhere _ hh hne
  | committed x tree at_id writing moved =>
    obtain ⟨d, hd, ho, hf⟩ := h id hid
    obtain ⟨-, hsame⟩ | ⟨rfl, rfl, hset⟩ :=
      getElem?_set_of_some { x with stage := .committed } hd at_id
    · exact ⟨d, hsame, ho, hf⟩
    · exact ⟨_, hset, rfl, hf⟩
  | abandoned x at_id committed remote => exact elsewhere _ hid (remote_ne hid at_id remote)
  | repeated x at_id committed free remote received =>
    obtain ⟨hh, hne⟩ := holder_of_holderWithout hid
    exact elsewhere _ hh hne
  | counted x at_id committed free first =>
    obtain ⟨hh, hne⟩ := holder_of_holderWithout hid
    exact elsewhere _ hh hne
  | waited waits change => exact h id hid
  | disturbed tree => exact h id hid

/-- In every run the ledger is held by failures on their way. -/
theorem heldByFailure_run {root : String} {expected : List ResultKey} {events : List Event}
    (h : (start root expected).run? events = some c) : HeldByFailure c := by
  refine Machine.run?_induction (P := fun _ c => HeldByFailure c) (fun id hid => ?_) ?_ h
  · cases hid
  · intro es s e s' _ ih he
    exact heldByFailure_move ih (move_of_step? he)

end Collector

end ClusterSurvey
