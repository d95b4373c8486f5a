import ClusterSurvey.Proofs.Collector.Deliveries
import ClusterSurvey.Proofs.Collector.Precedence

/-!
# What the answer to a delivery tells

A delivery that is answered with success has been filed and recorded, and its key is counted once, no
matter how often it is delivered.  One that is refused for its key belongs to a key that is not valid or
not expected, and no delivery of such a key changes anything.
-/

namespace ClusterSurvey

namespace Collector

variable {root : String} {expected : List ResultKey} {records : List (ResultKey × Bool)}
variable {filed : List (ResultKey × Nat)} {k : ResultKey}
variable {c c' : Collector} {e : Event} {events : List Event}

/-! ### Counting -/

/-- The key that an event counts: the one by whose record it leaves fewer results outstanding. -/
def countOf (c : Collector) (e : Event) : List ResultKey :=
  if (c.step e).ledger.outstanding < c.ledger.outstanding then (c.recordOf e).map (·.1) else []

/-- The keys that a run counts, each as often as it does. -/
def countings (c : Collector) (events : List Event) : List ResultKey :=
  Machine.history step? countOf c events

/-- An event counts the key of a first record, and nothing else. -/
private theorem countOf_cases (h : Orderly expected records c) (he : c.step? e = some c') :
    (∃ j b, c.recordOf e = [(j, b)] ∧ j ∉ records.map (·.1) ∧ c.countOf e = [j]) ∨
      (∀ p ∈ c.recordOf e, p.1 ∈ records.map (·.1)) ∧ c.countOf e = [] := by
  have counts := h.countsOnce he
  have hstep := step_eq he
  by_cases hold : ∀ p ∈ c.recordOf e, p.1 ∈ records.map (·.1)
  · refine .inr ⟨hold, ?_⟩
    rw [countOf, hstep, (counts.other hold).1, if_neg (Nat.lt_irrefl _)]
  · obtain hnone | ⟨j, b, hone⟩ := recordOf_cases c e
    · rw [hnone] at hold
      exact absurd (fun p hp => absurd hp List.not_mem_nil) hold
    · have hj : j ∉ records.map (·.1) := by
        intro hj
        refine hold fun p hp => ?_
        rw [hone] at hp
        obtain rfl := List.mem_singleton.mp hp
        exact hj
      have hless := (counts.first j b hone hj).1
      refine .inl ⟨j, b, hone, hj, ?_⟩
      rw [countOf, hstep, if_pos (by omega), hone]
      rfl

/-- Every key that has been received has been counted once, and no other key has been counted. -/
theorem count_countings (h : (start root expected).run? events = some c) (k : ResultKey) :
    ((start root expected).countings events).count k =
      if c.ledger.receipt? k = some .received then 1 else 0 := by
  suffices ((start root expected).countings events).count k =
      if k ∈ (start root expected).recordedKeys events then 1 else 0 by
    simp only [this, (orderly_run h).balanced.received k]
    rfl
  refine Machine.run?_induction
    (P := fun es _ => ((start root expected).countings es).count k =
      if k ∈ (start root expected).recordedKeys es then 1 else 0) rfl ?_ h
  intro es s e s' hs ih he
  have hkeys : (start root expected).recordedKeys (es ++ [e]) =
      (start root expected).recordedKeys es ++ (s.recordOf e).map (·.1) := by
    rw [recordedKeys, recordings, Machine.history_concat recordOf hs he, List.map_append]
    rfl
  rw [countings, Machine.history_concat countOf hs he, List.count_append, ← countings, ih, hkeys]
  obtain ⟨j, b, hone, hj, hcount⟩ | ⟨hold, hcount⟩ := countOf_cases (orderly_run hs) he
  · have hnew : j ∉ (start root expected).recordedKeys es := hj
    rw [hcount, hone, List.map_singleton, List.count_singleton]
    by_cases hk : j = k
    · subst hk
      rw [if_neg hnew, if_pos (List.mem_append_right _ List.mem_cons_self)]
      simp
    · have hsame : k ∈ (start root expected).recordedKeys es ++ [j] ↔
          k ∈ (start root expected).recordedKeys es := by
        simp [Ne.symm hk]
      rw [if_congr hsame rfl rfl]
      simp [hk]
  · have hsame : k ∈ (start root expected).recordedKeys es ++ (s.recordOf e).map (·.1) ↔
        k ∈ (start root expected).recordedKeys es := by
      refine ⟨fun hk => (List.mem_append.mp hk).elim id fun hnew => ?_, List.mem_append_left _⟩
      obtain ⟨p, hp, rfl⟩ := List.mem_map.mp hnew
      exact hold p hp
    rw [hcount, if_congr hsame rfl rfl]
    rfl

/-! ### Answered deliveries -/

/-- What the stage of a delivery tells when these deliveries have been moved into place. -/
def IsAccountedFor (expected : List ResultKey) (filed : List (ResultKey × Nat)) (ledger : Ledger)
    (id : Nat) (d : Delivery) : Prop :=
  match d.stage with
  | .writing | .committed | .cancelled => True
  | .ended (.ok ()) =>
    d.isFailure = true ∨ (d.key, id) ∈ filed ∧ ledger.receipt? d.key = some .received
  | .ended (.error (.invalidKey _)) => d.key.isValid = false
  | .ended (.error (.unexpected _)) => d.key ∉ expected
  | .ended (.error (.persistence ..)) | .ended (.error .alreadyWaited) => True

private theorem IsAccountedFor.mono {ledger ledger' : Ledger} {id : Nat} {d d' : Delivery}
    {more : List (ResultKey × Nat)} (h : IsAccountedFor expected filed ledger id d)
    (key : d.key = d'.key) (kind : d.isFailure = d'.isFailure) (stage : d.stage = d'.stage)
    (receipts : ∀ j, ledger.receipt? j = some .received → ledger'.receipt? j = some .received) :
    IsAccountedFor expected (filed ++ more) ledger' id d' := by
  unfold IsAccountedFor at h ⊢
  rw [← key, ← kind, ← stage]
  split <;> rename_i hstage <;> rw [hstage] at h
  any_goals trivial
  exact h.imp_right fun ⟨hf, hr⟩ => ⟨List.mem_append_left _ hf, receipts _ hr⟩

private theorem Enters.isAccountedFor {id : Nat} {d : Delivery} (enters : Enters c e id d)
    (ordered : Orderly expected records c) (traced : Traced filed records c)
    (he : c.step? e = some c') : IsAccountedFor expected (filed ++ c.filingOf e) c'.ledger id d := by
  unfold IsAccountedFor
  cases enters with
  | recorded stage before at_id committed key record =>
    rw [stage]
    refine .inr ⟨List.mem_append_left _ (key ▸ traced.committed id before at_id committed), ?_⟩
    have after := (orderly_move ordered (move_of_step? he)).balanced
    refine (after.received d.key).mpr ?_
    rw [List.map_append]
    exact List.mem_append_right _ (List.mem_map.mpr ⟨_, record, rfl⟩)
  | ignored stage failure =>
    rw [stage]
    exact .inl failure
  | invalid reason stage bad =>
    rw [stage]
    exact bad
  | unexpected stage foreign =>
    rw [stage]
    exact ordered.receipt?_eq_none_iff.mp foreign
  | writing stage | filed stage _ | cancelled stage | lost _ _ stage =>
    rw [stage]
    trivial

/-- At every state of a run the answers that have been given are accounted for. -/
theorem accountedFor_run (h : (start root expected).run? events = some c) :
    ∀ (id : Nat) (d : Delivery), c.deliveries[id]? = some d →
      IsAccountedFor expected ((start root expected).filings events) c.ledger id d := by
  refine Machine.run?_induction
    (P := fun es c => ∀ (id : Nat) (d : Delivery), c.deliveries[id]? = some d →
      IsAccountedFor expected ((start root expected).filings es) c.ledger id d) (by simp [start]) ?_ h
  intro es s e s' hs ih he id d hd
  have ordered := orderly_run hs
  rw [filings, Machine.history_concat filingOf hs he]
  obtain ⟨before, hbefore, key, kind, stage⟩ | enters := stage_step he hd
  · refine (ih id before hbefore).mono key kind stage fun j hj => ?_
    have after := (orderly_move ordered (move_of_step? he)).balanced
    refine (after.received j).mpr ?_
    rw [List.map_append]
    exact List.mem_append_left _ ((ordered.balanced.received j).mp hj)
  · exact enters.isAccountedFor ordered (traced_run hs) he

/-! ### What lies in a place -/

/-- Whether an event spares a place: others change neither what lies there nor the scratch files. -/
def SparesPlace (p : Place) (c : Collector) : Event → Prop
  | .disturb tree =>
    tree.content? p = c.tree.content? p ∧
      ∀ (j : ResultKey) (mark : String),
        tree.content? (j.scratchPlace mark) = c.tree.content? (j.scratchPlace mark)
  | _ => True

/-- Whether the body of one of the deliveries that were moved to a place lies there. -/
def LiesAt (filed : List (ResultKey × Nat)) (p : Place) (c : Collector) : Prop :=
  ∃ j id d, (j, id) ∈ filed ∧ j.place = p ∧ c.deliveries[id]? = some d ∧ d.isWriting = false ∧
    c.tree.content? p = some d.body

private theorem liesAt_step (scratched : Scratched c) (valid : k.isValid = true)
    (he : c.step? e = some c') (spares : SparesPlace k.place c e)
    (h : (∀ j id, (j, id) ∈ filed → j.place ≠ k.place) ∨ LiesAt filed k.place c) :
    (∀ j id, (j, id) ∈ filed ++ c.filingOf e → j.place ≠ k.place) ∨
      LiesAt (filed ++ c.filingOf e) k.place c' := by
  have m := move_of_step? he
  by_cases hfile : ∃ j id, (j, id) ∈ c.filingOf e ∧ j.place = k.place
  · obtain ⟨j, id, hmem, hplace⟩ := hfile
    obtain ⟨-, d, hd, -, hw, hb⟩ := filing_move scratched m hmem
    exact .inr ⟨j, id, d, List.mem_append_right _ hmem, hplace, hd, hw, hplace ▸ hb⟩
  · have unfiled (j : ResultKey) (id : Nat) (hmem : (j, id) ∈ c.filingOf e) : j.place ≠ k.place :=
      fun hplace => hfile ⟨j, id, hmem, hplace⟩
    have same : c'.tree.content? k.place = c.tree.content? k.place := by
      by_cases hcalm : ∃ tree, e = .disturb tree
      · obtain ⟨tree, rfl⟩ := hcalm
        cases he
        exact spares.1
      · exact content?_move m (fun tree he => hcalm ⟨tree, he⟩)
          (ResultKey.place_ne_scratchPlace valid) fun j id hmem => (unfiled j id hmem).symm
    rcases h with hnone | ⟨j, id, d, hmem, hplace, hd, hw, hb⟩
    · exact .inl fun j id hmem => (List.mem_append.mp hmem).elim (hnone j id) (unfiled j id)
    · obtain ⟨d', hd', -, hb', hw'⟩ := settled_move m hd hw
      exact .inr ⟨j, id, d', List.mem_append_left _ hmem, hplace, hd', hw', by rw [same, hb, hb']⟩

/-- In the place of a valid key to which deliveries have been moved lies the body of one of them. -/
theorem liesAt_run (h : (start root expected).run? events = some c) (valid : k.isValid = true)
    (spares : Machine.Along step? (SparesPlace k.place) (start root expected) events)
    {j : ResultKey} {id : Nat} (filed : (j, id) ∈ (start root expected).filings events)
    (place : j.place = k.place) : LiesAt ((start root expected).filings events) k.place c := by
  suffices Scratched c ∧ ((∀ j id, (j, id) ∈ (start root expected).filings events →
      j.place ≠ k.place) ∨ LiesAt ((start root expected).filings events) k.place c) by
    exact this.2.resolve_left fun hnone => hnone j id filed place
  revert spares
  refine Machine.run?_induction
    (P := fun es c => Machine.Along step? (SparesPlace k.place) (start root expected) es →
      Scratched c ∧ ((∀ j id, (j, id) ∈ (start root expected).filings es → j.place ≠ k.place) ∨
        LiesAt ((start root expected).filings es) k.place c)) ?_ ?_ h
  · refine fun _ => ⟨scratched_start root expected, .inl fun j id hmem => ?_⟩
    cases hmem
  · intro es s e s' hs ih he spares
    obtain ⟨hbefore, hnow⟩ := (Machine.along_concat hs).mp spares
    obtain ⟨scratched, hlies⟩ := ih hbefore
    have spared : Spares [] s e := by
      cases e with
      | disturb tree => exact ⟨fun j hj => absurd hj List.not_mem_nil, hnow.2⟩
      | _ => trivial
    rw [filings, Machine.history_concat filingOf hs he]
    exact ⟨scratched.move (move_of_step? he) spared, liesAt_step scratched valid he hnow hlies⟩

/-! ### Deliveries that change nothing -/

/-- What is opened for a key that is not expected is answered at once. -/
private theorem openResult_of_unexpected (ordered : Orderly expected records c) (foreign : k ∉ expected)
    (isFailure : Bool) (body : ByteArray) (mark : String) :
    ∃ answered, c.openResult k isFailure body mark = { c with deliveries := answered } := by
  have hnone := ordered.receipt?_eq_none_iff.mpr foreign
  unfold openResult
  split
  · exact ⟨_, rfl⟩
  · rw [hnone]
    exact ⟨_, rfl⟩

/-- A delivery of a key that is not expected changes nothing, whatever happens to it. -/
theorem idle_of_unexpected (ordered : Orderly expected records c) (foreign : k ∉ expected)
    (he : c.step? e = some c') {id : Nat} {d : Delivery} (subject : c.subject? e = some id)
    (hd : c'.deliveries[id]? = some d) (key : d.key = k) :
    ∃ answered, c' = { c with deliveries := answered } := by
  obtain ⟨before, hbefore, hkey, -⟩ | ⟨body, mark, rfl⟩ := delivery_move (move_of_step? he) hd
  · have hopen := isOpen_of_subject he subject hbefore
    have hmem := ordered.owed id before hbefore hopen
    rw [hkey, key] at hmem
    exact absurd hmem foreign
  · cases does_of_step? he with
    | opened =>
      rw [key]
      exact openResult_of_unexpected ordered foreign d.isFailure body mark
    | acted i x at_i acts => cases acts
    | other same unsubjected => cases unsubjected

end Collector

end ClusterSurvey
