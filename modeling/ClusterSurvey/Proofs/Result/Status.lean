import ClusterSurvey.Result.Status
import Mathlib.Data.List.Induction
import Mathlib.Logic.Function.Basic

/-!
# The status of a run is what was last written

An update writes the first entry of its key and sums the entries up anew.  What a history of updates leaves
can be told without following it: the first entry of each key has the status of the key's last update, a
further entry of the key runs for ever, and the aggregate is that of the entries.  So nothing else than the
last update of each key matters, and updates of different keys can change places.
-/

namespace ClusterSurvey

/-! ### The aggregate -/

namespace Status

variable {ss : List Status}

/-- Once nothing is running, one failure decides. -/
theorem aggregate_of_settled (h : ∀ s ∈ ss, s ≠ .running) :
    aggregate ss = if .failed ∈ ss then .failed else .complete := by
  unfold aggregate
  by_cases hfailed : failed ∈ ss
  · have hany : ss.any (· = .failed) = true := List.any_eq_true.mpr ⟨.failed, hfailed, by simp⟩
    rw [if_pos hany, if_pos hfailed]
  · have hany : ¬ ss.any (· = .failed) = true := by simpa using hfailed
    have hall : ss.all (· = .complete) = true := by
      refine List.all_eq_true.mpr fun s hs => ?_
      cases s with
      | running => exact absurd rfl (h _ hs)
      | complete => rfl
      | failed => exact absurd hs hfailed
    rw [if_neg hany, if_pos hall, if_neg hfailed]

/-- One failure makes the aggregate fail, and nothing else does. -/
theorem aggregate_eq_failed_iff : aggregate ss = .failed ↔ .failed ∈ ss := by
  unfold aggregate
  by_cases hfailed : failed ∈ ss
  · have hany : ss.any (· = .failed) = true := List.any_eq_true.mpr ⟨.failed, hfailed, by simp⟩
    simp [hany, hfailed]
  · have hany : ¬ ss.any (· = .failed) = true := by simpa using hfailed
    rw [if_neg hany]
    split <;> simp [hfailed]

/-- The aggregate is complete when all are. -/
theorem aggregate_eq_complete_iff : aggregate ss = .complete ↔ ∀ s ∈ ss, s = .complete := by
  constructor
  · intro h
    unfold aggregate at h
    split at h
    · cases h
    · split at h
      · next hall => simpa using hall
      · cases h
  · intro hall
    have hsettled : ∀ s ∈ ss, s ≠ .running := by
      intro s hs
      rw [hall s hs]
      decide
    have hfailed : failed ∉ ss := fun hmem => by
      cases hall _ hmem
    rw [aggregate_of_settled hsettled, if_neg hfailed]

end Status

namespace RunStatus

variable {es : List ResultStatus} {k : ResultKey} {s : Status}

/-! ### One update -/

/-- The status of a key without an entry cannot be updated. -/
theorem update_of_not_mem {r : RunStatus} (h : k ∉ r.entries.map (·.key)) :
    r.update k s = .error (.unknownResult k) := by
  have hany : ¬ r.entries.any (·.key = k) = true := by simpa using h
  rw [update, if_neg hany]

/-- That of any other key can. -/
theorem update_of_mem {r : RunStatus} (h : k ∈ r.entries.map (·.key)) :
    r.update k s = .ok (ofEntries (setFirst k s r.entries)) := by
  have hany : r.entries.any (·.key = k) = true := by simpa using h
  rw [update, if_pos hany]

/-- A key without an entry has nothing to write. -/
theorem setFirst_of_not_mem (h : k ∉ es.map (·.key)) : setFirst k s es = es := by
  induction es with
  | nil => rfl
  | cons e es ih =>
    rw [List.map_cons, List.mem_cons, not_or] at h
    rw [setFirst, if_neg (Ne.symm h.1), ih h.2]

/-- What is written is the first entry of the key, and only its status. -/
theorem setFirst_append {before after : List ResultStatus} {e : ResultStatus} (he : e.key = k)
    (first : k ∉ before.map (·.key)) :
    setFirst k s (before ++ e :: after) = before ++ { e with status := s } :: after := by
  induction before with
  | nil => rw [List.nil_append, setFirst, if_pos he, List.nil_append]
  | cons d before ih =>
    rw [List.map_cons, List.mem_cons, not_or] at first
    rw [List.cons_append, setFirst, if_neg (Ne.symm first.1), ih first.2, List.cons_append]

/-- A key with an entry has a first one. -/
theorem exists_first (h : k ∈ es.map (·.key)) :
    ∃ before e after, es = before ++ e :: after ∧ e.key = k ∧ k ∉ before.map (·.key) := by
  have hfind : (es.find? (·.key = k)).isSome = true := by simpa using h
  obtain ⟨e, he⟩ := Option.isSome_iff_exists.mp hfind
  obtain ⟨hkey, before, after, hsplit, hfirst⟩ := List.find?_eq_some_iff_append.mp he
  exact ⟨before, e, after, hsplit, by simpa using hkey, by simpa using hfirst⟩

/-! ### An update in place -/

/-- Writes the status of the entry at a place, and then renews the aggregate. -/
def writeAt (i : Nat) (s : Status) : EStateM KeyError RunStatus Unit := do
  modify fun r => { r with entries := r.entries.modify i fun e => { e with status := s } }
  modify fun r => { r with status := Status.aggregate (r.entries.map (·.status)) }

/-- Changes the status of a key where it stands, in its first entry. -/
def change (k : ResultKey) (s : Status) : EStateM KeyError RunStatus Unit := do
  match (← get).entries.findIdx? (·.key = k) with
  | none => throw (.unknownResult k)
  | some i => writeAt i s

/-- What a change leaves of a status, whether it was made or refused. -/
def changed (r : RunStatus) (k : ResultKey) (s : Status) : RunStatus :=
  match change k s r with
  | .ok _ r' => r'
  | .error _ r' => r'

/-- Writing the first entry of a key is writing the entry at its place. -/
private theorem setFirst_eq_modify {i : Nat} (h : es.findIdx? (·.key = k) = some i) :
    setFirst k s es = es.modify i fun e => { e with status := s } := by
  induction es generalizing i with
  | nil => simp at h
  | cons e es ih =>
    rw [List.findIdx?_cons] at h
    by_cases he : e.key = k
    · rw [if_pos (decide_eq_true he)] at h
      obtain rfl := Option.some.inj h
      rw [setFirst, if_pos he, List.modify_zero_cons]
    · rw [if_neg (by simpa using he)] at h
      obtain ⟨j, hj, rfl⟩ := Option.map_eq_some_iff.mp h
      rw [setFirst, if_neg he, ih hj, List.modify_succ_cons]

/-- A change leaves what the update gives, and all as it was if the update is refused. -/
theorem change_eq (r : RunStatus) (k : ResultKey) (s : Status) :
    change k s r = match r.update k s with
      | .ok r' => .ok () r'
      | .error e => .error e r := by
  have opened : change k s r = (match r.entries.findIdx? (·.key = k) with
      | none => throw (.unknownResult k)
      | some i => writeAt i s : EStateM KeyError RunStatus Unit) r := rfl
  cases h : r.entries.findIdx? (·.key = k) with
  | none =>
    have hk : k ∉ r.entries.map (·.key) := by simpa using List.findIdx?_eq_none_iff.mp h
    rw [opened, h, update_of_not_mem hk]
    rfl
  | some i =>
    have hfound : (r.entries.findIdx? (·.key = k)).isSome = true := by rw [h, Option.isSome_some]
    have hk : k ∈ r.entries.map (·.key) := by simpa using hfound
    rw [opened, h, update_of_mem hk, setFirst_eq_modify h]
    rfl

/-- Whether a key has an entry or not, what is left is that its first one has been written. -/
theorem changed_ofEntries (es : List ResultStatus) (k : ResultKey) (s : Status) :
    changed (ofEntries es) k s = ofEntries (setFirst k s es) := by
  unfold changed
  by_cases h : k ∈ es.map (·.key)
  · rw [change_eq, update_of_mem (r := ofEntries es) h]
    rfl
  · rw [change_eq, update_of_not_mem (r := ofEntries es) h, setFirst_of_not_mem h]

/-! ### A history of updates -/

/-- The status of a run that expects these results, after a history of updates.  One that is refused does
not keep the others from being made. -/
def replay (expected : List ResultKey) (history : List (ResultKey × Status)) : RunStatus :=
  history.foldl (fun r u => r.changed u.1 u.2) (start expected)

/-- The status that the last update of a key gives it. -/
def lastUpdate? (history : List (ResultKey × Status)) (k : ResultKey) : Option Status :=
  (history.reverse.find? (·.1 = k)).map (·.2)

/-- The entry of a key that has been updated like this, or not at all. -/
def entryOf (last : ResultKey → Option Status) (k : ResultKey) : ResultStatus :=
  ⟨k.resultType, k.node, (last k).getD .running⟩

/-- The entries of these keys.  Behind its first entry a key counts as one that has not been updated. -/
def entriesOf (last : ResultKey → Option Status) : List ResultKey → List ResultStatus
  | [] => []
  | k :: ks => entryOf last k :: entriesOf (Function.update last k none) ks

variable {expected keys : List ResultKey} {history : List (ResultKey × Status)}
  {last last' : ResultKey → Option Status}

/-- The entry of a key is about it. -/
@[simp]
theorem key_entryOf (last : ResultKey → Option Status) (k : ResultKey) : (entryOf last k).key = k := rfl

/-- One more update is the last one of its key, and leaves the other keys as they are. -/
theorem lastUpdate?_concat (history : List (ResultKey × Status)) (k : ResultKey) (s : Status) :
    lastUpdate? (history ++ [(k, s)]) = Function.update (lastUpdate? history) k (some s) := by
  funext j
  rw [lastUpdate?, List.reverse_concat, List.find?_cons]
  by_cases h : j = k
  · subst h
    simp
  · simp [lastUpdate?, h, Ne.symm h]

/-- Without updates every entry waits. -/
theorem entriesOf_none (keys : List ResultKey) :
    entriesOf (fun _ => none) keys = keys.map .awaiting := by
  induction keys with
  | nil => rfl
  | cons k ks ih =>
    have hnone : Function.update (fun _ : ResultKey => (none : Option Status)) k none = fun _ => none :=
      Function.update_eq_self k _
    rw [entriesOf, hnone, ih, List.map_cons]
    rfl

/-- The entries are those of the keys, in their order and with their repetitions. -/
theorem keys_entriesOf (last : ResultKey → Option Status) (keys : List ResultKey) :
    (entriesOf last keys).map (·.key) = keys := by
  induction keys generalizing last with
  | nil => rfl
  | cons k ks ih => rw [entriesOf, List.map_cons, key_entryOf, ih]

/-- Updates of other keys make no difference to them. -/
theorem entriesOf_congr (h : ∀ k ∈ keys, last k = last' k) :
    entriesOf last keys = entriesOf last' keys := by
  induction keys generalizing last last' with
  | nil => rfl
  | cons k ks ih =>
    have hrest : ∀ j ∈ ks, Function.update last k none j = Function.update last' k none j := by
      intro j hj
      by_cases hjk : j = k
      · rw [hjk, Function.update_self, Function.update_self]
      · rw [Function.update_of_ne hjk, Function.update_of_ne hjk, h j (List.mem_cons_of_mem k hj)]
    rw [entriesOf, entriesOf, entryOf, h k List.mem_cons_self, ← entryOf, ih hrest]

/-- If no key is there twice, each entry tells the last update of its key. -/
theorem entriesOf_of_nodup (h : keys.Nodup) : entriesOf last keys = keys.map (entryOf last) := by
  induction keys generalizing last with
  | nil => rfl
  | cons k ks ih =>
    obtain ⟨hk, hks⟩ := List.nodup_cons.mp h
    have hrest : entriesOf (Function.update last k none) ks = entriesOf last ks := by
      apply entriesOf_congr
      intro j hj
      exact Function.update_of_ne (ne_of_mem_of_not_mem hj hk) none last
    rw [entriesOf, hrest, ih hks, List.map_cons]

/-- Writing the first entry of a key makes this the last update of it. -/
theorem setFirst_entriesOf (last : ResultKey → Option Status) (keys : List ResultKey) (k : ResultKey)
    (s : Status) :
    setFirst k s (entriesOf last keys) = entriesOf (Function.update last k (some s)) keys := by
  induction keys generalizing last with
  | nil => rfl
  | cons j ks ih =>
    rw [entriesOf, setFirst, entriesOf, key_entryOf]
    by_cases h : j = k
    · -- Behind this entry the key counts as never updated, before the update and after it.
      subst h
      rw [if_pos rfl, Function.update_idem]
      simp [entryOf]
    · rw [if_neg h, ih, Function.update_comm h, entryOf, entryOf, Function.update_of_ne h]

/-- The first entry of a key tells its last update. -/
theorem find?_entriesOf (last : ResultKey → Option Status) (keys : List ResultKey) (k : ResultKey) :
    (entriesOf last keys).find? (·.key = k) = if k ∈ keys then some (entryOf last k) else none := by
  induction keys generalizing last with
  | nil => rfl
  | cons j ks ih =>
    rw [entriesOf, List.find?_cons, key_entryOf, ih]
    by_cases h : j = k
    · simp [h]
    · simp [entryOf, h, Ne.symm h]

/-- What a history leaves, told by the last update of each key. -/
theorem replay_eq (expected : List ResultKey) (history : List (ResultKey × Status)) :
    replay expected history = ofEntries (entriesOf (lastUpdate? history) expected) := by
  induction history using List.reverseRecOn with
  | nil =>
    have hnone : lastUpdate? [] = fun _ => none := rfl
    rw [hnone, entriesOf_none]
    rfl
  | append_singleton history u ih =>
    have hstep : replay expected (history ++ [u]) = (replay expected history).changed u.1 u.2 := by
      rw [replay, List.foldl_append, List.foldl_cons, List.foldl_nil]
      rfl
    rw [hstep, ih, changed_ofEntries, setFirst_entriesOf, lastUpdate?_concat]

/-- The entries that it leaves are about the expected keys. -/
theorem keys_replay (expected : List ResultKey) (history : List (ResultKey × Status)) :
    (replay expected history).entries.map (·.key) = expected := by
  rw [replay_eq]
  exact keys_entriesOf (lastUpdate? history) expected

/-- Each expected key has the status of its last update. -/
theorem get?_replay (expected : List ResultKey) (history : List (ResultKey × Status)) (k : ResultKey) :
    (replay expected history).get? k =
      if k ∈ expected then some ((lastUpdate? history k).getD .running) else none := by
  rw [replay_eq]
  show ((entriesOf (lastUpdate? history) expected).find? (·.key = k)).map (·.status) = _
  rw [find?_entriesOf]
  split <;> rfl

/-- The aggregate is that of the entries. -/
theorem status_replay (expected : List ResultKey) (history : List (ResultKey × Status)) :
    (replay expected history).status =
      Status.aggregate ((replay expected history).entries.map (·.status)) := by
  rw [replay_eq]
  rfl

/-- Histories with the same last updates of the expected keys leave the same. -/
theorem replay_congr {history' : List (ResultKey × Status)}
    (h : ∀ k ∈ expected, lastUpdate? history k = lastUpdate? history' k) :
    replay expected history = replay expected history' := by
  rw [replay_eq, replay_eq, entriesOf_congr h]

/-! ### What is left of a history -/

/-- A status that is what a history of updates last wrote. -/
structure LastWritten (expected : List ResultKey) (history : List (ResultKey × Status)) (r : RunStatus) :
    Prop where
  /-- The entries are those of the expected keys, in their order and with their repetitions. -/
  keys : r.entries.map (·.key) = expected
  /-- An expected key has the status of its last update, and is running if there was none. -/
  reads : ∀ k, r.get? k = if k ∈ expected then some ((lastUpdate? history k).getD .running) else none
  /-- The aggregate has failed exactly if an entry has. -/
  failed : r.status = .failed ↔ ∃ e ∈ r.entries, e.status = .failed
  /-- It is complete exactly if every entry is, and so it is running in all other cases. -/
  complete : r.status = .complete ↔ ∀ e ∈ r.entries, e.status = .complete
  /-- An update of a key that is not expected is refused, and leaves all as it was. -/
  refuses : ∀ k s, k ∉ expected →
    r.update k s = .error (.unknownResult k) ∧ change k s r = .error (.unknownResult k) r
  /-- Any other writes the status of one entry, the first of its key, and leaves the entries else as they
  were. -/
  writes : ∀ k s, k ∈ expected → ∃ r' before e after,
    r.update k s = .ok r' ∧ change k s r = .ok () r' ∧
      r.entries = before ++ e :: after ∧ e.key = k ∧ k ∉ before.map (·.key) ∧
      r'.entries = before ++ { e with status := s } :: after

/-- After any history of updates, refused ones among them, the status of a run is what was last written.
Nothing but the last update of each expected key matters, even if a key is expected twice, and so updates of
different keys can change places. -/
theorem lastWritten_replay (expected : List ResultKey) (history : List (ResultKey × Status)) :
    LastWritten expected history (replay expected history) ∧
      (∀ history', (∀ k ∈ expected, lastUpdate? history' k = lastUpdate? history k) →
        replay expected history' = replay expected history) ∧
      ∀ j k s t, j ≠ k →
        replay expected (history ++ [(j, s), (k, t)]) = replay expected (history ++ [(k, t), (j, s)]) := by
  have keys := keys_replay expected history
  refine ⟨?written, fun history' h => replay_congr h, ?swapped⟩
  case written =>
    constructor
    case keys => exact keys
    case reads => exact get?_replay expected history
    case failed =>
      rw [status_replay, Status.aggregate_eq_failed_iff, List.mem_map]
    case complete =>
      rw [status_replay, Status.aggregate_eq_complete_iff, List.forall_mem_map]
    case refuses =>
      intro k s hk
      rw [← keys] at hk
      have refused := update_of_not_mem (s := s) hk
      exact ⟨refused, by rw [change_eq, refused]⟩
    case writes =>
      intro k s hk
      rw [← keys] at hk
      have accepted := update_of_mem (s := s) hk
      obtain ⟨before, e, after, hsplit, hkey, first⟩ := exists_first hk
      refine ⟨_, before, e, after, accepted, by rw [change_eq, accepted], hsplit, hkey, first, ?_⟩
      rw [hsplit]
      exact setFirst_append hkey first
  case swapped =>
    intro j k s t hjk
    apply replay_congr
    intro i _
    rw [List.append_cons history (j, s), List.append_cons history (k, t), lastUpdate?_concat,
      lastUpdate?_concat, lastUpdate?_concat, lastUpdate?_concat, Function.update_comm hjk]

/-- A key that is expected twice has a second entry, which keeps the run from being complete. -/
example : (replay [⟨"n", "t"⟩, ⟨"n", "t"⟩] [(⟨"n", "t"⟩, .complete)]).status = .running := by decide

end RunStatus

end ClusterSurvey
