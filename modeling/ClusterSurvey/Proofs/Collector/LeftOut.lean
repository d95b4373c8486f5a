import ClusterSurvey.Proofs.Collector.Deliveries
import ClusterSurvey.Proofs.Collector.Opening
import ClusterSurvey.Proofs.Collector.Precedence
import ClusterSurvey.Proofs.Storage.Lacking

/-!
# Runs without one delivery

A run from which a delivery is left out is what would have gone on if nobody had sent it: those that come
later have the number before, and whoever changes the tree does not find its scratch file.  As long as a
delivery is not moved into place, everything else goes on in the same way without it.  The two states then
differ only in what the delivery has for itself: its stand in the list, its hold on the ledger, its scratch
file and the directories that have been made for it.
-/

namespace ClusterSurvey

namespace Delivery

/-- Where a delivery writes its body, while it does. -/
def scratch? (d : Delivery) : Option Place := if d.isWriting then some d.scratch else none

/-- The directories that a delivery may have made: none if it was refused for its key. -/
def directories (d : Delivery) : List Place :=
  match d.stage with
  | .ended (.error (.invalidKey _)) | .ended (.error (.unexpected _)) => []
  | _ => [[], [d.key.scope]]

/-- Directories are made in the root. -/
theorem length_of_mem_directories {d : Delivery} {p : Place} (h : p ∈ d.directories) :
    p.length < 2 := by
  unfold directories at h
  split at h
  · cases h
  · cases h
  · rcases List.mem_cons.mp h with rfl | h
    · exact Nat.zero_lt_two
    · obtain rfl := List.mem_singleton.mp h
      exact Nat.one_lt_two

end Delivery

namespace Collector

variable {root : String} {expected : List ResultKey} {c c' b : Collector} {e : Event}
variable {events : List Event} {id j : Nat} {d : Delivery}

/-! ### Events without one delivery -/

/-- The number of a delivery when another one is left out. -/
def renumber (id j : Nat) : Nat := if j < id then j else j - 1

/-- Where the body of a delivery is being written. -/
def hiddenPlace (c : Collector) (id : Nat) : Option Place := c.deliveries[id]?.bind Delivery.scratch?

/-- The directories that a delivery may have made. -/
def directories (c : Collector) (id : Nat) : List Place :=
  (c.deliveries[id]?.map Delivery.directories).getD []

/-- An event among the deliveries without one of them, whose body may lie at a hidden place. -/
def Event.without (id : Nat) (hidden : Option Place) : Event → Event
  | .write j data => .write (renumber id j) data
  | .breakOff j text => .breakOff (renumber id j) text
  | .cancel j => .cancel (renumber id j)
  | .commit j => .commit (renumber id j)
  | .record j => .record (renumber id j)
  | .disturb tree => .disturb (hidden.elim tree tree.erase)
  | e => e

/-- What is left of an event when a delivery is left out: nothing if it opens the delivery or acts on it. -/
def remnant (id : Nat) (c : Collector) (e : Event) : List Event :=
  if c.subject? e = some id then [] else [e.without id (c.hiddenPlace id)]

/-- The events of a run without a delivery. -/
def leaveOut (id : Nat) (c : Collector) (events : List Event) : List Event :=
  Machine.history step? (remnant id) c events

/-- Whoever holds the ledger when a delivery is left out. -/
def holderBeside (id : Nat) (holder : Option Nat) : Option Nat :=
  (holder.filter (· ≠ id)).map (renumber id)

/-! ### Numbers -/

/-- The other deliveries keep apart. -/
theorem renumber_inj {i : Nat} (hi : i ≠ id) (hj : j ≠ id) :
    renumber id i = renumber id j ↔ i = j := by
  unfold renumber
  split <;> split <;> omega

private theorem getElem?_eraseIdx_renumber (ds : List Delivery) (other : j ≠ id) :
    (ds.eraseIdx id)[renumber id j]? = ds[j]? := by
  unfold renumber
  split
  · next hlt => exact List.getElem?_eraseIdx_of_lt hlt
  · next hge =>
    have hsucc : j - 1 + 1 = j := by omega
    rw [List.getElem?_eraseIdx_of_ge (by omega), hsucc]

private theorem eraseIdx_set_renumber (ds : List Delivery) (other : j ≠ id) (x : Delivery) :
    (ds.set j x).eraseIdx id = (ds.eraseIdx id).set (renumber id j) x := by
  unfold renumber
  split
  · next hlt => exact List.eraseIdx_set_gt hlt
  · next hge => exact List.eraseIdx_set_lt (by omega)

private theorem length_eraseIdx_renumber {ds : List Delivery} (later : ds.length ≠ id) :
    (ds.eraseIdx id).length = renumber id ds.length := by
  rw [List.length_eraseIdx, renumber]
  split <;> split <;> omega

private theorem eraseIdx_concat {ds : List Delivery} (later : ds.length ≠ id) (x : Delivery) :
    (ds ++ [x]).eraseIdx id = ds.eraseIdx id ++ [x] := by
  rcases Nat.lt_or_gt_of_ne later with hlt | hgt
  · have hle : (ds ++ [x]).length ≤ id := by
      rw [List.length_append]
      exact hlt
    rw [List.eraseIdx_of_length_le hle, List.eraseIdx_of_length_le (Nat.le_of_lt hlt)]
  · exact List.eraseIdx_append_of_lt_length hgt [x]

private theorem holderBeside_self (id : Nat) : holderBeside id (some id) = none := by
  simp [holderBeside]

private theorem holderBeside_of_ne (other : j ≠ id) :
    holderBeside id (some j) = some (renumber id j) := by
  simp [holderBeside, other]

/-- Another one who holds the ledger does so without the delivery. -/
theorem holderBeside_eq_map {holder : Option Nat} (other : holder ≠ some id) :
    holderBeside id holder = holder.map (renumber id) := by
  cases holder with
  | none => rfl
  | some j => exact holderBeside_of_ne fun hj => other (congrArg some hj)

private theorem holderBeside_eq_some_iff (other : j ≠ id) {holder : Option Nat} :
    holderBeside id holder = some (renumber id j) ↔ holder = some j := by
  cases holder with
  | none => simp [holderBeside]
  | some i =>
    by_cases hi : i = id
    · rw [hi, holderBeside_self]
      simpa using Ne.symm other
    · rw [holderBeside_of_ne hi, Option.some_inj, renumber_inj hi other, Option.some_inj]

private theorem holderBeside_holderWithout_self (c : Collector) (id : Nat) :
    holderBeside id (c.holderWithout id) = holderBeside id c.holder := by
  unfold holderWithout
  split
  · next hh =>
    rw [hh, holderBeside_self]
    rfl
  · rfl

/-! ### What a delivery hides -/

/-- Only a body that is being written hides something. -/
theorem hiddenPlace_eq_some {p : Place} (h : c.hiddenPlace id = some p) :
    ∃ d, c.deliveries[id]? = some d ∧ d.isWriting = true ∧ d.scratch = p := by
  obtain ⟨d, hd, hp⟩ := Option.bind_eq_some_iff.mp h
  unfold Delivery.scratch? at hp
  split at hp
  · next hw => exact ⟨d, hd, hw, Option.some.inj hp⟩
  · cases hp

/-- A delivery that has not come yet hides nothing. -/
theorem hiddenPlace_of_length_le (h : c.deliveries.length ≤ id) : c.hiddenPlace id = none := by
  rw [hiddenPlace, List.getElem?_eq_none h]
  rfl

/-- What a delivery hides is told by the delivery. -/
theorem hiddenPlace_of_some (h : c.deliveries[id]? = some d) : c.hiddenPlace id = d.scratch? := by
  rw [hiddenPlace, h]
  rfl

/-- The directories of a delivery are told by the delivery. -/
theorem directories_of_some (h : c.deliveries[id]? = some d) : c.directories id = d.directories := by
  rw [directories, h]
  rfl

/-- A delivery that has not come yet has made no directories. -/
theorem directories_of_length_le (h : c.deliveries.length ≤ id) : c.directories id = [] := by
  rw [directories, List.getElem?_eq_none h]
  rfl

/-- A place of two names is no directory of a delivery. -/
theorem not_mem_directories {p : Place} (deep : 2 ≤ p.length) : p ∉ c.directories id := by
  intro hp
  cases hd : c.deliveries[id]? with
  | none =>
    rw [directories, hd] at hp
    cases hp
  | some d =>
    rw [directories_of_some hd] at hp
    exact absurd (Delivery.length_of_mem_directories hp) (Nat.not_lt.mpr deep)

/-- A hidden place has two names. -/
theorem length_of_hiddenPlace {p : Place} (h : c.hiddenPlace id = some p) : 2 ≤ p.length := by
  obtain ⟨d, -, -, rfl⟩ := hiddenPlace_eq_some h
  exact Nat.le_refl 2

namespace Scratched

/-- A body that is being written does not hide where another one is. -/
theorem shown_scratch (h : Scratched c) (at_j : c.deliveries[j]? = some d)
    (writing : d.isWriting = true) (other : j ≠ id) : c.hiddenPlace id ≠ some d.scratch := by
  intro hh
  obtain ⟨x, hx, hw, hs⟩ := hiddenPlace_eq_some hh
  exact other (h.apart j id d x at_j hx writing hw hs.symm)

/-- Something lies at a hidden place. -/
theorem shown_of_unused (h : Scratched c) {p : Place} (unused : c.tree.get? p = none) :
    c.hiddenPlace id ≠ some p := by
  intro hh
  obtain ⟨x, hx, hw, rfl⟩ := hiddenPlace_eq_some hh
  have hcontent := h.content id x hx hw
  rw [Tree.content?, unused] at hcontent
  cases hcontent

end Scratched

/-- The place of a valid key is not hidden. -/
theorem shown_place {k : ResultKey} (valid : k.isValid = true) : c.hiddenPlace id ≠ some k.place := by
  intro hh
  obtain ⟨x, -, -, hs⟩ := hiddenPlace_eq_some hh
  exact ResultKey.place_ne_scratchPlace valid x.key x.mark hs.symm

/-! ### The state without one delivery -/

/-- The state of a collector as it is without a delivery. -/
structure Mirrors (id : Nat) (c b : Collector) : Prop where
  root : b.root = c.root
  ledger : b.ledger = c.ledger
  announced : b.announced = c.announced
  waits : b.waits = c.waits
  deliveries : b.deliveries = c.deliveries.eraseIdx id
  holder : b.holder = holderBeside id c.holder
  tree : Tree.Lacks (c.hiddenPlace id) (c.directories id) c.tree b.tree

namespace Mirrors

/-- A delivery that has not come yet is not missing. -/
theorem start (root : String) (expected : List ResultKey) (id : Nat) :
    Mirrors id (start root expected) (start root expected) :=
  ⟨rfl, rfl, rfl, rfl, rfl, rfl, .refl _⟩

/-- The others are there. -/
theorem getElem?_eq (h : Mirrors id c b) (other : j ≠ id) :
    b.deliveries[renumber id j]? = c.deliveries[j]? := by
  rw [h.deliveries, getElem?_eraseIdx_renumber _ other]

/-- When nobody holds the ledger nobody does without the delivery. -/
theorem free (h : Mirrors id c b) (free : c.holder = none) : b.holder = none := by
  rw [h.holder, free]
  rfl

private theorem holderWithout (h : Mirrors id c b) (other : j ≠ id) :
    b.holderWithout (renumber id j) = holderBeside id (c.holderWithout j) := by
  have hiff : b.holder = some (renumber id j) ↔ c.holder = some j := by
    rw [h.holder, holderBeside_eq_some_iff other]
  unfold Collector.holderWithout
  by_cases hj : c.holder = some j
  · rw [if_pos hj, if_pos (hiff.mpr hj)]
    rfl
  · rw [if_neg hj, if_neg (mt hiff.mp hj), h.holder]

/-- The errors of the storage name the same paths. -/
theorem persistence_eq (h : Mirrors id c b) (key : ResultKey) (cause : StorageCause) :
    b.persistence key cause = c.persistence key cause := by
  rw [persistence, persistence, h.root]

/-! ### Another delivery -/

/-- Another delivery is added to both states. -/
theorem appended {t u : Tree} {holder holder' : Option Nat} (h : Mirrors id c b)
    (later : c.deliveries.length ≠ id) (x : Delivery)
    (tree : Tree.Lacks (c.hiddenPlace id) (c.directories id) t u)
    (holders : holder' = holderBeside id holder) :
    Mirrors id { c with tree := t, deliveries := c.deliveries ++ [x], holder := holder }
      { b with tree := u, deliveries := b.deliveries ++ [x], holder := holder' } := by
  have same : (c.deliveries ++ [x])[id]? = c.deliveries[id]? := by
    rcases Nat.lt_or_gt_of_ne later with hlt | hgt
    · have hle : (c.deliveries ++ [x]).length ≤ id := by
        rw [List.length_append]
        exact hlt
      rw [List.getElem?_eq_none hle, List.getElem?_eq_none (Nat.le_of_lt hlt)]
    · exact List.getElem?_append_left hgt
  refine ⟨h.root, h.ledger, h.announced, h.waits, ?_, holders, ?_⟩
  · show b.deliveries ++ [x] = (c.deliveries ++ [x]).eraseIdx id
    rw [h.deliveries, eraseIdx_concat later]
  · show Tree.Lacks ((c.deliveries ++ [x])[id]?.bind Delivery.scratch?)
      (((c.deliveries ++ [x])[id]?.map Delivery.directories).getD []) t u
    rw [same]
    exact tree

/-- Another delivery is changed in both states. -/
private theorem changed {t u : Tree} {holder holder' : Option Nat} (h : Mirrors id c b)
    (other : j ≠ id) (x : Delivery) (tree : Tree.Lacks (c.hiddenPlace id) (c.directories id) t u)
    (holders : holder' = holderBeside id holder) :
    Mirrors id { c with tree := t, deliveries := c.deliveries.set j x, holder := holder }
      { b with tree := u, deliveries := b.deliveries.set (renumber id j) x, holder := holder' } := by
  have same : (c.deliveries.set j x)[id]? = c.deliveries[id]? := List.getElem?_set_ne other
  refine ⟨h.root, h.ledger, h.announced, h.waits, ?_, holders, ?_⟩
  · show b.deliveries.set (renumber id j) x = (c.deliveries.set j x).eraseIdx id
    rw [h.deliveries, eraseIdx_set_renumber _ other]
  · show Tree.Lacks ((c.deliveries.set j x)[id]?.bind Delivery.scratch?)
      (((c.deliveries.set j x)[id]?.map Delivery.directories).getD []) t u
    rw [same]
    exact tree

/-! ### The delivery itself -/

/-- The delivery itself is opened. -/
private theorem opened {t : Tree} {holder : Option Nat} (h : Mirrors id c b)
    (new : c.deliveries.length = id) (x : Delivery)
    (tree : Tree.Lacks x.scratch? x.directories t b.tree)
    (holders : holderBeside id holder = holderBeside id c.holder) :
    Mirrors id { c with tree := t, deliveries := c.deliveries ++ [x], holder := holder } b := by
  have here : (c.deliveries ++ [x])[id]? = some x := by
    rw [← new]
    exact List.getElem?_concat_length
  refine ⟨h.root, h.ledger, h.announced, h.waits, ?_, h.holder.trans holders.symm, ?_⟩
  · show b.deliveries = (c.deliveries ++ [x]).eraseIdx id
    rw [h.deliveries, ← new, List.eraseIdx_of_length_le (Nat.le_refl _),
      List.eraseIdx_append_of_length_le (Nat.le_refl _), Nat.sub_self]
    exact (List.append_nil _).symm
  · rw [hiddenPlace_of_some here, directories_of_some here]
    exact tree

/-- The delivery itself is changed. -/
private theorem acted {t : Tree} {holder : Option Nat} (h : Mirrors id c b)
    (at_id : c.deliveries[id]? = some d) (x : Delivery)
    (tree : Tree.Lacks x.scratch? x.directories t b.tree)
    (holders : holderBeside id holder = holderBeside id c.holder) :
    Mirrors id { c with tree := t, deliveries := c.deliveries.set id x, holder := holder } b := by
  have here : (c.deliveries.set id x)[id]? = some x := getElem?_set_self_of_some at_id
  refine ⟨h.root, h.ledger, h.announced, h.waits, ?_, h.holder.trans holders.symm, ?_⟩
  · show b.deliveries = (c.deliveries.set id x).eraseIdx id
    rw [h.deliveries, List.eraseIdx_set_eq]
  · rw [hiddenPlace_of_some here, directories_of_some here]
    exact tree

/-! ### Other deliveries are opened -/

section

variable {key : ResultKey} {isFailure : Bool} {body : ByteArray} {mark : String}

/-- A free mark is free without the delivery. -/
theorem markIsFree (h : Mirrors id c b) (unused : c.markIsFree key mark = true) :
    b.markIsFree key mark = true := by
  unfold Collector.markIsFree at unused ⊢
  rw [Bool.and_eq_true, Option.isNone_iff_eq_none] at unused ⊢
  exact unused.imp_right h.tree.get?_eq_none

/-- What can be opened beside the delivery can be opened without it. -/
private theorem mayOpen (h : Mirrors id c b) (may : c.mayOpen key isFailure mark = true) :
    b.mayOpen key isFailure mark = true := by
  have hwants : b.wants key isFailure = c.wants key isFailure := by rw [wants, wants, h.ledger]
  unfold Collector.mayOpen at may ⊢
  rw [hwants]
  rw [Bool.or_eq_true, Bool.and_eq_true, Bool.or_eq_true] at may ⊢
  refine may.imp_right ?_
  rintro ⟨free, marked⟩
  rw [h.free (Option.isNone_iff_eq_none.mp free)]
  exact ⟨rfl, marked.imp_right h.markIsFree⟩

private theorem answerAtOnce (h : Mirrors id c b) (later : c.deliveries.length ≠ id)
    (outcome : Except CollectError Unit) :
    Mirrors id (c.answerAtOnce key isFailure body mark outcome)
      (b.answerAtOnce key isFailure body mark outcome) :=
  h.appended later _ h.tree h.holder

/-- Directories are made in both trees or in neither. -/
theorem makeDirectories (h : Mirrors id c b) (key : ResultKey) :
    SameWay (Tree.Lacks (c.hiddenPlace id) (c.directories id))
      (c.tree.makeDirectories [key.scope]) (b.tree.makeDirectories [key.scope]) :=
  h.tree.makeDirectories (fun _ => length_of_hiddenPlace) key.scope

private theorem makeScratch (h : Mirrors id c b)
    (shown : c.hiddenPlace id ≠ some (key.scratchPlace mark)) :
    SameWay (Tree.Lacks (c.hiddenPlace id) (c.directories id))
      (c.makeScratch key mark body) (b.makeScratch key mark body) := by
  have way := h.makeDirectories key
  unfold Collector.makeScratch
  rw [h.root]
  generalize c.tree.makeDirectories [key.scope] = x at way
  generalize b.tree.makeDirectories [key.scope] = y at way
  cases way with
  | refused f => exact .refused _
  | @done t u related =>
    have way := related.writeFile shown (not_mem_directories (Nat.le_refl 2)) body
    dsimp only
    generalize t.writeFile (key.scratchPlace mark) body = x at way
    generalize u.writeFile (key.scratchPlace mark) body = y at way
    cases way with
    | refused f => exact .refused _
    | done related => exact .done related

private theorem beginWriting (h : Mirrors id c b) (later : c.deliveries.length ≠ id)
    (shown : c.hiddenPlace id ≠ some (key.scratchPlace mark)) (free : c.holder = none) :
    Mirrors id (c.beginWriting key isFailure body mark) (b.beginWriting key isFailure body mark) := by
  have hlength : b.deliveries.length = renumber id c.deliveries.length := by
    rw [h.deliveries, length_eraseIdx_renumber later]
  have scratchWay : SameWay _ (c.makeScratch key mark body) (b.makeScratch key mark body) :=
    h.makeScratch shown
  have directoryWay := h.makeDirectories key
  unfold Collector.beginWriting
  generalize c.makeScratch key mark body = x at scratchWay
  generalize b.makeScratch key mark body = y at scratchWay
  cases scratchWay with
  | done related =>
    refine h.appended later _ related ?_
    rw [h.free free, free]
    cases isFailure with
    | false => rfl
    | true => rw [if_pos rfl, if_pos rfl, hlength, holderBeside_of_ne later]
  | refused cause =>
    dsimp only [Collector.answerAtOnce]
    rw [h.persistence_eq]
    generalize c.tree.makeDirectories [key.scope] = x at directoryWay
    generalize b.tree.makeDirectories [key.scope] = y at directoryWay
    cases directoryWay with
    | done related => exact h.appended later _ related h.holder
    | refused f => exact h.appended later _ h.tree h.holder

/-- Another delivery is opened in both states. -/
private theorem openResult (h : Mirrors id c b) (scratched : Scratched c)
    (later : c.deliveries.length ≠ id) (may : c.mayOpen key isFailure mark = true) :
    Mirrors id (c.openResult key isFailure body mark) (b.openResult key isFailure body mark) := by
  have writes (valid : key.isValid = true) (wanted : c.wants key isFailure = true) :
      Mirrors id (c.beginWriting key isFailure body mark)
        (b.beginWriting key isFailure body mark) := by
    obtain ⟨free, -, unused⟩ : c.holder = none ∧ mark.utf8ByteSize = 6 ∧
        c.tree.get? (key.scratchPlace mark) = none := by
      simpa [Collector.mayOpen, valid, wanted, Collector.markIsFree] using may
    exact h.beginWriting later (scratched.shown_of_unused unused) free
  unfold Collector.openResult
  rw [h.ledger]
  split
  · exact h.answerAtOnce later _
  · next hvalid =>
    have valid := key.check_eq_ok_iff.mp hvalid
    split
    · exact h.answerAtOnce later _
    · next hr =>
      split
      · exact h.answerAtOnce later _
      · next hf => exact writes valid (by simp [wants, hr, hf])
    · next hr => exact writes valid (by simp [wants, hr])

end

/-! ### Something happens to another delivery -/

private theorem write (h : Mirrors id c b) (scratched : Scratched c)
    (at_j : c.deliveries[j]? = some d) (other : j ≠ id) (writing : d.isWriting = true)
    (data : ByteArray) : Mirrors id (c.write j d data) (b.write (renumber id j) d data) := by
  have shown := scratched.shown_scratch at_j writing other
  have hcontent : b.tree.content? d.scratch = c.tree.content? d.scratch := h.tree.content?_eq shown
  show Mirrors id (if (c.tree.content? d.scratch).isSome then _ else _)
    (if (b.tree.content? d.scratch).isSome then _ else _)
  rw [hcontent]
  split
  · exact h.changed other _ (h.tree.set shown _) h.holder
  · exact h.changed other _ h.tree h.holder

private theorem giveUp (h : Mirrors id c b) (scratched : Scratched c)
    (at_j : c.deliveries[j]? = some d) (other : j ≠ id) (writing : d.isWriting = true)
    (stage : Stage) : Mirrors id (c.giveUp j d stage) (b.giveUp (renumber id j) d stage) := by
  rw [giveUp_eq, giveUp_eq]
  exact h.changed other _ (h.tree.erase (scratched.shown_scratch at_j writing other))
    (h.holderWithout other)

private theorem commit (h : Mirrors id c b) (scratched : Scratched c)
    (at_j : c.deliveries[j]? = some d) (other : j ≠ id) (writing : d.isWriting = true) :
    Mirrors id (c.commit j d) (b.commit (renumber id j) d) := by
  have way : SameWay (Tree.Lacks (c.hiddenPlace id) (c.directories id))
      (c.tree.rename d.scratch d.key.place) (b.tree.rename d.scratch d.key.place) :=
    h.tree.rename (scratched.shown_scratch at_j writing other)
      (shown_place (scratched.valid j d at_j writing)) (not_mem_directories (Nat.le_refl 2))
  have given (stage : Stage) := h.giveUp scratched at_j other writing stage
  unfold Collector.commit
  generalize c.tree.rename d.scratch d.key.place = x at way
  generalize b.tree.rename d.scratch d.key.place = y at way
  cases way with
  | done related => exact h.changed other _ related h.holder
  | refused f =>
    dsimp only
    rw [h.persistence_eq]
    exact given _

private theorem record (h : Mirrors id c b) (other : j ≠ id) (d : Delivery) :
    Mirrors id (c.record j d) (b.record (renumber id j) d) := by
  have closed := h.changed other { d with stage := .ended (.ok ()) } h.tree (h.holderWithout other)
  unfold Collector.record
  rw [release_setDelivery, release_setDelivery, h.ledger]
  dsimp only
  split
  · exact ⟨closed.root, rfl, closed.announced, closed.waits, closed.deliveries, closed.holder,
      closed.tree⟩
  · exact ⟨closed.root, rfl, rfl, closed.waits, closed.deliveries, closed.holder, closed.tree⟩

/-- What happens to another delivery happens without this one. -/
private theorem step?_other (h : Mirrors id c b) (scratched : Scratched c) (other : j ≠ id)
    (at_j : c.deliveries[j]? = some d) (acts : Acts c j d e c') (he : c.step? e = some c') :
    ∃ b', b.step? (e.without id (c.hiddenPlace id)) = some b' ∧ Mirrors id c' b' := by
  have there : b.deliveries[renumber id j]? = some d := (h.getElem?_eq other).trans at_j
  cases acts with
  | write data writing remote =>
    refine ⟨_, ?_, h.write scratched at_j other writing data⟩
    simp [Event.without, step?, there, writing, remote]
  | breakOff text writing =>
    refine ⟨_, ?_, h.giveUp scratched at_j other writing _⟩
    simp [Event.without, step?, there, writing, h.persistence_eq]
  | cancel writing =>
    refine ⟨_, ?_, h.giveUp scratched at_j other writing _⟩
    simp [Event.without, step?, there, writing]
  | abandon committed =>
    have written := isWriting_of_isCommitted committed
    have remote : d.isFailure = false := by
      cases hf : d.isFailure with
      | false => rfl
      | true => simp [step?, at_j, written, committed, hf] at he
    refine ⟨_, ?_, h.changed other _ h.tree h.holder⟩
    simp only [Event.without, step?, there, written, committed, remote]
    rfl
  | commit writing =>
    refine ⟨_, ?_, h.commit scratched at_j other writing⟩
    simp [Event.without, step?, there, writing]
  | record committed =>
    have free : c.holder = none ∨ c.holder = some j := by
      by_contra held
      simp [step?, at_j, committed, held] at he
    have freeThere : b.holder = none ∨ b.holder = some (renumber id j) := by
      rw [h.holder, holderBeside_eq_some_iff other]
      refine free.imp_left fun hnone => ?_
      rw [hnone]
      rfl
    refine ⟨_, ?_, h.record other d⟩
    simp [Event.without, step?, there, committed, freeThere]

/-! ### The delivery itself comes and goes -/

/-- Without the delivery nothing happens when it is opened. -/
private theorem openResult_self {key : ResultKey} {isFailure : Bool} {body : ByteArray} {mark : String}
    (h : Mirrors id c b) (new : c.deliveries.length = id)
    (may : c.mayOpen key isFailure mark = true) :
    Mirrors id (c.openResult key isFailure body mark) b := by
  have bare : Tree.Lacks none [] c.tree b.tree := by
    have htree := h.tree
    rw [hiddenPlace_of_length_le (Nat.le_of_eq new), directories_of_length_le (Nat.le_of_eq new)]
      at htree
    exact htree
  have hopens : Opens c key isFailure body mark (c.openResult key isFailure body mark) :=
    opens body may
  generalize c.openResult key isFailure body mark = c' at hopens
  cases hopens with
  | answered outcome unwanted => exact h.opened new _ (bare.mono (by simp)) rfl
  | begun valid wanted free short unused begins =>
    cases begins with
    | hindered cause tree full made =>
      refine h.opened new _ ?_ rfl
      rcases made with rfl | made
      · exact bare.mono (by simp)
      · exact bare.of_makeDirectories made
    | underWay tree made room =>
      refine h.opened new _ ?_ ?_
      · exact (bare.of_makeDirectories made).hide (bare.get?_eq_none unused) (by simp) _
      · rw [free]
        cases isFailure with
        | false => rfl
        | true =>
          rw [if_pos rfl, new, holderBeside_self]
          rfl

/-- Without the delivery nothing happens when it is given up. -/
private theorem giveUp_self (h : Mirrors id c b) (at_id : c.deliveries[id]? = some d)
    (writing : d.isWriting = true) (stage : Stage)
    (stopped : ({ d with stage := stage } : Delivery).scratch? = none)
    (made : ({ d with stage := stage } : Delivery).directories = [[], [d.key.scope]]) :
    Mirrors id (c.giveUp id d stage) b := by
  have htree := h.tree
  rw [hiddenPlace_of_some at_id, Delivery.scratch?, if_pos writing] at htree
  rw [giveUp_eq]
  refine h.acted at_id { d with stage := stage } ?_ (holderBeside_holderWithout_self c id)
  rw [stopped]
  refine htree.unhide.mono fun p hp => ?_
  rw [directories_of_some at_id] at hp
  rw [made]
  unfold Delivery.directories at hp
  split at hp
  · cases hp
  · cases hp
  · exact hp

/-- Without the delivery nothing happens when something happens to it, unless it is moved into place. -/
private theorem step?_self (h : Mirrors id c b) (scratched : Scratched c)
    (at_id : c.deliveries[id]? = some d) (acts : Acts c id d e c') (remote : d.isCommitted = false)
    (unfiled : ∀ k, (k, id) ∉ c.filingOf e) : Mirrors id c' b := by
  cases acts with
  | write data writing _ =>
    have htree := h.tree
    rw [hiddenPlace_of_some at_id, directories_of_some at_id, Delivery.scratch?, if_pos writing]
      at htree
    have hcontent := scratched.content id d at_id writing
    have hwrite : c.write id d data =
        { c with
          tree := c.tree.set d.scratch (.file (d.body ++ data))
          deliveries := c.deliveries.set id { d with body := d.body ++ data } } :=
      if_pos (congrArg Option.isSome hcontent)
    have hscratch : ({ d with body := d.body ++ data } : Delivery).scratch? = some d.scratch :=
      if_pos writing
    rw [hwrite]
    refine h.acted at_id { d with body := d.body ++ data } ?_ rfl
    rw [hscratch]
    exact htree.hide (htree.gone d.scratch rfl) (by simp) _
  | breakOff text writing => exact h.giveUp_self at_id writing _ rfl rfl
  | cancel writing => exact h.giveUp_self at_id writing _ rfl rfl
  | abandon committed | record committed =>
    rw [remote] at committed
    cases committed
  | commit writing =>
    have given (f : StorageFault) := h.giveUp_self at_id writing
      (.ended (.error (c.persistence d.key (.fault f)))) rfl rfl
    unfold Collector.commit
    split
    · next t ht =>
      refine absurd ?_ (unfiled d.key)
      rw [filingOf_commit at_id ht]
      exact List.mem_singleton.mpr rfl
    · exact given _

/-! ### A step -/

/-- What happens to no delivery happens without this one. -/
private theorem step?_unsubjected (h : Mirrors id c b) (unsubjected : c.subject? e = none)
    (he : c.step? e = some c') :
    ∃ b', b.step? (e.without id (c.hiddenPlace id)) = some b' ∧ Mirrors id c' b' := by
  cases e with
  | beginWait stop =>
    cases he
    exact ⟨_, rfl, ⟨h.root, h.ledger, h.announced, by simp [Collector.beginWait, h.waits],
      h.deliveries, h.holder, h.tree⟩⟩
  | setStop i s =>
    simp only [step?] at he
    split at he
    · next w hw =>
      split at he
      · next hs =>
        cases he
        exact ⟨b.setStop i s, by simp only [Event.without, step?, h.waits, hw, if_pos hs],
          ⟨h.root, h.ledger, h.announced, by simp [Collector.setStop, h.waits], h.deliveries,
            h.holder, h.tree⟩⟩
      · cases he
    · cases he
  | endWait i o =>
    have hmay (w : Wait) : b.mayEnd w o = c.mayEnd w o := by
      cases o <;> simp [mayEnd, h.announced]
    simp only [step?] at he
    split at he
    · next w hw =>
      split at he
      · next hend =>
        cases he
        exact ⟨b.endWait i o, by simp only [Event.without, step?, h.waits, hw, hmay, if_pos hend],
          ⟨h.root, h.ledger, h.announced, by simp [Collector.endWait, h.waits], h.deliveries,
            h.holder, h.tree⟩⟩
      · cases he
    · cases he
  | disturb tree =>
    cases he
    refine ⟨_, rfl, ⟨h.root, h.ledger, h.announced, h.waits, h.deliveries, h.holder, ?_⟩⟩
    show Tree.Lacks (c.hiddenPlace id) (c.directories id) tree
      ((c.hiddenPlace id).elim tree tree.erase)
    cases c.hiddenPlace id with
    | none => exact .refl tree
    | some p => exact .erased tree p
  | openResult | write | breakOff | cancel | commit | record => cases unsubjected

/-- What happens at a collector happens without a delivery that is not moved into place. -/
theorem step (h : Mirrors id c b) (scratched : Scratched c) (he : c.step? e = some c')
    (uncommitted : ∀ d, c.deliveries[id]? = some d → d.isCommitted = false)
    (unfiled : ∀ k, (k, id) ∉ c.filingOf e) :
    ∃ b', b.run? (remnant id c e) = some b' ∧ Mirrors id c' b' := by
  have alone {e' : Event} (hb : ∃ b', b.step? e' = some b' ∧ Mirrors id c' b') :
      ∃ b', b.run? [e'] = some b' ∧ Mirrors id c' b' := by
    obtain ⟨b', hb', hm⟩ := hb
    exact ⟨b', Option.bind_eq_some_iff.mpr ⟨b', hb', rfl⟩, hm⟩
  have does := does_of_step? he
  unfold remnant
  cases does with
  | @opened key isFailure body mark =>
    have may : c.mayOpen key isFailure mark = true := by
      by_contra hmay
      simp [step?, hmay] at he
    have hsubject : c.subject? (.openResult key isFailure body mark) = some c.deliveries.length := rfl
    rw [hsubject]
    by_cases new : c.deliveries.length = id
    · rw [if_pos (congrArg some new)]
      exact ⟨b, rfl, h.openResult_self new may⟩
    · rw [if_neg fun hs => new (Option.some.inj hs)]
      exact alone ⟨_, if_pos (h.mayOpen may), h.openResult scratched new may⟩
  | acted i d at_i acts =>
    rw [acts.subject]
    by_cases here : i = id
    · subst here
      rw [if_pos rfl]
      exact ⟨b, rfl, h.step?_self scratched at_i acts (uncommitted d at_i) unfiled⟩
    · rw [if_neg fun hs => here (Option.some.inj hs)]
      exact alone (h.step?_other scratched here at_i acts he)
  | other same unsubjected =>
    rw [unsubjected, if_neg (by simp)]
    exact alone (h.step?_unsubjected unsubjected he)

end Mirrors

/-- A run goes on in the same way without a delivery that is not moved into place. -/
theorem mirrors_run (h : (start root expected).run? events = some c)
    (spares : Machine.Along step? (Spares []) (start root expected) events)
    (unfiled : ∀ k, (k, id) ∉ (start root expected).filings events) :
    ∃ b, (start root expected).run? ((start root expected).leaveOut id events) = some b ∧
      Mirrors id c b := by
  revert spares unfiled
  refine Machine.run?_induction
    (P := fun es c => Machine.Along step? (Spares []) (start root expected) es →
      (∀ k, (k, id) ∉ (start root expected).filings es) →
        ∃ b, (start root expected).run? ((start root expected).leaveOut id es) = some b ∧
          Mirrors id c b) (fun _ _ => ⟨_, rfl, .start root expected id⟩) ?_ h
  intro es s e s' hs ih he spares unfiled
  obtain ⟨hbefore, -⟩ := (Machine.along_concat hs).mp spares
  rw [filings, Machine.history_concat filingOf hs he] at unfiled
  have unfiledBefore (k : ResultKey) : (k, id) ∉ (start root expected).filings es :=
    fun hk => unfiled k (List.mem_append_left _ hk)
  have uncommitted (d : Delivery) (hd : s.deliveries[id]? = some d) : d.isCommitted = false := by
    rw [← Bool.not_eq_true]
    exact fun committed => unfiledBefore d.key ((traced_run hs).committed id d hd committed)
  obtain ⟨b, hb, mirrors⟩ := ih hbefore unfiledBefore
  obtain ⟨b', hb', mirrors'⟩ := mirrors.step (scratched_run hs hbefore) he uncommitted
    fun k hk => unfiled k (List.mem_append_right _ hk)
  refine ⟨b', ?_, mirrors'⟩
  rw [leaveOut, Machine.history_concat (remnant id) hs he, run?, Machine.run?_append]
  exact Option.bind_eq_some_iff.mpr ⟨b, hb, hb'⟩

end Collector

end ClusterSurvey
