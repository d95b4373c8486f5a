import ClusterSurvey.Proofs.Collector.Places
import ClusterSurvey.Proofs.Collector.Whole
import ClusterSurvey.Proofs.Service.Route

/-!
# Where a collector writes

A delivery is let in only if its key is valid and expected, and until it is answered it changes nothing
but places of its own: the directory of all results, the directory of its scope, its scratch file and the
place of its key.  The names of these places are plain, so they are found below the path of the tree and
nowhere else, and a scratch file is never named like a result.
-/

namespace ClusterSurvey

namespace Collector

variable {root : String} {expected : List ResultKey} {records : List (ResultKey × Bool)}
variable {k : ResultKey} {c c' : Collector} {e : Event} {events : List Event}

/-! ### Deliveries that are let in -/

/-- Whether a delivery of a key is let in with a mark: the key is valid and expected, and the mark is as
long as marks are. -/
structure Admits (expected : List ResultKey) (key : ResultKey) (mark : String) : Prop where
  valid : key.isValid = true
  expects : key ∈ expected
  short : mark.utf8ByteSize = 6

/-- The places of a delivery of a key with a mark. -/
inductive Owns (key : ResultKey) (mark : String) : Place → Prop where
  /-- The directory of all results. -/
  | root : Owns key mark []
  /-- The directory of its scope. -/
  | scope : Owns key mark [key.scope]
  /-- Its scratch file. -/
  | scratch : Owns key mark (key.scratchPlace mark)
  /-- The place of its key. -/
  | place : Owns key mark key.place

private theorem beginWriting_confined {key : ResultKey} {isFailure : Bool} {body : ByteArray}
    {mark : String} (h : Begins c key isFailure body mark c') :
    ∃ d, c'.deliveries = c.deliveries ++ [d] ∧ d.key = key ∧ d.mark = mark ∧
      ∀ p, c'.tree.get? p ≠ c.tree.get? p → Owns key mark p := by
  have made {tree : Tree} (hmade : c.tree.makeDirectories [key.scope] = .ok tree) {p : Place}
      (hp : tree.get? p ≠ c.tree.get? p) : p = [] ∨ p = [key.scope] := by
    by_contra hother
    rw [Tree.get?_makeDirectories hmade, if_neg hother] at hp
    exact hp rfl
  cases h with
  | hindered cause tree full hmade =>
    refine ⟨_, rfl, rfl, rfl, fun p hp => ?_⟩
    rcases hmade with rfl | hmade
    · exact absurd rfl hp
    · rcases made hmade hp with rfl | rfl
      · exact .root
      · exact .scope
  | underWay tree hmade room =>
    refine ⟨_, rfl, rfl, rfl, fun p hp => ?_⟩
    by_cases hscratch : p = key.scratchPlace mark
    · rw [hscratch]
      exact .scratch
    · have hset : (tree.set (key.scratchPlace mark) (.file body)).get? p = tree.get? p :=
        Tree.get?_set_of_ne tree _ hscratch
      rcases made hmade (hset ▸ hp) with rfl | rfl
      · exact .root
      · exact .scope

/-- What the opening of a delivery changes. -/
private theorem openResult_confined (ordered : Orderly expected records c) {key : ResultKey}
    {isFailure : Bool} (body : ByteArray) {mark : String} (may : c.mayOpen key isFailure mark = true) :
    ∃ d, (c.openResult key isFailure body mark).deliveries = c.deliveries ++ [d] ∧
      ((c.openResult key isFailure body mark).tree = c.tree ∧ d.isOpen = false ∨
        Admits expected d.key d.mark ∧
          ∀ p, (c.openResult key isFailure body mark).tree.get? p ≠ c.tree.get? p →
            Owns d.key d.mark p) := by
  have hopens := opens body may
  generalize c.openResult key isFailure body mark = c' at hopens
  cases hopens with
  | answered outcome unwanted => exact ⟨_, rfl, .inl ⟨rfl, rfl⟩⟩
  | begun valid wanted free short unused begins =>
    obtain ⟨d, hd, rfl, rfl, owns⟩ := beginWriting_confined begins
    exact ⟨d, hd, .inr ⟨⟨valid, (ordered.of_wants wanted).1, short⟩, owns⟩⟩

/-- What happens to a delivery changes nothing but its places, and leaves its key and its mark. -/
private theorem acts_confined {id : Nat} {d : Delivery} (acts : Acts c id d e c') :
    (∃ d', c'.deliveries = c.deliveries.set id d' ∧ d'.key = d.key ∧ d'.mark = d.mark) ∧
      ∀ p, c'.tree.get? p ≠ c.tree.get? p → Owns d.key d.mark p := by
  have erased {p : Place} (hp : (c.tree.erase d.scratch).get? p ≠ c.tree.get? p) :
      Owns d.key d.mark p := by
    by_cases hscratch : p = d.scratch
    · rw [hscratch]
      exact .scratch
    · exact absurd (Tree.get?_erase_of_ne c.tree hscratch) hp
  cases acts with
  | write data writing remote =>
    refine ⟨⟨_, deliveries_write c id d data, rfl, rfl⟩, fun p hp => ?_⟩
    by_cases hscratch : p = d.scratch
    · rw [hscratch]
      exact .scratch
    · refine absurd ?_ hp
      unfold write
      dsimp only
      split
      · exact Tree.get?_set_of_ne c.tree _ hscratch
      · rfl
  | breakOff text writing =>
    rw [giveUp_eq]
    exact ⟨⟨_, rfl, rfl, rfl⟩, fun p hp => erased hp⟩
  | cancel writing =>
    rw [giveUp_eq]
    exact ⟨⟨_, rfl, rfl, rfl⟩, fun p hp => erased hp⟩
  | abandon committed => exact ⟨⟨_, rfl, rfl, rfl⟩, fun p hp => absurd rfl hp⟩
  | commit writing =>
    unfold commit
    split
    · next t ht =>
      refine ⟨⟨_, rfl, rfl, rfl⟩, fun p hp => ?_⟩
      obtain ⟨b, -, hget⟩ := Tree.get?_rename ht
      by_cases hplace : p = d.key.place
      · rw [hplace]
        exact .place
      · by_cases hscratch : p = d.scratch
        · rw [hscratch]
          exact .scratch
        · refine absurd ?_ hp
          show t.get? p = c.tree.get? p
          rw [hget, if_neg hplace, if_neg hscratch]
    · rw [giveUp_eq]
      exact ⟨⟨_, rfl, rfl, rfl⟩, fun p hp => erased hp⟩
  | record committed =>
    refine ⟨⟨_, deliveries_record c id d, rfl, rfl⟩, fun p hp => absurd ?_ hp⟩
    rw [tree_record]

/-- Every delivery on its way has been let in. -/
theorem admitted_run (h : (start root expected).run? events = some c) :
    ∀ (id : Nat) (d : Delivery), c.deliveries[id]? = some d → d.isOpen = true →
      Admits expected d.key d.mark := by
  refine Machine.run?_induction
    (P := fun _ c => ∀ (id : Nat) (d : Delivery), c.deliveries[id]? = some d → d.isOpen = true →
      Admits expected d.key d.mark) (by simp [start]) ?_ h
  intro es s e s' hs ih he id d hd ho
  cases does_of_step? he with
  | @opened key isFailure body mark =>
    simp only [step?] at he
    split at he
    · next may =>
      obtain ⟨x, hx, hcase⟩ := openResult_confined (orderly_run hs) body may
      rw [hx] at hd
      obtain hd | ⟨-, rfl⟩ := getElem?_concat hd
      · exact ih id d hd ho
      · rcases hcase with ⟨-, hclosed⟩ | ⟨admitted, -⟩
        · rw [hclosed] at ho
          cases ho
        · exact admitted
    · cases he
  | acted i x at_i acts =>
    obtain ⟨⟨y, hy, hkey, hmark⟩, -⟩ := acts_confined acts
    rw [hy] at hd
    obtain ⟨-, hd⟩ | ⟨rfl, rfl⟩ := getElem?_set hd
    · exact ih id d hd ho
    · rw [hkey, hmark]
      exact ih id x at_i acts.isOpen
  | other same unsubjected =>
    rw [same] at hd
    exact ih id d hd ho

/-- An event that is about no delivery leaves the tree alone, unless somebody else changes it. -/
theorem tree_of_unsubjected (he : c.step? e = some c') (unsubjected : c.subject? e = none)
    (own : ∀ tree, e ≠ .disturb tree) : c'.tree = c.tree := by
  cases e with
  | beginWait stop =>
    cases he
    rfl
  | setStop i s =>
    simp only [step?] at he
    split at he
    · split at he
      · cases he
        rfl
      · cases he
    · cases he
  | endWait i o =>
    simp only [step?] at he
    split at he
    · split at he
      · cases he
        rfl
      · cases he
    · cases he
  | disturb tree => exact absurd rfl (own tree)
  | _ => cases unsubjected

/-- An event changes nothing in the tree, or it is about a delivery that has been let in and changes
nothing but places of this delivery. -/
theorem confined_step (h : (start root expected).run? events = some c) (he : c.step? e = some c')
    (own : ∀ tree, e ≠ .disturb tree) :
    c'.tree = c.tree ∨ ∃ id d, c.subject? e = some id ∧ c'.deliveries[id]? = some d ∧
      Admits expected d.key d.mark ∧ ∀ p, c'.tree.get? p ≠ c.tree.get? p → Owns d.key d.mark p := by
  cases does_of_step? he with
  | @opened key isFailure body mark =>
    simp only [step?] at he
    split at he
    · next may =>
      obtain ⟨d, hd, hcase⟩ := openResult_confined (orderly_run h) body may
      rcases hcase with ⟨same, -⟩ | ⟨admitted, owns⟩
      · exact .inl same
      · refine .inr ⟨c.deliveries.length, d, rfl, ?_, admitted, owns⟩
        rw [hd, List.getElem?_concat_length]
    · cases he
  | acted id x at_id acts =>
    obtain ⟨⟨d, hd, hkey, hmark⟩, owns⟩ := acts_confined acts
    have admitted := admitted_run h id x at_id acts.isOpen
    refine .inr ⟨id, d, acts.subject, ?_, ?_, ?_⟩
    · rw [hd]
      exact getElem?_set_self_of_some at_id
    · rw [hkey, hmark]
      exact admitted
    · rw [hkey, hmark]
      exact owns
  | other same unsubjected => exact .inl (tree_of_unsubjected he unsubjected own)

/-! ### Whatever comes -/

/-- What a collector becomes by what comes to it and by its own work, while nobody else changes its tree:
events, whole deliveries, results of the run itself and requests. -/
inductive Serves (c : Collector) : Collector → Prop where
  | nothing : Serves c c
  | event {c' c'' : Collector} (e : Event) (before : Serves c c') (he : c'.step? e = some c'')
      (own : ∀ tree, e ≠ .disturb tree) : Serves c c''
  | delivery {c' : Collector} (key : ResultKey) (pieces : List ByteArray) (broken : Option String)
      (before : Serves c c') : Serves c (c'.deliver key pieces broken)
  | result {c' : Collector} (r : LocalResult) (before : Serves c c') : Serves c (c'.ingest r)
  | request {c' : Collector} (r : Service.Request) (before : Serves c c') :
      Serves c (Service.handle c' r).1

/-- Whether events of the collector's own lead from one state to another. -/
private def Leads (c c' : Collector) : Prop :=
  ∃ es, (∀ e ∈ es, ∀ tree, e ≠ .disturb tree) ∧ c.run? es = some c'

namespace Leads

variable {c'' : Collector}

private theorem concat (h : Leads c c') (he : c'.step? e = some c'') (own : ∀ tree, e ≠ .disturb tree) :
    Leads c c'' := by
  obtain ⟨es, calm, hes⟩ := h
  refine ⟨es ++ [e], fun a ha => ?_, ?_⟩
  · rcases List.mem_append.mp ha with ha | ha
    · exact calm a ha
    · rw [List.mem_singleton.mp ha]
      exact own
  · rw [run?, Machine.run?_concat]
    exact Option.bind_eq_some_iff.mpr ⟨c', hes, he⟩

private theorem step (h : Leads c c') (own : ∀ tree, e ≠ .disturb tree) : Leads c (c'.step e) := by
  cases he : c'.step? e with
  | none =>
    rw [step_eq_self he]
    exact h
  | some c'' =>
    rw [step_eq he]
    exact h.concat he own

private theorem of_concerns (h : Leads c c') {id : Nat} (concerns : e.concerns id = true) :
    Leads c (c'.step e) := by
  refine h.step fun tree he => ?_
  rw [he] at concerns
  cases concerns

private theorem deliver (h : Leads c c') (key : ResultKey) (pieces : List ByteArray)
    (broken : Option String) : Leads c (c'.deliver key pieces broken) :=
  deliver_induction key pieces broken (h.step fun _ => Event.noConfusion)
    fun _ _ before concerns => before.of_concerns concerns

private theorem ingest (h : Leads c c') (r : LocalResult) : Leads c (c'.ingest r) :=
  ingest_induction r (fun _ _ => h.step fun _ => Event.noConfusion)
    fun _ _ before concerns => before.of_concerns concerns

end Leads

/-- Whatever comes to a collector is made of events. -/
private theorem Serves.leads (h : Serves c c') : Leads c c' := by
  induction h with
  | nothing => exact ⟨[], by simp, rfl⟩
  | event e before he own ih => exact ih.concat he own
  | delivery key pieces broken before ih => exact ih.deliver key pieces broken
  | result r before ih => exact ih.ingest r
  | @request c' r before ih =>
    rcases Service.handle_fst c' r with hsame | ⟨k, -, -, hdeliver⟩
    · rw [hsame]
      exact ih
    · rw [hdeliver]
      exact ih.deliver k r.pieces r.broken

/-- Events of the collector's own change nothing but places of deliveries that are let in. -/
private theorem Leads.confined (h : (start root expected).run? events = some c) (hl : Leads c c')
    {p : Place} (changed : c'.tree.get? p ≠ c.tree.get? p) :
    ∃ key mark, Admits expected key mark ∧ Owns key mark p := by
  obtain ⟨es, calm, hes⟩ := hl
  revert calm changed
  refine Machine.run?_induction
    (P := fun es c' => c'.tree.get? p ≠ c.tree.get? p → (∀ e ∈ es, ∀ tree, e ≠ .disturb tree) →
      ∃ key mark, Admits expected key mark ∧ Owns key mark p) (fun hp => absurd rfl hp) ?_ hes
  intro es s e s' hs ih he changed calm
  by_cases hp : s.tree.get? p = c.tree.get? p
  · have reached : (start root expected).run? (events ++ es) = some s := by
      rw [run?, Machine.run?_append]
      exact Option.bind_eq_some_iff.mpr ⟨c, h, hs⟩
    rw [← hp] at changed
    rcases confined_step reached he (calm e (by simp)) with hsame | ⟨id, d, -, -, admits, owns⟩
    · exact absurd (by rw [hsame]) changed
    · exact ⟨d.key, d.mark, admits, owns p changed⟩
  · exact ih hp fun a ha => calm a (List.mem_append_left _ ha)

/-! ### Keys that are refused -/

/-- A collector at which a delivery of a key has changed nothing. -/
private structure Idle (root : String) (expected : List ResultKey) (tree : Tree) (k : ResultKey)
    (id : Nat) (c : Collector) : Prop where
  reached : ∃ events, (start root expected).run? events = some c
  same : c.tree = tree
  keyed : ∀ d, c.deliveries[id]? = some d → d.key = k

/-- What happens to a delivery of a key that is refused changes nothing. -/
private theorem Idle.step {tree : Tree} {id : Nat} (idle : Idle root expected tree k id c)
    (refused : k.isValid = false ∨ k ∉ expected) (subject : c.subject? e = some id)
    (opens : ∀ key isFailure body mark, e = .openResult key isFailure body mark → key = k) :
    Idle root expected tree k id (c.step e) := by
  cases he : c.step? e with
  | none =>
    rw [step_eq_self he]
    exact idle
  | some c' =>
    rw [step_eq he]
    obtain ⟨events, hrun⟩ := idle.reached
    have keyed (d : Delivery) (hd : c'.deliveries[id]? = some d) : d.key = k := by
      rcases delivery_move (move_of_step? he) hd with ⟨x, hx, hkey, -⟩ | ⟨body, mark, hopen⟩
      · exact hkey ▸ idle.keyed x hx
      · exact opens _ _ _ _ hopen
    have own (tree : Tree) : e ≠ .disturb tree := by
      rintro rfl
      cases subject
    refine ⟨⟨events ++ [e], ?_⟩, ?_, keyed⟩
    · rw [run?, Machine.run?_concat]
      exact Option.bind_eq_some_iff.mpr ⟨c, hrun, he⟩
    · rcases confined_step hrun he own with hsame | ⟨i, d, hsubject, hd, admits, -⟩
      · exact hsame.trans idle.same
      · obtain rfl : i = id := Option.some.inj (hsubject.symm.trans subject)
        have hkey := keyed d hd
        rcases refused with invalid | foreign
        · rw [← hkey, admits.valid] at invalid
          cases invalid
        · exact absurd (hkey ▸ admits.expects) foreign

private theorem Idle.of_concerns {tree : Tree} {id : Nat} (idle : Idle root expected tree k id c')
    (refused : k.isValid = false ∨ k ∉ expected) (concerns : e.concerns id = true) : Idle root expected tree k id (c'.step e) := by
  refine idle.step refused (subject?_of_concerns concerns c') fun key f b m heq => ?_
  rw [heq] at concerns
  cases concerns

section

variable (h : (start root expected).run? events = some c)
  (refused : k.isValid = false ∨ k ∉ expected)

include h refused

private theorem idle_opened (isFailure : Bool) (body : ByteArray) (mark : String) :
    Idle root expected c.tree k c.deliveries.length (c.step (.openResult k isFailure body mark)) := by
  have idle : Idle root expected c.tree k c.deliveries.length c := by
    refine ⟨⟨events, h⟩, rfl, fun d hd => ?_⟩
    rw [List.getElem?_eq_none (Nat.le_refl _)] at hd
    cases hd
  refine idle.step refused rfl fun key f b m heq => ?_
  injection heq with hkey
  exact hkey.symm

/-- A delivery of a key that is refused leaves the tree as it is. -/
theorem tree_deliver_of_refused (pieces : List ByteArray) (broken : Option String) :
    (c.deliver k pieces broken).tree = c.tree :=
  (deliver_induction (P := Idle root expected c.tree k c.deliveries.length) k pieces broken
    (idle_opened h refused false .empty c.nextMark)
    fun _ _ idle concerns => idle.of_concerns refused concerns).same

/-- So does a result of the run itself. -/
theorem tree_ingest_of_refused (r : LocalResult) (key : r.key = k) : (c.ingest r).tree = c.tree := by
  subst key
  exact (ingest_induction (P := Idle root expected c.tree r.key c.deliveries.length) r
    (fun isFailure body => idle_opened h refused isFailure body c.nextMark)
    fun _ _ idle concerns => idle.of_concerns refused concerns).same

/-- So does a request whose path spells such a key. -/
theorem tree_handle_of_refused (r : Service.Request) (key : Service.keyAt? r.path = some k) :
    (Service.handle c r).1.tree = c.tree := by
  rcases Service.handle_fst c r with hsame | ⟨j, -, hj, hdeliver⟩
  · rw [hsame]
  · obtain rfl : j = k := Option.some.inj (hj.symm.trans key)
    rw [hdeliver]
    exact tree_deliver_of_refused h refused r.pieces r.broken

end

/-! ### What a directory shows -/

/-- Whether the files that a directory shows under names without a leading dot were put there by others,
or are bodies of admitted keys that have been moved into place. -/
private def ShowsWhole (expected : List ResultKey) (events : List Event)
    (filed : List (ResultKey × Nat)) (c : Collector) : Prop :=
  ∀ scope name b, name.toList.head? ≠ some '.' → c.tree.content? [scope, name] = some b →
    (∃ tree, .disturb tree ∈ events ∧ tree.content? [scope, name] = some b) ∨
      ∃ k id d, (k, id) ∈ filed ∧ k ∈ expected ∧ k.isValid = true ∧ k.place = [scope, name] ∧
        c.deliveries[id]? = some d ∧ d.isWriting = false ∧ b = d.body

/-- No scratch file lies where the name has no leading dot. -/
private theorem ne_scratchPlace {scope name : String} (shown : name.toList.head? ≠ some '.')
    (j : ResultKey) (mark : String) : [scope, name] ≠ j.scratchPlace mark := by
  intro heq
  have hname : name = scratchName j.resultType mark := (List.cons.inj (List.cons.inj heq).2).1
  rw [hname] at shown
  simp [scratchName, String.toList_append] at shown

private theorem showsWhole_step {filed : List (ResultKey × Nat)}
    (h : (start root expected).run? events = some c) (scratched : Scratched c)
    (he : c.step? e = some c') (shows : ShowsWhole expected events filed c) :
    ShowsWhole expected (events ++ [e]) (filed ++ c.filingOf e) c' := by
  intro scope name b shown hb
  have m := move_of_step? he
  by_cases hcalm : ∃ tree, e = .disturb tree
  · obtain ⟨tree, rfl⟩ := hcalm
    cases he
    exact .inl ⟨tree, List.mem_append_right _ List.mem_cons_self, hb⟩
  · by_cases hfile : ∃ j id, (j, id) ∈ c.filingOf e ∧ [scope, name] = j.place
    · obtain ⟨j, id, hmem, hplace⟩ := hfile
      obtain ⟨-, d, hd, hkey, hw, hbody⟩ := filing_move scratched m hmem
      obtain ⟨-, x, -, hx, rfl, writing, -⟩ := filing_inv m hmem
      have admits := admitted_run h id x hx (isOpen_of_isWriting writing)
      rw [hplace, hbody] at hb
      exact .inr ⟨x.key, id, d, List.mem_append_right _ hmem, admits.expects, admits.valid,
        hplace.symm, hd, hw, (Option.some.inj hb).symm⟩
    · have same : c'.tree.content? [scope, name] = c.tree.content? [scope, name] :=
        content?_move m (fun tree he => hcalm ⟨tree, he⟩) (ne_scratchPlace shown)
          fun j id hmem hplace => hfile ⟨j, id, hmem, hplace⟩
      rw [same] at hb
      rcases shows scope name b shown hb with
        ⟨tree, hmem, ht⟩ | ⟨k, id, d, hmem, hexpects, hvalid, hplace, hd, hw, rfl⟩
      · exact .inl ⟨tree, List.mem_append_left _ hmem, ht⟩
      · obtain ⟨d', hd', -, hbody, hw'⟩ := settled_move m hd hw
        exact .inr ⟨k, id, d', List.mem_append_left _ hmem, hexpects, hvalid, hplace, hd', hw',
          hbody.symm⟩

private theorem showsWhole_run (h : (start root expected).run? events = some c)
    (spares : Machine.Along step? (Spares []) (start root expected) events) :
    ShowsWhole expected events ((start root expected).filings events) c := by
  suffices Scratched c ∧ ShowsWhole expected events ((start root expected).filings events) c from
    this.2
  revert spares
  refine Machine.run?_induction
    (P := fun es c => Machine.Along step? (Spares []) (start root expected) es →
      Scratched c ∧ ShowsWhole expected es ((start root expected).filings es) c) ?_ ?_ h
  · refine fun _ => ⟨scratched_start root expected, fun scope name b shown hb => ?_⟩
    cases hb
  · intro es s e s' hs ih he spares
    obtain ⟨hbefore, hnow⟩ := (Machine.along_concat hs).mp spares
    obtain ⟨scratched, shows⟩ := ih hbefore
    rw [filings, Machine.history_concat filingOf hs he]
    exact ⟨scratched.move (move_of_step? he) hnow, showsWhole_step hs scratched he shows⟩

/-! ### Names -/

/-- The places of a key are found below the path of the tree, by names that are nothing but names. -/
structure IsContained (k : ResultKey) : Prop where
  scope : IsPlainName k.scope
  resultType : IsPlainName k.resultType
  /-- The path of its directory leads from wherever the path of the tree leads to its scope. -/
  directory : ∀ (root : String) (t : Tree) (p : Place),
    t.follow p (Tree.steps (k.directoryPath root)) =
      (t.follow p (Tree.steps root)).bind fun q => t.follow q [k.scope]
  /-- Its own path leads from there to its place. -/
  path : ∀ (root : String) (t : Tree) (p : Place),
    t.follow p (Tree.steps (k.path root)) =
      (t.follow p (Tree.steps root)).bind fun q => t.follow q k.place
  /-- So do the paths of its scratch files if their marks have no separators. -/
  scratch : ∀ mark : String, '/' ∉ mark.toList → '\\' ∉ mark.toList →
    IsPlainName (scratchName k.resultType mark) ∧
      ∀ (root : String) (t : Tree) (p : Place),
        t.follow p (Tree.steps (joinPath (k.directoryPath root) (scratchName k.resultType mark))) =
          (t.follow p (Tree.steps root)).bind fun q => t.follow q (k.scratchPlace mark)
  /-- No scratch file is named like its result. -/
  apart : ∀ resultType mark, scratchName resultType mark ≠ k.resultType

/-- The places of valid keys are contained. -/
theorem isContained_of_isValid (valid : k.isValid = true) : IsContained k := by
  have segment : isSegment k.resultType = true := (Bool.and_eq_true_iff.mp valid).2
  have scope := isPlainName_of_isSegment (ResultKey.isSegment_scope valid)
  refine ⟨scope, isPlainName_of_isSegment segment, ?_, ?_, fun mark slash backslash => ⟨?_, ?_⟩, ?_⟩
  · exact fun root t p => t.follow_joinPath p root scope
  · exact fun root t p => t.follow_joinPath_joinPath p root scope (isPlainName_of_isSegment segment)
  · exact isPlainName_scratchName segment slash backslash
  · exact fun root t p =>
      t.follow_joinPath_joinPath p root scope (isPlainName_scratchName segment slash backslash)
  · intro resultType mark heq
    rw [← heq, isSegment_scratchName] at segment
    cases segment

/-! ### All together -/

/-- What a collector that expects these keys keeps to when these events have happened. -/
structure Confined (root : String) (expected : List ResultKey) (events : List Event) (c : Collector) :
    Prop where
  /-- Whatever comes to it, it changes nothing but places of deliveries that are let in. -/
  changes : ∀ c', Serves c c' → ∀ p, c'.tree.get? p ≠ c.tree.get? p →
    ∃ key mark, Admits expected key mark ∧ Owns key mark p
  /-- An event changes nothing but places of the delivery that it is about. -/
  step : ∀ e c', c.step? e = some c' → (∀ tree, e ≠ .disturb tree) →
    c'.tree = c.tree ∨ ∃ id d, c.subject? e = some id ∧ c'.deliveries[id]? = some d ∧
      Admits expected d.key d.mark ∧ ∀ p, c'.tree.get? p ≠ c.tree.get? p → Owns d.key d.mark p
  /-- For a key that is not valid or not expected nothing is changed. -/
  refused : ∀ k, k.isValid = false ∨ k ∉ expected →
    (∀ pieces broken, (c.deliver k pieces broken).tree = c.tree) ∧
      (∀ r, r.key = k → (c.ingest r).tree = c.tree) ∧
        ∀ r, Service.keyAt? r.path = some k → (Service.handle c r).1.tree = c.tree
  /-- If nobody else touches the scratch files, what its directories show under names without a leading
  dot was put there by others, or is a whole body. -/
  shown : Machine.Along step? (Spares []) (start root expected) events → ∀ scope name b,
    name.toList.head? ≠ some '.' → c.tree.content? [scope, name] = some b →
      (∃ tree, .disturb tree ∈ events ∧ tree.content? [scope, name] = some b) ∨
        ∃ k id, (k, id) ∈ (start root expected).filings events ∧ k ∈ expected ∧ k.isValid = true ∧
          k.place = [scope, name] ∧ b = joined ((start root expected).pieces events id)

/-- The places of valid keys lie below the path of the tree, and at every state of every run a collector
changes nothing but places of valid keys that it expects, and shows no body before it is whole. -/
theorem confined_run (h : (start root expected).run? events = some c) :
    (∀ k : ResultKey, k.isValid = true → IsContained k) ∧ Confined root expected events c := by
  refine ⟨fun k valid => isContained_of_isValid valid, ?_, fun e c' he own => confined_step h he own,
    fun k refused => ⟨?_, ?_, ?_⟩, ?_⟩
  · exact fun c' serves p changed => serves.leads.confined h changed
  · exact tree_deliver_of_refused h refused
  · exact tree_ingest_of_refused h refused
  · exact tree_handle_of_refused h refused
  · intro spares scope name b shown hb
    rcases showsWhole_run h spares scope name b shown hb with
      hother | ⟨k, id, d, hmem, hexpects, hvalid, hplace, hd, -, rfl⟩
    · exact .inl hother
    · exact .inr ⟨k, id, hmem, hexpects, hvalid, hplace, (bodied_run h).bodies id d hd⟩

/-- A result of a node has come in part, and somebody tries to deliver one for a key that climbs. -/
def climbing : List Event :=
  [.openResult ⟨"a", "t"⟩ false ⟨#[1]⟩ "000000", .openResult ⟨"..", "t"⟩ false ⟨#[2]⟩ "000001"]

/-- The tree then has the two directories and a hidden file, and nothing is shown yet. -/
theorem confined_climbing : ∃ c, (start "out" [⟨"a", "t"⟩, ⟨"..", "t"⟩]).run? climbing = some c ∧
    Confined "out" [⟨"a", "t"⟩, ⟨"..", "t"⟩] climbing c ∧
      (c.deliver ⟨"..", "t"⟩ [⟨#[3]⟩] none).tree = c.tree ∧
        c.tree.entries.map (·.1) = [[], ["a"], ["a", ".t.000000.partial"]] := by
  have hsome : ((start "out" [⟨"a", "t"⟩, ⟨"..", "t"⟩]).run? climbing).isSome = true := rfl
  have confined : Confined "out" [⟨"a", "t"⟩, ⟨"..", "t"⟩] climbing _ :=
    (confined_run (Option.some_get hsome).symm).2
  have invalid : (ResultKey.mk ".." "t").isValid = false := by decide
  exact ⟨_, (Option.some_get hsome).symm, confined, (confined.refused _ (.inl invalid)).1 _ _, rfl⟩

end Collector

end ClusterSurvey
