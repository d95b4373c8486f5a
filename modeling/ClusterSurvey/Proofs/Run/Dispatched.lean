import ClusterSurvey.Proofs.Collector.Whole
import ClusterSurvey.Proofs.Run.Capacity

/-!
# Whether a run can be completed

Before a plugin is launched its result type is looked at, but neither the names of the nodes nor the
length of any name.  So a run may expect results that it can never collect: those of a node whose name
cannot stand in a path, and those under names that are too long for the storage.  These are the only
ones; every other result that a run expects is taken whenever it comes, and a run that expects only
such results can be completed.
-/

namespace ClusterSurvey

namespace Collector

variable {root : String} {expected : List ResultKey} {c : Collector} {k : ResultKey}

/-! ### Several whole deliveries -/

/-- A result that is sent: the key that it answers for, the pieces of its body, and how the body breaks
off, if it does. -/
structure Parcel where
  key : ResultKey
  pieces : List ByteArray
  broken : Option String

/-- Takes whole deliveries one after the other. -/
def deliverAll (c : Collector) (parcels : List Parcel) : Collector :=
  parcels.foldl (fun c p => c.deliver p.key p.pieces p.broken) c

/-- A collector that has taken whole deliveries, and nothing else.  It has as much room as at the start,
and has received what came whole and could be filed. -/
structure Served (expected : List ResultKey) (parcels : List Parcel) (c : Collector) : Prop where
  quiet : c.Quiet
  ordered : ∃ records, Orderly expected records c
  room : ∀ k, c.tree.hasRoomFor k = k.fits
  receipts : ∀ k ∈ expected, c.ledger.receipt? k = some .received ↔
    k.isValid = true ∧ k.fits = true ∧ ∃ p ∈ parcels, p.key = k ∧ p.broken = none

private theorem served_start (root : String) (expected : List ResultKey) :
    Served expected [] (start root expected) where
  quiet := quiet_start root expected
  ordered := ⟨[], orderly_start root expected⟩
  room := Tree.hasRoomFor_empty
  receipts k hk := by
    have hpending : (start root expected).ledger.receipt? k = some .pending := by
      rw [(orderly_start root expected).receipt?_eq, if_pos hk]
      rfl
    rw [hpending]
    simp

namespace Served

variable {parcels : List Parcel}

private theorem deliver (h : Served expected parcels c) (p : Parcel) :
    Served expected (parcels ++ [p]) (c.deliver p.key p.pieces p.broken) where
  quiet := h.quiet.deliver p.key p.pieces p.broken
  ordered := by
    obtain ⟨records, ordered⟩ := h.ordered
    obtain ⟨more, after⟩ := (Reaches.deliver c p.key p.pieces p.broken).orderly ordered
    exact ⟨records ++ more, after⟩
  room k := (h.quiet.hasRoomFor_deliver p.key p.pieces p.broken k).trans (h.room k)
  receipts k hk := by
    obtain ⟨records, ordered⟩ := h.ordered
    rw [h.quiet.receipt?_deliver ordered, h.room]
    by_cases hp : k = p.key ∧ p.key.isValid = true ∧ p.key ∈ expected ∧ p.broken = none ∧
        p.key.fits = true
    · obtain ⟨rfl, valid, -, whole, fits⟩ := hp
      rw [if_pos ⟨rfl, valid, hk, whole, fits⟩]
      exact ⟨fun _ => ⟨valid, fits, p, by simp, rfl, whole⟩, fun _ => rfl⟩
    · rw [if_neg hp, h.receipts k hk]
      refine and_congr_right fun valid => and_congr_right fun fits => ?_
      constructor
      · rintro ⟨q, hq, hkey, whole⟩
        exact ⟨q, List.mem_append_left _ hq, hkey, whole⟩
      · rintro ⟨q, hq, rfl, whole⟩
        rcases List.mem_append.mp hq with hq | hq
        · exact ⟨q, hq, rfl, whole⟩
        · obtain rfl := List.mem_singleton.mp hq
          exact absurd ⟨rfl, valid, hk, whole, fits⟩ hp

/-- Deliveries add to what has been taken. -/
theorem deliverAll (h : Served expected parcels c) (more : List Parcel) :
    Served expected (parcels ++ more) (c.deliverAll more) := by
  induction more generalizing parcels c with
  | nil => rwa [List.append_nil]
  | cons p ps ih =>
    rw [← List.singleton_append, ← List.append_assoc]
    exact ih (h.deliver p)

/-- How a collector answers the whole result of a key that it expects, and what becomes of it. -/
theorem answer (h : Served expected parcels c) (hk : k ∈ expected) (pieces : List ByteArray) :
    (k.isValid = false ∧
        ∃ reason, (c.deliver k pieces none).lastOutcome? = some (.error (.invalidKey reason))) ∨
      (k.isValid = true ∧ k.fits = false ∧
        ∃ cause, (c.deliver k pieces none).lastOutcome? = some (.error (c.persistence k cause))) ∨
      (k.isValid = true ∧ k.fits = true ∧ (c.deliver k pieces none).lastOutcome? = some (.ok ()) ∧
        (c.deliver k pieces none).tree.content? k.place = some (joined pieces)) := by
  obtain ⟨records, ordered⟩ := h.ordered
  have hd := h.quiet.delivered k pieces none
  generalize c.deliver k pieces none = c' at hd
  cases hd with
  | invalid e bad =>
    exact .inl ⟨ResultKey.isValid_of_check_eq_error bad, e.message, lastOutcome?_of_concat rfl rfl⟩
  | unexpected valid foreign => exact absurd hk (ordered.receipt?_eq_none_iff.mp foreign)
  | failed cause body tree valid _ hindrance grown =>
    rw [h.room] at hindrance
    exact .inr (.inl ⟨valid, by simpa using hindrance, cause, lastOutcome?_of_concat rfl rfl⟩)
  | filed tree valid _ whole room grown =>
    rw [h.room] at room
    exact .inr (.inr ⟨valid, room, lastOutcome?_of_concat rfl rfl, Tree.content?_set_self tree k.place _⟩)

/-- Nothing is outstanding when every expected key has been received. -/
theorem announced_eq_zero_iff (h : Served expected parcels c) :
    c.announced = 0 ↔ ∀ k ∈ expected, c.ledger.receipt? k = some .received := by
  obtain ⟨records, ordered⟩ := h.ordered
  rw [ordered.announced, ordered.ledger, Ledger.outstanding_eq_zero_iff]
  refine forall₂_congr fun k hk => ?_
  rw [Ledger.receipt?_after, if_pos hk, Ledger.receiptAfter]
  cases records.lookup k <;> simp

/-- Nothing can be left outstanding if every expected key is valid and there is room for it, and only
then. -/
theorem completable_iff (h : Served expected parcels c) :
    (∃ more, (c.deliverAll more).announced = 0) ↔
      ∀ k ∈ expected, k.isValid = true ∧ k.fits = true := by
  constructor
  · rintro ⟨more, hzero⟩ k hk
    have after := h.deliverAll more
    obtain ⟨valid, fits, -⟩ := (after.receipts k hk).mp (after.announced_eq_zero_iff.mp hzero k hk)
    exact ⟨valid, fits⟩
  · intro hall
    let more := expected.map fun k => (⟨k, [], none⟩ : Parcel)
    have after := h.deliverAll more
    refine ⟨more, after.announced_eq_zero_iff.mpr fun k hk => (after.receipts k hk).mpr ?_⟩
    obtain ⟨valid, fits⟩ := hall k hk
    exact ⟨valid, fits, ⟨k, [], none⟩,
      List.mem_append_right _ (List.mem_map.mpr ⟨k, hk, rfl⟩), rfl, rfl⟩

end Served

/-- A collector that has taken whole deliveries since its start. -/
theorem served_deliverAll (root : String) (expected : List ResultKey) (parcels : List Parcel) :
    Served expected parcels ((start root expected).deliverAll parcels) :=
  (served_start root expected).deliverAll parcels

end Collector

namespace Run

variable {instances : List Instance} {nodes : List String} {k : ResultKey}

/-! ### What a run expects -/

/-- A result whose type has been looked at, and nothing else, can be collected: its node has a name that
can stand in a path, and the names under which it is written and filed are not too long. -/
def Deliverable (k : ResultKey) : Prop :=
  (k.node = "" ∨ isSegment k.node = true) ∧ nameFits k.scope = true ∧
    k.resultType.utf8ByteSize ≤ maxTypeOctets

instance (k : ResultKey) : Decidable (Deliverable k) := inferInstanceAs (Decidable (_ ∧ _))

/-- The result type of a plugin that can be made a workload is a segment. -/
private theorem isSegment_of_render {i : Instance} {advertise : String} {credential : Credential}
    {manifest : Manifest} (h : i.render advertise credential = .ok manifest) :
    isSegment i.resultType = true := by
  have hnames : i.checkNames = .ok () := (Instance.render_eq_ok_iff.mp h).1
  exact (Instance.checkNames_eq_ok_iff.mp hnames).2

/-- So is the type of every result that is expected of such plugins. -/
private theorem isSegment_of_mem_expectedOf
    (rendered : ∀ i ∈ instances, ∃ advertise credential manifest,
      i.render advertise credential = .ok manifest)
    (hk : k ∈ expectedOf instances nodes) : isSegment k.resultType = true := by
  obtain ⟨i, hi, hki⟩ := List.mem_flatMap.mp hk
  obtain ⟨advertise, credential, manifest, hrender⟩ := rendered i hi
  rw [Instance.resultType_of_mem hki]
  exact isSegment_of_render hrender

private theorem isValid_iff_of_isSegment (h : isSegment k.resultType = true) :
    k.isValid = true ↔ k.node = "" ∨ isSegment k.node = true := by
  rw [ResultKey.isValid, h, Bool.and_true, Bool.or_eq_true, ResultKey.isClusterWide,
    String.isEmpty_iff]

private theorem deliverable_iff (h : isSegment k.resultType = true) :
    Deliverable k ↔ k.isValid = true ∧ k.fits = true := by
  rw [isValid_iff_of_isSegment h, ResultKey.fits, Bool.and_eq_true, decide_eq_true_iff]
  rfl

/-! ### What becomes of it -/

/-- How a collector of a dispatched run answers the whole results of the keys that it expects. -/
structure Dispatched (expected : List ResultKey) (c : Collector) : Prop where
  /-- A result is accepted if it can be collected. -/
  accepted : ∀ k ∈ expected, ∀ pieces,
    (c.deliver k pieces none).lastOutcome? = some (.ok ()) ↔ Deliverable k
  /-- It is recorded then, and its body lies in its place. -/
  recorded : ∀ k ∈ expected, ∀ pieces, Deliverable k →
    (c.deliver k pieces none).ledger.receipt? k = some .received ∧
      (c.deliver k pieces none).tree.content? k.place = some (Collector.joined pieces)
  /-- It is refused for its key if its node has a name that cannot stand in a path. -/
  refused : ∀ k ∈ expected, ∀ pieces,
    (∃ reason, (c.deliver k pieces none).lastOutcome? = some (.error (.invalidKey reason))) ↔
      ¬ (k.node = "" ∨ isSegment k.node = true)
  /-- Otherwise it can only fail to be filed, since no such result is unexpected. -/
  unfiled : ∀ k ∈ expected, ∀ pieces, (k.node = "" ∨ isSegment k.node = true) → ¬ Deliverable k →
    ∃ cause, (c.deliver k pieces none).lastOutcome? = some (.error (c.persistence k cause))
  /-- The run can be completed if every result that it expects can be collected, and only then. -/
  completable : (∃ more, (c.deliverAll more).announced = 0) ↔ ∀ k ∈ expected, Deliverable k

/-- Whichever whole deliveries have come before, what a run expects of plugins that could be made
workloads is accepted if it can be collected, and only then. -/
theorem dispatched_deliverAll
    (rendered : ∀ i ∈ instances, ∃ advertise credential manifest,
      i.render advertise credential = .ok manifest)
    (nodes : List String) (root : String) (before : List Collector.Parcel) :
    Dispatched (expectedOf instances nodes)
      ((Collector.start root (expectedOf instances nodes)).deliverAll before) := by
  have served := Collector.served_deliverAll root (expectedOf instances nodes) before
  generalize (Collector.start root (expectedOf instances nodes)).deliverAll before = c at served
  have hsegment {k : ResultKey} (hk : k ∈ expectedOf instances nodes) :
      isSegment k.resultType = true := isSegment_of_mem_expectedOf rendered hk
  constructor
  · intro k hk pieces
    rw [deliverable_iff (hsegment hk)]
    rcases served.answer hk pieces with ⟨invalid, reason, hlast⟩ | ⟨-, unfit, cause, hlast⟩ |
      ⟨valid, fits, hlast, -⟩
    · simp [hlast, invalid]
    · simp [hlast, unfit]
    · simp [hlast, valid, fits]
  · intro k hk pieces hdeliverable
    obtain ⟨valid, fits⟩ := (deliverable_iff (hsegment hk)).mp hdeliverable
    have after := served.deliverAll [⟨k, pieces, none⟩]
    refine ⟨(after.receipts k hk).mpr ⟨valid, fits, _, List.mem_append_right _
      (List.mem_singleton.mpr rfl), rfl, rfl⟩, ?_⟩
    rcases served.answer hk pieces with ⟨invalid, -⟩ | ⟨-, unfit, -⟩ | ⟨-, -, -, content⟩
    · simp [valid] at invalid
    · simp [fits] at unfit
    · exact content
  · intro k hk pieces
    rw [← isValid_iff_of_isSegment (hsegment hk)]
    rcases served.answer hk pieces with ⟨invalid, reason, hlast⟩ | ⟨valid, -, cause, hlast⟩ |
      ⟨valid, -, hlast, -⟩
    · simp [hlast, invalid]
    · simp [hlast, valid, Collector.persistence]
    · simp [hlast, valid]
  · intro k hk pieces hnode hundeliverable
    rw [deliverable_iff (hsegment hk)] at hundeliverable
    have valid := (isValid_iff_of_isSegment (hsegment hk)).mpr hnode
    rcases served.answer hk pieces with ⟨invalid, -⟩ | ⟨-, -, cause, hlast⟩ | ⟨-, fits, -⟩
    · simp [valid] at invalid
    · exact ⟨cause, hlast⟩
    · exact absurd ⟨valid, fits⟩ hundeliverable
  · rw [served.completable_iff]
    exact forall₂_congr fun k hk => (deliverable_iff (hsegment hk)).symm

/-- A job, and a daemon set on a node and on another one whose name is hidden. -/
theorem dispatched_hiddenNode :
    (∀ i ∈ [exampleJob "a" "1", exampleDaemonSet "b" "2"], ∃ advertise credential manifest,
      i.render advertise credential = .ok manifest) ∧
    Dispatched [⟨"", "a"⟩, ⟨"n", "b"⟩, ⟨".m", "b"⟩]
      ((Collector.start "out" [⟨"", "a"⟩, ⟨"n", "b"⟩, ⟨".m", "b"⟩]).deliverAll
        [⟨⟨"n", "b"⟩, [], some "connection reset"⟩, ⟨⟨"", "a"⟩, [], none⟩]) ∧
    Deliverable ⟨"", "a"⟩ ∧ Deliverable ⟨"n", "b"⟩ ∧ ¬ Deliverable ⟨".m", "b"⟩ := by
  have rendered : ∀ i ∈ [exampleJob "a" "1", exampleDaemonSet "b" "2"],
      ∃ advertise credential manifest, i.render advertise credential = .ok manifest := by
    intro i hi
    rcases List.mem_pair.mp hi with rfl | rfl <;> exact ⟨"10.0.0.1:8443", default, _, rfl⟩
  exact ⟨rendered, dispatched_deliverAll rendered ["n", ".m"] "out" _, by decide +kernel⟩

private theorem isOk_render {i : Instance} (name : isSegment i.name = true)
    (type : isSegment i.resultType = true) (advertise : String) (credential : Credential) :
    (i.render advertise credential).isOk = true := by
  have hnames : i.checkNames = .ok () := Instance.checkNames_eq_ok_iff.mpr ⟨name, type⟩
  unfold Instance.render
  rw [hnames]
  rfl

/-- The result of a job under a name that is too long for the storage. -/
private theorem unfiled_of_isSegment {t : String} (segment : isSegment t = true)
    (long : maxTypeOctets < t.utf8ByteSize) :
    ((exampleJob t "1").render "10.0.0.1:8443" default).isOk = true ∧
    expectedOf [exampleJob t "1"] ["n"] = [⟨"", t⟩] ∧
    (⟨"", t⟩ : ResultKey).check = .ok () ∧
    (∀ pieces, ∃ cause,
      ((Collector.start "out" [⟨"", t⟩]).deliver ⟨"", t⟩ pieces none).lastOutcome? =
        some (.error (.persistence (ResultKey.path ⟨"", t⟩ "out") cause))) ∧
    ∀ parcels, ((Collector.start "out" [⟨"", t⟩]).deliverAll parcels).announced ≠ 0 := by
  have valid : (⟨"", t⟩ : ResultKey).isValid = true := segment
  have unfit : (⟨"", t⟩ : ResultKey).fits = false := by
    rw [ResultKey.fits, decide_eq_false (Nat.not_le.mpr long), Bool.and_false]
  have served := Collector.served_deliverAll "out" [⟨"", t⟩] []
  have render := isOk_render (i := exampleJob t "1") segment segment "10.0.0.1:8443" default
  refine ⟨render, rfl, (ResultKey.check_eq_ok_iff _).mpr valid,
    fun pieces => ?_, fun parcels hzero => ?_⟩
  · rcases served.answer List.mem_cons_self pieces with ⟨invalid, -⟩ | ⟨-, -, filed⟩ | ⟨-, fits, -⟩
    · rw [valid] at invalid
      cases invalid
    · exact filed
    · rw [unfit] at fits
      cases fits
  · obtain ⟨-, fits⟩ := served.completable_iff.mp ⟨parcels, hzero⟩ _ List.mem_cons_self
    rw [unfit] at fits
    cases fits

/-- A result type of this many characters. -/
def typeOfLength (n : Nat) : String := String.ofList (List.replicate n 'a')

private theorem isSegment_typeOfLength {n : Nat} (h : 0 < n) : isSegment (typeOfLength n) = true := by
  obtain ⟨n, rfl⟩ := Nat.exists_eq_succ_of_ne_zero (Nat.pos_iff_ne_zero.mp h)
  have hlist : (typeOfLength (n + 1)).toList = 'a' :: List.replicate n 'a' := String.toList_ofList
  rw [isSegment, hlist]
  dsimp only
  rw [Bool.and_eq_true, List.all_eq_true]
  refine ⟨rfl, fun c hc => ?_⟩
  obtain rfl : c = 'a' := (List.mem_cons.mp hc).elim id List.eq_of_mem_replicate
  rfl

private theorem utf8ByteSize_typeOfLength (n : Nat) : (typeOfLength n).utf8ByteSize = n := by
  rw [typeOfLength, utf8ByteSize_ofList, List.length_replicate]
  intro c hc
  rw [List.eq_of_mem_replicate hc]
  rfl

/-- A job whose result type has 240 characters is launched, but its result cannot be filed, and nothing
completes the run. -/
theorem unfiled_longType :
    ((exampleJob (typeOfLength 240) "1").render "10.0.0.1:8443" default).isOk = true ∧
    expectedOf [exampleJob (typeOfLength 240) "1"] ["n"] = [⟨"", typeOfLength 240⟩] ∧
    (⟨"", typeOfLength 240⟩ : ResultKey).check = .ok () ∧
    (∀ pieces, ∃ cause,
      ((Collector.start "out" [⟨"", typeOfLength 240⟩]).deliver ⟨"", typeOfLength 240⟩ pieces
        none).lastOutcome? =
          some (.error (.persistence (ResultKey.path ⟨"", typeOfLength 240⟩ "out") cause))) ∧
    ∀ parcels,
      ((Collector.start "out" [⟨"", typeOfLength 240⟩]).deliverAll parcels).announced ≠ 0 := by
  refine unfiled_of_isSegment (isSegment_typeOfLength (by decide)) ?_
  rw [utf8ByteSize_typeOfLength]
  decide

end Run

end ClusterSurvey
