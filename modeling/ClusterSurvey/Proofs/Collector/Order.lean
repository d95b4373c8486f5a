import ClusterSurvey.Proofs.Collector.Ongoing

/-!
# The order of deliveries

When packets for different keys have been carried to their end, nothing is left of the order in which they
came or of how they went on side by side: what is outstanding, the status, the tree and the answers can be
told from the packets.
-/

namespace ClusterSurvey

/-- What is to be delivered: a result or a failure for a key. -/
structure Packet where
  /-- What the result answers for. -/
  key : ResultKey
  /-- Whether it is a failure. -/
  isFailure : Bool
  /-- Its whole body; if its key is not let in, what of it comes when it is opened. -/
  body : ByteArray

/-- What a delivery has brought. -/
def Delivery.packet (d : Delivery) : Packet := ⟨d.key, d.isFailure, d.body⟩

namespace Collector

variable {root : String} {expected : List ResultKey} {found : Tree} {packets : List Packet}
variable {c c' : Collector} {events events' : List Event}

/-- A run in which these packets, and no other ones, have been carried to their end, each as a whole; what
else may have happened are waits. -/
structure Carried (root : String) (expected : List ResultKey) (found : Tree) (packets : List Packet)
    (events : List Event) (c : Collector) : Prop where
  run : (startIn root expected found).run? events = some c
  steady : ∀ e ∈ events, e.isSteady = true
  all : (c.deliveries.map Delivery.packet).Perm packets
  ended : ∀ d ∈ c.deliveries, d.outcome?.isSome = true

/-- The records of packets that are let in. -/
def recordsOf (expected : List ResultKey) (packets : List Packet) : List (ResultKey × Bool) :=
  (packets.filter fun q => LetsIn expected q.key).map fun q => (q.key, q.isFailure)

/-- What becomes of a collector, and of the tree that it found, by these packets. -/
structure Settled (expected : List ResultKey) (found : Tree) (packets : List Packet) (c : Collector) :
    Prop where
  /-- Those that are let in are counted. -/
  ledger : c.ledger = .after expected (recordsOf expected packets)
  announced : c.announced = c.ledger.outstanding
  /-- Their directories are there. -/
  above : ∀ q ∈ packets, LetsIn expected q.key →
    c.tree.get? [] = some .directory ∧ c.tree.get? [q.key.scope] = some .directory
  /-- Their bodies lie in place. -/
  filed : ∀ q ∈ packets, LetsIn expected q.key → c.tree.get? q.key.place = some (.file q.body)
  /-- Everything else is as it was found. -/
  rest : ∀ p, (∀ q ∈ packets, LetsIn expected q.key →
    p ≠ [] ∧ p ≠ [q.key.scope] ∧ p ≠ q.key.place) → c.tree.get? p = found.get? p
  /-- Each of them is answered by its key. -/
  answers : ∀ d ∈ c.deliveries, d.outcome? = some (finalAnswer expected d.key)

/-- The first record of a key that is named once. -/
private theorem lookup_of_nodup {records : List (ResultKey × Bool)} (once : (records.map (·.1)).Nodup)
    {k : ResultKey} {b : Bool} (h : (k, b) ∈ records) : records.lookup k = some b := by
  obtain ⟨before, after, rfl⟩ := List.append_of_mem h
  refine List.lookup_eq_some_iff.mpr ⟨before, after, rfl, fun p hp => ?_⟩
  rw [bne_iff_ne]
  rintro rfl
  rw [List.map_append, List.map_cons] at once
  exact (List.nodup_append.mp once).2.2 p.1 (List.mem_map_of_mem hp) p.1 List.mem_cons_self rfl

namespace Carried

private theorem packet_mem (h : Carried root expected found packets events c) {d : Delivery}
    (hd : d ∈ c.deliveries) : d.packet ∈ packets :=
  h.all.subset (List.mem_map_of_mem hd)

private theorem delivery_of_mem (h : Carried root expected found packets events c) {q : Packet}
    (hq : q ∈ packets) : ∃ (id : Nat) (d : Delivery), c.deliveries[id]? = some d ∧ d.packet = q := by
  obtain ⟨d, hd, rfl⟩ := List.mem_map.mp (h.all.symm.subset hq)
  obtain ⟨id, hid⟩ := List.mem_iff_getElem?.mp hd
  exact ⟨id, d, hid, rfl⟩

private theorem onePerKey (h : Carried root expected found packets events c)
    (once : (packets.map (·.key)).Nodup) : OnePerKey c := by
  have hkeys : (c.deliveries.map (·.key)).Nodup := by
    have hperm := h.all.map (·.key)
    rw [List.map_map] at hperm
    exact hperm.nodup_iff.mpr once
  intro i j d d' hd hd' hkey
  have hlt : i < (c.deliveries.map (·.key)).length := by
    rw [List.length_map]
    exact (List.getElem?_eq_some_iff.mp hd).1
  refine (List.getElem?_inj hlt hkeys).mp ?_
  rw [List.getElem?_map, List.getElem?_map, hd, hd', Option.map_some, Option.map_some, hkey]

/-- Where packets for different keys have been carried to their end. -/
theorem settled (h : Carried root expected found packets events c)
    (distinct : ∀ k ∈ expected, ∀ j ∈ expected, k.path root = j.path root → k = j)
    (once : (packets.map (·.key)).Nodup)
    (able : ∀ q ∈ packets, LetsIn expected q.key → found.hasRoomFor q.key = true) :
    Settled expected found packets c := by
  have room : RoomForAll expected found c := fun id d hd letsIn =>
    able d.packet (h.packet_mem (List.mem_of_getElem? hd)) letsIn
  obtain ⟨noted, laid⟩ := ongoing_run distinct h.run h.steady (h.onePerKey once) room
  have ordered : Orderly expected ((startIn root expected found).recordings events) c :=
    orderly_run (run?_disturb h.run)
  -- What has been answered is no more on its way.
  have answered (d : Delivery) (hd : d ∈ c.deliveries) :
      d.stage = .ended (finalAnswer expected d.key) := by
    obtain ⟨id, hid⟩ := List.mem_iff_getElem?.mp hd
    have hended := h.ended d hd
    rcases noted.stages id d hid with hs | ⟨-, hs | hs⟩
    · exact hs
    · rw [Delivery.outcome?, hs] at hended
      cases hended
    · rw [Delivery.outcome?, hs] at hended
      cases hended
  have spot (d : Delivery) (hd : d ∈ c.deliveries) : d.spot = d.key.place := by
    refine spot_of_not_writing ?_
    rw [Delivery.isWriting, answered d hd]
  refine ⟨?_, ordered.announced, ?_, ?_, ?_, ?_⟩
  · rw [ordered.ledger]
    refine Ledger.after_congr fun k hk => ?_
    have hnodup : ((recordsOf expected packets).map (·.1)).Nodup := by
      rw [recordsOf, List.map_map]
      exact once.sublist (List.filter_sublist.map Packet.key)
    cases hl : ((startIn root expected found).recordings events).lookup k with
    | some b =>
      obtain ⟨id, d, hd, rfl, letsIn, closed⟩ := noted.known k b hl
      rw [noted.counted id d hd letsIn closed] at hl
      refine (lookup_of_nodup hnodup (List.mem_map.mpr ⟨d.packet, ?_, ?_⟩)).symm
      · exact List.mem_filter.mpr
          ⟨h.packet_mem (List.mem_of_getElem? hd), decide_eq_true letsIn⟩
      · exact congrArg (Prod.mk d.key) (Option.some.inj hl)
    | none =>
      symm
      rw [← Option.not_isSome_iff_eq_none, Ledger.isSome_lookup_iff]
      intro hmem
      obtain ⟨p, hp, rfl⟩ := List.mem_map.mp hmem
      obtain ⟨q, hq, rfl⟩ := List.mem_map.mp hp
      obtain ⟨hq, hlets⟩ := List.mem_filter.mp hq
      obtain ⟨id, d, hd, rfl⟩ := h.delivery_of_mem hq
      have closed : d.isOpen = false := by
        rw [Delivery.isOpen, Delivery.isWriting, Delivery.isCommitted,
          answered d (List.mem_of_getElem? hd)]
        rfl
      have hsome := noted.counted id d hd (of_decide_eq_true hlets) closed
      exact absurd (hl.symm.trans hsome) (Option.some_ne_none _).symm
  · intro q hq letsIn
    obtain ⟨id, d, hd, rfl⟩ := h.delivery_of_mem hq
    exact laid.above id d hd letsIn
  · intro q hq letsIn
    obtain ⟨id, d, hd, rfl⟩ := h.delivery_of_mem hq
    have hbody := laid.bodies id d hd letsIn
    rw [spot d (List.mem_of_getElem? hd)] at hbody
    exact hbody
  · intro p hp
    refine laid.rest p fun id d hd letsIn => ?_
    rw [spot d (List.mem_of_getElem? hd)]
    exact hp d.packet (h.packet_mem (List.mem_of_getElem? hd)) letsIn
  · intro d hd
    rw [Delivery.outcome?, answered d hd]

end Carried

/-- What cannot be told apart of two collectors. -/
structure SameEnd (c c' : Collector) : Prop where
  /-- The same results are outstanding, and their status and that of the run are the same. -/
  ledger : c.ledger = c'.ledger
  announced : c.announced = c'.announced
  /-- The same lies everywhere. -/
  tree : ∀ p, c.tree.get? p = c'.tree.get? p
  /-- The results of a key are answered in the same way. -/
  answers : ∀ d ∈ c.deliveries, ∀ d' ∈ c'.deliveries, d.key = d'.key → d.outcome? = d'.outcome?

private theorem Settled.sameEnd (h : Settled expected found packets c)
    (h' : Settled expected found packets c') : SameEnd c c' where
  ledger := h.ledger.trans h'.ledger.symm
  announced := by rw [h.announced, h'.announced, h.ledger, h'.ledger]
  tree p := by
    by_cases hother : ∀ q ∈ packets, LetsIn expected q.key →
        p ≠ [] ∧ p ≠ [q.key.scope] ∧ p ≠ q.key.place
    · rw [h.rest p hother, h'.rest p hother]
    · simp only [not_forall] at hother
      obtain ⟨q, hq, letsIn, hp⟩ := hother
      obtain ⟨hroot, hscope⟩ := h.above q hq letsIn
      obtain ⟨hroot', hscope'⟩ := h'.above q hq letsIn
      by_cases h1 : p = []
      · rw [h1, hroot, hroot']
      · by_cases h2 : p = [q.key.scope]
        · rw [h2, hscope, hscope']
        · have h3 : p = q.key.place := by_contra fun h3 => hp ⟨h1, h2, h3⟩
          rw [h3, h.filed q hq letsIn, h'.filed q hq letsIn]
  answers d hd d' hd' hkey := by rw [h.answers d hd, h'.answers d' hd', hkey]

/-- Packets for different keys that can be filed, carried to their end in any order and side by side, come
to the same end: it is told by the packets alone. -/
theorem settled_alike
    (distinct : ∀ k ∈ expected, ∀ j ∈ expected, k.path root = j.path root → k = j)
    (once : (packets.map (·.key)).Nodup)
    (able : ∀ q ∈ packets, LetsIn expected q.key → found.hasRoomFor q.key = true)
    (h : Carried root expected found packets events c)
    (h' : Carried root expected found packets events' c') :
    SameEnd c c' ∧ Settled expected found packets c :=
  ⟨(h.settled distinct once able).sameEnd (h'.settled distinct once able),
    h.settled distinct once able⟩

/-- A result of one node, a failure of another one, and a result for a key that nobody expects. -/
def mixedPackets : List Packet :=
  [⟨⟨"a", "t"⟩, false, ⟨#[1, 2]⟩⟩, ⟨⟨"b", "t"⟩, true, ⟨#[3]⟩⟩, ⟨⟨"x", "t"⟩, false, ⟨#[4]⟩⟩]

/-- They are carried one after the other. -/
def oneByOne : List Event :=
  [.openResult ⟨"a", "t"⟩ false ⟨#[1]⟩ "000000", .write 0 ⟨#[2]⟩, .commit 0, .record 0,
    .openResult ⟨"b", "t"⟩ true ⟨#[3]⟩ "000001", .commit 1, .record 1,
    .openResult ⟨"x", "t"⟩ false ⟨#[4]⟩ "000002"]

/-- They are carried side by side, the failure first. -/
def sideBySide : List Event :=
  [.openResult ⟨"x", "t"⟩ false ⟨#[4]⟩ "aaaaaa", .openResult ⟨"a", "t"⟩ false .empty "bbbbbb",
    .openResult ⟨"b", "t"⟩ true ⟨#[3]⟩ "cccccc", .write 1 ⟨#[1]⟩, .commit 2, .write 1 ⟨#[2]⟩,
    .record 2, .commit 1, .record 1]

/-- What they expect, and one more. -/
def mixedExpected : List ResultKey := [⟨"a", "t"⟩, ⟨"b", "t"⟩, ⟨"c", "t"⟩]

/-- A tree in which a result has been left behind. -/
def leftBehind : Tree := ⟨[([], .directory), (["a"], .directory), (["a", "t"], .file ⟨#[9]⟩)]⟩

/-- Both come to the same end, and the result that was left behind has been replaced. -/
theorem settled_alike_mixedPackets :
    ∃ c c', (startIn "out" mixedExpected leftBehind).run? oneByOne = some c ∧
      (startIn "out" mixedExpected leftBehind).run? sideBySide = some c' ∧
      SameEnd c c' ∧ c'.tree.content? ["a", "t"] = some ⟨#[1, 2]⟩ ∧ c'.ledger.outstanding = 1 := by
  have hfirst : ((startIn "out" mixedExpected leftBehind).run? oneByOne).isSome = true := rfl
  have hthen : ((startIn "out" mixedExpected leftBehind).run? sideBySide).isSome = true := rfl
  have carried : Carried "out" mixedExpected leftBehind mixedPackets oneByOne (Option.get _ hfirst) := by
    refine ⟨(Option.some_get hfirst).symm, by decide, List.Perm.refl _, fun d hd => ?_⟩
    obtain rfl | rfl | rfl : d = _ ∨ d = _ ∨ d = _ := by simpa using (show d ∈ [_, _, _] from hd)
    all_goals rfl
  have carried' : Carried "out" mixedExpected leftBehind mixedPackets sideBySide (Option.get _ hthen) := by
    refine ⟨(Option.some_get hthen).symm, by decide, ?_, fun d hd => ?_⟩
    · exact (List.perm_append_singleton ⟨⟨"x", "t"⟩, false, ⟨#[4]⟩⟩ (mixedPackets.take 2)).symm
    · obtain rfl | rfl | rfl : d = _ ∨ d = _ ∨ d = _ := by simpa using (show d ∈ [_, _, _] from hd)
      all_goals rfl
  exact ⟨_, _, (Option.some_get hfirst).symm, (Option.some_get hthen).symm,
    (settled_alike (by decide +kernel) (by decide) (by decide) carried carried').1, rfl, rfl⟩

end Collector

end ClusterSurvey
