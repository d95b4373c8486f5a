import Mathlib.Algebra.GroupWithZero.Nat
import ClusterSurvey.Proofs.Plugin.Reports
import ClusterSurvey.Proofs.Run.Withdrawing

/-!
# The queue of reports

Monitors start to report before the run takes reports up, so the queue has to hold whatever they send
meanwhile.  It is as long as the list of expected results, in which each instance has a part.  That part
is reserved for its monitor: until the launch it is not touched, and then the monitor has room for no
more reports than that.  What has been sent and what is still reserved together never exceed the list.
-/

namespace ClusterSurvey

namespace Run

variable {root : String} {settings : Settings} {instances : List Instance}
variable {nodes : Except ClusterError (List String)} {service : Except CertificateError ServerSide}
variable {r r' : Run} {e : Event} {events : List Event} {n : Nat} {m m' : Monitor}

/-! ### What is reserved -/

/-- How many reports the monitors at work can still send. -/
def roomLeft (r : Run) : Nat := (r.monitors.map Monitor.room).sum

/-- How many results are owed by the plugins that have not been launched. -/
def owedLater (r : Run) : Nat := (expectedOf (r.instances.drop r.monitors.length) r.nodes).length

private theorem sum_room_set {monitors : List Monitor} (m' : Monitor) (h : monitors[n]? = some m) :
    ((monitors.set n m').map Monitor.room).sum + m.room =
      (monitors.map Monitor.room).sum + m'.room := by
  induction monitors generalizing n with
  | nil => cases h
  | cons a as ih =>
    cases n with
    | zero =>
      obtain rfl : a = m := Option.some.inj h
      simp only [List.set_cons_zero, List.map_cons, List.sum_cons]
      omega
    | succ n =>
      have hrest := ih (n := n) h
      simp only [List.set_cons_succ, List.map_cons, List.sum_cons]
      omega

private theorem length_expectedOf_drop {i : Instance} (names : List String)
    (h : instances[n]? = some i) :
    (expectedOf (instances.drop n) names).length =
      (i.expectedResults names).length + (expectedOf (instances.drop (n + 1)) names).length := by
  obtain ⟨hn, rfl⟩ := List.getElem?_eq_some_iff.mp h
  rw [List.drop_eq_getElem_cons hn, expectedOf, List.flatMap_cons, List.length_append]
  rfl

private theorem mem_expectedOf {i : Instance} {names : List String} {k : ResultKey}
    (hi : i ∈ instances) (hk : k ∈ i.expectedResults names) : k ∈ expectedOf instances names :=
  List.mem_flatMap.mpr ⟨i, hi, hk⟩

/-! ### The invariant -/

/-- A run whose reports and reserves do not exceed what it expects, and answer for it. -/
structure Reserved (r : Run) : Prop where
  expected : r.expected = expectedOf r.instances r.nodes
  monitors : ∀ m ∈ r.monitors, m.Thrifty ∧ m.owner ∈ r.instances ∧ m.nodes ⊆ r.nodes
  total : r.sent.length + r.roomLeft + r.owedLater ≤ r.expected.length
  queue : r.queue.length ≤ r.sent.length
  reports : ∀ x ∈ r.sent, x.isFailure = true ∧ x.key ∈ r.expected

namespace Reserved

/-- The start reserves for every plugin what it owes. -/
theorem of_begins (b : Begins root settings instances r) : Reserved r := by
  cases b <;>
    exact ⟨rfl, by simp [fresh], by simp [fresh, roomLeft, owedLater], by simp [fresh],
      by simp [fresh]⟩

/-- A state with the same monitors and reports, of which some may have been taken up. -/
private theorem of_same (h : Reserved r) (instances : r'.instances = r.instances)
    (nodes : r'.nodes = r.nodes) (expected : r'.expected = r.expected)
    (monitors : r'.monitors = r.monitors) (sent : r'.sent = r.sent)
    (queue : r'.queue.length ≤ r.queue.length) : Reserved r' where
  expected := by rw [expected, instances, nodes, h.expected]
  monitors := by
    rw [monitors, instances, nodes]
    exact h.monitors
  total := by
    unfold roomLeft owedLater
    rw [sent, monitors, instances, nodes, expected]
    exact h.total
  queue := sent ▸ Nat.le_trans queue h.queue
  reports := by
    rw [sent, expected]
    exact h.reports

/-- A plugin that is launched passes what is reserved for it on to its monitor. -/
private theorem launched {i : Instance} (h : Reserved r) (at_n : r.instances[n]? = some i)
    (count : r.monitors.length = n) (instances : r'.instances = r.instances)
    (nodes : r'.nodes = r.nodes) (expected : r'.expected = r.expected)
    (monitors : r'.monitors = r.monitors ++ [.start i r.nodes]) (sent : r'.sent = r.sent)
    (queue : r'.queue = r.queue) : Reserved r' where
  expected := by rw [expected, instances, nodes, h.expected]
  monitors m hm := by
    rw [instances, nodes]
    rw [monitors, List.mem_append, List.mem_singleton] at hm
    rcases hm with hold | rfl
    · exact h.monitors m hold
    · refine ⟨Monitor.thrifty_start i r.nodes, ?_, Monitor.nodes_start_subset i r.nodes⟩
      rw [show (Monitor.start i r.nodes).owner = i from (Withdrawal.marked_start i r.nodes).owner]
      exact List.mem_of_getElem? at_n
  total := by
    have htotal := h.total
    have hroom := Monitor.room_start_le i r.nodes
    have howed := length_expectedOf_drop r.nodes at_n
    unfold roomLeft owedLater at htotal ⊢
    rw [count] at htotal
    rw [monitors, List.length_append, List.length_singleton, count, List.map_append,
      List.sum_append, List.map_singleton, List.sum_singleton, instances, nodes, sent, expected]
    omega
  queue := by rw [queue, sent]; exact h.queue
  reports := by
    rw [sent, expected]
    exact h.reports

/-- A monitor that goes on uses up as much of what is reserved for it as it reports. -/
private theorem wentOn {reports : List LocalResult} (h : Reserved r)
    (at_n : r.monitors[n]? = some m) (thrifty : m'.Thrifty) (owner : m'.owner = m.owner)
    (watched : m'.nodes = m.nodes) (room : reports.length + m'.room ≤ m.room)
    (answers : ∀ x ∈ reports, x.isFailure = true ∧ x.key ∈ m.owner.expectedResults m.nodes) :
    Reserved ((r.setMonitor n m').send reports) where
  expected := h.expected
  monitors x hx := by
    rcases List.mem_or_eq_of_mem_set hx with hold | rfl
    · exact h.monitors x hold
    · obtain ⟨-, howner, hnodes⟩ := h.monitors m (List.mem_of_getElem? at_n)
      exact ⟨thrifty, owner ▸ howner, watched ▸ hnodes⟩
  total := by
    have htotal := h.total
    have hsum := sum_room_set m' at_n
    unfold roomLeft owedLater at htotal ⊢
    simp only [send, setMonitor, List.length_append, List.length_set]
    omega
  queue := by
    simp only [send, setMonitor, List.length_append]
    exact Nat.add_le_add_right h.queue _
  reports x hx := by
    rcases List.mem_append.mp hx with hold | hnew
    · exact h.reports x hold
    · obtain ⟨-, howner, hnodes⟩ := h.monitors m (List.mem_of_getElem? at_n)
      obtain ⟨hfailure, hkey⟩ := answers x hnew
      refine ⟨hfailure, ?_⟩
      rw [show ((r.setMonitor n m').send reports).expected = _ from h.expected]
      exact mem_expectedOf howner (m.owner.expectedResults_subset hnodes hkey)

/-- An answer of the cluster uses up as much as the monitor reports. -/
private theorem observed {o : Observation} (h : Reserved r) (at_n : r.monitors[n]? = some m)
    (looking : m.phase = .looking) : Reserved (r.observe n m o) := by
  obtain ⟨thrifty, -, -⟩ := h.monitors m (List.mem_of_getElem? at_n)
  exact h.wentOn at_n (thrifty.observe o) (m.owner_observe o) (m.nodes_observe o)
    (thrifty.room_observe looking)
    fun _ hx => ⟨Monitor.isFailure_of_mem_observe hx, Monitor.key_of_mem_observe hx⟩

/-- A monitor that wakes sends nothing. -/
private theorem woke {cleaned : Bool} (h : Reserved r) (at_n : r.monitors[n]? = some m)
    (asleep : m.phase = .asleep) : Reserved (r.setMonitor n (m.wake cleaned)) := by
  obtain ⟨thrifty, -, -⟩ := h.monitors m (List.mem_of_getElem? at_n)
  have hsilent : (r.setMonitor n (m.wake cleaned)).send [] = r.setMonitor n (m.wake cleaned) := by
    simp only [send, List.append_nil]
  rw [← hsilent]
  refine h.wentOn at_n ⟨thrifty.once, thrifty.watched⟩ rfl rfl ?_ (by simp)
  rw [List.length_nil, Nat.zero_add]
  exact Monitor.room_wake_le cleaned asleep

/-- Every event keeps to what is reserved. -/
theorem step (h : Reserved r) (count : ∀ n, r.phase = .launching n → r.monitors.length = n)
    (he : r.step? e = some r') : Reserved r' := by
  cases e with
  | wake n =>
    obtain ⟨m, hm, asleep, rfl⟩ := wake_of_step? he
    exact h.woke hm asleep
  | observe n o =>
    obtain ⟨m, hm, looking, rfl⟩ := observe_of_step? he
    exact h.observed hm looking
  | launch issued replies =>
    cases move_of_step? he with
    | refused n i err calls launching at_n makes cause =>
      exact h.of_same rfl rfl rfl rfl rfl (Nat.le_refl _)
    | launched n i calls phase launching at_n makes next =>
      exact h.launched at_n (count n launching) rfl rfl rfl rfl rfl rfl
  | takeUp mark =>
    cases move_of_step? he with
    | tookUp report rest queue filing filed may =>
      refine h.of_same rfl rfl rfl rfl rfl ?_
      rw [queue]
      exact Nat.le_succ rest.length
  | _ =>
    cases move_of_step? he
    exact h.of_same rfl rfl rfl rfl rfl (Nat.le_refl _)

end Reserved

/-- Every run keeps to what is reserved. -/
theorem reserved_run
    (h : (startWith root settings instances nodes service).run? events = some r) : Reserved r :=
  Machine.run?_induction (P := fun _ r => Reserved r) (.of_begins begins_startWith)
    (fun _ _ _ _ hs ih he => ih.step (judged_run hs).launching he) h

/-! ### Nobody waits to report -/

/-- A run whose reports fit its queue and answer for what it expects. -/
structure Unhindered (start r : Run) : Prop where
  /-- What is expected, and with it the length of the queue, was settled at the start. -/
  expected : r.expected = start.expected ∧ r.capacity = max start.expected.length 1
  /-- No more reports are sent than results are expected, so that the queue would hold all of them. -/
  sent : r.sent.length ≤ r.expected.length
  /-- Whatever the cluster answers to a monitor that looks, the queue has room for all its reports. -/
  room : ∀ (n : Nat) (m : Monitor) (o : Observation), r.monitors[n]? = some m → m.phase = .looking →
    r.queue.length + (m.observe o).2.length ≤ r.capacity
  /-- Every report is that of a failure, and answers for a result that is expected. -/
  reports : ∀ x ∈ r.sent, x.error.isSome = true ∧ x.key ∈ r.expected

/-- At every state of every run the monitors can report without waiting, whatever the cluster answers
them and whether or not reports have been taken up, and report nothing that is not expected. -/
theorem unhindered_run
    (h : (startWith root settings instances nodes service).run? events = some r) :
    Unhindered (startWith root settings instances nodes service) r := by
  have reserved := reserved_run h
  have hexpected := expected_run h
  constructor
  · exact ⟨hexpected, by rw [capacity, hexpected]⟩
  · have htotal := reserved.total
    omega
  · intro n m o hm looking
    have hafter := reserved.observed (o := o) hm looking
    have htotal := hafter.total
    have hqueue := hafter.queue
    have hlength : (r.observe n m o).queue.length = r.queue.length + (m.observe o).2.length :=
      List.length_append
    have hsame : (r.observe n m o).expected = r.expected := rfl
    have hcapacity : r.expected.length ≤ r.capacity := Nat.le_max_left _ _
    rw [hsame] at htotal
    omega
  · exact reserved.reports

/-- A plugin that runs on every node. -/
def exampleDaemonSet (name session : String) : Instance :=
  ⟨⟨name, name, .daemonSet, default⟩, session, ⟨"sonde", "worker", 10000⟩⟩

/-- A unit that keeps restarting on a node. -/
def restarting (name node : String) : ExecutionUnit := ⟨name, some node, [], [⟨"worker", 3, none⟩]⟩

/-- Everything that monitors can report before any of it is taken up, from a cluster that names one of
its nodes twice. -/
def allReport : List Event :=
  [.launch (.ok default) fun _ => none, .wake 0, .observe 0 (.error (.api "down")),
    .launch (.ok default) fun _ => none, .wake 1,
    .observe 1 (.ok [restarting "u" "n", restarting "v" "n", restarting "w" "x"]), .wake 1,
    .observe 1 (.ok [restarting "u" "n", restarting "w" "m"])]

/-- It is less than the queue would hold. -/
theorem unhindered_allReport :
    ∃ r, (startWith "out" exampleSettings [exampleJob "a" "1", exampleDaemonSet "b" "2"]
        (.ok ["n", "n", "m"]) (.ok exampleService)).run? allReport = some r ∧
      Unhindered (startWith "out" exampleSettings [exampleJob "a" "1", exampleDaemonSet "b" "2"]
        (.ok ["n", "n", "m"]) (.ok exampleService)) r ∧
      r.sent.map (·.key) = [⟨"", "a"⟩, ⟨"n", "b"⟩, ⟨"m", "b"⟩] ∧ r.queue.length = 3 ∧
      r.capacity = 4 := by
  have hsent : ((startWith "out" exampleSettings [exampleJob "a" "1", exampleDaemonSet "b" "2"]
      (.ok ["n", "n", "m"]) (.ok exampleService)).run? allReport).map
        (fun r => (r.sent.map (·.key), r.queue.length, r.capacity)) =
          some ([⟨"", "a"⟩, ⟨"n", "b"⟩, ⟨"m", "b"⟩], 3, 4) := by
    decide +kernel
  obtain ⟨r, hr, hs⟩ := Option.map_eq_some_iff.mp hsent
  simp only [Prod.mk.injEq] at hs
  exact ⟨r, hr, unhindered_run hr, hs.1, hs.2.1, hs.2.2⟩

end Run

end ClusterSurvey
