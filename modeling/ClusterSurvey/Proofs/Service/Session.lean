import ClusterSurvey.Proofs.Collector.Whole
import ClusterSurvey.Proofs.Service.Route

/-!
# What the service answers, and what it changes

Two routes take results, those of the whole cluster and those of nodes, and a third one shows the status;
every other path stands for nothing.  A posted result is refused for its key, by a number from 400 on, or
it is taken; then it is filed and counted, or a number from 500 on tells that it may be sent again.  What
is refused is refused for the key alone, and would be at any other time.  Nothing but a result that has
been taken changes what is filed or counted, and then only for its key.
-/

namespace ClusterSurvey.Service

variable {root : String} {expected : List ResultKey} {records : List (ResultKey × Bool)}
variable {c c' : Collector} {r : Request} {k : ResultKey}

/-! ### The contract -/

/-- The number with which a posted result is answered: it is refused for its key, or else taken if its
body comes to its end and there is room for it. -/
def numberFor (expected : List ResultKey) (tree : Tree) (k : ResultKey) (broken : Option String) : Nat :=
  if k.isValid = false then 400
  else if k ∉ expected then 403
  else if broken = none ∧ tree.hasRoomFor k = true then 200
  else 500

/-- How requests are told apart by their paths and methods. -/
structure Routing (c : Collector) (r : Request) : Prop where
  /-- A path that is not one of the routes' stands for nothing. -/
  unrouted : (∀ res, ¬ Routed r.path res) → (handle c r).2.status = 404
  /-- The status is shown, and nothing else is done with it. -/
  shown : r.path = Route.status →
    (handle c r).2.status = if r.method = "GET" ∨ r.method = "HEAD" then 200 else 405
  /-- Results are posted, and nothing else is done with them. -/
  posted : r.method ≠ "POST" → ∀ res, Routed r.path res → res ≠ .status → (handle c r).2.status = 405
  /-- A part of a key that is no text makes no request. -/
  unreadable : r.method = "POST" → IsGarbled r.path → (handle c r).2.status = 400

/-- What a client can rely on when a service that expects these keys handles its request. -/
structure Contract (expected : List ResultKey) (c : Collector) (r : Request) : Prop
    extends Routing c r where
  /-- The number of the answer to a posted result. -/
  number : r.method = "POST" → ∀ k, Spells r.path k →
    (handle c r).2.status = numberFor expected c.tree k r.broken
  /-- The body of a result that is taken lies in its place then. -/
  filed : r.method = "POST" → ∀ k, Spells r.path k → (handle c r).2.status = 200 →
    (handle c r).1.tree.content? k.place = some (Collector.joined r.pieces)
  /-- Nothing that is filed changes but at the place of a result that is taken. -/
  files : ∀ p, (handle c r).1.tree.content? p ≠ c.tree.content? p →
    r.method = "POST" ∧ (handle c r).2.status = 200 ∧ ∃ k, Spells r.path k ∧ p = k.place
  /-- A result that is taken is counted if its key is pending. -/
  counted : r.method = "POST" → ∀ k, Spells r.path k → (handle c r).2.status = 200 →
    c.ledger.receipt? k = some .pending → Collector.Counted k c (handle c r).1
  /-- Nothing else changes what is counted. -/
  uncounted : (handle c r).1.ledger ≠ c.ledger ∨ (handle c r).1.announced ≠ c.announced →
    r.method = "POST" ∧ (handle c r).2.status = 200 ∧
      ∃ k, Spells r.path k ∧ c.ledger.receipt? k = some .pending
  /-- A request that is refused, or one for the status, changes nothing at all; there is only one more
  delivery that has been answered. -/
  unchanged : (handle c r).2.status ∈ [400, 403, 404, 405] ∨ r.path = Route.status →
    ∃ answered, (handle c r).1 = { c with deliveries := answered }
  /-- A result that is refused is refused in the same way at any time of any run that expects the same
  keys, and so is every other result of its key. -/
  steady : (handle c r).2.status = 400 ∨ (handle c r).2.status = 403 →
    ∀ root events c', (Collector.start root expected).run? events = some c' → c'.holder = none →
      ∀ r', r'.method = r.method →
        r'.path = r.path ∨ (∃ k, Spells r.path k ∧ Spells r'.path k) →
          (handle c' r').2 = (handle c r).2

/-! ### Requests that deliver nothing -/

/-- Parts of a path that are no text are refused by their names. -/
private theorem handle_of_badParameter {res : Resource} {name : String} (post : r.method = "POST")
    (hres : resource? r.path = some res) (hkey : res.key? = .error name) :
    handle c r = (c, badParameter name) := by
  unfold handle
  rw [hres]
  cases res with
  | status => cases hkey
  | clusterResult t => simp [post, hkey]
  | nodeResult n t => simp [post, hkey]

/-- The answers that do not depend on what has been collected. -/
private theorem routing (c : Collector) (r : Request) : Routing c r := by
  refine ⟨fun h => ?_, fun h => ?_, fun other res routed ne => ?_, fun post garbled => ?_⟩
  · have hnone : resource? r.path = none := by
      rw [Option.eq_none_iff_forall_ne_some]
      exact fun res hres => h res (resource?_eq_some_iff.mp hres)
    rw [handle, hnone]
    rfl
  · have hres : resource? r.path = some .status := resource?_eq_some_iff.mpr (h ▸ .status)
    rw [handle, hres]
    by_cases get : r.method = "GET"
    · simp [get, showStatus]
    · by_cases head : r.method = "HEAD"
      · simp [head, showStatus]
      · simp [get, head, Response.wrongMethod]
  · rw [handle, resource?_eq_some_iff.mpr routed]
    cases res with
    | status => exact absurd rfl ne
    | clusterResult t | nodeResult n t => simp [other, Response.wrongMethod]
  · obtain ⟨res, name, hres, hkey⟩ := isGarbled_iff.mp garbled
    rw [handle_of_badParameter post hres hkey]
    rfl

/-- Such a request is refused only for a part of its path that is no text. -/
private theorem badParameter_of_refused (h : ¬ (r.method = "POST" ∧ (keyAt? r.path).isSome = true))
    (refused : (handle c r).2.status = 400 ∨ (handle c r).2.status = 403) :
    r.method = "POST" ∧ ∃ res name, resource? r.path = some res ∧ res.key? = .error name := by
  unfold handle at refused
  cases hres : resource? r.path with
  | none => simp [hres, Response.bare] at refused
  | some res =>
    rw [hres] at refused
    by_cases post : r.method = "POST"
    · refine ⟨post, res, ?_⟩
      cases hkey : res.key? with
      | error name => exact ⟨name, rfl, rfl⟩
      | ok key =>
        have hnone : key = none := by
          cases key with
          | none => rfl
          | some k =>
            refine absurd ⟨post, ?_⟩ h
            rw [keyAt?, hres, Option.bind_some, hkey]
            rfl
        subst hnone
        cases res with
        | status => simp [post, Response.wrongMethod] at refused
        | clusterResult t => simp [post, hkey, Response.bare] at refused
        | nodeResult n t => simp [post, hkey, Response.bare] at refused
    · cases res with
      | status =>
        dsimp only at refused
        split_ifs at refused <;> simp [showStatus, Response.wrongMethod] at refused
      | clusterResult t => simp [post, Response.wrongMethod] at refused
      | nodeResult n t => simp [post, Response.wrongMethod] at refused

private theorem contract_of_other (h : ¬ (r.method = "POST" ∧ (keyAt? r.path).isSome = true)) :
    Contract expected c r := by
  have hsame : (handle c r).1 = c := handle_fst_of_other h
  have noKey (post : r.method = "POST") (k : ResultKey) (hk : Spells r.path k) {P : Prop} : P :=
    absurd ⟨post, by rw [keyAt?_eq_some_iff.mpr hk]; rfl⟩ h
  refine ⟨routing c r, fun post k hk => noKey post k hk, fun post k hk => noKey post k hk,
    fun p hp => absurd (by rw [hsame]) hp, fun post k hk => noKey post k hk, fun hl => ?_,
    fun _ => ⟨c.deliveries, hsame⟩, ?_⟩
  · rw [hsame] at hl
    simp at hl
  · intro refused root events c' hrun free r' hmethod hpath
    obtain ⟨post, res, name, hres, hkey⟩ := badParameter_of_refused h refused
    obtain hpath | ⟨k, hk, -⟩ := hpath
    · rw [handle_of_badParameter post hres hkey,
        handle_of_badParameter (hmethod.trans post) (hpath ▸ hres) hkey]
    · exact noKey post k hk

/-! ### Deliveries -/

/-- A posted result is answered by the outcome of its delivery. -/
theorem handle_of_answered {d : Delivery} {o : Except CollectError Unit}
    (post : r.method = "POST") (hkey : keyAt? r.path = some k)
    (added : (c.deliver k r.pieces r.broken).deliveries = c.deliveries ++ [d])
    (answered : d.outcome? = some o) : handle c r = (c.deliver k r.pieces r.broken, answer o) := by
  rw [takenAt_of_keyAt? hkey c r post rfl, takeResult, Collector.lastOutcome?_of_concat added answered]

/-- A key that is not valid is refused in every state. -/
private theorem handle_of_invalid {e : KeyError} (post : r.method = "POST")
    (hkey : keyAt? r.path = some k) (bad : k.check = .error e) :
    (handle c r).2 = answer (.error (.invalidKey e.message)) := by
  have hd : c.deliver k r.pieces r.broken = _ := Collector.deliver_of_invalid bad
  rw [handle_of_answered post hkey (by rw [hd]; rfl) rfl]

/-- A key that is not expected is refused in every state in which nobody holds the ledger. -/
private theorem handle_of_unexpected (post : r.method = "POST") (hkey : keyAt? r.path = some k)
    (valid : k.isValid = true) (foreign : c.ledger.receipt? k = none) (free : c.holder = none) :
    (handle c r).2 = answer (.error (.unexpected k)) := by
  have hd : c.deliver k r.pieces r.broken = _ := Collector.deliver_of_unexpected valid foreign free
  rw [handle_of_answered post hkey (by rw [hd]; rfl) rfl]

/-- What is refused is refused in the same way later. -/
private theorem steady_of_key (ordered : Collector.Orderly expected records c) (free : c.holder = none)
    (post : r.method = "POST") (hkey : keyAt? r.path = some k)
    (refused : k.isValid = false ∨ k ∉ expected) {events : List Collector.Event}
    (hrun : (Collector.start root expected).run? events = some c') (free' : c'.holder = none)
    {r' : Request} (post' : r'.method = "POST") (hkey' : keyAt? r'.path = some k) :
    (handle c' r').2 = (handle c r).2 := by
  cases hcheck : k.check with
  | error e => rw [handle_of_invalid post' hkey' hcheck, handle_of_invalid post hkey hcheck]
  | ok u =>
    have valid : k.isValid = true := k.check_eq_ok_iff.mp hcheck
    have foreign : k ∉ expected := refused.resolve_left (by simp [valid])
    have hnone : c.ledger.receipt? k = none := ordered.receipt?_eq_none_iff.mpr foreign
    have hnone' : c'.ledger.receipt? k = none :=
      (Collector.orderly_run hrun).receipt?_eq_none_iff.mpr foreign
    rw [handle_of_unexpected post' hkey' valid hnone' free',
      handle_of_unexpected post hkey valid hnone free]

/-- How a posted result is answered, and what it changes. -/
private theorem handle_of_key (quiet : c.Quiet) (ordered : Collector.Orderly expected records c)
    (post : r.method = "POST") (hkey : keyAt? r.path = some k) :
    (handle c r).2.status = numberFor expected c.tree k r.broken ∧
      if numberFor expected c.tree k r.broken = 200 then
        ∃ tree, k.isValid = true ∧ c.tree.Grows tree ∧
          (handle c r).1.tree = tree.set k.place (.file (Collector.joined r.pieces)) ∧
          (handle c r).1.ledger = c.ledgerAfter k ∧ (handle c r).1.announced = c.announcedAfter k
      else
        ∃ tree answered, c.tree.Grows tree ∧
          (handle c r).1 = { c with tree := tree, deliveries := answered } ∧
          (numberFor expected c.tree k r.broken ≠ 500 → tree = c.tree) := by
  have expects (h : c.ledger.receipt? k ≠ none) : k ∈ expected :=
    not_not.mp (mt ordered.receipt?_eq_none_iff.mpr h)
  have hd := quiet.delivered k r.pieces r.broken
  have heq {d : Delivery} {o : Except CollectError Unit}
      (added : (c.deliver k r.pieces r.broken).deliveries = c.deliveries ++ [d])
      (answered : d.outcome? = some o) : handle c r = _ := handle_of_answered post hkey added answered
  generalize c.deliver k r.pieces r.broken = c' at hd heq
  cases hd with
  | invalid e bad =>
    have hnumber : numberFor expected c.tree k r.broken = 400 :=
      if_pos (ResultKey.isValid_of_check_eq_error bad)
    rw [heq rfl rfl, hnumber]
    exact ⟨rfl, c.tree, _, .refl c.tree, rfl, fun _ => rfl⟩
  | unexpected valid foreign =>
    have hmem : k ∉ expected := ordered.receipt?_eq_none_iff.mp foreign
    have hnumber : numberFor expected c.tree k r.broken = 403 := by
      rw [numberFor, if_neg (by simp [valid]), if_pos hmem]
    rw [heq rfl rfl, hnumber]
    exact ⟨rfl, c.tree, _, .refl c.tree, rfl, fun _ => rfl⟩
  | failed cause body tree valid expected' hindrance grown =>
    have hnumber : numberFor expected c.tree k r.broken = 500 := by
      rw [numberFor, if_neg (by simp [valid]), if_neg (not_not.mpr (expects expected')), if_neg]
      rintro ⟨whole, room⟩
      rw [whole, room] at hindrance
      simp at hindrance
    rw [heq rfl rfl, hnumber]
    exact ⟨rfl, tree, _, grown, rfl, fun h => absurd rfl h⟩
  | filed tree valid expected' whole room grown =>
    have hnumber : numberFor expected c.tree k r.broken = 200 := by
      rw [numberFor, if_neg (by simp [valid]), if_neg (not_not.mpr (expects expected')),
        if_pos ⟨whole, room⟩]
    rw [heq rfl rfl, hnumber]
    exact ⟨rfl, tree, valid, grown, rfl, rfl, rfl⟩

/-- A key for whose result there is another number than 400 and 403 is valid and expected. -/
private theorem refused_or_expected (expected : List ResultKey) (tree : Tree) (k : ResultKey)
    (broken : Option String) :
    ((k.isValid = false ∨ k ∉ expected) ∧
        (numberFor expected tree k broken = 400 ∨ numberFor expected tree k broken = 403)) ∨
      (k ∈ expected ∧
        (numberFor expected tree k broken = 200 ∨ numberFor expected tree k broken = 500)) := by
  unfold numberFor
  split_ifs with invalid known taken
  · exact .inl ⟨.inl invalid, .inl rfl⟩
  · exact .inr ⟨known, .inl rfl⟩
  · exact .inr ⟨known, .inr rfl⟩
  · exact .inl ⟨.inr known, .inr rfl⟩

/-- The ledger behind a delivery that has been filed is another one only if its key was pending. -/
private theorem pending_of_counted (ordered : Collector.Orderly expected records c) (hk : k ∈ expected)
    (changed : c.ledgerAfter k ≠ c.ledger ∨ c.announcedAfter k ≠ c.announced) :
    c.ledger.receipt? k = some .pending := by
  have hreceipt := ordered.receipt?_eq k
  rw [if_pos hk] at hreceipt
  cases hr : Ledger.receiptAfter records k with
  | pending => rw [hreceipt, hr]
  | received =>
    rw [hr] at hreceipt
    rw [Collector.ledgerAfter, Collector.announcedAfter, if_pos hreceipt, if_pos hreceipt] at changed
    simp at changed

/-- The path of the status names no key. -/
private theorem not_status_of_keyAt? (hkey : keyAt? r.path = some k) : r.path ≠ Route.status := by
  intro hpath
  rw [hpath] at hkey
  cases hkey

/-- A refusal that shows in the number of the answer is one for the key. -/
private theorem steady_of_status (quiet : c.Quiet) (ordered : Collector.Orderly expected records c)
    (post : r.method = "POST") (hkey : keyAt? r.path = some k)
    (refused : (handle c r).2.status = 400 ∨ (handle c r).2.status = 403) {root : String}
    {events : List Collector.Event} (hrun : (Collector.start root expected).run? events = some c')
    (free' : c'.holder = none) {r' : Request} (hmethod : r'.method = r.method)
    (hpath : r'.path = r.path ∨ (∃ k, Spells r.path k ∧ Spells r'.path k)) :
    (handle c' r').2 = (handle c r).2 := by
  have hkey' : keyAt? r'.path = some k := by
    rcases hpath with hpath | ⟨j, hj, hj'⟩
    · rw [hpath, hkey]
    · rw [keyAt?_eq_some_iff.mpr hj', ← hkey, keyAt?_eq_some_iff.mpr hj]
  obtain ⟨why, -⟩ | ⟨-, hother⟩ := refused_or_expected expected c.tree k r.broken
  · exact steady_of_key ordered quiet.free post hkey why hrun free' (hmethod.trans post) hkey'
  · rw [← (handle_of_key quiet ordered post hkey).1] at hother
    omega

private theorem contract_of_taken (quiet : c.Quiet) (ordered : Collector.Orderly expected records c)
    (post : r.method = "POST") (hkey : keyAt? r.path = some k) (taken : (handle c r).2.status = 200) :
    Contract expected c r := by
  have hspells : Spells r.path k := keyAt?_eq_some_iff.mp hkey
  have only {j : ResultKey} (hj : Spells r.path j) : j = k :=
    Option.some.inj ((keyAt?_eq_some_iff.mpr hj).symm.trans hkey)
  have posted := not_status_of_keyAt? hkey
  obtain ⟨hstatus, heffect⟩ := handle_of_key quiet ordered post hkey
  rw [← hstatus, if_pos taken] at heffect
  obtain ⟨tree, valid, grown, htree, hledger, hannounced⟩ := heffect
  have hmem : k ∈ expected := by
    obtain ⟨-, hother⟩ | ⟨hmem, -⟩ := refused_or_expected expected c.tree k r.broken
    · rw [← hstatus] at hother
      omega
    · exact hmem
  refine ⟨routing c r, fun _ j hj => ?_, fun _ j hj _ => ?_, fun p hp => ⟨post, taken, k, hspells, ?_⟩,
    fun _ j hj _ pending => ?_, fun changed => ⟨post, taken, k, hspells, ?_⟩, fun h => ?_,
    fun refused root events c' hrun free' r' =>
      steady_of_status quiet ordered post hkey refused hrun free'⟩
  · rw [only hj, hstatus]
  · rw [only hj, htree, Tree.content?_set_self]
  · by_contra hne
    rw [htree, Tree.content?_set_of_ne tree _ hne, grown.files] at hp
    exact hp rfl
  · obtain rfl := only hj
    exact Collector.counted_of_pending ordered pending hledger hannounced
  · rw [hledger, hannounced] at changed
    exact pending_of_counted ordered hmem changed
  · rw [taken] at h
    exact absurd (h.resolve_left (by decide)) posted

private theorem contract_of_untaken (quiet : c.Quiet) (ordered : Collector.Orderly expected records c)
    (post : r.method = "POST") (hkey : keyAt? r.path = some k)
    (untaken : (handle c r).2.status ≠ 200) : Contract expected c r := by
  have only {j : ResultKey} (hj : Spells r.path j) : j = k :=
    Option.some.inj ((keyAt?_eq_some_iff.mpr hj).symm.trans hkey)
  have posted := not_status_of_keyAt? hkey
  obtain ⟨hstatus, heffect⟩ := handle_of_key quiet ordered post hkey
  rw [← hstatus, if_neg untaken] at heffect
  obtain ⟨tree, answered, grown, heq, hsame⟩ := heffect
  refine ⟨routing c r, fun _ j hj => ?_, fun _ j hj ht => absurd ht untaken, fun p hp => ?_,
    fun _ j hj ht => absurd ht untaken,
    fun changed => ?_, fun h => ?_, fun refused root events c' hrun free' r' =>
      steady_of_status quiet ordered post hkey refused hrun free'⟩
  · rw [only hj, hstatus]
  · rw [heq] at hp
    exact absurd (grown.files p) hp
  · rw [heq] at changed
    simp at changed
  · have refused := h.resolve_right posted
    have hother : (handle c r).2.status ≠ 500 := by
      intro hfault
      rw [hfault] at refused
      revert refused
      decide
    exact ⟨answered, by rw [heq, hsame hother]⟩

/-- A service at which nothing is on its way keeps to its contract. -/
theorem contract_of_quiet (quiet : c.Quiet) (ordered : Collector.Orderly expected records c)
    (r : Request) : Contract expected c r := by
  by_cases h : r.method = "POST" ∧ (keyAt? r.path).isSome = true
  · obtain ⟨post, hsome⟩ := h
    obtain ⟨k, hkey⟩ := Option.isSome_iff_exists.mp hsome
    by_cases taken : (handle c r).2.status = 200
    · exact contract_of_taken quiet ordered post hkey taken
    · exact contract_of_untaken quiet ordered post hkey taken
  · exact contract_of_other h

/-! ### Sessions -/

/-- What happens at a service: a request is handled, or somebody else changes the tree, but puts
nothing where bodies are written. -/
inductive Visit where
  | request (r : Request)
  | disturb (tree : Tree) (clean : ∀ (k : ResultKey) mark, tree.get? (k.scratchPlace mark) = none)

/-- The state behind a visit. -/
def visit (c : Collector) : Visit → Collector
  | .request r => (handle c r).1
  | .disturb tree _ => { c with tree := tree }

/-- The state behind several visits. -/
def session (c : Collector) (visits : List Visit) : Collector := visits.foldl visit c

/-- A visit leaves nothing on its way, and the ledger in order. -/
private theorem quiet_visit (quiet : c.Quiet) (ordered : Collector.Orderly expected records c)
    (v : Visit) : (visit c v).Quiet ∧ ∃ more, Collector.Orderly expected (records ++ more) (visit c v) := by
  cases v with
  | request r =>
    rcases handle_fst c r with hsame | ⟨k, -, -, hdeliver⟩
    · rw [visit, hsame]
      exact ⟨quiet, [], by rwa [List.append_nil]⟩
    · rw [visit, hdeliver]
      exact ⟨quiet.deliver k r.pieces r.broken,
        (Collector.Reaches.deliver c k r.pieces r.broken).orderly ordered⟩
  | disturb tree clean =>
    exact ⟨⟨quiet.free, clean⟩, (Collector.Reaches.step c (.disturb tree)).orderly ordered⟩

/-- At every moment of every session the service keeps to its contract. -/
theorem contract_session (root : String) (expected : List ResultKey) (visits : List Visit)
    (r : Request) : Contract expected (session (Collector.start root expected) visits) r := by
  suffices ∀ (c : Collector) (records : List (ResultKey × Bool)), c.Quiet →
      Collector.Orderly expected records c →
        (session c visits).Quiet ∧ ∃ records, Collector.Orderly expected records (session c visits) by
    obtain ⟨quiet, records, ordered⟩ := this _ [] (Collector.quiet_start root expected)
      (Collector.orderly_start root expected)
    exact contract_of_quiet quiet ordered r
  induction visits with
  | nil => exact fun c records quiet ordered => ⟨quiet, records, ordered⟩
  | cons v vs ih =>
    intro c records quiet ordered
    obtain ⟨quiet', more, ordered'⟩ := quiet_visit quiet ordered v
    exact ih (visit c v) (records ++ more) quiet' ordered'

/-- The result of a node that no run of the cluster's result alone expects. -/
def unexpectedPost : Request := ⟨"POST", "/api/v1/results/by-node/n%31/e2e", [⟨#[7]⟩], none⟩

/-- The result of the whole cluster, in two pieces. -/
def expectedPost : Request := ⟨"POST", "/api/v1/results/global/e%32e", [⟨#[1]⟩, ⟨#[2]⟩], none⟩

/-- The one is refused, and the other one is taken and counted behind it. -/
theorem contract_expectedPost :
    (handle (Collector.start "out" [.forCluster "e2e"]) unexpectedPost).2.status = 403 ∧
      ∃ c, session (Collector.start "out" [.forCluster "e2e"]) [.request unexpectedPost] = c ∧
        (handle c expectedPost).2.status = 200 ∧
        (handle c expectedPost).1.tree.content? ["global", "e2e"] = some ⟨#[1, 2]⟩ ∧
        Collector.Counted (.forCluster "e2e") c (handle c expectedPost).1 := by
  have unexpected : Spells unexpectedPost.path ⟨"n1", "e2e"⟩ := keyAt?_eq_some_iff.mp rfl
  have spells : Spells expectedPost.path (.forCluster "e2e") := keyAt?_eq_some_iff.mp rfl
  have before := contract_session "out" [.forCluster "e2e"] [] unexpectedPost
  have after := contract_session "out" [.forCluster "e2e"] [.request unexpectedPost] expectedPost
  have taken := (after.number rfl _ spells).trans rfl
  exact ⟨(before.number rfl _ unexpected).trans rfl, _, rfl, taken, after.filed rfl _ spells taken,
    after.counted rfl _ spells taken rfl⟩

end ClusterSurvey.Service
