import ClusterSurvey.Proofs.Handover.Marker
import ClusterSurvey.Worker.Workplace

/-!
# How a worker comes to its result and hands it over

A worker waits for its result and reads it before it sends anything, and does neither a second time.  If
the wait or the reading fails, it sends nothing; otherwise every attempt begins with the same request.  What
it finds among files that stay as they are is told apart from this (`fetch_ofTree`).
-/

namespace ClusterSurvey

/-! ### The requests of one attempt -/

/-- What is sent for a parcel: the parcel itself, or a request that only asks for what was pointed to. -/
inductive Outgoing.Serves (parcel : Parcel) : Outgoing → Prop where
  | hands (name : String) : Serves parcel ⟨"POST", name, some parcel.mediaType, parcel.payload⟩
  | asks (name : String) : Serves parcel ⟨"GET", name, none, .empty⟩

/-- An errand for a parcel: with the parcel, or without anything. -/
inductive Errand.Serves (parcel : Parcel) : Errand → Prop where
  | hands (target : Net.Target) : Serves parcel ⟨target, "POST", some parcel⟩
  | asks (target : Net.Target) : Serves parcel ⟨target, "GET", none⟩

namespace Errand.Serves

variable {parcel : Parcel} {e : Errand}

/-- On such an errand such requests are sent. -/
theorem outgoing (h : e.Serves parcel) : e.outgoing.Serves parcel := by
  cases h with
  | hands target => exact .hands target.name
  | asks target => exact .asks target.name

/-- What such an errand is pointed on to is another one. -/
theorem redirect (h : e.Serves parcel) (status : Nat) (target : Net.Target) :
    (e.redirect status target).Serves parcel := by
  unfold Errand.redirect
  split
  · exact .asks target
  · cases h with
    | hands _ => exact .hands target
    | asks _ => exact .asks target

end Errand.Serves

namespace Worker

open Pickup (Undecided Decides)

/-- The requests of an attempt at handing a parcel over: first the parcel to its address, and then what
answers point on to.  There are none if no request can be sent there. -/
def IsAttempt (o : Options) (parcel : Parcel) (requests : List Outgoing) : Prop :=
  match requestUrl o.resultUrl parcel.mediaType with
  | .error _ => requests = []
  | .ok u => ∃ further, (∀ request ∈ further, request.Serves parcel) ∧
      requests = ⟨"POST", u.toTarget.name, some parcel.mediaType, parcel.payload⟩ :: further

/-- Attempt after attempt with a pause between two of them, behind so many attempts. -/
def handing : Nat → List (List Outgoing) → List Deed
  | _, [] => []
  | _, [requests] => requests.map .request
  | made, requests :: next :: rest =>
    requests.map .request ++ .pause (made + 1) :: handing (made + 1) (next :: rest)

/-- So many looks, with a rest after each. -/
def waits (o : Options) (looks : Nat) : List Deed :=
  (List.replicate looks [Deed.look, .rest o.pause]).flatten

/-- One more look comes behind the others. -/
theorem waits_succ (o : Options) (looks : Nat) :
    waits o looks ++ [.look, .rest o.pause] = waits o (looks + 1) := by
  rw [waits, waits, List.replicate_succ', List.flatten_append]
  rfl

/-- Nothing else is done in a wait. -/
theorem countP_waits (p : Deed → Bool) (o : Options) (looks : Nat) :
    (waits o looks).countP p = looks * [Deed.look, .rest o.pause].countP p := by
  rw [waits, List.countP_flatten, List.map_replicate, List.sum_replicate_nat]

namespace Workplace

variable {w : Workplace} {o : Options} {parcel : Parcel}

/-- What a request adds to what a worker has done. -/
theorem eq_of_peer {request : Outgoing} {deeds deeds' : List Deed} {sent : ByteArray}
    (h : w.peer request deeds = (sent, deeds')) : deeds' = deeds ++ [.request request] :=
  (congrArg Prod.snd h).symm

/-- The requests of an errand. -/
theorem run_peer (w : Workplace) (url : String) (left : Nat) {e : Errand} (serves : e.Serves parcel)
    (deeds : List Deed) :
    ∃ further : List Outgoing, (∀ request ∈ further, request.Serves parcel) ∧
      (Errand.run w.peer url left e deeds).2 = deeds ++ .request e.outgoing :: further.map .request := by
  -- Only an answer that points on to a target has another request follow.
  fun_induction Errand.run w.peer url left e deeds with
  | case5 e deeds sent deeds' hsent answer _ pointer _ u left _ _ target _ ih =>
    obtain ⟨further, each, heq⟩ := ih (serves.redirect answer.head.status target)
    refine ⟨(e.redirect answer.head.status target).outgoing :: further,
      List.forall_mem_cons.mpr ⟨(serves.redirect answer.head.status target).outgoing, each⟩, ?_⟩
    rw [heq, eq_of_peer hsent, List.append_assoc]
    rfl
  | case1 _ e deeds _ _ hsent => exact ⟨[], nofun, eq_of_peer hsent⟩
  | case2 _ e deeds _ _ hsent => exact ⟨[], nofun, eq_of_peer hsent⟩
  | case3 e deeds _ _ hsent => exact ⟨[], nofun, eq_of_peer hsent⟩
  | case4 e deeds _ _ hsent => exact ⟨[], nofun, eq_of_peer hsent⟩
  | case6 e deeds _ _ hsent => exact ⟨[], nofun, eq_of_peer hsent⟩
  | case7 _ e deeds _ _ hsent => exact ⟨[], nofun, eq_of_peer hsent⟩
  | case8 _ e deeds _ _ hsent => exact ⟨[], nofun, eq_of_peer hsent⟩

/-- The requests of an attempt. -/
theorem attemptAt_peer (w : Workplace) (o : Options) (parcel : Parcel) (deeds : List Deed) :
    ∃ requests, IsAttempt o parcel requests ∧
      (attemptAt w.peer o.resultUrl parcel deeds).2 = deeds ++ requests.map .request := by
  unfold attemptAt IsAttempt
  cases requestUrl o.resultUrl parcel.mediaType with
  | error fault => exact ⟨[], rfl, (List.append_nil deeds).symm⟩
  | ok u =>
    obtain ⟨further, serves, heq⟩ := run_peer w u.text maxRedirects (.hands u.toTarget) deeds
    exact ⟨_, ⟨further, serves, rfl⟩, heq⟩

/-- What a worker does once it has its result. -/
theorem tryAgain_peer (w : Workplace) (o : Options) (parcel : Parcel)
    (produce : List Deed → Except String Parcel × List Deed) (further made : Nat) (deeds : List Deed) :
    ∃ attempts result, attempts ≠ [] ∧ (∀ requests ∈ attempts, IsAttempt o parcel requests) ∧
      Submission.tryAgain ⟨produce, attemptAt w.peer o.resultUrl, pause⟩ parcel further made deeds =
        (result, deeds ++ handing made attempts) := by
  induction further generalizing made deeds with
  | zero =>
    obtain ⟨requests, attempt, heq⟩ := attemptAt_peer w o parcel deeds
    have each : ∀ requests' ∈ [requests], IsAttempt o parcel requests' :=
      List.forall_mem_singleton.mpr attempt
    unfold Submission.tryAgain
    dsimp only
    rw [heq]
    split
    · exact ⟨[requests], _, List.cons_ne_nil _ _, each, rfl⟩
    · exact ⟨[requests], _, List.cons_ne_nil _ _, each, rfl⟩
  | succ further ih =>
    obtain ⟨requests, attempt, heq⟩ := attemptAt_peer w o parcel deeds
    unfold Submission.tryAgain
    dsimp only
    rw [heq]
    split
    · exact ⟨[requests], _, List.cons_ne_nil _ _, List.forall_mem_singleton.mpr attempt, rfl⟩
    · obtain ⟨attempts, result, tried, each, hrest⟩ :=
        ih (made + 1) (pause (made + 1) (deeds ++ requests.map .request))
      obtain ⟨next, rest, rfl⟩ := List.exists_cons_of_ne_nil tried
      refine ⟨requests :: next :: rest, result, List.cons_ne_nil _ _,
        List.forall_mem_cons.mpr ⟨attempt, each⟩, ?_⟩
      rw [hrest, pause, handing, List.append_assoc, List.append_assoc]
      rfl

/-- The wait of a worker is the wait through what its looks find. -/
theorem await_waits (w : Workplace) (o : Options) (before looks : Nat) :
    w.await o looks (waits o before) =
      match Pickup.await o.resultsDirectory (((List.range' before looks).map w.marker).map .ofReading) with
      | none => (none, waits o (before + looks))
      | some p => (some p.path, waits o (before + p.pauses) ++ [.look]) := by
  induction looks generalizing before with
  | zero => rfl
  | succ looks ih =>
    have hlook : (waits o before).countP Deed.isLook = before := by
      rw [countP_waits]
      exact Nat.mul_one before
    rw [await, hlook, List.range'_succ, List.map_cons, List.map_cons, Pickup.await]
    cases (MarkerView.ofReading (w.marker before)).verdict o.resultsDirectory with
    | some path => rfl
    | none =>
      dsimp only
      rw [waits_succ, ih]
      cases Pickup.await o.resultsDirectory
          (((List.range' (before + 1) looks).map w.marker).map .ofReading) with
      | none => rw [Option.map_none, Nat.add_right_comm, Nat.add_assoc]
      | some p =>
        rw [Option.map_some]
        dsimp only
        rw [Nat.add_right_comm, Nat.add_assoc]

/-- Whether a look is the first one that decides, and one of so many. -/
structure Finds (w : Workplace) (o : Options) (looks n : Nat) (path : Except ReadFault String) : Prop where
  reached : n < looks
  undecided : ∀ m < n, Undecided (w.marker m)
  decides : Decides o.resultsDirectory (w.marker n) path

/-- A wait that ends has found a path or an error. -/
theorem finds_of_await {looks : Nat} {p : Pickup}
    (h : Pickup.await o.resultsDirectory (((List.range looks).map w.marker).map .ofReading) = some p) :
    w.Finds o looks p.pauses p.path := by
  obtain ⟨reading, hreading, decides, earlier⟩ := Pickup.await_eq_some_iff.mp h
  rw [List.getElem?_map, Option.map_eq_some_iff] at hreading
  obtain ⟨n, hn, rfl⟩ := hreading
  obtain ⟨reached, rfl⟩ := List.getElem?_eq_some_iff.mp hn
  rw [List.length_range] at reached
  rw [List.getElem_range] at decides
  refine ⟨reached, fun m hm => earlier _ ?_, decides⟩
  rw [← List.map_take, List.take_range, Nat.min_eq_left reached.le]
  exact List.mem_map_of_mem (List.mem_range.mpr hm)

/-- How the wait of a worker goes from its start. -/
theorem await_nil (w : Workplace) (o : Options) (looks : Nat) :
    ((∀ n < looks, Undecided (w.marker n)) ∧ w.await o looks [] = (none, waits o looks)) ∨
      ∃ n path, w.Finds o looks n path ∧ w.await o looks [] = (some path, waits o n ++ [.look]) := by
  have heq := await_waits w o 0 looks
  rw [← List.range_eq_range'] at heq
  cases hwait : Pickup.await o.resultsDirectory (((List.range looks).map w.marker).map .ofReading) with
  | none =>
    rw [hwait] at heq
    dsimp only at heq
    rw [Nat.zero_add] at heq
    refine .inl ⟨fun n hn => ?_, heq⟩
    exact Pickup.await_eq_none_iff.mp hwait _ (List.mem_map_of_mem (List.mem_range.mpr hn))
  | some p =>
    rw [hwait] at heq
    dsimp only at heq
    rw [Nat.zero_add] at heq
    exact .inr ⟨p.pauses, p.path, finds_of_await hwait, heq⟩

end Workplace

/-- How it goes with a worker that looks at its marker at most so many times. -/
inductive Course (w : Workplace) (e : Encoding) (o : Options) (looks : Nat) :
    Option Ending → List Deed → Prop where
  /-- Without a client it does nothing. -/
  | clientless {failure : Ending} (client : clientFailure? e o = some failure) :
    Course w e o looks (some failure) []
  /-- It still waits if none of its looks has decided. -/
  | waiting (client : clientFailure? e o = none) (undecided : ∀ n < looks, Undecided (w.marker n)) :
    Course w e o looks none (waits o looks)
  /-- It fails if the first look that decides is an error. -/
  | unreadable (client : clientFailure? e o = none) {n : Nat} {fault : ReadFault}
    (finds : w.Finds o looks n (.error fault)) :
    Course w e o looks (some (.ofSubmission o (.error (.producer fault.message)))) (waits o n ++ [.look])
  /-- It fails if the file that this look names cannot be read. -/
  | lost (client : clientFailure? e o = none) {n : Nat} {path : String} {fault : ReadFault}
    (finds : w.Finds o looks n (.ok path)) (reading : w.file 0 path = .error fault) :
    Course w e o looks (some (.ofSubmission o (.error (.producer fault.message))))
      (waits o n ++ [.look, .read path])
  /-- Otherwise it hands over what is in the file, and nothing else. -/
  | handed (client : clientFailure? e o = none) {n : Nat} {path : String} {payload : ByteArray}
    {attempts : List (List Outgoing)} {result : Except SubmitError Acceptance}
    (finds : w.Finds o looks n (.ok path)) (reading : w.file 0 path = .ok payload) (tried : attempts ≠ [])
    (each : ∀ requests ∈ attempts, IsAttempt o ⟨payload, mediaType (Text.octets path)⟩ requests) :
    Course w e o looks (some (.ofSubmission o result)) (waits o n ++ [.look, .read path] ++ handing 0 attempts)

namespace Workplace

variable {w : Workplace} {o : Options} {e : Encoding} {looks : Nat}

/-- The file at the path that the wait has ended with is read once. -/
theorem fetch_of_await {n : Nat} {path : String}
    (h : w.await o looks [] = (some (.ok path), waits o n ++ [.look])) :
    w.fetch o looks [] =
      (some (((w.file 0 path).map fun payload => Parcel.mk payload (mediaType (Text.octets path))).mapError
        ReadFault.message), waits o n ++ [.look, .read path]) := by
  have hread : (waits o n ++ [Deed.look]).countP Deed.isRead = 0 := by
    rw [List.countP_append, countP_waits]
    rfl
  rw [fetch, h]
  dsimp only
  rw [hread, List.append_assoc]
  rfl

/-- A worker without a result fails. -/
theorem serve_of_error (client : clientFailure? e o = none) {reason : String} {deeds : List Deed}
    (h : w.fetch o looks [] = (some (.error reason), deeds)) :
    w.serve e o looks = (some (.ofSubmission o (.error (.producer reason))), deeds) := by
  have produced : w.produce o looks [] = (.error reason, deeds) := by
    rw [produce, h]
    rfl
  rw [serve, h, client, if_neg (by simp), run, client]
  dsimp only [Submission.submit]
  rw [produced]

/-- Any other worker hands its result over. -/
theorem serve_of_ok (client : clientFailure? e o = none) {parcel : Parcel} {deeds : List Deed}
    (h : w.fetch o looks [] = (some (.ok parcel), deeds)) :
    ∃ attempts result, attempts ≠ [] ∧ (∀ requests ∈ attempts, IsAttempt o parcel requests) ∧
      w.serve e o looks = (some (.ofSubmission o result), deeds ++ handing 0 attempts) := by
  have produced : w.produce o looks [] = (.ok parcel, deeds) := by
    rw [produce, h]
    rfl
  obtain ⟨attempts, result, tried, each, heq⟩ :=
    tryAgain_peer w o parcel (w.produce o looks) (RetryPolicy.default.maxAttempts - 1) 0 deeds
  refine ⟨attempts, result, tried, each, ?_⟩
  rw [serve, h, client, if_neg (by simp), run, client]
  dsimp only [Submission.submit]
  rw [produced]
  dsimp only
  rw [heq]

/-- However often it looks at its marker and whatever it meets with, a worker takes one of these courses. -/
theorem course_serve (w : Workplace) (e : Encoding) (o : Options) (looks : Nat) :
    Course w e o looks (w.serve e o looks).1 (w.serve e o looks).2 := by
  cases client : clientFailure? e o with
  | some failure =>
    have heq : w.serve e o looks = (some failure, []) := by
      rw [serve, client, if_neg (by simp), run, client]
    rw [heq]
    exact .clientless client
  | none =>
    rcases w.await_nil o looks with ⟨undecided, hawait⟩ | ⟨n, path, finds, hawait⟩
    · have hfetch : w.fetch o looks [] = (none, waits o looks) := by rw [fetch, hawait]
      have heq : w.serve e o looks = (none, waits o looks) := by
        rw [serve, hfetch, client, if_pos ⟨rfl, rfl⟩]
      rw [heq]
      exact .waiting client undecided
    · cases path with
      | error fault =>
        have hfetch : w.fetch o looks [] = (some (.error fault.message), waits o n ++ [.look]) := by
          rw [fetch, hawait]
        rw [serve_of_error client hfetch]
        exact .unreadable client finds
      | ok path =>
        have hfetch := fetch_of_await hawait
        cases reading : w.file 0 path with
        | error fault =>
          rw [reading] at hfetch
          rw [serve_of_error client hfetch]
          exact .lost client finds reading
        | ok payload =>
          rw [reading] at hfetch
          obtain ⟨attempts, result, tried, each, heq⟩ := serve_of_ok client hfetch
          rw [heq]
          exact .handed client finds reading tried each

/-- Where the files stay as they are, a result that is ready among them is what the worker finds, with its
first look. -/
theorem fetch_ofTree {t : Tree} {found : Except ReadFault Parcel} (reply : Nat → Outgoing → ByteArray)
    (ready : readyResult? t o.resultsDirectory = some found) (looks : Nat) :
    ((ofTree t o.resultsDirectory reply).fetch o (looks + 1) []).1 =
      some (found.mapError ReadFault.message) := by
  obtain ⟨path, hpath, rfl⟩ := Option.map_eq_some_iff.mp ready
  have hawait : (ofTree t o.resultsDirectory reply).await o (looks + 1) [] = (some path, [.look]) := by
    rw [Tree.viewMarker] at hpath
    rw [await, ofTree]
    dsimp only
    rw [hpath]
    rfl
  rw [fetch, hawait]
  cases path with
  | error fault => rfl
  | ok path => rfl

end Workplace

/-- A wait for a result ends with the first look at the marker that finds neither nothing nor only blanks, and
pauses once after each look before it.  It yields the path in the marker, taken from the directory of results
unless it begins at the root, or the error of that look.  A worker waits and reads once, before it sends
anything; it sends nothing if one of the two fails, and begins every attempt with the same request. -/
theorem pickedUp_serve :
    (∀ (directory : String) (history : List (Except ReadFault String)),
      (Pickup.await directory (history.map .ofReading) = none ↔ ∀ reading ∈ history, Undecided reading) ∧
      ∀ p, Pickup.await directory (history.map .ofReading) = some p ↔
        ∃ reading, history[p.pauses]? = some reading ∧ Decides directory reading p.path ∧
          ∀ earlier ∈ history.take p.pauses, Undecided earlier) ∧
    ∀ (w : Workplace) (e : Encoding) (o : Options) (looks : Nat),
      Course w e o looks (w.serve e o looks).1 (w.serve e o looks).2 :=
  ⟨fun _ _ => ⟨Pickup.await_eq_none_iff, fun _ => Pickup.await_eq_some_iff⟩, Workplace.course_serve⟩

end Worker

end ClusterSurvey
