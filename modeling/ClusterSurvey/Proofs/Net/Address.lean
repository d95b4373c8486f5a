import ClusterSurvey.Proofs.Net.Percent
import ClusterSurvey.Proofs.Text.Blank

/-!
# Paths of addresses

A worker puts the address of its result together out of texts that are taken as they are.  Reading that
address drops what looks like blanks at its end, cuts it at the first question mark and at the first
number sign, takes out the steps that stay and those that go up, and escapes what must not stand in a
path.
-/

namespace ClusterSurvey

namespace Net

/-! ### Steps -/

/-- Whether a step stays or goes up. -/
def IsDots (step : List Char) : Prop := plainStep step = ['.'] ∨ plainStep step = ['.', '.']

instance (step : List Char) : Decidable (IsDots step) := by
  unfold IsDots
  infer_instance

/-- Any other step is kept. -/
theorem walk_cons_of_not_isDots {step : List Char} (h : ¬ IsDots step) (done rest : List (List Char)) :
    walk plainStep done (step :: rest) = walk plainStep (step :: done) rest := by
  unfold IsDots at h
  rw [not_or] at h
  simp [walk, h.1, h.2]

/-- So are several of them. -/
theorem walk_append_of_not_isDots {front : List (List Char)} (h : ∀ s ∈ front, ¬ IsDots s)
    (done rest : List (List Char)) :
    walk plainStep done (front ++ rest) = walk plainStep (front.reverse ++ done) rest := by
  induction front generalizing done with
  | nil => rfl
  | cons s front ih =>
    rw [List.cons_append, walk_cons_of_not_isDots (h s List.mem_cons_self),
      ih (fun x hx => h x (List.mem_cons_of_mem s hx)), List.reverse_cons, List.append_assoc]
    rfl

/-- A step that stays or goes up is not, and leaves an empty one behind if it is the last one. -/
theorem walk_cons_of_isDots {step : List Char} (h : IsDots step) (done rest : List (List Char)) :
    ∃ d, (d = done ∨ d = done.drop 1) ∧
      walk plainStep done (step :: rest) = walk plainStep (if rest = [] then [] :: d else d) rest := by
  rcases h with hstay | hup
  · exact ⟨done, .inl rfl, by simp [walk, hstay]⟩
  · exact ⟨done.drop 1, .inr rfl, by simp [walk, hup]⟩

/-- No other steps are left in a path than those that were there, but perhaps an empty one. -/
theorem mem_walk {view : List Char → List Char} {steps done : List (List Char)} {s : List Char}
    (h : s ∈ walk view done steps) : s ∈ done ∨ s ∈ steps ∨ s = [] := by
  induction steps generalizing done with
  | nil => exact .inl (List.mem_reverse.mp h)
  | cons step rest ih =>
    have hdrop : s ∈ (if view step = ['.', '.'] then done.drop 1 else done) → s ∈ done := by
      intro hs
      split at hs
      · exact List.mem_of_mem_drop hs
      · exact hs
    unfold walk at h
    dsimp only at h
    split at h
    · rcases ih h with hs | hs | hs
      · split at hs
        · rcases List.mem_cons.mp hs with hs | hs
          · exact .inr (.inr hs)
          · exact .inl (hdrop hs)
        · exact .inl (hdrop hs)
      · exact .inr (.inl (List.mem_cons_of_mem step hs))
      · exact .inr (.inr hs)
    · rcases ih h with hs | hs | hs
      · rcases List.mem_cons.mp hs with rfl | hs
        · exact .inr (.inl List.mem_cons_self)
        · exact .inl (hdrop hs)
      · exact .inr (.inl (List.mem_cons_of_mem step hs))
      · exact .inr (.inr hs)

/-- What stands between slashes is one of the steps. -/
theorem eq_or_mem_of_mem_intercalate {c : Char} {steps : List (List Char)}
    (h : c ∈ List.intercalate ['/'] steps) : c = '/' ∨ ∃ s ∈ steps, c ∈ s := by
  induction steps with
  | nil => cases h
  | cons s rest ih =>
    cases rest with
    | nil =>
      rw [List.intercalate_singleton] at h
      exact .inr ⟨s, List.mem_cons_self, h⟩
    | cons t more =>
      rw [List.intercalate_cons_cons, List.append_assoc, List.mem_append, List.mem_append,
        List.mem_singleton] at h
      rcases h with hs | rfl | hmore
      · exact .inr ⟨s, List.mem_cons_self, hs⟩
      · exact .inl rfl
      · exact (ih hmore).imp_right fun ⟨p, hp, hc⟩ => ⟨p, List.mem_cons_of_mem s hp, hc⟩

/-- The path that is written for steps behind a host. -/
theorem normalPath_steps {steps : List (List Char)} (ne : steps ≠ [])
    (clear : ∀ s ∈ steps, '/' ∉ s ∧ '\\' ∉ s) :
    normalPath true ('/' :: List.intercalate ['/'] steps) =
      String.ofList ('/' :: List.intercalate ['/'] ((walk plainStep [] steps).map inPath)) := by
  have hsame : (List.intercalate ['/'] steps).map (fun c => if isSlash true c then '/' else c) =
      List.intercalate ['/'] steps := by
    refine (List.map_congr_left fun c hc => ?_).trans (List.map_id _)
    rcases eq_or_mem_of_mem_intercalate hc with rfl | ⟨s, hs, hcs⟩
    · rfl
    · have hslash : c ≠ '/' := fun h => (clear s hs).1 (h ▸ hcs)
      have hback : c ≠ '\\' := fun h => (clear s hs).2 (h ▸ hcs)
      simp [isSlash, hslash, hback]
  unfold normalPath
  rw [if_neg (by simp)]
  simp only [List.drop_succ_cons, List.drop_zero, splitPath, hsame]
  rw [Text.splitAt_eq_splitOn, List.splitOn_intercalate '/' (fun s hs => (clear s hs).1) ne]
  rfl

/-! ### What is cut off -/

/-- What stands in front of the first question mark and of the first number sign. -/
def cut (cs : List Char) : List Char := (cs.takeWhile (· ≠ '#')).takeWhile (· ≠ '?')

theorem cut_isPrefix (cs : List Char) : cut cs <+: cs :=
  (List.takeWhile_prefix _).trans (List.takeWhile_prefix _)

theorem cutAt_fst (c : Char) (cs : List Char) : (cutAt c cs).1 = cs.takeWhile (· ≠ c) := by
  unfold cutAt
  split
  · next hnil =>
    have h := List.takeWhile_append_dropWhile (p := (· ≠ c)) (l := cs)
    rw [hnil, List.append_nil] at h
    exact h.symm
  · rfl

theorem path_assemble (scheme : String) (host : Option HostName) (port : Option Nat)
    (path : List Char → String) (cs : List Char) :
    (Url.assemble scheme host port path cs).path = path (cut cs) := by
  simp only [Url.assemble, cutAt_fst]
  rfl

/-- What neither sign stands in has no query. -/
theorem query_assemble (scheme : String) (host : Option HostName) (port : Option Nat)
    (path : List Char → String) {cs : List Char} (plain : ∀ c ∈ cs, c ≠ '#' ∧ c ≠ '?') :
    (Url.assemble scheme host port path cs).query = none := by
  have hnumber : cs.dropWhile (· ≠ '#') = [] :=
    List.dropWhile_eq_nil_iff.mpr fun c hc => decide_eq_true (plain c hc).1
  have hquestion : cs.dropWhile (· ≠ '?') = [] :=
    List.dropWhile_eq_nil_iff.mpr fun c hc => decide_eq_true (plain c hc).2
  simp only [Url.assemble, cutAt, hnumber, hquestion]
  rfl

/-- Characters that are neither sign are kept. -/
theorem cut_append_of_plain {front : List Char} (h : ∀ c ∈ front, c ≠ '#' ∧ c ≠ '?')
    (back : List Char) : cut (front ++ back) = front ++ cut back := by
  have hnumber : ∀ c ∈ front, decide (c ≠ '#') = true := fun c hc => decide_eq_true (h c hc).1
  have hquestion : ∀ c ∈ front, decide (c ≠ '?') = true := fun c hc => decide_eq_true (h c hc).2
  rw [cut, List.takeWhile_append_of_pos hnumber, List.takeWhile_append_of_pos hquestion, cut]

/-- So is a slash behind them. -/
theorem cut_step {step : List Char} (h : ∀ c ∈ step, c ≠ '#' ∧ c ≠ '?') (rest : List Char) :
    cut (step ++ '/' :: rest) = step ++ '/' :: cut rest := by
  have hfront : ∀ c ∈ step ++ ['/'], c ≠ '#' ∧ c ≠ '?' := by
    rw [List.forall_mem_append, List.forall_mem_singleton]
    exact ⟨h, by decide⟩
  have hcut := cut_append_of_plain hfront rest
  rw [List.append_assoc, List.append_assoc] at hcut
  exact hcut

/-- Nothing is cut off where neither sign stands. -/
theorem cut_eq_self_iff (cs : List Char) : cut cs = cs ↔ ∀ c ∈ cs, c ≠ '#' ∧ c ≠ '?' := by
  constructor
  · intro h c hc
    rw [← h] at hc
    have hquestion := List.mem_takeWhile_imp hc
    have hnumber := List.mem_takeWhile_imp ((List.takeWhile_prefix _).subset hc)
    exact ⟨by simpa using hnumber, by simpa using hquestion⟩
  · intro h
    have hall := cut_append_of_plain h []
    rw [List.append_nil] at hall
    rw [hall]
    exact List.append_nil cs

private theorem takeWhile_append_of_mem {p : Char → Bool} {front : List Char} {c : Char}
    (hc : c ∈ front) (hp : p c = false) (back : List Char) :
    (front ++ back).takeWhile p = front.takeWhile p := by
  rw [List.takeWhile_append, if_neg]
  intro hlength
  have hself := (List.takeWhile_prefix p).eq_of_length hlength
  have hall := List.takeWhile_eq_self_iff.mp hself c hc
  rw [hp] at hall
  cases hall

/-- Behind one of the signs nothing counts. -/
theorem cut_append_of_not_plain {front : List Char} (h : ¬ ∀ c ∈ front, c ≠ '#' ∧ c ≠ '?')
    (back : List Char) : cut (front ++ back) = cut front := by
  by_cases hnumber : '#' ∈ front
  · rw [cut, takeWhile_append_of_mem hnumber (by simp), cut]
  · have hplain : ∀ c ∈ front, decide (c ≠ '#') = true :=
      fun c hc => decide_eq_true fun heq => hnumber (heq ▸ hc)
    have hquestion : '?' ∈ front := by
      by_contra hnone
      exact h fun c hc => ⟨fun heq => hnumber (heq ▸ hc), fun heq => hnone (heq ▸ hc)⟩
    have hself : front.takeWhile (· ≠ '#') = front := List.takeWhile_eq_self_iff.mpr hplain
    rw [cut, List.takeWhile_append_of_pos hplain, takeWhile_append_of_mem hquestion (by simp), cut,
      hself]

/-! ### Reading addresses -/

/-- The host and the port that an authority names. -/
def hostPort? (scheme : String) (authority : List Char) :
    Except UrlFault (Option HostName × Option Nat) := do
  let (hostText, portText) := splitPort false (behindUser authority)
  if hostText = [] ∧ isSpecial scheme ∧ scheme ≠ "file" then throw .emptyHost
  let host ←
    if hostText = [] then pure none
    else if isSpecial scheme then (domainHost hostText).map some
    else (plainHost hostText).map some
  let port ← port? (portText.getD [])
  return (host, if (specialSchemes.lookup scheme).join = port then none else port)

/-- What follows the two slashes is read in two parts. -/
theorem behindSlashes_eq (scheme : String) (cs : List Char) :
    Url.behindSlashes scheme cs =
      (hostPort? scheme (cs.takeWhile (!endsAuthority (isSpecial scheme) ·))).map fun p =>
        Url.assemble scheme p.1 p.2 (normalPath (isSpecial scheme))
          (cs.drop (cs.takeWhile (!endsAuthority (isSpecial scheme) ·)).length) := by
  unfold Url.behindSlashes hostPort?
  dsimp only
  cases splitPort false (behindUser (cs.takeWhile (!endsAuthority (isSpecial scheme) ·))) with
  | mk hostText portText =>
    dsimp only
    by_cases hempty : hostText = [] ∧ isSpecial scheme = true ∧ scheme ≠ "file"
    · rw [if_pos hempty, if_pos hempty]
      rfl
    · rw [if_neg hempty, if_neg hempty]
      by_cases hnone : hostText = []
      · rw [if_pos hnone, if_pos hnone]
        cases port? (portText.getD []) <;> rfl
      · rw [if_neg hnone, if_neg hnone]
        by_cases hspecial : isSpecial scheme = true
        · rw [if_pos hspecial, if_pos hspecial]
          cases domainHost hostText <;> cases port? (portText.getD []) <;> rfl
        · rw [if_neg hspecial, if_neg hspecial]
          cases plainHost hostText <;> cases port? (portText.getD []) <;> rfl

/-- The first slash ends the part with the host and the port. -/
private theorem takeWhile_authority {scheme : String} {authority : List Char}
    (plain : ∀ c ∈ authority, endsAuthority (isSpecial scheme) c = false) (steps : List Char) :
    (authority ++ '/' :: steps).takeWhile (!endsAuthority (isSpecial scheme) ·) = authority := by
  have hplain : ∀ c ∈ authority, (!endsAuthority (isSpecial scheme) c) = true := fun c hc => by
    rw [plain c hc]
    rfl
  have hends : endsAuthority (isSpecial scheme) '/' = true := by simp [endsAuthority, isSlash]
  rw [List.takeWhile_append_of_pos hplain, List.takeWhile_cons, hends]
  simp

/-- What stands behind a slash does not change how host and port are read. -/
theorem behindSlashes_slash {scheme : String} {authority : List Char}
    (plain : ∀ c ∈ authority, endsAuthority (isSpecial scheme) c = false) (steps : List Char) :
    Url.behindSlashes scheme (authority ++ '/' :: steps) =
      (hostPort? scheme authority).map fun p =>
        Url.assemble scheme p.1 p.2 (normalPath (isSpecial scheme)) ('/' :: steps) := by
  rw [behindSlashes_eq, takeWhile_authority plain, List.drop_left]

/-- An authority that can be read alone names a host and a port. -/
theorem hostPort?_of_behindSlashes {scheme : String} {authority : List Char} {u : Url}
    (plain : ∀ c ∈ authority, endsAuthority (isSpecial scheme) c = false)
    (h : Url.behindSlashes scheme authority = .ok u) :
    hostPort? scheme authority = .ok (u.host, u.port) := by
  have halone : authority.takeWhile (!endsAuthority (isSpecial scheme) ·) = authority := by
    refine List.takeWhile_eq_self_iff.mpr fun c hc => ?_
    rw [plain c hc]
    rfl
  rw [behindSlashes_eq, halone] at h
  cases hread : hostPort? scheme authority with
  | error e =>
    rw [hread] at h
    cases h
  | ok p =>
    rw [hread] at h
    cases h
    rfl

/-- Whether a text can stand as host and port in the address of a service. -/
structure IsAuthority (s : String) : Prop where
  /-- It has no blanks, and nothing that ends a host. -/
  chars : ∀ c ∈ s.toList, 0x20 < c.toNat ∧ endsAuthority true c = false
  /-- The address of the service can be read. -/
  read : ∃ u, Url.parse ("https://" ++ s) = .ok u

/-- Whether a character is dropped at the end of an address. -/
def isDropped (c : Char) : Bool := c.toNat ≤ 0x20

private theorem scheme?_https (cs : List Char) :
    scheme? ("https://".toList ++ cs) = some ("https", '/' :: '/' :: cs) := rfl

/-- Of an address whose host is not empty only the end is trimmed. -/
private theorem stripBoth_https {authority : List Char} (ne : authority ≠ [])
    (chars : ∀ c ∈ authority, 0x20 < c.toNat ∧ endsAuthority true c = false) (rest : List Char) :
    Text.stripBoth isDropped ("https://".toList ++ (authority ++ rest)) =
      "https://".toList ++ (authority ++ Text.dropTrailing isDropped rest) := by
  have hbegin (cs : List Char) :
      ("https://".toList ++ cs).dropWhile isDropped = "https://".toList ++ cs := rfl
  have hlast : ∀ c, ("https://".toList ++ authority).getLast? = some c → isDropped c = false := by
    intro c hc
    rw [List.getLast?_append_of_ne_nil _ ne] at hc
    have hgt := (chars c (List.mem_of_getLast? hc)).1
    simp [isDropped, hgt]
  rw [Text.stripBoth, hbegin, ← List.append_assoc, Text.dropTrailing_append hlast, List.append_assoc]

/-- How an address is read whose host is not empty. -/
private theorem parse_https {authority : List Char} (ne : authority ≠ [])
    (chars : ∀ c ∈ authority, 0x20 < c.toNat ∧ endsAuthority true c = false) {rest : List Char}
    (unbroken : ∀ c ∈ rest, c ≠ '\t' ∧ c ≠ '\n' ∧ c ≠ '\r') :
    Url.parse (String.ofList ("https://".toList ++ (authority ++ rest))) =
      Url.behindSlashes "https" (authority ++ Text.dropTrailing isDropped rest) := by
  have hscheme : ∀ c ∈ "https://".toList, (c ≠ '\t' && c ≠ '\n' && c ≠ '\r') = true := by simp
  have hfilter : ("https://".toList ++ (authority ++ Text.dropTrailing isDropped rest)).filter
      (fun c => c ≠ '\t' && c ≠ '\n' && c ≠ '\r') =
        "https://".toList ++ (authority ++ Text.dropTrailing isDropped rest) := by
    rw [List.filter_eq_self]
    intro c hc
    rw [List.mem_append, List.mem_append] at hc
    rcases hc with hc | hc | hc
    · exact hscheme c hc
    · have hgt := (chars c hc).1
      have hbreak (d : Char) (hd : d.toNat ≤ 0x20) : c ≠ d := by
        rintro rfl
        omega
      simp [hbreak '\t' (by decide), hbreak '\n' (by decide), hbreak '\r' (by decide)]
    · obtain ⟨htab, hnew, hreturn⟩ := unbroken c ((List.rdropWhile_prefix _ _).subset hc)
      simp [htab, hnew, hreturn]
  have hslashes : (authority ++ Text.dropTrailing isDropped rest).dropWhile (isSlash true) =
      authority ++ Text.dropTrailing isDropped rest := by
    obtain ⟨c, cs, rfl⟩ := List.exists_cons_of_ne_nil ne
    have hc := (chars c List.mem_cons_self).2
    have hslash : isSlash true c = false := by
      unfold endsAuthority at hc
      simp only [Bool.or_eq_false_iff] at hc
      exact hc.1.1
    rw [List.cons_append, List.dropWhile_cons_of_neg (by simp [hslash])]
  have hread : Url.parse (String.ofList ("https://".toList ++ (authority ++ rest))) =
      Url.behindSlashes "https"
        ((authority ++ Text.dropTrailing isDropped rest).dropWhile (isSlash true)) := by
    unfold Url.parse
    rw [String.toList_ofList]
    have hstrip := stripBoth_https ne chars rest
    unfold isDropped at hstrip hfilter
    rw [hstrip, hfilter]
    dsimp only
    rw [scheme?_https]
    rfl
  rw [hread, hslashes]

/-- What lies below an authority is read behind its host and its port, without what is blank at its
end. -/
theorem parse_slash {authority : String} (ne : authority.toList ≠ [])
    (chars : ∀ c ∈ authority.toList, 0x20 < c.toNat ∧ endsAuthority true c = false) {below : List Char}
    (unbroken : ∀ c ∈ below, c ≠ '\t' ∧ c ≠ '\n' ∧ c ≠ '\r') :
    Url.parse ("https://" ++ authority ++ String.ofList ('/' :: below)) =
      (hostPort? "https" authority.toList).map fun p =>
        Url.assemble "https" p.1 p.2 (normalPath true) (Text.dropTrailing isDropped ('/' :: below)) := by
  have hbelow : "https://" ++ authority ++ String.ofList ('/' :: below) =
      String.ofList ("https://".toList ++ (authority.toList ++ '/' :: below)) := by
    rw [String.ofList_append, String.ofList_append, String.ofList_toList, String.ofList_toList,
      String.append_assoc]
  have hunbroken : ∀ c ∈ '/' :: below, c ≠ '\t' ∧ c ≠ '\n' ∧ c ≠ '\r' := by
    intro c hc
    rcases List.mem_cons.mp hc with rfl | hc
    · decide
    · exact unbroken c hc
  have hlast : ∀ c, ['/'].getLast? = some c → isDropped c = false := by
    rintro c ⟨⟩
    rfl
  have hslash : Text.dropTrailing isDropped ('/' :: below) =
      '/' :: Text.dropTrailing isDropped below := Text.dropTrailing_append hlast below
  have hplain : ∀ c ∈ authority.toList, endsAuthority (isSpecial "https") c = false :=
    fun c hc => (chars c hc).2
  rw [hbelow, parse_https ne chars hunbroken, hslash, behindSlashes_slash hplain]
  rfl

/-- What lies below an authority is read behind it, without what is blank at its end. -/
theorem parse_below_eq {s : String} (h : IsAuthority s) {below : List Char}
    (unbroken : ∀ c ∈ below, c ≠ '\t' ∧ c ≠ '\n' ∧ c ≠ '\r') :
    ∃ host port, Url.parse ("https://" ++ s ++ String.ofList ('/' :: below)) =
      .ok (Url.assemble "https" host port (normalPath true)
        (Text.dropTrailing isDropped ('/' :: below))) := by
  obtain ⟨alone, halone⟩ := h.read
  have ne : s.toList ≠ [] := by
    intro hnil
    rw [String.toList_eq_nil_iff.mp hnil, String.append_empty] at halone
    cases halone
  have hs : "https://" ++ s = String.ofList ("https://".toList ++ (s.toList ++ [])) := by
    rw [List.append_nil, String.ofList_append, String.ofList_toList, String.ofList_toList]
  have hnone : Text.dropTrailing isDropped [] = [] := rfl
  rw [hs, parse_https ne h.chars (List.forall_mem_nil _), hnone, List.append_nil] at halone
  have hread : hostPort? "https" s.toList = .ok (alone.host, alone.port) :=
    hostPort?_of_behindSlashes (fun c hc => (h.chars c hc).2) halone
  rw [parse_slash ne h.chars unbroken, hread]
  exact ⟨alone.host, alone.port, rfl⟩

/-- What lies below an authority has the path that is written for it, without what is cut off. -/
theorem parse_below {s : String} (h : IsAuthority s) {below : List Char}
    (unbroken : ∀ c ∈ below, c ≠ '\t' ∧ c ≠ '\n' ∧ c ≠ '\r') :
    ∃ u, Url.parse ("https://" ++ s ++ String.ofList ('/' :: below)) = .ok u ∧
      u.path = normalPath true (cut (Text.dropTrailing isDropped ('/' :: below))) := by
  obtain ⟨host, port, hread⟩ := parse_below_eq h unbroken
  exact ⟨_, hread, path_assemble "https" host port (normalPath true) _⟩

end Net

end ClusterSurvey
