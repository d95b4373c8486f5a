import ClusterSurvey.Collection.Delivery

/-!
# Room for results

The results of a key are filed in a directory of their own, through a scratch file beside them.  A tree
has room for them if no file lies where a directory is needed, no directory lies where the results go,
and the names are short enough; the scratch file has the longest of them.
-/

namespace ClusterSurvey

/-- The most octets that the type of a result has whose scratch file can be named. -/
def maxTypeOctets : Nat := maxNameOctets - 16

/-- Whether the names under which the results of a key are written and filed are short enough. -/
def ResultKey.fits (k : ResultKey) : Bool :=
  nameFits k.scope && k.resultType.utf8ByteSize ≤ maxTypeOctets

/-- A text of characters with one octet has as many octets as characters. -/
theorem utf8ByteSize_ofList {cs : List Char} (single : ∀ c ∈ cs, c.utf8Size = 1) :
    (String.ofList cs).utf8ByteSize = cs.length := by
  induction cs with
  | nil => rfl
  | cons c cs ih =>
    have hsplit : String.ofList ([c] ++ cs) = String.ofList [c] ++ String.ofList cs :=
      String.ofList_append
    have hone : String.ofList [c] = String.singleton c := rfl
    rw [← List.singleton_append, hsplit, hone, String.utf8ByteSize_append,
      String.utf8ByteSize_singleton, single c List.mem_cons_self,
      ih fun x hx => single x (List.mem_cons_of_mem c hx), List.length_append, List.length_singleton]

/-- The mark of a scratch file has six octets, what stands around it ten. -/
theorem nameFits_scratchName (resultType : String) {mark : String} (hmark : mark.utf8ByteSize = 6) :
    nameFits (scratchName resultType mark) = true ↔ resultType.utf8ByteSize ≤ maxTypeOctets := by
  have hsize : (scratchName resultType mark).utf8ByteSize = resultType.utf8ByteSize + 16 := by
    simp only [scratchName, String.utf8ByteSize_append, hmark]
    have hdot : ".".utf8ByteSize = 1 := rfl
    have hend : ".partial".utf8ByteSize = 8 := rfl
    omega
  rw [nameFits, hsize, maxTypeOctets, maxNameOctets, decide_eq_true_iff]
  omega

namespace Tree

variable {t u : Tree} {p q : Place} {last : Bool} {name : String}

/-! ### Directories -/

/-- Whether a directory lies at a place, or one can be made in the directory above it. -/
def admitsDirectory (t : Tree) (p : Place) : Bool :=
  match t.get? p with
  | some .directory => true
  | some (.file _) => false
  | none => p.getLast?.all nameFits

private theorem isOk_makeDirectory (t : Tree) (p : Place) (last : Bool) :
    (t.makeDirectory p last).isOk = t.admitsDirectory p := by
  unfold makeDirectory admitsDirectory
  cases t.get? p with
  | none =>
    dsimp only
    cases p.getLast?.all nameFits <;> rfl
  | some n => cases n <;> rfl

private theorem get?_makeDirectory (h : t.makeDirectory p last = .ok u) (q : Place) :
    u.get? q = if q = p then some .directory else t.get? q := by
  unfold makeDirectory at h
  split at h
  · next hp =>
    cases h
    split
    · next hq => rw [hq, hp]
    · rfl
  · cases h
  · split at h
    · cases h
      by_cases hq : q = p
      · rw [hq, get?_set_self, if_pos rfl]
      · rw [get?_set_of_ne t _ hq, if_neg hq]
    · cases h

/-- A directory in the root is made after the root. -/
theorem makeDirectories_name (t : Tree) (name : String) :
    t.makeDirectories [name] =
      (t.makeDirectory [] false).bind fun t => t.makeDirectory [name] true := by
  have hlast (u : Tree) : u.makeBelow [] [name] = u.makeDirectory [name] true := by
    show (u.makeDirectory [name] true).bind (fun v => v.makeBelow [name] []) = _
    cases u.makeDirectory [name] true <;> rfl
  show (t.makeDirectory [] false).bind (fun u => u.makeBelow [] [name]) = _
  simp only [hlast]

/-- A directory in the root can be made if both can be there. -/
theorem isOk_makeDirectories (t : Tree) (name : String) :
    (t.makeDirectories [name]).isOk = (t.admitsDirectory [] && t.admitsDirectory [name]) := by
  rw [makeDirectories_name, ← t.isOk_makeDirectory [] false]
  cases hroot : t.makeDirectory [] false with
  | error f => rfl
  | ok u =>
    have hsame : u.admitsDirectory [name] = t.admitsDirectory [name] := by
      rw [admitsDirectory, admitsDirectory, get?_makeDirectory hroot,
        if_neg (List.cons_ne_nil name [])]
    rw [← hsame, ← u.isOk_makeDirectory [name] true]
    rfl

/-- Afterwards the two directories are there, and everything else is as it was. -/
theorem get?_makeDirectories (h : t.makeDirectories [name] = .ok u) (q : Place) :
    u.get? q = if q = [] ∨ q = [name] then some .directory else t.get? q := by
  rw [makeDirectories_name] at h
  cases hroot : t.makeDirectory [] false with
  | error f =>
    rw [hroot] at h
    cases h
  | ok v =>
    rw [hroot] at h
    have hlast : v.makeDirectory [name] true = .ok u := h
    rw [get?_makeDirectory hlast, get?_makeDirectory hroot]
    by_cases hname : q = [name]
    · rw [if_pos hname, if_pos (.inr hname)]
    · by_cases hnil : q = []
      · rw [if_neg hname, if_pos hnil, if_pos (.inl hnil)]
      · rw [if_neg hname, if_neg hnil, if_neg (not_or.mpr ⟨hnil, hname⟩)]

/-! ### Room -/

/-- Whether a tree has room for the results of a key. -/
def hasRoomFor (t : Tree) (k : ResultKey) : Bool :=
  t.admitsDirectory [] && t.admitsDirectory [k.scope] &&
    k.resultType.utf8ByteSize ≤ maxTypeOctets && !t.isDirectory k.place

/-- A tree without anything has room for results with short names. -/
theorem hasRoomFor_empty (k : ResultKey) : empty.hasRoomFor k = k.fits := by
  show (true && nameFits k.scope && _ && true) = _
  rw [Bool.true_and, Bool.and_true]
  rfl

/-- A tree that has only been given directories in which results can be filed: what lies in these is as
it was, and so is where there can be directories. -/
structure Grows (t u : Tree) : Prop where
  below : ∀ q, 2 ≤ q.length → u.get? q = t.get? q
  files : ∀ q, u.content? q = t.content? q
  admits : ∀ q, u.admitsDirectory q = t.admitsDirectory q

namespace Grows

/-- A tree that is as it was has not been given anything else. -/
theorem refl (t : Tree) : Grows t t := ⟨fun _ _ => rfl, fun _ => rfl, fun _ => rfl⟩

/-- What lies where results are filed is as it was. -/
theorem get?_place (h : Grows t u) (k : ResultKey) : u.get? k.place = t.get? k.place :=
  h.below k.place (Nat.le_refl 2)

/-- So is what lies where they are written. -/
theorem get?_scratchPlace (h : Grows t u) (k : ResultKey) (mark : String) :
    u.get? (k.scratchPlace mark) = t.get? (k.scratchPlace mark) :=
  h.below (k.scratchPlace mark) (Nat.le_refl 2)

/-- A tree has been given directories when they have been made. -/
theorem of_makeDirectories (h : t.makeDirectories [name] = .ok u) : Grows t u where
  below q hq := by
    rw [get?_makeDirectories h, if_neg]
    rintro (rfl | rfl)
    · exact absurd hq (by decide)
    · exact absurd hq (by decide : ¬ 2 ≤ 1)
  files := content?_makeDirectories h
  admits q := by
    have hok : (t.makeDirectories [name]).isOk = true := by rw [h]; rfl
    rw [isOk_makeDirectories, Bool.and_eq_true] at hok
    by_cases hq : q = [] ∨ q = [name]
    · have hmade : u.admitsDirectory q = true := by
        rw [admitsDirectory, get?_makeDirectories h, if_pos hq]
      rw [hmade]
      rcases hq with rfl | rfl
      · exact hok.1.symm
      · exact hok.2.symm
    · rw [admitsDirectory, admitsDirectory, get?_makeDirectories h, if_neg hq]

/-- It has the same room as before. -/
theorem hasRoomFor_eq (h : Grows t u) (k : ResultKey) : u.hasRoomFor k = t.hasRoomFor k := by
  have hplace : u.isDirectory k.place = t.isDirectory k.place := by
    rw [isDirectory, isDirectory, h.get?_place]
  rw [hasRoomFor, hasRoomFor, h.admits, h.admits, hplace]

end Grows

/-- Where results are filed there is room for others. -/
theorem hasRoomFor_set (k j : ResultKey) (b : ByteArray) (h : t.hasRoomFor k = true) :
    (t.set k.place (.file b)).hasRoomFor j = t.hasRoomFor j := by
  have hadmits (q : Place) (hq : q.length < 2) :
      (t.set k.place (.file b)).admitsDirectory q = t.admitsDirectory q := by
    have hne : q ≠ k.place := fun he => absurd (he ▸ hq : k.place.length < 2) (Nat.lt_irrefl 2)
    rw [admitsDirectory, admitsDirectory, get?_set_of_ne t _ hne]
  have hplace : (t.set k.place (.file b)).isDirectory j.place = t.isDirectory j.place := by
    by_cases he : j.place = k.place
    · have hfree : t.isDirectory k.place = false := by
        simp only [hasRoomFor, Bool.and_eq_true, Bool.not_eq_true'] at h
        exact h.2
      rw [he, isDirectory, get?_set_self, hfree]
    · rw [isDirectory, isDirectory, get?_set_of_ne t _ he]
  rw [hasRoomFor, hasRoomFor, hadmits [] (by decide), hadmits [j.scope] (Nat.lt_succ_self 1), hplace]

end Tree

end ClusterSurvey
