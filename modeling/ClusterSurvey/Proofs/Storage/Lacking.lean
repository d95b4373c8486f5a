import ClusterSurvey.Proofs.Storage.Room

/-!
# Trees that lack something

A tree may lack a file that another one has, and directories that could be made in it.  What is then done
to both of them beside that file goes the same way: it is refused for the same reason, or it is done and
there is still nothing else between the two.
-/

namespace ClusterSurvey

/-- Whether two operations go the same way: both are refused for the same reason, or both are done and
lead to trees that belong together. -/
inductive SameWay {ε : Type} (R : Tree → Tree → Prop) : Except ε Tree → Except ε Tree → Prop where
  | refused (e : ε) : SameWay R (.error e) (.error e)
  | done {t u : Tree} (related : R t u) : SameWay R (.ok t) (.ok u)

/-- What goes on the same way after operations that have gone the same way. -/
theorem SameWay.bind {ε : Type} {R S : Tree → Tree → Prop} {x y : Except ε Tree}
    {f g : Tree → Except ε Tree} (h : SameWay R x y)
    (next : ∀ t u, R t u → SameWay S (f t) (g u)) : SameWay S (x.bind f) (y.bind g) := by
  cases h with
  | refused e => exact .refused e
  | done related => exact next _ _ related

namespace Tree

/-- Whether the second tree is the first one without what lies at a hidden place, and maybe without some
of the directories at these places, which can be made there. -/
structure Lacks (hidden : Option Place) (made : List Place) (t u : Tree) : Prop where
  gone : ∀ p, hidden = some p → u.get? p = none
  others : ∀ p, hidden ≠ some p → u.get? p = t.get? p ∨
    p ∈ made ∧ p.getLast?.all nameFits = true ∧ t.get? p = some .directory ∧ u.get? p = none

namespace Lacks

variable {hidden : Option Place} {made : List Place} {t u : Tree} {p : Place} {name : String}

/-- A tree lacks nothing of itself. -/
theorem refl (t : Tree) : Lacks none made t t := ⟨by simp, fun _ _ => .inl rfl⟩

/-- A tree from which something has been taken away lacks just this. -/
theorem erased (t : Tree) (p : Place) : Lacks (some p) made t (t.erase p) where
  gone := by
    rintro q ⟨rfl⟩
    exact get?_erase_self t p
  others q hq := .inl (get?_erase_of_ne t fun he => hq (he ▸ rfl))

/-- Further directories may be missing. -/
theorem mono {more : List Place} (h : Lacks hidden made t u) (le : ∀ q ∈ made, q ∈ more) :
    Lacks hidden more t u :=
  ⟨h.gone, fun q hq => (h.others q hq).imp_right fun ⟨hm, hrest⟩ => ⟨le q hm, hrest⟩⟩

/-- Where neither is missing the same lies in both trees. -/
theorem get?_eq (h : Lacks hidden made t u) (shown : hidden ≠ some p) (lasting : p ∉ made) :
    u.get? p = t.get? p :=
  (h.others p shown).resolve_right fun missing => lasting missing.1

/-- Where nothing lies in the first tree nothing lies in the other. -/
theorem get?_eq_none (h : Lacks hidden made t u) (empty : t.get? p = none) : u.get? p = none := by
  by_cases shown : hidden = some p
  · exact h.gone p shown
  · rcases h.others p shown with same | ⟨-, -, -, missing⟩
    · rw [same, empty]
    · exact missing

/-- Only the file at the hidden place is missing. -/
theorem content?_eq (h : Lacks hidden made t u) (shown : hidden ≠ some p) :
    u.content? p = t.content? p := by
  rcases h.others p shown with same | ⟨-, -, directory, missing⟩
  · exact content?_congr same
  · rw [content?, content?, directory, missing]

/-- Only directories that can be made are missing. -/
theorem isDirectory_eq (h : Lacks hidden made t u) (shown : hidden ≠ some p) (lasting : p ∉ made) :
    u.isDirectory p = t.isDirectory p := by
  rw [isDirectory, isDirectory, h.get?_eq shown lasting]

/-- Where the one tree admits a directory the other one does. -/
theorem admitsDirectory_eq (h : Lacks hidden made t u) (shown : hidden ≠ some p) :
    u.admitsDirectory p = t.admitsDirectory p := by
  rcases h.others p shown with same | ⟨-, fits, directory, missing⟩
  · rw [admitsDirectory, admitsDirectory, same]
  · rw [admitsDirectory, admitsDirectory, directory, missing]
    exact fits

/-- Both trees have the same room. -/
theorem hasRoomFor_eq (h : Lacks none made t u) (short : ∀ q ∈ made, q.length < 2) (k : ResultKey) :
    u.hasRoomFor k = t.hasRoomFor k := by
  have lasting : k.place ∉ made := fun hk => Nat.lt_irrefl 2 (short k.place hk)
  rw [hasRoomFor, hasRoomFor, h.admitsDirectory_eq (by simp), h.admitsDirectory_eq (by simp),
    h.isDirectory_eq (by simp) lasting]

/-! ### What is done to both trees -/

private theorem ne_of_shown {q : Place} (shown : hidden ≠ some p) (hq : hidden = some q) : q ≠ p := by
  rintro rfl
  exact shown hq

/-- Something is put into both trees. -/
theorem set (h : Lacks hidden made t u) (shown : hidden ≠ some p) (n : TreeNode) :
    Lacks hidden made (t.set p n) (u.set p n) where
  gone q hq := by
    rw [get?_set_of_ne u n (ne_of_shown shown hq)]
    exact h.gone q hq
  others q hq := by
    by_cases he : q = p
    · rw [he, get?_set_self, get?_set_self]
      exact .inl rfl
    · rw [get?_set_of_ne t n he, get?_set_of_ne u n he]
      exact h.others q hq

/-- Something is taken away from both trees. -/
theorem erase (h : Lacks hidden made t u) (shown : hidden ≠ some p) :
    Lacks hidden made (t.erase p) (u.erase p) where
  gone q hq := by
    rw [get?_erase_of_ne u (ne_of_shown shown hq)]
    exact h.gone q hq
  others q hq := by
    by_cases he : q = p
    · rw [he, get?_erase_self, get?_erase_self]
      exact .inl rfl
    · rw [get?_erase_of_ne t he, get?_erase_of_ne u he]
      exact h.others q hq

/-- A directory that was missing is made. -/
private theorem set_missing (h : Lacks hidden made t u) (shown : hidden ≠ some p)
    (directory : t.get? p = some .directory) : Lacks hidden made t (u.set p .directory) where
  gone := (h.set shown .directory).gone
  others q hq := by
    by_cases he : q = p
    · rw [he, get?_set_self, directory]
      exact .inl rfl
    · rw [get?_set_of_ne u _ he]
      exact h.others q hq

private theorem makeDirectory (h : Lacks hidden made t u) (shown : hidden ≠ some p) (last : Bool) :
    SameWay (Lacks hidden made) (t.makeDirectory p last) (u.makeDirectory p last) := by
  unfold Tree.makeDirectory
  rcases h.others p shown with same | ⟨-, fits, directory, missing⟩
  · rw [same]
    split
    · exact .done h
    · exact .refused _
    · split
      · exact .done (h.set shown .directory)
      · exact .refused _
  · rw [directory, missing]
    dsimp only
    rw [if_pos fits]
    exact .done (h.set_missing shown directory)

/-- A directory is made in both trees. -/
theorem makeDirectories (h : Lacks hidden made t u) (deep : ∀ p, hidden = some p → 2 ≤ p.length)
    (name : String) :
    SameWay (Lacks hidden made) (t.makeDirectories [name]) (u.makeDirectories [name]) := by
  have shown {q : Place} (hq : q.length < 2) : hidden ≠ some q :=
    fun he => absurd (deep q he) (Nat.not_le.mpr hq)
  rw [makeDirectories_name, makeDirectories_name]
  exact (h.makeDirectory (shown (by decide)) false).bind fun v w hvw =>
    hvw.makeDirectory (shown (by simp)) true

/-- A file is written in both trees. -/
theorem writeFile (h : Lacks hidden made t u) (shown : hidden ≠ some p) (lasting : p ∉ made)
    (b : ByteArray) : SameWay (Lacks hidden made) (t.writeFile p b) (u.writeFile p b) := by
  unfold Tree.writeFile
  rw [h.isDirectory_eq shown lasting]
  split
  · exact .refused _
  · split
    · exact .refused _
    · exact .done (h.set shown _)

/-- A file is moved in both trees. -/
theorem rename {source target : Place} (h : Lacks hidden made t u) (shown : hidden ≠ some source)
    (free : hidden ≠ some target) (lasting : target ∉ made) :
    SameWay (Lacks hidden made) (t.rename source target) (u.rename source target) := by
  unfold Tree.rename
  rw [h.content?_eq shown, h.isDirectory_eq free lasting]
  split
  · exact .refused _
  · split
    · exact .refused _
    · exact .done ((h.erase shown).set free _)

/-! ### What is done to one of them -/

/-- What is put at the hidden place is missing in the other tree. -/
theorem hide (h : Lacks hidden made t u) (empty : u.get? p = none)
    (only : ∀ q, hidden = some q → q = p) (n : TreeNode) : Lacks (some p) made (t.set p n) u where
  gone := by
    rintro q ⟨rfl⟩
    exact empty
  others q hq := by
    have he : q ≠ p := fun he => hq (he ▸ rfl)
    rw [get?_set_of_ne t n he]
    exact h.others q fun hh => he (only q hh)

/-- Nothing is hidden any more when it has been taken away. -/
theorem unhide (h : Lacks (some p) made t u) : Lacks none made (t.erase p) u where
  gone := by simp
  others q _ := by
    by_cases he : q = p
    · rw [he, get?_erase_self]
      exact .inl (h.gone p rfl)
    · rw [get?_erase_of_ne t he]
      exact h.others q fun hh => he (Option.some.inj hh).symm

/-- A directory that is made together with the root is missing in the other tree. -/
theorem of_makeDirectories {v : Tree} (h : Lacks none [] t u)
    (done : t.makeDirectories [name] = .ok v) : Lacks none [[], [name]] v u where
  gone := by simp
  others q _ := by
    have same : u.get? q = t.get? q := h.get?_eq (by simp) (by simp)
    have hok : (t.makeDirectories [name]).isOk = true := by rw [done]; rfl
    rw [isOk_makeDirectories, Bool.and_eq_true] at hok
    rw [get?_makeDirectories done, same]
    by_cases hq : q = [] ∨ q = [name]
    · rw [if_pos hq]
      have admits : t.admitsDirectory q = true := by
        rcases hq with rfl | rfl
        · exact hok.1
        · exact hok.2
      unfold admitsDirectory at admits
      split at admits
      · next directory => exact .inl directory
      · cases admits
      · next missing => exact .inr ⟨by simpa using hq, admits, rfl, missing⟩
    · rw [if_neg hq]
      exact .inl rfl

end Lacks

end Tree

end ClusterSurvey
