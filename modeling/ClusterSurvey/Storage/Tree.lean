import ClusterSurvey.Text.Utf8

/-!
# Trees of files

A tree has directories and files.  Directories are made with all that lies above them, a file is
written, and a file is moved onto another one in a single step.  A name has at most 255 octets.
-/

namespace ClusterSurvey

/-- Why the storage refused an operation. -/
inductive StorageFault where
  | notFound
  | fileExists
  | notDirectory
  | isDirectory
  | nameTooLong
  | addressInUse
  deriving DecidableEq, Repr

namespace StorageFault

/-- The number of a fault. -/
def code : StorageFault → Nat
  | notFound => 2
  | fileExists => 17
  | notDirectory => 20
  | isDirectory => 21
  | nameTooLong => 36
  | addressInUse => 98

/-- What the system calls a fault. -/
def description : StorageFault → String
  | notFound => "No such file or directory"
  | fileExists => "File exists"
  | notDirectory => "Not a directory"
  | isDirectory => "Is a directory"
  | nameTooLong => "File name too long"
  | addressInUse => "Address already in use"

/-- The wording of a fault. -/
def message (f : StorageFault) : String :=
  f.description ++ " (os error " ++ toString f.code ++ ")"

end StorageFault

/-- What lies at a place of a tree. -/
inductive TreeNode where
  | directory
  | file (content : ByteArray)

/-- A place in a tree: the names on the way to it. -/
abbrev Place := List String

/-- A tree as its places and what lies there. -/
structure Tree where
  /-- The places of the tree, in the order in which they were made. -/
  entries : List (Place × TreeNode)

/-- The most octets that a name has. -/
def maxNameOctets : Nat := 255

/-- Whether a name is short enough. -/
def nameFits (name : String) : Bool := name.utf8ByteSize ≤ maxNameOctets

namespace Tree

/-- The tree that does not exist yet. -/
def empty : Tree := ⟨[]⟩

/-- What lies at a place. -/
def get? (t : Tree) (p : Place) : Option TreeNode := t.entries.lookup p

/-- The content of the file at a place. -/
def content? (t : Tree) (p : Place) : Option ByteArray :=
  match t.get? p with
  | some (.file b) => some b
  | _ => none

/-- Whether a directory lies at a place. -/
def isDirectory (t : Tree) (p : Place) : Bool :=
  match t.get? p with
  | some .directory => true
  | _ => false

/-- Puts something at a place, in place of what lay there. -/
def set (t : Tree) (p : Place) (n : TreeNode) : Tree :=
  ⟨t.entries.filter (·.1 ≠ p) ++ [(p, n)]⟩

/-- Takes away what lies at a place. -/
def erase (t : Tree) (p : Place) : Tree := ⟨t.entries.filter (·.1 ≠ p)⟩

/-- Takes away what lies at a place and everything below it. -/
def eraseAll (t : Tree) (p : Place) : Tree := ⟨t.entries.filter fun e => !p.isPrefixOf e.1⟩

/-- Makes one directory in a directory that is there. -/
def makeDirectory (t : Tree) (p : Place) (last : Bool) : Except StorageFault Tree :=
  match t.get? p with
  | some .directory => .ok t
  | some (.file _) => .error (if last then .fileExists else .notDirectory)
  | none =>
    if p.getLast?.all nameFits then .ok (t.set p .directory) else .error .nameTooLong

/-- Makes the directories below `done` one after the other. -/
def makeBelow (t : Tree) (done : Place) : Place → Except StorageFault Tree
  | [] => .ok t
  | name :: rest => do
    let t ← t.makeDirectory (done ++ [name]) rest.isEmpty
    t.makeBelow (done ++ [name]) rest

/-- Makes a directory and all directories above it, as far as they are missing. -/
def makeDirectories (t : Tree) (p : Place) : Except StorageFault Tree := do
  let t ← t.makeDirectory [] p.isEmpty
  t.makeBelow [] p

/-- Writes a file into a directory that is there. -/
def writeFile (t : Tree) (p : Place) (content : ByteArray) : Except StorageFault Tree :=
  if t.isDirectory p then .error .isDirectory
  else if !p.getLast?.all nameFits then .error .nameTooLong
  else .ok (t.set p (.file content))

/-- Moves a file onto a place that holds nothing or a file. -/
def rename (t : Tree) (source target : Place) : Except StorageFault Tree :=
  match t.content? source with
  | none => .error .notFound
  | some b =>
    if t.isDirectory target then .error .isDirectory
    else .ok ((t.erase source).set target (.file b))

/-- Makes a file and the directories above it. -/
def plant (t : Tree) (p : Place) (content : ByteArray) : Except StorageFault Tree := do
  let t ← t.makeDirectories p.dropLast
  t.writeFile p content

/-! ### What lies at a place after an operation -/

private theorem lookup_filter_ne (entries : List (Place × TreeNode)) {p q : Place} (h : q ≠ p) :
    (entries.filter (·.1 ≠ p)).lookup q = entries.lookup q := by
  induction entries with
  | nil => rfl
  | cons e es ih =>
    by_cases hp : e.1 = p
    · have hq : (q == e.1) = false := by
        rw [hp]
        exact beq_eq_false_iff_ne.mpr h
      rw [List.filter_cons_of_neg (by simp [hp]), ih, List.lookup_cons, hq]
    · rw [List.filter_cons_of_pos (by simp [hp]), List.lookup_cons, List.lookup_cons, ih]

private theorem lookup_filter_self (entries : List (Place × TreeNode)) (p : Place) :
    (entries.filter (·.1 ≠ p)).lookup p = none := by
  rw [List.lookup_eq_none_iff]
  intro e he
  have hp : e.1 ≠ p := by simpa using (List.mem_filter.mp he).2
  simp [Ne.symm hp]

/-- What has been put at a place lies there. -/
@[simp]
theorem get?_set_self (t : Tree) (p : Place) (n : TreeNode) : (t.set p n).get? p = some n := by
  simp only [get?, set, List.lookup_append, lookup_filter_self, Option.none_or]
  simp

/-- At the other places nothing has changed. -/
theorem get?_set_of_ne (t : Tree) {p q : Place} (n : TreeNode) (h : q ≠ p) :
    (t.set p n).get? q = t.get? q := by
  have hq : (q == p) = false := beq_eq_false_iff_ne.mpr h
  simp only [get?, set, List.lookup_append, lookup_filter_ne _ h, List.lookup_cons, hq,
    List.lookup_nil, Option.or_none]

/-- Nothing lies where something has been taken away. -/
@[simp]
theorem get?_erase_self (t : Tree) (p : Place) : (t.erase p).get? p = none :=
  lookup_filter_self t.entries p

/-- Everything else is still there. -/
theorem get?_erase_of_ne (t : Tree) {p q : Place} (h : q ≠ p) : (t.erase p).get? q = t.get? q :=
  lookup_filter_ne t.entries h

/-- What is put at a place takes the place of what was put there before. -/
@[simp]
theorem set_set (t : Tree) (p : Place) (m n : TreeNode) : (t.set p m).set p n = t.set p n := by
  simp [set, List.filter_append, List.filter_filter]

/-- What has been put at a place is taken away with what lay there before. -/
@[simp]
theorem erase_set (t : Tree) (p : Place) (n : TreeNode) : (t.set p n).erase p = t.erase p := by
  simp [set, erase, List.filter_append, List.filter_filter]

/-- Where nothing lies nothing is taken away. -/
theorem erase_of_get?_eq_none {t : Tree} {p : Place} (h : t.get? p = none) : t.erase p = t := by
  have hall : t.entries.filter (·.1 ≠ p) = t.entries := by
    rw [List.filter_eq_self]
    intro e he
    have hne := List.lookup_eq_none_iff.mp h e he
    simpa using Ne.symm (bne_iff_ne.mp hne)
  rw [erase, hall]

/-- Places at which the same lies hold the same file. -/
theorem content?_congr {t u : Tree} {p q : Place} (h : t.get? p = u.get? q) :
    t.content? p = u.content? q := by
  simp only [content?, h]

/-- There are no files in the tree that does not exist yet. -/
@[simp]
theorem content?_empty (p : Place) : empty.content? p = none := rfl

/-- A file that has been put at a place is read there. -/
@[simp]
theorem content?_set_self (t : Tree) (p : Place) (b : ByteArray) :
    (t.set p (.file b)).content? p = some b := by
  simp [content?]

/-- The files at the other places are as they were. -/
theorem content?_set_of_ne (t : Tree) {p q : Place} (n : TreeNode) (h : q ≠ p) :
    (t.set p n).content? q = t.content? q :=
  content?_congr (get?_set_of_ne t n h)

/-- No file lies where something has been taken away. -/
@[simp]
theorem content?_erase_self (t : Tree) (p : Place) : (t.erase p).content? p = none := by
  simp [content?]

/-- The other files are still there. -/
theorem content?_erase_of_ne (t : Tree) {p q : Place} (h : q ≠ p) :
    (t.erase p).content? q = t.content? q :=
  content?_congr (get?_erase_of_ne t h)

private theorem content?_makeDirectory {t u : Tree} {p : Place} {last : Bool}
    (h : t.makeDirectory p last = .ok u) (q : Place) : u.content? q = t.content? q := by
  unfold makeDirectory at h
  split at h
  · cases h
    rfl
  · cases h
  · next hp =>
    split at h
    · cases h
      by_cases hq : q = p
      · subst hq
        simp [content?, hp]
      · exact content?_set_of_ne t _ hq
    · cases h

private theorem content?_makeBelow {t u : Tree} {done p : Place}
    (h : t.makeBelow done p = .ok u) (q : Place) : u.content? q = t.content? q := by
  induction p generalizing t done with
  | nil =>
    cases h
    rfl
  | cons name rest ih =>
    simp only [makeBelow] at h
    cases hm : t.makeDirectory (done ++ [name]) rest.isEmpty with
    | error f =>
      rw [hm] at h
      cases h
    | ok t' =>
      rw [hm] at h
      rw [ih h, content?_makeDirectory hm]

/-- Directories are made beside the files. -/
theorem content?_makeDirectories {t u : Tree} {p : Place} (h : t.makeDirectories p = .ok u)
    (q : Place) : u.content? q = t.content? q := by
  simp only [makeDirectories] at h
  cases hm : t.makeDirectory [] p.isEmpty with
  | error f =>
    rw [hm] at h
    cases h
  | ok t' =>
    rw [hm] at h
    rw [content?_makeBelow h, content?_makeDirectory hm]

/-- A file that is written lies at its place, and the others are as they were. -/
theorem content?_writeFile {t u : Tree} {p : Place} {b : ByteArray}
    (h : t.writeFile p b = .ok u) (q : Place) :
    u.content? q = if q = p then some b else t.content? q := by
  unfold writeFile at h
  split at h
  · cases h
  · split at h
    · cases h
    · cases h
      by_cases hq : q = p
      · simp [hq]
      · simp [hq, content?_set_of_ne]

/-- A file that is moved lies at its target and no more at its source. -/
theorem content?_rename {t u : Tree} {source target : Place} {b : ByteArray}
    (hb : t.content? source = some b) (h : t.rename source target = .ok u) (q : Place) :
    u.content? q =
      if q = target then some b else if q = source then none else t.content? q := by
  simp only [rename, hb] at h
  split at h
  · cases h
  · cases h
    by_cases ht : q = target
    · simp [ht]
    · by_cases hs : q = source
      · subst hs
        simp [ht, content?_set_of_ne]
      · simp [ht, hs, content?_set_of_ne, content?_erase_of_ne]

/-- A file that is moved was there, and everything but its source and its target is as it was. -/
theorem get?_rename {t u : Tree} {source target : Place} (h : t.rename source target = .ok u) :
    ∃ b, t.content? source = some b ∧ ∀ q, u.get? q =
      if q = target then some (.file b) else if q = source then none else t.get? q := by
  unfold rename at h
  split at h
  · cases h
  · next b hb =>
    split at h
    · cases h
    · cases h
      refine ⟨b, hb, fun q => ?_⟩
      by_cases ht : q = target
      · rw [if_pos ht, ht, get?_set_self]
      · rw [if_neg ht, get?_set_of_ne _ _ ht]
        by_cases hs : q = source
        · rw [if_pos hs, hs, get?_erase_self]
        · rw [if_neg hs, get?_erase_of_ne t hs]

/-- The other files are as they were. -/
theorem content?_rename_of_ne {t u : Tree} {source target : Place}
    (h : t.rename source target = .ok u) {q : Place} (ht : q ≠ target) (hs : q ≠ source) :
    u.content? q = t.content? q := by
  cases hb : t.content? source with
  | none =>
    simp only [rename, hb] at h
    cases h
  | some b => rw [content?_rename hb h, if_neg ht, if_neg hs]

end Tree

/-- Joins a path to a directory; one from the root stands for itself. -/
def joinPath (dir path : String) : String :=
  if path.startsWith "/" then path
  else if dir = "" || dir.endsWith "/" then dir ++ path
  else dir ++ "/" ++ path

end ClusterSurvey
