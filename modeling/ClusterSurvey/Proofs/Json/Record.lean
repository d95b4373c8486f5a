import ClusterSurvey.Json.Reader
import ClusterSurvey.Plugin.Definition
import ClusterSurvey.Proofs.Json.Text

/-!
# Reading values out of their written form

A reader recovers a value from a JSON form if it finds the value in what the form denotes.  Readers of
lists, records and variants recover what their parts do; a field that is left out is recovered if its value
is the default.
-/

namespace ClusterSurvey.Json

variable {α β : Type}

/-- Whether a reader finds a value in a JSON form. -/
def Reader.Recovers (r : Reader α) (j : Json) (a : α) : Prop := ∃ d, Denotes j d ∧ r d = .ok a

namespace Reader

/-- Such a value is read from the written form. -/
theorem Recovers.ofText_render {r : Reader α} {j : Json} {a : α} (h : r.Recovers j a) :
    r.ofText j.render = .ok a := by
  obtain ⟨d, hd, hr⟩ := h
  rw [ofText, document_render hd]
  dsimp only
  rw [hr]
  rfl

/-- What is read of a text is read of its draft. -/
theorem exists_draft_of_ofText {r : Reader α} {s : String} {a : α} (h : r.ofText s = .ok a) :
    ∃ d, r d = .ok a := by
  refine ⟨(Document.ofText s).value, ?_⟩
  dsimp only [ofText, bind, Except.bind] at h
  split at h
  · cases h
  · next b hb =>
    split at h
    · cases h
    · cases h
      exact hb

theorem recovers_text (s : String) : text.Recovers (.string s) s := ⟨_, .string s, rfl⟩

theorem recovers_bool (b : Bool) : bool.Recovers (.bool b) b := ⟨_, .bool b, rfl⟩

/-- A number of at most sixty-four bits is recovered. -/
theorem recovers_natural {bits n : Nat} (few : bits ≤ 64) (small : n < 2 ^ bits) :
    (natural bits).Recovers (.ofNat n) n := by
  have hword : n < word := Nat.lt_of_lt_of_le small (Nat.pow_le_pow_right (by decide) few)
  refine ⟨_, .natural hword, ?_⟩
  rw [natural]
  exact if_pos small

/-- What is read as a number has the size that is asked for. -/
theorem lt_of_natural {bits n : Nat} {d : Draft} (h : natural bits d = .ok n) : n < 2 ^ bits := by
  unfold natural at h
  split at h
  · split at h
    · next small =>
      cases h
      exact small
    · cases h
  · cases h
  · exact absurd h (by cases d <;> nofun)

/-- A value that may be absent is recovered where it is present, unless its form says that it is not. -/
theorem recovers_option {r : Reader α} {j : Json} {a : α} (h : r.Recovers j a) (present : j ≠ .null) :
    (option r).Recovers j (some a) := by
  obtain ⟨d, hd, hr⟩ := h
  refine ⟨d, hd, ?_⟩
  rw [option.eq_def]
  split
  · cases hd
    exact absurd rfl present
  · rw [hr]
    rfl

/-- A list is recovered if each of its items is. -/
theorem recovers_list {r : Reader α} {f : α → Json} (as : List α)
    (each : ∀ a ∈ as, r.Recovers (f a) a) : (list r).Recovers (.array (as.map f)) as := by
  have items : ∃ items : List (Json × Draft), items.map (·.1) = as.map f ∧
      (∀ p ∈ items, Denotes p.1 p.2) ∧ (items.map (·.2)).mapM r = .ok as := by
    induction as with
    | nil => exact ⟨[], rfl, nofun, rfl⟩
    | cons a as ih =>
      obtain ⟨d, hd, hr⟩ := each a List.mem_cons_self
      obtain ⟨items, hforms, hdrafts, hread⟩ := ih fun b hb => each b (List.mem_cons_of_mem a hb)
      refine ⟨(f a, d) :: items, congrArg (f a :: ·) hforms, ?_, ?_⟩
      · exact List.forall_mem_cons.mpr ⟨hd, hdrafts⟩
      · rw [List.map_cons, List.mapM_cons, hr, hread]
        rfl
  obtain ⟨items, hforms, hdrafts, hread⟩ := items
  refine ⟨_, hforms ▸ Denotes.array hdrafts, ?_⟩
  rw [list, hread]
  rfl

/-- Texts are recovered. -/
theorem recovers_texts (ss : List String) : (list text).Recovers (.ofTexts ss) ss :=
  recovers_list ss fun s _ => recovers_text s

/-- A variant without content is recovered from its name. -/
theorem recovers_bare {known : List (Variant α)} {name : String} {v : Variant α} {a : α}
    (find : known.find? (·.name = name) = some v) (bare : v.bare = .ok a) :
    (variant known).Recovers (.string name) a := by
  refine ⟨_, .string name, ?_⟩
  rw [variant, Variant.find, find]
  exact bare

/-- A variant with content is recovered if its content is. -/
theorem recovers_variant {known : List (Variant α)} {name : String} {v : Variant α} {j : Json} {a : α}
    (find : known.find? (·.name = name) = some v) (h : Recovers v.content j a) :
    (variant known).Recovers (.object [(name, j)]) a := by
  obtain ⟨d, hd, hr⟩ := h
  have denotes : Denotes (.object [(name, j)]) (.object [(.name name, d)] none) :=
    @Denotes.object [(name, j, d)] (by simpa using hd)
  refine ⟨_, denotes, ?_⟩
  rw [variant, Variant.find, find]
  dsimp only [bind, Except.bind]
  rw [hr]
  rfl

end Reader

/-! ### Records -/

namespace RecordReader

/-- How members of an object, each with its form and what that denotes, make up a record: every member is a
field whose value is accepted, none is there twice, and the fields are built from the members alone. -/
structure Fills (r : RecordReader α) (ms : List (String × Json × Draft)) (a : α) : Prop where
  denotes : ∀ m ∈ ms, Denotes m.2.1 m.2.2
  accepted : ∀ m ∈ ms, ∃ f, r.fields.find? (·.name = m.1) = some f ∧ f.check m.2.2 = .ok ()
  distinct : (ms.map (·.1)).Nodup
  built : ∀ found : String → Option Draft,
    (∀ f ∈ r.fields, found f.name = (ms.map fun m => (m.1, m.2.2)).lookup f.name) → r.build found = .ok a

/-- Whether the fields of a record recover a value from the members of an object. -/
def Recovers (r : RecordReader α) (members : List (String × Json)) (a : α) : Prop :=
  ∃ ms, ms.map (fun m => (m.1, m.2.1)) = members ∧ r.Fills ms a

/-- The members of an object are kept if all of them are fields and none is there twice. -/
private theorem collect_eq {fields : List Field} (ms : List (String × Draft))
    (accepted : ∀ m ∈ ms, ∃ f, fields.find? (·.name = m.1) = some f ∧ f.check m.2 = .ok ())
    (found : List (String × Draft)) (distinct : ((found ++ ms).map (·.1)).Nodup) :
    collect fields found (ms.map fun m => (.name m.1, m.2)) = .ok (found ++ ms) := by
  induction ms generalizing found with
  | nil =>
    rw [List.append_nil]
    rfl
  | cons m ms ih =>
    obtain ⟨f, hfind, hcheck⟩ := accepted m List.mem_cons_self
    have first : found.lookup m.1 = none := by
      rw [List.lookup_eq_none_iff]
      intro p hp
      rw [List.map_append, List.nodup_append] at distinct
      exact bne_iff_ne.mpr fun h => distinct.2.2 p.1 (List.mem_map_of_mem hp) m.1
        List.mem_cons_self h.symm
    have rest := ih (fun n hn => accepted n (List.mem_cons_of_mem m hn)) (found ++ [m]) (by
      rwa [List.append_assoc, List.singleton_append])
    rw [List.append_assoc, List.singleton_append] at rest
    rw [List.map_cons, collect, hfind]
    dsimp only
    rw [first, hcheck]
    exact rest

/-- A record is recovered if its fields are. -/
theorem Recovers.read {r : RecordReader α} {members : List (String × Json)} {a : α}
    (h : r.Recovers members a) (title : String) :
    Reader.Recovers (read title r) (.object members) a := by
  obtain ⟨ms, hmembers, fills⟩ := h
  have collected : collect r.fields [] (ms.map fun m => (.name m.1, m.2.2)) =
      .ok (ms.map fun m => (m.1, m.2.2)) := by
    have h := @collect_eq r.fields (ms.map fun m => (m.1, m.2.2))
      (List.forall_mem_map.mpr fills.accepted) [] (by
        rw [List.nil_append, List.map_map]
        exact fills.distinct)
    rwa [List.map_map] at h
  refine ⟨_, hmembers ▸ Denotes.object fills.denotes, ?_⟩
  rw [RecordReader.read, collected]
  exact fills.built _ fun _ _ => rfl

/-- A record without fields is recovered from nothing. -/
theorem recovers_pure (a : α) : (Pure.pure a : RecordReader α).Recovers [] a :=
  ⟨[], rfl, nofun, nofun, List.nodup_nil, fun _ _ => rfl⟩

/-- The names of a record's fields. -/
def names (r : RecordReader α) : List String := r.fields.map (·.name)

section Fills

variable {r : RecordReader α} {f : RecordReader (α → β)} {x : RecordReader α}
variable {ms ns : List (String × Json × Draft)} {a : α} {g : α → β}

/-- Members are named after fields. -/
theorem Fills.mem_names (fills : r.Fills ms a) {m : String × Json × Draft} (hm : m ∈ ms) :
    m.1 ∈ r.names := by
  obtain ⟨f, hfind, -⟩ := fills.accepted m hm
  have hname : f.name = m.1 := by simpa using List.find?_some hfind
  exact hname ▸ List.mem_map_of_mem (List.mem_of_find?_eq_some hfind)

/-- Nothing is found under another name. -/
theorem Fills.lookup_eq_none (fills : r.Fills ms a) {name : String} (other : name ∉ r.names) :
    (ms.map fun m => (m.1, m.2.2)).lookup name = none := by
  rw [List.lookup_eq_none_iff]
  intro p hp
  obtain ⟨m, hm, rfl⟩ := List.mem_map.mp hp
  exact bne_iff_ne.mpr fun h => other (h ▸ fills.mem_names hm)

/-- The members of records with different fields make up both of them together. -/
theorem Fills.seq (left : f.Fills ms g) (right : x.Fills ns a)
    (disjoint : ∀ n ∈ f.names, n ∉ x.names) : (f <*> x).Fills (ms ++ ns) (g a) := by
  constructor
  case denotes => exact List.forall_mem_append.mpr ⟨left.denotes, right.denotes⟩
  case accepted =>
    refine List.forall_mem_append.mpr ⟨fun m hm => ?_, fun n hn => ?_⟩
    · obtain ⟨field, hfind, hcheck⟩ := left.accepted m hm
      refine ⟨field, ?_, hcheck⟩
      change (f.fields ++ x.fields).find? _ = _
      rw [List.find?_append, hfind]
      rfl
    · obtain ⟨field, hfind, hcheck⟩ := right.accepted n hn
      have none : f.fields.find? (·.name = n.1) = none := by
        rw [List.find?_eq_none]
        intro g hg heq
        exact disjoint n.1 (of_decide_eq_true heq ▸ List.mem_map_of_mem hg) (right.mem_names hn)
      refine ⟨field, ?_, hcheck⟩
      change (f.fields ++ x.fields).find? _ = _
      rw [List.find?_append, none, hfind]
      rfl
  case distinct =>
    rw [List.map_append, List.nodup_append]
    refine ⟨left.distinct, right.distinct, ?_⟩
    rintro n hn _ hn' rfl
    obtain ⟨m, hm, rfl⟩ := List.mem_map.mp hn
    obtain ⟨m', hm', heq⟩ := List.mem_map.mp hn'
    exact disjoint m.1 (left.mem_names hm) (heq ▸ right.mem_names hm')
  case built =>
    -- Each field is looked up among the members of its own part only.
    intro found hfound
    have hleft : f.build found = .ok g := by
      refine left.built found fun field hfield => ?_
      have own : field.name ∈ f.names := List.mem_map_of_mem hfield
      rw [hfound field (List.mem_append_left _ hfield), List.map_append, List.lookup_append,
        right.lookup_eq_none (disjoint _ own), Option.or_none]
    have hright : x.build found = .ok a := by
      refine right.built found fun field hfield => ?_
      have own : field.name ∈ x.names := List.mem_map_of_mem hfield
      rw [hfound field (List.mem_append_right _ hfield), List.map_append, List.lookup_append,
        left.lookup_eq_none fun h => disjoint _ h own, Option.none_or]
    change (do let g ← f.build found; let a ← x.build found; return g a) = _
    rw [hleft, hright]
    rfl

end Fills

/-- Records with different fields are recovered together. -/
theorem Recovers.seq {f : RecordReader (α → β)} {x : RecordReader α} {front back : List (String × Json)}
    {g : α → β} {a : α} (hf : f.Recovers front g) (hx : x.Recovers back a)
    (disjoint : ∀ n ∈ f.names, n ∉ x.names := by decide) :
    (f <*> x).Recovers (front ++ back) (g a) := by
  obtain ⟨ms, rfl, left⟩ := hf
  obtain ⟨ns, rfl, right⟩ := hx
  exact ⟨ms ++ ns, List.map_append, left.seq right disjoint⟩

/-- A record of one field is recovered from a member of its name. -/
private theorem recovers_single {r : RecordReader α} {f : Field} (fields : r.fields = [f]) {j : Json}
    {d : Draft} (denotes : Denotes j d) (accepted : f.check d = .ok ()) {a : α}
    (built : ∀ found : String → Option Draft, found f.name = some d → r.build found = .ok a) :
    r.Recovers [(f.name, j)] a := by
  refine ⟨[(f.name, j, d)], rfl, ?_, ?_, List.pairwise_singleton _ _, fun found hfound => built found ?_⟩
  · exact List.forall_mem_singleton.mpr denotes
  · refine List.forall_mem_singleton.mpr ⟨f, ?_, accepted⟩
    rw [fields]
    exact List.find?_cons_of_pos (decide_eq_true rfl)
  · rw [hfound f (fields ▸ List.mem_cons_self), List.map_singleton, List.lookup_cons_self]

/-- A field that has to be there is recovered from its member. -/
theorem recovers_required {r : Reader α} {j : Json} {a : α} (h : r.Recovers j a) (name : String) :
    (required name r).Recovers [(name, j)] a := by
  obtain ⟨d, hd, hr⟩ := h
  have accepted : (r d).map (fun _ => ()) = .ok () := congrArg (Except.map fun _ => ()) hr
  refine recovers_single (f := ⟨name, fun d => (r d).map fun _ => (), false⟩) rfl hd accepted
    fun found hname => ?_
  dsimp only [required] at hname ⊢
  rw [hname]
  exact hr

/-- So is a field that may be absent. -/
theorem recovers_optional {r : Reader α} {j : Json} {a : α} (h : r.Recovers j a) (name : String)
    (default : α) : (optional name r default).Recovers [(name, j)] a := by
  obtain ⟨d, hd, hr⟩ := h
  have accepted : (r d).map (fun _ => ()) = .ok () := congrArg (Except.map fun _ => ()) hr
  refine recovers_single (f := ⟨name, fun d => (r d).map fun _ => (), true⟩) rfl hd accepted
    fun found hname => ?_
  dsimp only [optional] at hname ⊢
  rw [hname]
  exact hr

/-- A field that is absent is recovered as its default. -/
theorem recovers_absent (name : String) (r : Reader α) (default : α) :
    (optional name r default).Recovers [] default := by
  refine ⟨[], rfl, nofun, nofun, List.nodup_nil, fun found hfound => ?_⟩
  have hname : found name = none := hfound _ List.mem_cons_self
  rw [optional]
  dsimp only
  rw [hname]

/-- A field that is left out unless there is something to say is recovered if it is the default then. -/
theorem recovers_memberIf {r : Reader α} {present : Bool} {j : Json} {a default : α}
    (shown : r.Recovers j a) (hidden : present = false → a = default) (name : String) :
    (optional name r default).Recovers (memberIf present name j) a := by
  cases present with
  | true => exact recovers_optional shown name default
  | false =>
    rw [hidden rfl]
    exact recovers_absent name r default

/-- A value that may be absent is recovered from a member that is there if it is. -/
theorem recovers_member? {r : Reader α} {f : α → Json} (value : Option α)
    (shown : ∀ a, value = some a → r.Recovers (f a) a ∧ f a ≠ .null) (name : String) :
    (optional name (.option r) none).Recovers (member? name value f) value := by
  cases value with
  | none => exact recovers_absent name _ none
  | some a =>
    obtain ⟨h, present⟩ := shown a rfl
    exact recovers_optional (Reader.recovers_option h present) name none

/-- A text that may be absent is recovered. -/
theorem recovers_text? (value : Option String) (name : String) :
    (optional name (.option .text) none).Recovers (member? name value .string) value :=
  recovers_member? value (fun a _ => ⟨Reader.recovers_text a, nofun⟩) name

/-- Values that are made of the fields of a record are recovered with it. -/
theorem Recovers.map {x : RecordReader α} {members : List (String × Json)} {a : α}
    (h : x.Recovers members a) (g : α → β) : (g <$> x).Recovers members (g a) :=
  (recovers_pure g).seq h nofun

/-- What is read of an object or of an array is built of what was found there. -/
theorem exists_build_of_read {title : String} {r : RecordReader α} {d : Draft} {a : α}
    (h : read title r d = .ok a) : ∃ found, r.build found = .ok a := by
  unfold read at h
  split at h
  · next members ending =>
    cases hc : collect r.fields [] members with
    | error e =>
      rw [hc] at h
      cases h
    | ok found =>
      rw [hc] at h
      cases ending with
      | none => exact ⟨_, h⟩
      | some b => cases h
  · next items ending =>
    cases hd : deal title r.fields.length r.fields 0 items ending with
    | error e =>
      rw [hd] at h
      cases h
    | ok found =>
      rw [hd] at h
      exact ⟨_, h⟩
  · exact absurd h (by cases d <;> nofun)

/-- What is built of two parts is built of each. -/
theorem exists_build_of_seq {f : RecordReader (α → β)} {x : RecordReader α}
    {found : String → Option Draft} {b : β} (h : (f <*> x).build found = .ok b) :
    ∃ g a, f.build found = .ok g ∧ x.build found = .ok a ∧ g a = b := by
  change (do let g ← f.build found; let a ← x.build found; return g a) = _ at h
  cases hf : f.build found with
  | error e =>
    rw [hf] at h
    cases h
  | ok g =>
    cases hx : x.build found with
    | error e =>
      rw [hf, hx] at h
      cases h
    | ok a =>
      rw [hf, hx] at h
      exact ⟨g, a, rfl, rfl, Except.ok.inj h⟩

/-- A number that may be absent has the size that is asked for, if its default has. -/
theorem lt_of_build_optional {name : String} {bits default n : Nat} {found : String → Option Draft}
    (h : (optional name (.natural bits) default).build found = .ok n) (small : default < 2 ^ bits) :
    n < 2 ^ bits := by
  dsimp only [optional] at h
  split at h
  · exact Reader.lt_of_natural h
  · cases h
    exact small

end RecordReader

end ClusterSurvey.Json
