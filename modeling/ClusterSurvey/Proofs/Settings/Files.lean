import ClusterSurvey.Proofs.Toml.Members
import ClusterSurvey.Settings.Overrides

/-!
# What a file says about settings

A run has eight settings, each a text or a number of limited size.  A file may name any of them, each
once and by its own name, with a value of the right kind, and may name nothing else.  What it says of one
of them has no bearing on the others.
-/

namespace ClusterSurvey

/-- One of the settings of a run. -/
inductive Setting where
  | bindAddress
  | bindPort
  | advertiseAddress
  | timeout
  | gracePeriod
  | cluster
  | workerImage
  | monitorInterval
  deriving DecidableEq

/-- The value of a setting. -/
inductive Datum where
  | text (s : String)
  | number (n : Nat)
  deriving DecidableEq

namespace Setting

/-- The name under which a file has the setting. -/
def member : Setting → String
  | bindAddress => "bind_address"
  | bindPort => "bind_port"
  | advertiseAddress => "advertise_address"
  | timeout => "timeout_seconds"
  | gracePeriod => "grace_period_seconds"
  | cluster => "namespace"
  | workerImage => "worker_image"
  | monitorInterval => "monitor_interval_seconds"

/-- How many bits the number has that the setting is, if it is no text. -/
def bits? : Setting → Option Nat
  | bindAddress => none
  | bindPort => some 16
  | advertiseAddress => none
  | timeout => some 64
  | gracePeriod => some 64
  | cluster => none
  | workerImage => none
  | monitorInterval => some 64

/-- Different settings have different names. -/
theorem member_injective {f g : Setting} (h : f.member = g.member) : f = g := by
  cases f <;> cases g <;> first | rfl | exact absurd h (by decide)

/-- Numbers have sixty-four bits at most. -/
theorem bits_le {f : Setting} {bits : Nat} (h : f.bits? = some bits) : bits ≤ 64 := by
  cases f <;> cases h <;> decide

end Setting

/-- The value of a setting among the settings of a run. -/
def Settings.get (s : Settings) : Setting → Datum
  | .bindAddress => .text s.bindAddress
  | .bindPort => .number s.bindPort
  | .advertiseAddress => .text s.advertiseAddress
  | .timeout => .number s.timeout
  | .gracePeriod => .number s.gracePeriod
  | .cluster => .text s.cluster
  | .workerImage => .text s.workerImage
  | .monitorInterval => .number s.monitorInterval

/-- Settings are told by their values. -/
theorem Settings.eq_of_get {s s' : Settings} (h : ∀ f, s.get f = s'.get f) : s = s' := by
  have hbindAddress := h .bindAddress
  have hbindPort := h .bindPort
  have hadvertiseAddress := h .advertiseAddress
  have htimeout := h .timeout
  have hgracePeriod := h .gracePeriod
  have hcluster := h .cluster
  have hworkerImage := h .workerImage
  have hmonitorInterval := h .monitorInterval
  cases s
  cases s'
  simp only [Settings.get, Datum.text.injEq, Datum.number.injEq] at *
  simp only [*]

namespace Overrides

/-- The value that is named for a setting, if one is. -/
def get? (o : Overrides) : Setting → Option Datum
  | .bindAddress => o.bindAddress.map .text
  | .bindPort => o.bindPort.map .number
  | .advertiseAddress => o.advertiseAddress.map .text
  | .timeout => o.timeout.map .number
  | .gracePeriod => o.gracePeriod.map .number
  | .cluster => o.cluster.map .text
  | .workerImage => o.workerImage.map .text
  | .monitorInterval => o.monitorInterval.map .number

/-- Names a value for a setting.  One of the wrong kind changes nothing. -/
def put (o : Overrides) : Setting → Datum → Overrides
  | .bindAddress, .text s => { o with bindAddress := some s }
  | .bindPort, .number n => { o with bindPort := some n }
  | .advertiseAddress, .text s => { o with advertiseAddress := some s }
  | .timeout, .number n => { o with timeout := some n }
  | .gracePeriod, .number n => { o with gracePeriod := some n }
  | .cluster, .text s => { o with cluster := some s }
  | .workerImage, .text s => { o with workerImage := some s }
  | .monitorInterval, .number n => { o with monitorInterval := some n }
  | _, _ => o

/-- Nothing is named at first. -/
theorem get?_empty (f : Setting) : empty.get? f = none := by
  cases f <;> rfl

/-- The settings that are named have the values named for them, and the others keep theirs. -/
theorem get_onto (o : Overrides) (base : Settings) (f : Setting) :
    (o.onto base).get f = (o.get? f).getD (base.get f) := by
  have text (named : Option String) (s : String) :
      Datum.text (named.getD s) = (named.map Datum.text).getD (.text s) := by
    cases named <;> rfl
  have number (named : Option Nat) (n : Nat) :
      Datum.number (named.getD n) = (named.map Datum.number).getD (.number n) := by
    cases named <;> rfl
  cases f with
  | bindAddress => exact text _ _
  | bindPort => exact number _ _
  | advertiseAddress => exact text _ _
  | timeout => exact number _ _
  | gracePeriod => exact number _ _
  | cluster => exact text _ _
  | workerImage => exact text _ _
  | monitorInterval => exact number _ _

/-- What is named is told by the values named. -/
theorem eq_of_get? {o o' : Overrides} (h : ∀ f, o.get? f = o'.get? f) : o = o' := by
  have text {a b : Option String} (hab : a.map Datum.text = b.map Datum.text) : a = b :=
    Option.map_injective (fun _ _ heq => Datum.text.inj heq) hab
  have number {a b : Option Nat} (hab : a.map Datum.number = b.map Datum.number) : a = b :=
    Option.map_injective (fun _ _ heq => Datum.number.inj heq) hab
  have hbindAddress := text (h .bindAddress)
  have hbindPort := number (h .bindPort)
  have hadvertiseAddress := text (h .advertiseAddress)
  have htimeout := number (h .timeout)
  have hgracePeriod := number (h .gracePeriod)
  have hcluster := text (h .cluster)
  have hworkerImage := text (h .workerImage)
  have hmonitorInterval := number (h .monitorInterval)
  cases o
  cases o'
  simp only at *
  simp only [*]

end Overrides

/-! ### One member -/

/-- Whether a value in a file is a value of a setting. -/
inductive Setting.Holds (f : Setting) : Toml.Value → Datum → Prop where
  | text (kind : f.bits? = none) (s : String) : Holds f (.scalar (.text s)) (.text s)
  | number {bits : Nat} (kind : f.bits? = some bits) (n : Nat) (fits : n < 2 ^ bits) :
    Holds f (.scalar (.integer n)) (.number n)

namespace Setting

variable {f : Setting} {v : Toml.Value} {d d' : Datum}

/-- A value in a file is one value of a setting. -/
theorem Holds.unique (h : f.Holds v d) (h' : f.Holds v d') : d = d' := by
  cases h with
  | text kind s =>
    cases h'
    rfl
  | number kind n fits =>
    cases h'
    rfl

/-- A setting that is named has the value named for it, and the others keep theirs. -/
theorem Holds.get?_put (h : f.Holds v d) (o : Overrides) (g : Setting) :
    (o.put f d).get? g = if f = g then some d else o.get? g := by
  cases h with
  | text kind s => cases f <;> cases kind <;> cases g <;> rfl
  | number kind n fits => cases f <;> cases kind <;> cases g <;> rfl

/-- How the value of a setting is read in a file. -/
def reader (f : Setting) : Toml.Reader Datum := fun v =>
  match f.bits? with
  | none => (Toml.Reader.text v).map .text
  | some bits => (Toml.Reader.natural bits v).map .number

/-- A value of a setting is read from what is one. -/
theorem reader_eq_ok_iff : f.reader v = .ok d ↔ f.Holds v d := by
  unfold reader
  split
  · next kind =>
    rw [map_eq_ok_iff]
    constructor
    · rintro ⟨s, hs, rfl⟩
      rw [Toml.Reader.text_eq_ok_iff.mp hs]
      exact .text kind s
    · intro h
      cases h with
      | text _ s => exact ⟨s, Toml.Reader.text_eq_ok_iff.mpr rfl, rfl⟩
      | number kind' => cases kind.symm.trans kind'
  · next bits kind =>
    rw [map_eq_ok_iff]
    constructor
    · rintro ⟨n, hn, rfl⟩
      obtain ⟨rfl, fits⟩ := (Toml.Reader.natural_eq_ok_iff (bits_le kind)).mp hn
      exact .number kind n fits
    · intro h
      cases h with
      | text kind' => cases kind.symm.trans kind'
      | number kind' n fits =>
        cases kind.symm.trans kind'
        exact ⟨n, (Toml.Reader.natural_eq_ok_iff (bits_le kind)).mpr ⟨rfl, fits⟩, rfl⟩

/-- Every setting is read by its own reader, and its value is named for it. -/
theorem lookup_fileFields (f : Setting) :
    ∃ set, Overrides.fileFields.lookup f.member = some set ∧
      ∀ v o, set v o = (f.reader v).map (o.put f) := by
  have text (x : Except Toml.ReadError String) (g : Datum → Overrides) :
      (x.map fun s => g (.text s)) = (x.map .text).map g := by
    cases x <;> rfl
  have number (x : Except Toml.ReadError Nat) (g : Datum → Overrides) :
      (x.map fun n => g (.number n)) = (x.map .number).map g := by
    cases x <;> rfl
  cases f with
  | bindAddress => exact ⟨_, rfl, fun v o => text _ (o.put .bindAddress)⟩
  | bindPort => exact ⟨_, rfl, fun v o => number _ (o.put .bindPort)⟩
  | advertiseAddress => exact ⟨_, rfl, fun v o => text _ (o.put .advertiseAddress)⟩
  | timeout => exact ⟨_, rfl, fun v o => number _ (o.put .timeout)⟩
  | gracePeriod => exact ⟨_, rfl, fun v o => number _ (o.put .gracePeriod)⟩
  | cluster => exact ⟨_, rfl, fun v o => text _ (o.put .cluster)⟩
  | workerImage => exact ⟨_, rfl, fun v o => text _ (o.put .workerImage)⟩
  | monitorInterval => exact ⟨_, rfl, fun v o => number _ (o.put .monitorInterval)⟩

/-- A name that is read is the name of a setting. -/
theorem exists_of_lookup {name : String} {set : Toml.Value → Overrides → Except Toml.ReadError Overrides}
    (h : Overrides.fileFields.lookup name = some set) : ∃ f : Setting, name = f.member := by
  obtain ⟨before, after, hfields, -⟩ := List.lookup_eq_some_iff.mp h
  have hmem : name ∈ Overrides.fileFields.map Prod.fst := by
    rw [hfields, List.map_append, List.map_cons]
    exact List.mem_append_right _ List.mem_cons_self
  have hnames : Overrides.fileFields.map Prod.fst = [bindAddress.member, bindPort.member,
      advertiseAddress.member, timeout.member, gracePeriod.member, cluster.member,
      workerImage.member, monitorInterval.member] := rfl
  rw [hnames] at hmem
  simp only [List.mem_cons, List.not_mem_nil, or_false] at hmem
  rcases hmem with h | h | h | h | h | h | h | h <;> exact ⟨_, h⟩

/-- Whether a table has a value for a setting. -/
def NamedIn (f : Setting) (ms : Toml.Members) (d : Datum) : Prop :=
  ∃ v, (f.member, v) ∈ ms ∧ f.Holds v d

/-- Its name is then among those of the table. -/
theorem NamedIn.mem_names {ms : Toml.Members} (h : f.NamedIn ms d) : f.member ∈ ms.names := by
  obtain ⟨v, hv, -⟩ := h
  exact List.mem_map_of_mem hv

/-- A table has a value for a setting if its first member is one or the others have one. -/
theorem namedIn_cons {m : String × Toml.Value} {rest : Toml.Members} :
    f.NamedIn (m :: rest) d ↔ (m.1 = f.member ∧ f.Holds m.2 d) ∨ f.NamedIn rest d := by
  constructor
  · rintro ⟨v, hv, holds⟩
    rcases List.mem_cons.mp hv with rfl | hrest
    · exact .inl ⟨rfl, holds⟩
    · exact .inr ⟨v, hrest, holds⟩
  · rintro (⟨hname, holds⟩ | ⟨v, hv, holds⟩)
    · exact ⟨m.2, by rw [← hname]; exact List.mem_cons_self, holds⟩
    · exact ⟨v, List.mem_cons_of_mem m hv, holds⟩

end Setting

/-- In an empty table nothing is named. -/
theorem Overrides.get?_empty_eq_some_iff {f : Setting} {d : Datum} :
    Overrides.empty.get? f = some d ↔ f.NamedIn [] d := by
  rw [get?_empty]
  refine ⟨nofun, ?_⟩
  rintro ⟨v, hv, -⟩
  cases hv

/-! ### All members -/

/-- Whether every member of a table is a setting with a value of its own. -/
def OnlySettings (ms : Toml.Members) : Prop :=
  ∀ m ∈ ms, ∃ (f : Setting) (d : Datum), m.1 = f.member ∧ f.Holds m.2 d

namespace Overrides

variable {ms : Toml.Members} {o o' : Overrides} {m : String × Toml.Value}

/-- Takes in one member of a table. -/
def take (o : Overrides) (m : String × Toml.Value) : Except Toml.ReadError Overrides :=
  match fileFields.lookup m.1 with
  | some set => set m.2 o
  | none => .error (.data (.unknownField m.1 (fileFields.map Prod.fst)))

/-- A table is read by taking in its members in the order of their names. -/
theorem read_fileFields (ms : Toml.Members) (o : Overrides) :
    ms.read fileFields o = ms.sorted.foldlM take o := by
  unfold Toml.Members.read
  congr 1
  funext o m
  unfold take
  cases fileFields.lookup m.1 <;> rfl

/-- A member is taken in if it is a setting with a value of its own, and then the value is named. -/
theorem take_eq_ok_iff :
    o.take m = .ok o' ↔
      ∃ (f : Setting) (d : Datum), m.1 = f.member ∧ f.Holds m.2 d ∧ o' = o.put f d := by
  constructor
  · intro h
    unfold take at h
    split at h
    · next set hset =>
      obtain ⟨f, hf⟩ := Setting.exists_of_lookup hset
      obtain ⟨set', hset', hread⟩ := f.lookup_fileFields
      rw [hf, hset'] at hset
      obtain rfl := Option.some.inj hset
      rw [hread] at h
      obtain ⟨d, hd, rfl⟩ := map_eq_ok_iff.mp h
      exact ⟨f, d, hf, Setting.reader_eq_ok_iff.mp hd, rfl⟩
    · cases h
  · rintro ⟨f, d, hf, holds, rfl⟩
    obtain ⟨set, hset, hread⟩ := f.lookup_fileFields
    unfold take
    rw [hf, hset]
    dsimp only
    rw [hread]
    exact map_eq_ok_iff.mpr ⟨d, Setting.reader_eq_ok_iff.mpr holds, rfl⟩

/-- Members are taken in one after the other if each is a setting with a value of its own. -/
theorem exists_foldlM_take (h : OnlySettings ms) (o : Overrides) :
    ∃ o', ms.foldlM take o = .ok o' := by
  induction ms generalizing o with
  | nil => exact ⟨o, rfl⟩
  | cons m rest ih =>
    obtain ⟨f, d, hf, holds⟩ := h m List.mem_cons_self
    obtain ⟨o', ho'⟩ := ih (fun m hm => h m (List.mem_cons_of_mem _ hm)) (o.put f d)
    refine ⟨o', ?_⟩
    rw [List.foldlM_cons]
    exact bind_eq_ok_iff.mpr ⟨_, take_eq_ok_iff.mpr ⟨f, d, hf, holds, rfl⟩, ho'⟩

/-- Behind members of distinct names each setting among them has its value, and the others have what
they had. -/
theorem get?_foldlM_take (distinct : ms.names.Nodup) (h : ms.foldlM take o = .ok o') :
    OnlySettings ms ∧ ∀ f d, o'.get? f = some d ↔
      f.NamedIn ms d ∨ f.member ∉ ms.names ∧ o.get? f = some d := by
  induction ms generalizing o with
  | nil =>
    cases h
    exact ⟨nofun, fun f d => by simp [Setting.NamedIn, Toml.Members.names]⟩
  | cons m rest ih =>
    rw [List.foldlM_cons] at h
    obtain ⟨o₁, htake, hrest⟩ := bind_eq_ok_iff.mp h
    obtain ⟨g, c, hg, holds, rfl⟩ := take_eq_ok_iff.mp htake
    obtain ⟨hnew, distinct⟩ := List.nodup_cons.mp distinct
    obtain ⟨only, values⟩ := ih distinct hrest
    refine ⟨List.forall_mem_cons.mpr ⟨⟨g, c, hg, holds⟩, only⟩, fun f d => ?_⟩
    have hnames : Toml.Members.names (m :: rest) = m.1 :: Toml.Members.names rest := rfl
    rw [values, holds.get?_put, Setting.namedIn_cons, hnames, List.mem_cons, hg]
    by_cases hfg : g = f
    · subst hfg
      have hother : g.member ∉ Toml.Members.names rest := hg ▸ hnew
      have hunnamed : ¬ g.NamedIn rest d := fun hnamed => hother hnamed.mem_names
      rw [if_pos rfl]
      constructor
      · rintro (hnamed | ⟨-, hd⟩)
        · exact absurd hnamed hunnamed
        · cases hd
          exact .inl (.inl ⟨rfl, holds⟩)
      · rintro ((⟨-, hd⟩ | hnamed) | ⟨hno, -⟩)
        · exact .inr ⟨hother, by rw [holds.unique hd]⟩
        · exact absurd hnamed hunnamed
        · exact absurd (.inl rfl) hno
    · have hne : g.member ≠ f.member := fun heq => hfg (Setting.member_injective heq)
      simp only [if_neg hfg, hne, hne.symm, false_and, false_or]

/-- What is named in the table of a text that can be read are the values of its members. -/
private theorem get?_of_ofFile {text : String} (htext : Toml.Members.ofText? text = some ms)
    (h : ofFile text = .ok o) :
    OnlySettings ms ∧ ∀ f d, o.get? f = some d ↔ Setting.NamedIn f ms d := by
  unfold ofFile at h
  rw [htext] at h
  have hread : ms.sorted.foldlM take empty = .ok o := by
    rw [← read_fileFields]
    exact h
  have distinct : ms.sorted.names.Nodup :=
    (ms.sorted_perm.map _).nodup_iff.mpr (Toml.Members.nodup_ofText? htext)
  obtain ⟨only, values⟩ := get?_foldlM_take distinct hread
  refine ⟨fun m hm => only m (ms.sorted_perm.mem_iff.mpr hm), fun f d => ?_⟩
  rw [values, get?_empty]
  simp only [Setting.NamedIn, ms.sorted_perm.mem_iff, reduceCtorEq, and_false, or_false]

/-- A text can be read if it spells out a table that has settings alone. -/
theorem exists_ofFile {text : String} (htext : Toml.Members.ofText? text = some ms)
    (only : OnlySettings ms) :
    ∃ o, ofFile text = .ok o ∧ ∀ f d, o.get? f = some d ↔ Setting.NamedIn f ms d := by
  have hread : ∃ o, ofFile text = .ok o := by
    unfold ofFile
    rw [htext]
    dsimp only
    rw [read_fileFields]
    exact exists_foldlM_take (fun m hm => only m (ms.sorted_perm.mem_iff.mp hm)) empty
  obtain ⟨o, ho⟩ := hread
  exact ⟨o, ho, (get?_of_ofFile htext ho).2⟩

/-- What a text names is read from the table that it spells out, if that has settings alone: the values
of its members. -/
theorem ofFile_eq_ok_iff {text : String} :
    ofFile text = .ok o ↔
      ∃ ms, Toml.Members.ofText? text = some ms ∧ OnlySettings ms ∧
        ∀ f d, o.get? f = some d ↔ Setting.NamedIn f ms d := by
  constructor
  · intro h
    cases htext : Toml.Members.ofText? text with
    | some ms => exact ⟨ms, rfl, get?_of_ofFile htext h⟩
    | none =>
      unfold ofFile at h
      rw [htext] at h
      cases h
  · rintro ⟨ms, htext, only, values⟩
    obtain ⟨o', ho', values'⟩ := exists_ofFile htext only
    have hsame : o' = o :=
      eq_of_get? fun f => Option.ext fun d => (values' f d).trans (values f d).symm
    rwa [← hsame]

end Overrides

end ClusterSurvey
