import ClusterSurvey.Proofs.Settings.Variables

/-!
# How settings come together

Settings are loaded if the file that counts can be read, the numbers of the environment can be read, and a
run can start with what comes of both.  Each setting is then what its variable says, else what the file
says, else its default, whatever becomes of the others.
-/

namespace ClusterSurvey

/-- Where the value of a setting comes from. -/
inductive Setting.Comes (f : Setting) (e : Environment) (ms : Toml.Members) : Datum → Prop where
  /-- Its variable says it. -/
  | said {d : Datum} (said : f.SaidIn e d) : Comes f e ms d
  /-- Its variable says nothing, and the file names it. -/
  | named {d : Datum} (silent : ∀ t, ¬ e.Tells f.variableName t) (named : f.NamedIn ms d) :
    Comes f e ms d
  /-- Neither says anything. -/
  | default (silent : ∀ t, ¬ e.Tells f.variableName t) (unnamed : f.member ∉ ms.names) :
    Comes f e ms (Settings.default.get f)

/-- Whether each of several settings comes from its place, whatever becomes of the others. -/
def Settings.ComeFrom (s : Settings) (e : Environment) (ms : Toml.Members) : Prop :=
  ∀ f : Setting, f.Comes e ms (s.get f)

/-- Whether a table stands in the file at a path, and is one of settings alone. -/
def WorkingTree.Holds (w : WorkingTree) (path : String) (ms : Toml.Members) : Prop :=
  ∃ text, w.readText path = .ok text ∧ Toml.Members.ofText? text = some ms ∧ OnlySettings ms

namespace Loader

variable {l : Loader} {w : WorkingTree} {e e' : Environment} {ms : Toml.Members}

/-! ### The file that counts -/

/-- Whether somebody names a path: the caller, or else a variable. -/
def Names (l : Loader) (e : Environment) (path : String) : Prop :=
  l.settingsPath = some path ∨ l.settingsPath = none ∧ e.Tells "CONFIG" path

/-- Which file counts, if one does. -/
inductive Chooses (l : Loader) (w : WorkingTree) (e : Environment) : Option String → Prop where
  /-- The one that somebody names, which is there. -/
  | named {path : String} (named : l.Names e path) (there : w.leads path = true) :
    Chooses l w e (some path)
  /-- If nobody names one, the first usual one that is there. -/
  | usual {path : String} {before after : List String} (unnamed : ∀ path, ¬ l.Names e path)
      (first : usualPaths = before ++ path :: after) (absent : ∀ p ∈ before, w.leads p = false)
      (there : w.leads path = true) : Chooses l w e (some path)
  /-- None if none of these is there. -/
  | nothing (unnamed : ∀ path, ¬ l.Names e path) (absent : ∀ p ∈ usualPaths, w.leads p = false) :
    Chooses l w e none

/-- Which path is named is what the caller says, or else the variable. -/
theorem names_iff {path : String} :
    l.Names e path ↔ l.settingsPath.or (e.setting? "CONFIG") = some path := by
  unfold Names
  rw [← Environment.setting?_eq_some_iff]
  cases l.settingsPath <;> simp

/-- The path of the file that counts is chosen, unless the one that is named is not there. -/
theorem choosePath_eq_ok_iff {path? : Option String} :
    l.choosePath w e = .ok path? ↔ l.Chooses w e path? := by
  unfold choosePath
  constructor
  · intro h
    split at h
    · next path hpath =>
      split at h
      · next there =>
        cases h
        exact .named (names_iff.mpr hpath) there
      · cases h
    · next hnone =>
      have unnamed (path : String) : ¬ l.Names e path := by
        rw [names_iff, hnone]
        exact nofun
      cases h
      cases hfind : usualPaths.find? w.leads with
      | some path =>
        obtain ⟨there, before, after, first, absent⟩ := List.find?_eq_some_iff_append.mp hfind
        exact .usual unnamed first (fun p hp => by simpa using absent p hp) there
      | none => exact .nothing unnamed fun p hp => by simpa using List.find?_eq_none.mp hfind p hp
  · intro h
    have unnamed_eq (unnamed : ∀ path, ¬ l.Names e path) :
        l.settingsPath.or (e.setting? "CONFIG") = none := by
      rw [Option.eq_none_iff_forall_ne_some]
      exact fun path hpath => unnamed path (names_iff.mpr hpath)
    cases h with
    | @named path named there =>
      rw [names_iff.mp named]
      exact if_pos there
    | @usual path before after unnamed first absent there =>
      rw [unnamed_eq unnamed]
      refine congrArg Except.ok (List.find?_eq_some_iff_append.mpr ⟨there, before, after, first, ?_⟩)
      exact fun p hp => by simpa using absent p hp
    | nothing unnamed absent =>
      rw [unnamed_eq unnamed]
      refine congrArg Except.ok (List.find?_eq_none.mpr fun p hp => ?_)
      simpa using absent p hp

/-- It cannot be chosen exactly if the one that is named is not there. -/
theorem choosePath_eq_error_iff {err : LoadError} :
    l.choosePath w e = .error err ↔
      ∃ path, l.Names e path ∧ w.leads path = false ∧ err = .missing path := by
  unfold choosePath
  constructor
  · intro h
    split at h
    · next path hpath =>
      split at h
      · cases h
      · next absent =>
        cases h
        exact ⟨path, names_iff.mpr hpath, by simpa using absent, rfl⟩
    · cases h
  · rintro ⟨path, named, absent, rfl⟩
    rw [names_iff.mp named]
    exact if_neg (by simp [absent])

/-- Which table the file that counts holds.  Without a file it has no members. -/
def Finds (l : Loader) (w : WorkingTree) (e : Environment) (ms : Toml.Members) : Prop :=
  (l.Chooses w e none ∧ ms = []) ∨ ∃ path, l.Chooses w e (some path) ∧ w.Holds path ms

/-- It is one of settings alone. -/
theorem Finds.onlySettings (h : l.Finds w e ms) : OnlySettings ms := by
  rcases h with ⟨-, rfl⟩ | ⟨path, -, text, -, -, only⟩
  · exact nofun
  · exact only

/-- What the file names is read from the table that it holds. -/
theorem fileOverrides_eq_ok_iff {o : Overrides} :
    l.fileOverrides w e = .ok o ↔
      ∃ ms, l.Finds w e ms ∧ ∀ (f : Setting) (d : Datum), o.get? f = some d ↔ f.NamedIn ms d := by
  unfold fileOverrides
  rw [bind_eq_ok_iff]
  constructor
  · rintro ⟨path?, hchoose, h⟩
    have chooses := choosePath_eq_ok_iff.mp hchoose
    cases path? with
    | none =>
      cases h
      exact ⟨[], .inl ⟨chooses, rfl⟩, fun f d => Overrides.get?_empty_eq_some_iff⟩
    | some path =>
      dsimp only at h
      split at h
      · cases h
      · next text htext =>
        split at h
        · cases h
        · next hfile =>
          cases h
          obtain ⟨ms, htable, only, values⟩ := Overrides.ofFile_eq_ok_iff.mp hfile
          exact ⟨ms, .inr ⟨path, chooses, text, htext, htable, only⟩, values⟩
  · rintro ⟨ms, ⟨chooses, rfl⟩ | ⟨path, chooses, text, htext, htable, only⟩, values⟩
    · refine ⟨none, choosePath_eq_ok_iff.mpr chooses, congrArg Except.ok ?_⟩
      refine Overrides.eq_of_get? fun f => Option.ext fun d => ?_
      rw [values, Overrides.get?_empty_eq_some_iff]
    · refine ⟨some path, choosePath_eq_ok_iff.mpr chooses, ?_⟩
      dsimp only
      rw [htext]
      dsimp only
      rw [Overrides.ofFile_eq_ok_iff.mpr ⟨ms, htable, only, values⟩]
      rfl

/-- A table that is found can be read. -/
theorem Finds.exists_fileOverrides (h : l.Finds w e ms) :
    ∃ o, l.fileOverrides w e = .ok o ∧
      ∀ (f : Setting) (d : Datum), o.get? f = some d ↔ f.NamedIn ms d := by
  have hvalues : ∃ o : Overrides, ∀ (f : Setting) (d : Datum), o.get? f = some d ↔ f.NamedIn ms d := by
    rcases h with ⟨-, rfl⟩ | ⟨path, -, text, -, htable, only⟩
    · exact ⟨.empty, fun f d => Overrides.get?_empty_eq_some_iff⟩
    · obtain ⟨o, -, values⟩ := Overrides.exists_ofFile htable only
      exact ⟨o, values⟩
  obtain ⟨o, values⟩ := hvalues
  exact ⟨o, fileOverrides_eq_ok_iff.mpr ⟨ms, h, values⟩, values⟩

/-! ### All three places -/

/-- What comes together from an environment and a file that can be read. -/
private theorem comes_iff {file named : Overrides} (only : OnlySettings ms) (legible : e.Legible)
    (said : ∀ (f : Setting) (d : Datum), named.get? f = some d ↔ f.SaidIn e d)
    (inFile : ∀ (f : Setting) (d : Datum), file.get? f = some d ↔ f.NamedIn ms d) (f : Setting)
    (d : Datum) : f.Comes e ms d ↔ d = (named.onto (file.onto .default)).get f := by
  rw [Overrides.get_onto, Overrides.get_onto]
  cases hnamed : named.get? f with
  | some c =>
    have hc := (said f c).mp hnamed
    constructor
    · intro h
      cases h with
      | said hd => exact Option.some.inj (((said f d).mpr hd).symm.trans hnamed)
      | named silent =>
        obtain ⟨t, told, -⟩ := hc
        exact absurd told (silent t)
      | default silent =>
        obtain ⟨t, told, -⟩ := hc
        exact absurd told (silent t)
    · rintro rfl
      exact .said hc
  | none =>
    have unsaid (c : Datum) : ¬ f.SaidIn e c := fun hc => by
      rw [(said f c).mpr hc] at hnamed
      cases hnamed
    have silent (t : String) : ¬ e.Tells f.variableName t := fun told => by
      obtain ⟨c, spells⟩ := Environment.legible_iff.mp legible f t told
      exact unsaid c ⟨t, told, spells⟩
    cases hfile : file.get? f with
    | some c =>
      have hc := (inFile f c).mp hfile
      constructor
      · intro h
        cases h with
        | said hd => exact absurd hd (unsaid d)
        | named _ hd => exact Option.some.inj (((inFile f d).mpr hd).symm.trans hfile)
        | default _ unnamed => exact absurd hc.mem_names unnamed
      · rintro rfl
        exact .named silent hc
    | none =>
      have unnamed : f.member ∉ ms.names := fun hmem => by
        obtain ⟨m, hm, hname⟩ := List.mem_map.mp hmem
        obtain ⟨g, c, hg, holds⟩ := only m hm
        obtain rfl : g = f := Setting.member_injective (hg.symm.trans hname)
        rw [(inFile g c).mpr ⟨m.2, by rw [← hg]; exact hm, holds⟩] at hfile
        cases hfile
      constructor
      · intro h
        cases h with
        | said hd => exact absurd hd (unsaid d)
        | named _ hd => exact absurd hd.mem_names unnamed
        | default => rfl
      · rintro rfl
        exact .default silent unnamed

/-- Settings are loaded from what the file and the environment name, if a run can start with them. -/
private theorem loadWith_eq_ok_iff {s : Settings} :
    l.loadWith w e = .ok s ↔
      ∃ file, l.fileOverrides w e = .ok file ∧ ∃ named, Overrides.ofEnvironment e = .ok named ∧
        s = named.onto (file.onto .default) ∧ s.check = .ok () := by
  unfold loadWith
  simp only [bind_eq_ok_iff]
  refine exists_congr fun file => and_congr_right fun _ => exists_congr fun named =>
    and_congr_right fun _ => ?_
  constructor
  · intro h
    split at h
    · next checked =>
      cases h
      exact ⟨rfl, checked⟩
    · cases h
  · rintro ⟨rfl, checked⟩
    rw [checked]
    rfl

/-- A file is missing if one is named that is not there, and for no other reason. -/
private theorem fileOverrides_eq_missing_iff {path : String} :
    l.fileOverrides w e = .error (.missing path) ↔ l.Names e path ∧ w.leads path = false := by
  have hchoose : l.choosePath w e = .error (.missing path) ↔ l.Names e path ∧ w.leads path = false := by
    rw [choosePath_eq_error_iff]
    constructor
    · rintro ⟨path', named, absent, heq⟩
      cases heq
      exact ⟨named, absent⟩
    · rintro ⟨named, absent⟩
      exact ⟨path, named, absent, rfl⟩
  unfold fileOverrides
  rw [bind_eq_error_iff, hchoose, or_iff_left]
  rintro ⟨path?, -, h⟩
  cases path? with
  | none => cases h
  | some path' =>
    dsimp only at h
    split at h
    · cases h
    · split at h <;> cases h

/-- So it is with the settings. -/
private theorem loadWith_eq_missing_iff {path : String} :
    l.loadWith w e = .error (.missing path) ↔ l.Names e path ∧ w.leads path = false := by
  unfold loadWith
  rw [bind_eq_error_iff, fileOverrides_eq_missing_iff, or_iff_left]
  rintro ⟨file, -, h⟩
  rcases bind_eq_error_iff.mp h with h | ⟨named, -, h⟩
  · obtain ⟨f, bits, t, fault, -, -, -, heq⟩ := Overrides.ofEnvironment_eq_error h
    cases heq
  · dsimp only at h
    split at h <;> cases h

/-- Only the variables that matter have a bearing on the settings. -/
private theorem loadWith_congr
    (h : ∀ rest, e'.get? (variablePrefix ++ rest) = e.get? (variablePrefix ++ rest)) :
    l.loadWith w e' = l.loadWith w e := by
  simp only [loadWith, fileOverrides, choosePath, Overrides.ofEnvironment, Environment.naturalSetting,
    Environment.setting?, h]

/-- The values of settings that come from these places have no more bits than they may have. -/
private theorem lt_of_comes {f : Setting} {bits n : Nat} (kind : f.bits? = some bits)
    (h : f.Comes e ms (.number n)) : n < 2 ^ bits := by
  generalize hd : Datum.number n = d at h
  cases h with
  | said said =>
    obtain ⟨t, -, spells⟩ := said
    cases spells with
    | text => cases hd
    | number kind' numeral fits =>
      cases hd
      cases kind.symm.trans kind'
      exact fits
  | named _ named =>
    obtain ⟨v, -, holds⟩ := named
    cases holds with
    | text => cases hd
    | number kind' m fits =>
      cases hd
      cases kind.symm.trans kind'
      exact fits
  | default =>
    cases f <;> cases kind <;> cases hd <;> decide

/-- How a loader loads settings from a tree under an environment. -/
structure Loads (l : Loader) (w : WorkingTree) (e : Environment) : Prop where
  /-- A file is missing if one is named that is not there, and for no other reason. -/
  missing : ∀ path,
    l.loadWith w e = .error (.missing path) ↔ l.Names e path ∧ w.leads path = false
  /-- Where the file and the numbers of the environment can be read, one collection of settings comes of
  them. -/
  merged : ∀ ms, l.Finds w e ms → e.Legible → ∃! s : Settings, s.ComeFrom e ms
  /-- These are loaded if a run can start with them, and nothing else is. -/
  loaded : ∀ s, l.loadWith w e = .ok s ↔
    ∃ ms, l.Finds w e ms ∧ e.Legible ∧ s.ComeFrom e ms ∧ s.check = .ok ()
  /-- Nothing matters in the environment but the last entries of the variables that matter. -/
  unrelated : ∀ e' : Environment,
    (∀ rest value, e'.Gives (variablePrefix ++ rest) value ↔ e.Gives (variablePrefix ++ rest) value) →
      l.loadWith w e' = l.loadWith w e
  /-- The settings that are loaded name a socket to listen on and a time between two looks. -/
  usable : ∀ s, l.loadWith w e = .ok s →
    s.bindPort ≠ 0 ∧ s.monitorInterval ≠ 0 ∧ ∃ socket, s.bindSocket = .ok socket
  /-- Their two timeouts are as far apart as they ask for, and the first one does not come at once. -/
  timeouts : ∀ s, l.loadWith w e = .ok s →
    0 < s.softTimeout ∧ s.softTimeout + s.gracePeriod = s.hardTimeout
  /-- Their numbers have no more bits than they may have. -/
  bounded : ∀ s, l.loadWith w e = .ok s → ∀ (f : Setting) (bits n : Nat), f.bits? = some bits →
    s.get f = .number n → n < 2 ^ bits

/-- Settings are loaded in this way from every tree, under every environment. -/
theorem loads (l : Loader) (w : WorkingTree) (e : Environment) : Loads l w e := by
  have loaded (s : Settings) : l.loadWith w e = .ok s ↔
      ∃ ms, l.Finds w e ms ∧ e.Legible ∧ s.ComeFrom e ms ∧ s.check = .ok () := by
    rw [loadWith_eq_ok_iff]
    constructor
    · rintro ⟨file, hfile, named, hnamed, rfl, checked⟩
      obtain ⟨ms, finds, inFile⟩ := fileOverrides_eq_ok_iff.mp hfile
      obtain ⟨legible, said⟩ := Overrides.ofEnvironment_eq_ok_iff.mp hnamed
      exact ⟨ms, finds, legible,
        fun f => (comes_iff finds.onlySettings legible said inFile f _).mpr rfl, checked⟩
    · rintro ⟨ms, finds, legible, comes, checked⟩
      obtain ⟨file, hfile, inFile⟩ := finds.exists_fileOverrides
      obtain ⟨named, hnamed⟩ := Overrides.exists_ofEnvironment legible
      have said := (Overrides.ofEnvironment_eq_ok_iff.mp hnamed).2
      refine ⟨file, hfile, named, hnamed, Settings.eq_of_get fun f => ?_, checked⟩
      exact (comes_iff finds.onlySettings legible said inFile f _).mp (comes f)
  have checked {s : Settings} (h : l.loadWith w e = .ok s) : s.check = .ok () := by
    obtain ⟨-, -, -, -, checked⟩ := (loaded s).mp h
    exact checked
  refine ⟨fun path => loadWith_eq_missing_iff, fun ms finds legible => ?_, loaded, fun e' h => ?_,
    fun s h => ?_, fun s h => ?_, fun s h f bits n kind hn => ?_⟩
  · obtain ⟨file, -, inFile⟩ := finds.exists_fileOverrides
    obtain ⟨named, hnamed⟩ := Overrides.exists_ofEnvironment legible
    have said := (Overrides.ofEnvironment_eq_ok_iff.mp hnamed).2
    have comes := comes_iff finds.onlySettings legible said inFile
    exact ⟨named.onto (file.onto .default), fun f => (comes f _).mpr rfl,
      fun s hs => Settings.eq_of_get fun f => (comes f _).mp (hs f)⟩
  · refine loadWith_congr fun rest => Option.ext fun value => ?_
    rw [Environment.get?_eq_some_iff, Environment.get?_eq_some_iff]
    exact h rest value
  · obtain ⟨-, hport, -, -, hinterval, -, hsocket⟩ := Settings.check_eq_ok_iff.mp (checked h)
    exact ⟨hport, hinterval, hsocket⟩
  · have hlt := Settings.gracePeriod_lt_timeout (checked h)
    exact ⟨Nat.sub_pos_of_lt hlt, Nat.sub_add_cancel (Nat.le_of_lt hlt)⟩
  · obtain ⟨ms, -, -, comes, -⟩ := (loaded s).mp h
    exact lt_of_comes kind (hn ▸ comes f)

/-- A working directory with the first of the usual files, which names one setting. -/
def usualFile : WorkingTree :=
  ⟨⟨[([], .directory), (["sonde.toml"],
    .file (Text.octets "advertise_address = \"survey.example\" # for the workers\n"))]⟩, "/"⟩

/-- Variables of two settings, of which that of the same one is blank. -/
def portAndBlank : Environment := [("SONDE_BIND_PORT", " 9443 "), ("SONDE_ADVERTISE_ADDRESS", "  ")]

/-- Then one setting comes from its variable, one from the file, and the others from their defaults. -/
theorem loads_usualFile :
    ∃ s ms, (Loader.mk none none).loadWith usualFile portAndBlank = .ok s ∧
      (Loader.mk none none).Finds usualFile portAndBlank ms ∧ s.ComeFrom portAndBlank ms ∧
      s = { Settings.default with bindPort := 9443, advertiseAddress := "survey.example" } ∧
      s.softTimeout + s.gracePeriod = s.hardTimeout := by
  have hloaded : (Loader.mk none none).loadWith usualFile portAndBlank =
      .ok { Settings.default with bindPort := 9443, advertiseAddress := "survey.example" } := by
    decide +kernel
  have loading := loads (Loader.mk none none) usualFile portAndBlank
  obtain ⟨ms, finds, -, comes, -⟩ := (loading.loaded _).mp hloaded
  exact ⟨_, ms, hloaded, finds, comes, rfl, (loading.timeouts _ hloaded).2⟩

-- The last entry of a variable counts without its blanks, a blank one as none, and one of another name
-- not at all.
example :
    ((Loader.mk none none).loadWith ⟨.empty, "/"⟩
      [("SONDE_ADVERTISE_ADDRESS", "first"), ("SONDE_BIND_PORT", "  "), ("BIND_PORT", "9"),
        ("SONDE_ADVERTISE_ADDRESS", " host ")]).toOption =
      some { Settings.default with advertiseAddress := "host" } := by
  decide +kernel

end Loader

end ClusterSurvey
