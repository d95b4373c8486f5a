import ClusterSurvey.Proofs.Settings.Files
import ClusterSurvey.Proofs.Text.Blank
import ClusterSurvey.Proofs.Text.Natural
import ClusterSurvey.Settings.Loader

/-!
# What an environment says about settings

Each setting has a variable.  The last entry of its name counts, without the blanks around it; a blank one
counts as none.  A number has to be legible, and what one variable says has no bearing on the others.
-/

namespace ClusterSurvey

namespace Environment

variable {e : Environment} {name : String}

/-- Whether the last entry of a name has a value. -/
def Gives (e : Environment) (name value : String) : Prop :=
  ∃ before after, e = before ++ (name, value) :: after ∧ ∀ p ∈ after, p.1 ≠ name

/-- The text of a name is that of its last entry. -/
theorem get?_eq_some_iff {value : String} : e.get? name = some value ↔ e.Gives name value := by
  unfold get? Gives
  rw [Option.map_eq_some_iff]
  constructor
  · rintro ⟨⟨key, text⟩, hfind, rfl⟩
    obtain ⟨hkey, later, earlier, heq, hlater⟩ := List.find?_eq_some_iff_append.mp hfind
    obtain rfl : key = name := by simpa using hkey
    refine ⟨earlier.reverse, later.reverse, ?_, fun p hp => ?_⟩
    · rw [← List.reverse_reverse e, heq, List.reverse_append, List.reverse_cons, List.append_assoc]
      rfl
    · simpa using hlater p (List.mem_reverse.mp hp)
  · rintro ⟨before, after, rfl, hafter⟩
    refine ⟨(name, value), List.find?_eq_some_iff_append.mpr
      ⟨by simp, after.reverse, before.reverse, by simp, fun p hp => ?_⟩, rfl⟩
    simpa using hafter p (List.mem_reverse.mp hp)

/-- Whether one of the variables that matter says something: it is not blank, and that is its text without
the blanks around it. -/
def Tells (e : Environment) (name t : String) : Prop :=
  ∃ value, e.Gives (variablePrefix ++ name) value ∧ Text.allBlank value = false ∧ t = Text.trim value

/-- The text of a variable that matters is what it says. -/
theorem setting?_eq_some_iff {t : String} : e.setting? name = some t ↔ e.Tells name t := by
  unfold setting? Tells
  rw [Option.filter_eq_some_iff, Option.map_eq_some_iff]
  constructor
  · rintro ⟨⟨value, hvalue, rfl⟩, hne⟩
    refine ⟨value, get?_eq_some_iff.mp hvalue, ?_, rfl⟩
    rw [← Bool.not_eq_true, ← Text.trim_eq_empty_iff]
    simpa using hne
  · rintro ⟨value, hvalue, hblank, rfl⟩
    refine ⟨⟨value, get?_eq_some_iff.mpr hvalue, rfl⟩, ?_⟩
    rw [← Bool.not_eq_true, ← Text.trim_eq_empty_iff] at hblank
    simpa using hblank

/-- A variable says one thing at most. -/
theorem Tells.unique {t t' : String} (h : e.Tells name t) (h' : e.Tells name t') : t = t' :=
  Option.some.inj ((setting?_eq_some_iff.mpr h).symm.trans (setting?_eq_some_iff.mpr h'))

end Environment

namespace Setting

variable {f : Setting} {e : Environment} {t : String} {d : Datum} {x : Option Datum}

/-- The name of the variable of a setting, behind what the names of all of them begin with. -/
def variableName : Setting → String
  | bindAddress => "BIND_ADDRESS"
  | bindPort => "BIND_PORT"
  | advertiseAddress => "ADVERTISE_ADDRESS"
  | timeout => "TIMEOUT_SECONDS"
  | gracePeriod => "GRACE_PERIOD_SECONDS"
  | cluster => "NAMESPACE"
  | workerImage => "WORKER_IMAGE"
  | monitorInterval => "MONITOR_INTERVAL_SECONDS"

/-- Whether what a variable says is a value of a setting. -/
inductive Spells (f : Setting) : String → Datum → Prop where
  | text (kind : f.bits? = none) (t : String) : Spells f t (.text t)
  | number {bits : Nat} (kind : f.bits? = some bits) {t : String} {n : Nat}
      (numeral : Text.IsNumeral t n) (fits : n < 2 ^ bits) : Spells f t (.number n)

/-- A text spells one value of a setting. -/
theorem Spells.unique {c : Datum} (h : f.Spells t d) (h' : f.Spells t c) : d = c := by
  cases h with
  | text kind t =>
    cases h' with
    | text => rfl
    | number kind' => cases kind.symm.trans kind'
  | number kind numeral fits =>
    cases h' with
    | text kind' => cases kind.symm.trans kind'
    | number kind' numeral' fits' =>
      cases kind.symm.trans kind'
      have hread := Text.readNatural_eq_ok_iff.mpr ⟨numeral, fits⟩
      have hread' := Text.readNatural_eq_ok_iff.mpr ⟨numeral', fits'⟩
      cases hread.symm.trans hread'
      rfl

/-- Whether the variable of a setting says a value of it. -/
def SaidIn (f : Setting) (e : Environment) (d : Datum) : Prop :=
  ∃ t, e.Tells f.variableName t ∧ f.Spells t d

/-- How the variable of a setting is read. -/
def readIn (f : Setting) (e : Environment) : Except LoadError (Option Datum) :=
  match f.bits? with
  | none => .ok ((e.setting? f.variableName).map .text)
  | some bits => (e.naturalSetting f.variableName bits).map (Option.map .number)

/-- A variable that says nothing is read as none. -/
theorem readIn_of_silent (h : e.setting? f.variableName = none) : f.readIn e = .ok none := by
  unfold readIn
  split
  · rw [h]
    rfl
  · unfold Environment.naturalSetting
    rw [h]
    rfl

/-- One that says something is read as the value that it spells, if it spells one. -/
theorem readIn_of_tells (h : e.setting? f.variableName = some t) :
    f.readIn e = .ok x ↔ ∃ d, f.Spells t d ∧ x = some d := by
  unfold readIn
  split
  · next kind =>
    rw [h]
    constructor
    · intro hx
      cases hx
      exact ⟨_, .text kind t, rfl⟩
    · rintro ⟨d, spells, rfl⟩
      cases spells with
      | text => rfl
      | number kind' => cases kind.symm.trans kind'
  · next bits kind =>
    unfold Environment.naturalSetting
    rw [h]
    dsimp only
    cases hread : Text.readNatural bits t with
    | ok n =>
      obtain ⟨numeral, fits⟩ := Text.readNatural_eq_ok_iff.mp hread
      constructor
      · intro hx
        cases hx
        exact ⟨_, .number kind numeral fits, rfl⟩
      · rintro ⟨d, spells, rfl⟩
        cases spells with
        | text kind' => cases kind.symm.trans kind'
        | number kind' numeral fits =>
          cases kind.symm.trans kind'
          cases hread.symm.trans (Text.readNatural_eq_ok_iff.mpr ⟨numeral, fits⟩)
          rfl
    | error fault =>
      refine ⟨nofun, ?_⟩
      rintro ⟨d, spells, rfl⟩
      cases spells with
      | text kind' => cases kind.symm.trans kind'
      | number kind' numeral fits =>
        cases kind.symm.trans kind'
        cases hread.symm.trans (Text.readNatural_eq_ok_iff.mpr ⟨numeral, fits⟩)

/-- A variable can be read if it says nothing or a value of its setting, and that is what is read. -/
theorem readIn_eq_ok_iff :
    f.readIn e = .ok x ↔
      (∀ t, e.Tells f.variableName t → ∃ d, f.Spells t d) ∧ ∀ d, x = some d ↔ f.SaidIn e d := by
  cases hsetting : e.setting? f.variableName with
  | none =>
    have silent (t : String) : ¬ e.Tells f.variableName t := fun h => by
      rw [Environment.setting?_eq_some_iff.mpr h] at hsetting
      cases hsetting
    have unsaid (d : Datum) : ¬ f.SaidIn e d := fun ⟨t, told, _⟩ => silent t told
    rw [readIn_of_silent hsetting]
    constructor
    · intro hx
      cases hx
      exact ⟨fun t told => absurd told (silent t), fun d => ⟨nofun, fun said => absurd said (unsaid d)⟩⟩
    · rintro ⟨-, hx⟩
      cases x with
      | none => rfl
      | some d => exact absurd ((hx d).mp rfl) (unsaid d)
  | some t =>
    have told := Environment.setting?_eq_some_iff.mp hsetting
    have said_iff (d : Datum) : f.SaidIn e d ↔ f.Spells t d :=
      ⟨fun ⟨_, told', spells⟩ => told'.unique told ▸ spells, fun spells => ⟨t, told, spells⟩⟩
    rw [readIn_of_tells hsetting]
    constructor
    · rintro ⟨d, spells, rfl⟩
      refine ⟨fun t' told' => ⟨d, told'.unique told ▸ spells⟩, fun c => ?_⟩
      rw [said_iff, Option.some.injEq]
      exact ⟨fun heq => heq ▸ spells, spells.unique⟩
    · rintro ⟨legible, hx⟩
      obtain ⟨d, spells⟩ := legible t told
      exact ⟨d, spells, (hx d).mpr ((said_iff d).mpr spells)⟩

end Setting

namespace Overrides

variable {e : Environment} {o : Overrides}

/-- An environment is read by reading the variable of each setting. -/
theorem ofEnvironment_eq_ok_iff_readIn :
    ofEnvironment e = .ok o ↔ ∀ f : Setting, f.readIn e = .ok (o.get? f) := by
  have text {a b : Option String}
      (h : (Except.ok (a.map Datum.text) : Except LoadError _) = .ok (b.map .text)) : a = b :=
    Option.map_injective (fun _ _ heq => Datum.text.inj heq) (Except.ok.inj h)
  have number {a : Except LoadError (Option Nat)} {b : Option Nat}
      (h : a.map (Option.map Datum.number) = .ok (b.map .number)) : a = .ok b := by
    obtain ⟨c, hc, heq⟩ := map_eq_ok_iff.mp h
    rw [hc, Option.map_injective (fun _ _ heq => Datum.number.inj heq) heq]
  unfold ofEnvironment
  simp only [bind_eq_ok_iff]
  constructor
  · rintro ⟨bindPort, hbindPort, timeout, htimeout, gracePeriod, hgracePeriod, monitorInterval,
      hmonitorInterval, heq⟩ f
    cases heq
    cases f with
    | bindPort => exact congrArg (Except.map (Option.map Datum.number)) hbindPort
    | timeout => exact congrArg (Except.map (Option.map Datum.number)) htimeout
    | gracePeriod => exact congrArg (Except.map (Option.map Datum.number)) hgracePeriod
    | monitorInterval => exact congrArg (Except.map (Option.map Datum.number)) hmonitorInterval
    | _ => rfl
  · intro h
    refine ⟨_, number (h .bindPort), _, number (h .timeout), _, number (h .gracePeriod), _,
      number (h .monitorInterval), ?_⟩
    rw [show e.setting? "BIND_ADDRESS" = o.bindAddress from text (h .bindAddress),
      show e.setting? "ADVERTISE_ADDRESS" = o.advertiseAddress from text (h .advertiseAddress),
      show e.setting? "NAMESPACE" = o.cluster from text (h .cluster),
      show e.setting? "WORKER_IMAGE" = o.workerImage from text (h .workerImage)]
    rfl

end Overrides

/-- Whether every number that a variable says can be read. -/
def Environment.Legible (e : Environment) : Prop :=
  ∀ (f : Setting) (bits : Nat), f.bits? = some bits → ∀ t, e.Tells f.variableName t →
    ∃ n, Text.IsNumeral t n ∧ n < 2 ^ bits

/-- Every variable that says something spells a value of its setting then, since a text is one. -/
theorem Environment.legible_iff {e : Environment} :
    e.Legible ↔ ∀ (f : Setting) (t : String), e.Tells f.variableName t → ∃ d, f.Spells t d := by
  constructor
  · intro h f t told
    cases kind : f.bits? with
    | none => exact ⟨_, .text kind t⟩
    | some bits =>
      obtain ⟨n, numeral, fits⟩ := h f bits kind t told
      exact ⟨_, .number kind numeral fits⟩
  · intro h f bits kind t told
    obtain ⟨d, spells⟩ := h f t told
    cases spells with
    | text kind' => cases kind.symm.trans kind'
    | number kind' numeral fits =>
      cases kind.symm.trans kind'
      exact ⟨_, numeral, fits⟩

namespace Overrides

variable {e : Environment} {o : Overrides}

/-- What an environment names is read from it if its numbers can be read: what its variables say. -/
theorem ofEnvironment_eq_ok_iff :
    ofEnvironment e = .ok o ↔
      e.Legible ∧ ∀ (f : Setting) (d : Datum), o.get? f = some d ↔ f.SaidIn e d := by
  simp only [Environment.legible_iff, ofEnvironment_eq_ok_iff_readIn, Setting.readIn_eq_ok_iff,
    forall_and]

/-- What goes wrong with the variable of a number. -/
private theorem naturalSetting_eq_error {name : String} {bits : Nat} {err : LoadError}
    (h : e.naturalSetting name bits = .error err) :
    ∃ t fault, e.Tells name t ∧ Text.readNatural bits t = .error fault ∧
      err = .badVariable (variablePrefix ++ name) t fault := by
  unfold Environment.naturalSetting at h
  split at h
  · cases h
  · next t ht =>
    split at h
    · cases h
    · next fault hread =>
      cases h
      exact ⟨t, fault, Environment.setting?_eq_some_iff.mp ht, hread, rfl⟩

/-- An environment that cannot be read has the number of a setting that cannot. -/
theorem ofEnvironment_eq_error {err : LoadError} (h : ofEnvironment e = .error err) :
    ∃ (f : Setting) (bits : Nat) (t : String) (fault : Text.NaturalFault), f.bits? = some bits ∧
      e.Tells f.variableName t ∧ Text.readNatural bits t = .error fault ∧
      err = .badVariable (variablePrefix ++ f.variableName) t fault := by
  have of_number {f : Setting} {bits : Nat} (kind : f.bits? = some bits)
      (h : e.naturalSetting f.variableName bits = .error err) :
      ∃ (f : Setting) (bits : Nat) (t : String) (fault : Text.NaturalFault), f.bits? = some bits ∧
        e.Tells f.variableName t ∧ Text.readNatural bits t = .error fault ∧
        err = .badVariable (variablePrefix ++ f.variableName) t fault := by
    obtain ⟨t, fault, told, hread, heq⟩ := naturalSetting_eq_error h
    exact ⟨f, bits, t, fault, kind, told, hread, heq⟩
  unfold ofEnvironment at h
  simp only [bind_eq_error_iff] at h
  rcases h with h | ⟨_, -, h | ⟨_, -, h | ⟨_, -, h | ⟨_, -, h⟩⟩⟩⟩
  · exact @of_number .bindPort 16 rfl h
  · exact @of_number .timeout 64 rfl h
  · exact @of_number .gracePeriod 64 rfl h
  · exact @of_number .monitorInterval 64 rfl h
  · cases h

/-- An environment whose numbers can be read can be read. -/
theorem exists_ofEnvironment (legible : e.Legible) : ∃ o, ofEnvironment e = .ok o := by
  cases h : ofEnvironment e with
  | ok o => exact ⟨o, rfl⟩
  | error err =>
    obtain ⟨f, bits, t, fault, kind, told, hread, -⟩ := ofEnvironment_eq_error h
    obtain ⟨n, hn⟩ := legible f bits kind t told
    cases hread.symm.trans (Text.readNatural_eq_ok_iff.mpr hn)

end Overrides

end ClusterSurvey
