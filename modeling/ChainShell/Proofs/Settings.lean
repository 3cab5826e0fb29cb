import ChainShell.Settings
import Mathlib.Data.List.Nodup

namespace ChainShell

/-- A positive number is a number and neither zero nor negative. -/
theorem Binary64.isPositive_iff {number : Binary64} : number.isPositive = true ↔
    number = .infinite false ∨ ∃ significand exponent, 0 < significand ∧
      number = .finite false significand exponent := by
  cases number with
  | nan => simp [isPositive]
  | infinite negative => cases negative <;> simp [isPositive]
  | finite negative significand exponent => cases negative <;> simp [isPositive]

namespace Settings

/-- The variable of a field, in any letter case. -/
def Field.Names (field : Field) (name : Text) : Prop :=
  name.map Text.lowerAscii = field.variable

/-- No two names are equal up to their letter case. -/
def Distinct {α : Type} (entries : List (Text × α)) : Prop :=
  (entries.map fun entry => entry.1.map Text.lowerAscii).Nodup

instance {α : Type} (entries : List (Text × α)) : Decidable (Distinct entries) :=
  inferInstanceAs (Decidable (List.Nodup _))

/-- The raw value of a field is that of the environment, else that of the file. A name without a value gives
none. -/
inductive Effective (environment : List (Text × Text)) (file : EnvFile.Variables) (field : Field) :
    Option Text → Prop
  | environment {name value} : (name, value) ∈ environment → field.Names name →
      Effective environment file field (some value)
  | file {name value} : (∀ entry ∈ environment, ¬ field.Names entry.1) → (name, value) ∈ file →
      field.Names name → Effective environment file field value
  | absent : (∀ entry ∈ environment, ¬ field.Names entry.1) → (∀ entry ∈ file, ¬ field.Names entry.1) →
      Effective environment file field none

/-- What is wrong with a raw value. Every text is a prompt, and the name of a level to ask for. -/
inductive Invalid : Field → Text → ValueError → Prop
  | lineEditor {raw error} : readSwitch raw = .error error → Invalid .lineEditor raw error
  | commandTimeout {raw error} : readTimeout raw = .error error → Invalid .commandTimeout raw error
  | reportErrors {raw error} : readSwitch raw = .error error → Invalid .reportErrors raw error
  | logProfile {raw error} : readProfile raw = .error error → Invalid .logProfile raw error

/-- A value is the default without a raw value, and else what is read from that. -/
inductive Gives {α : Type} (fallback : α) (read : Text → Except ValueError α) : Option Text → α → Prop
  | fallback : Gives fallback read none fallback
  | read {raw value} : read raw = .ok value → Gives fallback read (some raw) value

/-- Settings whose every field is given by its own raw value. -/
structure Follows (settings : Settings) (raw : Field → Option Text) : Prop where
  prompt : Gives "> ".toList .ok (raw .prompt) settings.prompt
  lineEditor : Gives false readSwitch (raw .lineEditor) settings.lineEditor
  commandTimeout : Gives none (fun raw => (readTimeout raw).map some) (raw .commandTimeout)
    settings.commandTimeout
  reportErrors : Gives false readSwitch (raw .reportErrors) settings.reportErrors
  logLevel : Gives "WARNING".toList .ok (raw .logLevel) settings.logLevel
  logProfile : Gives .default readProfile (raw .logProfile) settings.logProfile

def Field.declared : List Field :=
  [.prompt, .lineEditor, .commandTimeout, .reportErrors, .logLevel, .logProfile]

section Lookup

variable {α : Type} {entries : List (Text × α)} {field : Field} {name : Text} {value : α}

theorem lookup_eq_none_iff : lookup entries field.variable = none ↔ ∀ entry ∈ entries, ¬ field.Names entry.1 := by
  simp [lookup, Field.Names]

theorem exists_mem_of_lookup (found : lookup entries field.variable = some value) :
    ∃ name, (name, value) ∈ entries ∧ field.Names name := by
  rw [lookup, Option.map_eq_some_iff] at found
  obtain ⟨⟨name, _⟩, found, rfl⟩ := found
  have named : name.map Text.lowerAscii = field.variable := by simpa using List.find?_some found
  exact ⟨name, List.mem_reverse.1 (List.mem_of_find?_eq_some found), named⟩

theorem Distinct.unique {other : Text} {value' : α} (distinct : Distinct entries) (inside : (name, value) ∈ entries)
    (inside' : (other, value') ∈ entries) (named : field.Names name) (named' : field.Names other) :
    value = value' := by
  have same := List.inj_on_of_nodup_map distinct inside inside' (named.trans named'.symm)
  exact congrArg Prod.snd same

theorem lookup_of_mem (distinct : Distinct entries) (inside : (name, value) ∈ entries)
    (named : field.Names name) : lookup entries field.variable = some value := by
  cases found : lookup entries field.variable with
  | none => exact absurd named (lookup_eq_none_iff.1 found _ inside)
  | some other =>
    obtain ⟨name', inside', named'⟩ := exists_mem_of_lookup found
    rw [distinct.unique inside inside' named named']

end Lookup

section Values

variable {environment : List (Text × Text)} {file : EnvFile.Variables} {field : Field} {raw : Option Text}

/-- Each field has one raw value. -/
theorem rawValue_eq_iff (distinct : Distinct environment) (distinct' : Distinct file) :
    rawValue environment file field = raw ↔ Effective environment file field raw := by
  constructor
  · rintro rfl
    rw [rawValue]
    split
    · rename_i found
      obtain ⟨name, inside, named⟩ := exists_mem_of_lookup found
      exact .environment inside named
    · rename_i unset
      rw [lookup_eq_none_iff] at unset
      cases found : lookup file field.variable with
      | none => exact .absent unset (lookup_eq_none_iff.1 found)
      | some value =>
        obtain ⟨name, inside, named⟩ := exists_mem_of_lookup found
        exact .file unset inside named
  · intro effective
    rw [rawValue]
    cases effective with
    | environment inside named => rw [lookup_of_mem distinct inside named]
    | file unset inside named =>
      rw [lookup_eq_none_iff.2 unset, lookup_of_mem distinct' inside named]
      rfl
    | absent unset unset' =>
      rw [lookup_eq_none_iff.2 unset, lookup_eq_none_iff.2 unset']
      rfl

end Values

section Reading

variable {α : Type} {fallback value : α} {read : Text → Except ValueError α} {raw : Option Text} {field : Field}
  {error : ValueError}

theorem readField_eq_ok_iff : readField fallback read raw = .ok value ↔ Gives fallback read raw value := by
  cases raw with
  | none =>
    constructor
    · rintro ⟨⟩
      exact .fallback
    · rintro ⟨⟩
      rfl
  | some raw =>
    constructor
    · exact .read
    · rintro (_ | taken)
      exact taken

theorem readField_eq_error_iff : readField fallback read raw = .error error ↔
    ∃ value, raw = some value ∧ read value = .error error := by
  cases raw with
  | none => simp [readField]
  | some raw => simp [readField]

theorem gives_text_iff {fallback text : Text} : Gives fallback .ok raw text ↔ raw.getD fallback = text := by
  rw [← readField_eq_ok_iff]
  cases raw <;> simp [readField]

theorem failure_eq_nil_iff {result : Except ValueError α} :
    failure field result = [] ↔ ∃ value, result = .ok value := by
  cases result <;> simp [failure]

theorem mem_failure_iff {result : Except ValueError α} {other : Field} :
    (other, error) ∈ failure field result ↔ other = field ∧ result = .error error := by
  cases result <;> simp [failure, eq_comm]

theorem map_failure_sublist (result : Except ValueError α) :
    ((failure field result).map Prod.fst).Sublist [field] := by
  cases result with
  | error _ => exact List.Sublist.refl _
  | ok _ => exact List.nil_sublist _

end Reading

/-- What is wrong with raw values, in the order of the fields. -/
def faults (raw : Field → Option Text) : List (Field × ValueError) :=
  failure .lineEditor (readField false readSwitch (raw .lineEditor)) ++
    failure .commandTimeout (readField none (fun raw => (readTimeout raw).map some) (raw .commandTimeout)) ++
    failure .reportErrors (readField false readSwitch (raw .reportErrors)) ++
    failure .logProfile (readField .default readProfile (raw .logProfile))

theorem readLimit_eq_error_iff {value : Text} {error : ValueError} :
    (readTimeout value).map some = .error error ↔ readTimeout value = .error error := by
  cases readTimeout value <;> simp [Except.map]

/-- A fault is that the raw value of its own field is wrong. -/
theorem mem_faults_iff {raw : Field → Option Text} {field : Field} {error : ValueError} :
    (field, error) ∈ faults raw ↔ ∃ value, raw field = some value ∧ Invalid field value error := by
  simp only [faults, List.mem_append, or_assoc, mem_failure_iff, readField_eq_error_iff, readLimit_eq_error_iff]
  constructor
  · rintro (⟨rfl, value, set, refused⟩ | ⟨rfl, value, set, refused⟩ | ⟨rfl, value, set, refused⟩ |
      ⟨rfl, value, set, refused⟩)
    · exact ⟨value, set, .lineEditor refused⟩
    · exact ⟨value, set, .commandTimeout refused⟩
    · exact ⟨value, set, .reportErrors refused⟩
    · exact ⟨value, set, .logProfile refused⟩
  · rintro ⟨value, set, invalid⟩
    cases invalid with
    | lineEditor refused => exact .inl ⟨rfl, value, set, refused⟩
    | commandTimeout refused => exact .inr (.inl ⟨rfl, value, set, refused⟩)
    | reportErrors refused => exact .inr (.inr (.inl ⟨rfl, value, set, refused⟩))
    | logProfile refused => exact .inr (.inr (.inr ⟨rfl, value, set, refused⟩))

/-- Faults come in the order of the fields, one for a field at most. -/
theorem faults_sublist (raw : Field → Option Text) : ((faults raw).map Prod.fst).Sublist Field.declared := by
  simp only [faults, List.map_append, List.append_assoc]
  refine .cons .prompt ((map_failure_sublist _).append ((map_failure_sublist _).append
    ((map_failure_sublist _).append ?_)))
  exact .cons .logLevel (map_failure_sublist _)

variable {environment : List (Text × Text)} {file : EnvFile.Variables}

theorem isPositive_of_gives {raw : Option Text} {limit : Binary64}
    (given : Gives none (fun raw => (readTimeout raw).map some) raw (some limit)) : limit.isPositive = true := by
  cases given with
  | @read value _ taken =>
    rw [readTimeout] at taken
    split at taken
    · cases taken
    · split at taken
      · rename_i positive
        cases taken
        exact positive
      · cases taken

/-- The settings are what is given by the raw values, and nothing else is accepted. -/
theorem ofVariables_eq_ok_iff {settings : Settings} :
    ofVariables environment file = .ok settings ↔ settings.Follows (rawValue environment file) := by
  rw [ofVariables]
  split
  · rename_i editor timeout report profile
    constructor
    · rintro ⟨⟩
      exact ⟨gives_text_iff.2 rfl, readField_eq_ok_iff.1 editor, readField_eq_ok_iff.1 timeout,
        readField_eq_ok_iff.1 report, gives_text_iff.2 rfl, readField_eq_ok_iff.1 profile⟩
    · intro follows
      have prompt : (rawValue environment file .prompt).getD default.prompt = settings.prompt :=
        gives_text_iff.1 follows.prompt
      have level : (rawValue environment file .logLevel).getD default.logLevel = settings.logLevel :=
        gives_text_iff.1 follows.logLevel
      cases editor.symm.trans (readField_eq_ok_iff.2 follows.lineEditor)
      cases timeout.symm.trans (readField_eq_ok_iff.2 follows.commandTimeout)
      cases report.symm.trans (readField_eq_ok_iff.2 follows.reportErrors)
      cases profile.symm.trans (readField_eq_ok_iff.2 follows.logProfile)
      rw [prompt, level]
  · rename_i refused
    constructor
    · rintro ⟨⟩
    · intro follows
      exact (refused _ _ _ _ (readField_eq_ok_iff.2 follows.lineEditor)
        (readField_eq_ok_iff.2 follows.commandTimeout) (readField_eq_ok_iff.2 follows.reportErrors)
        (readField_eq_ok_iff.2 follows.logProfile)).elim

/-- The faults of all fields are reported together, if there are any. -/
theorem ofVariables_eq_error_iff {details : List (Field × ValueError)} :
    ofVariables environment file = .error details ↔
      details ≠ [] ∧ details = faults (rawValue environment file) := by
  rw [ofVariables]
  split
  · rename_i editor timeout report profile
    constructor
    · rintro ⟨⟩
    · rintro ⟨nonempty, rfl⟩
      refine absurd ?_ nonempty
      simp only [faults, List.append_eq_nil_iff, failure_eq_nil_iff]
      exact ⟨⟨⟨⟨_, editor⟩, ⟨_, timeout⟩⟩, ⟨_, report⟩⟩, ⟨_, profile⟩⟩
  · rename_i refused
    have nonempty : faults (rawValue environment file) ≠ [] := by
      intro none
      simp only [faults, List.append_eq_nil_iff, failure_eq_nil_iff] at none
      obtain ⟨⟨⟨⟨_, editor⟩, ⟨_, timeout⟩⟩, ⟨_, report⟩⟩, ⟨_, profile⟩⟩ := none
      exact refused _ _ _ _ editor timeout report profile
    constructor
    · rintro ⟨⟩
      exact ⟨nonempty, rfl⟩
    · rintro ⟨-, rfl⟩
      rfl

/-- The same variables for the fields: in the environment, and in the file as far as the environment does not
set them. -/
structure Agrees (environment : List (Text × Text)) (file : EnvFile.Variables)
    (environment' : List (Text × Text)) (file' : EnvFile.Variables) : Prop where
  set : ∀ {field : Field} {name value}, field.Names name →
    ((name, value) ∈ environment ↔ (name, value) ∈ environment')
  left : ∀ {field : Field} {name value}, field.Names name → (∀ entry ∈ environment, ¬ field.Names entry.1) →
    ((name, value) ∈ file ↔ (name, value) ∈ file')

theorem Agrees.unset {environment' : List (Text × Text)} {file' : EnvFile.Variables} {field : Field}
    (agrees : Agrees environment file environment' file') (unset : ∀ entry ∈ environment, ¬ field.Names entry.1) :
    ∀ entry ∈ environment', ¬ field.Names entry.1 :=
  fun entry inside named => unset entry ((agrees.set named).2 inside) named

theorem Agrees.effective {environment' : List (Text × Text)} {file' : EnvFile.Variables} {field : Field}
    {raw : Option Text} (agrees : Agrees environment file environment' file')
    (effective : Effective environment file field raw) : Effective environment' file' field raw := by
  cases effective with
  | environment inside named => exact .environment ((agrees.set named).1 inside) named
  | file unset inside named => exact .file (agrees.unset unset) ((agrees.left named unset).1 inside) named
  | absent unset unset' =>
    exact .absent (agrees.unset unset)
      fun entry inside named => unset' entry ((agrees.left named unset).2 inside) named

/-- Where no two names are equal up to their letter case, a field has the raw value that the environment gives
it, else the one of the file. What is refused is refused for a value that is wrong, and then all fields with
such values are named once, as they are declared; else every field is read from its own value or the default,
and a time limit is a positive number. Variables of other names, and those of the file that the environment
sets, do not matter. -/
theorem fields_are_read_alone (distinct : Distinct environment) (distinct' : Distinct file) :
    (∀ field raw, rawValue environment file field = raw ↔ Effective environment file field raw) ∧
      ((∃ details, ofVariables environment file = .error details) ↔ ∃ field value error,
        Effective environment file field (some value) ∧ Invalid field value error) ∧
      (∀ details, ofVariables environment file = .error details →
        (details.map Prod.fst).Sublist Field.declared ∧ ∀ field error, (field, error) ∈ details ↔
          ∃ value, Effective environment file field (some value) ∧ Invalid field value error) ∧
      (∀ settings, ofVariables environment file = .ok settings ↔
        settings.Follows (rawValue environment file)) ∧
      (∀ settings limit, ofVariables environment file = .ok settings → settings.commandTimeout = some limit →
        limit = .infinite false ∨ ∃ significand exponent, 0 < significand ∧
          limit = .finite false significand exponent) ∧
      (∀ environment' file', Distinct environment' → Distinct file' →
        Agrees environment file environment' file' →
          ofVariables environment' file' = ofVariables environment file) ∧
      ∀ files directory text, Utf8.decode (fileBytes files directory) = .ok text →
        EnvFile.defined environment (EnvFile.entries (Text.unifyBreaks text)) = file →
          load files directory environment = (ofVariables environment file).mapError .invalid := by
  have effective : ∀ field raw, rawValue environment file field = raw ↔ Effective environment file field raw :=
    fun _ _ => rawValue_eq_iff distinct distinct'
  have members : ∀ field error, (field, error) ∈ faults (rawValue environment file) ↔
      ∃ value, Effective environment file field (some value) ∧ Invalid field value error := by
    intro field error
    simp only [mem_faults_iff, effective]
  refine ⟨effective, ⟨?_, ?_⟩, ?_, fun _ => ofVariables_eq_ok_iff, ?_, ?_, ?_⟩
  · rintro ⟨details, refused⟩
    obtain ⟨nonempty, rfl⟩ := ofVariables_eq_error_iff.1 refused
    obtain ⟨⟨field, error⟩, inside⟩ := List.exists_mem_of_ne_nil _ nonempty
    obtain ⟨value, found, invalid⟩ := (members field error).1 inside
    exact ⟨field, value, error, found, invalid⟩
  · rintro ⟨field, value, error, found, invalid⟩
    have inside := (members field error).2 ⟨value, found, invalid⟩
    exact ⟨_, ofVariables_eq_error_iff.2 ⟨List.ne_nil_of_mem inside, rfl⟩⟩
  · intro details refused
    obtain ⟨-, rfl⟩ := ofVariables_eq_error_iff.1 refused
    exact ⟨faults_sublist _, members⟩
  · intro settings limit accepted limited
    have given := (ofVariables_eq_ok_iff.1 accepted).commandTimeout
    rw [limited] at given
    exact Binary64.isPositive_iff.1 (isPositive_of_gives given)
  · intro environment' file' distinctOther distinctOther' agrees
    have same : rawValue environment' file' = rawValue environment file := by
      funext field
      exact (rawValue_eq_iff distinctOther distinctOther').2 (agrees.effective ((effective _ _).1 rfl))
    rw [ofVariables, ofVariables, same]
  · rintro files directory text decoded rfl
    rw [load, decoded]
    dsimp only
    cases ofVariables environment (EnvFile.defined environment (EnvFile.entries (Text.unifyBreaks text))) <;> rfl

/-- A number that is none stands in the file, behind one that the environment sets; it is not reported. -/
theorem fields_are_read_alone_shadowed :
    let environment : List (Text × Text) := [("HOME".toList, "/".toList),
      ("Pipesh_Line_Editor".toList, "maybe".toList), ("PIPESH_COMMAND_TIMEOUT".toList, "2.5".toList)]
    let file : EnvFile.Variables := [("pipesh_command_timeout".toList, some "nan".toList),
      ("PIPESH_PROMPT".toList, none), ("PIPESH_LOG_PROFILE".toList, some [])]
    Distinct environment ∧ Distinct file ∧
      Effective environment file .commandTimeout (some "2.5".toList) ∧
      Effective environment file .prompt none ∧ Invalid .commandTimeout "nan".toList .notPositive ∧
      (∃ field value error, Effective environment file field (some value) ∧ Invalid field value error) ∧
      ofVariables environment file = .error [(.lineEditor, .notBoolean), (.logProfile, .notProfile)] := by
  intro environment file
  have distinct : Distinct environment := by decide
  have distinct' : Distinct file := by decide
  have refused : ofVariables environment file =
      .error [(.lineEditor, .notBoolean), (.logProfile, .notProfile)] := by decide +kernel
  obtain ⟨effective, raises, -⟩ := fields_are_read_alone distinct distinct'
  exact ⟨distinct, distinct', (effective _ _).1 (by decide), (effective _ _).1 (by decide),
    .commandTimeout (by decide +kernel), raises.1 ⟨_, refused⟩, refused⟩

end Settings

end ChainShell
