import CampaignFetch.Fetch.Engine
import CampaignFetch.Proofs.IntegerText
import CampaignFetch.Settings
import Mathlib.Data.List.Nodup
import Mathlib.Logic.Function.Basic

/-!
# Settings and their variables

Each setting has a variable of its own, and only a text that writes a value of the setting overrides
the preset of the stage. `Setting.Accepts` says which texts these are without the way of reading.

* `Setting.parse_eq_some_iff`: reading accepts just these texts.
* `Setting.of_ofVariables`: a setting depends on the stage and on its own variable.
* `AppSettings.eq_of_settings`: the settings and the stage are all there is.
* `overrides_independent`: what the settings are, and what a change of one variable can change.
-/

namespace CampaignFetch

/-- What a variable of the environment can set. -/
inductive Setting where
  | maxLimit
  | debugLogging
  | allFieldsWhenEmpty (kind : Kind)
  | keepRowsWithoutRelated (kind : Kind)
  | maxConnections
  | connectionTimeout
  | runMigrations
  | enableAuth
  | secret
  | expiryHours
  deriving DecidableEq

namespace Setting

/-- The values of a setting. -/
def Value : Setting → Type
  | maxLimit => Option Int
  | maxConnections | connectionTimeout | expiryHours => Nat
  | secret => String
  | debugLogging | allFieldsWhenEmpty _ | keepRowsWithoutRelated _ | runMigrations | enableAuth =>
    Bool

/-- The variable that overrides the setting. -/
def name : Setting → String
  | maxLimit => "FETCH_MAX_LIMIT"
  | debugLogging => "FETCH_DEBUG_LOGGING"
  | allFieldsWhenEmpty .campaign => "FETCH_CAMPAIGN_ALL_FIELDS_WHEN_EMPTY"
  | allFieldsWhenEmpty .adGroup => "FETCH_AD_GROUP_ALL_FIELDS_WHEN_EMPTY"
  | keepRowsWithoutRelated .campaign => "FETCH_CAMPAIGN_KEEP_ROWS_WITHOUT_RELATED"
  | keepRowsWithoutRelated .adGroup => "FETCH_AD_GROUP_KEEP_ROWS_WITHOUT_RELATED"
  | maxConnections => "DATABASE_MAX_CONNECTIONS"
  | connectionTimeout => "DATABASE_CONNECTION_TIMEOUT"
  | runMigrations => "DATABASE_RUN_MIGRATIONS"
  | enableAuth => "SECURITY_ENABLE_AUTH"
  | secret => "JWT_SECRET"
  | expiryHours => "SECURITY_JWT_EXPIRY_HOURS"

/-- The value that the setting has among all settings. -/
def of : (x : Setting) → AppSettings → x.Value
  | maxLimit, s => s.fetch.maxLimit
  | debugLogging, s => s.fetch.debugLogging
  | allFieldsWhenEmpty kind, s => (s.fetch.direction kind).allFieldsWhenEmpty
  | keepRowsWithoutRelated kind, s => (s.fetch.direction kind).keepRowsWithoutRelated
  | maxConnections, s => s.database.maxConnections
  | connectionTimeout, s => s.database.connectionTimeout
  | runMigrations, s => s.database.runMigrations
  | enableAuth, s => s.security.enableAuth
  | secret, s => s.security.secret
  | expiryHours, s => s.security.expiryHours

/-- Every setting, the directions' ones for either kind. -/
def all : List Setting :=
  [maxLimit, debugLogging, allFieldsWhenEmpty .campaign, allFieldsWhenEmpty .adGroup,
    keepRowsWithoutRelated .campaign, keepRowsWithoutRelated .adGroup, maxConnections,
    connectionTimeout, runMigrations, enableAuth, secret, expiryHours]

theorem mem_all (x : Setting) : x ∈ all := by
  rcases x with _ | _ | ⟨_ | _⟩ | ⟨_ | _⟩ | _ | _ | _ | _ | _ | _ <;> decide

/-- No two settings share a variable. -/
theorem name_inj {x y : Setting} (h : x.name = y.name) : x = y := by
  have hNodup : (all.map name).Nodup := by decide
  exact List.inj_on_of_nodup_map hNodup (mem_all x) (mem_all y) h

theorem name_ne_stage (x : Setting) : x.name ≠ "APP_ENV" := by
  have hAll : ∀ y ∈ all, y.name ≠ "APP_ENV" := by decide
  exact hAll x (mem_all x)

/-! ## Texts of values -/

/-- The text writes a natural number of so many bits. -/
def CountText (bits : Nat) (text : String) (n : Nat) : Prop :=
  Text.NatText text n ∧ n < Nat.pow 2 bits

/-- The text is the word for the truth value. -/
def FlagText (text : String) (b : Bool) : Prop := text = toString b

/-- The text writes a cap: the word for none in any case, or an integer of sixty-four bits, with
blank characters around it or not. -/
def CapText (text : String) (cap : Option Int) : Prop :=
  ∃ word, Text.Trims text word ∧
    (Ascii.lowercase word = "none" ∧ cap = none ∨
      ∃ n, Text.IntText word n ∧ Text.fitsInt64 n = true ∧ cap = some n)

/-- The text writes a value of the setting. -/
def Accepts : (x : Setting) → String → x.Value → Prop
  | maxLimit => CapText
  | maxConnections => CountText 32
  | connectionTimeout | expiryHours => CountText 64
  | secret => Eq
  | debugLogging | allFieldsWhenEmpty _ | keepRowsWithoutRelated _ | runMigrations | enableAuth =>
    FlagText

/-- The value that is read from a text. -/
def parse : (x : Setting) → String → Option x.Value
  | maxLimit => Variables.cap?
  | maxConnections => Text.nat? 32
  | connectionTimeout | expiryHours => Text.nat? 64
  | secret => some
  | debugLogging | allFieldsWhenEmpty _ | keepRowsWithoutRelated _ | runMigrations | enableAuth =>
    Text.bool?

/-- The word for no cap writes no integer. -/
theorem lowercase_ne_none {word : String} {n : Int} (h : Text.IntText word n) :
    Ascii.lowercase word ≠ "none" := by
  intro hNone
  -- a letter of the word comes from a character that integers do not have
  have hMem : 'n' ∈ (Ascii.lowercase word).toList := by
    rw [hNone]
    decide
  rw [Ascii.lowercase, String.toList_ofList] at hMem
  obtain ⟨c, hc, hLower⟩ := List.mem_map.mp hMem
  rcases h.mem hc with rfl | rfl | hDigit
  · exact absurd hLower (by decide)
  · exact absurd hLower (by decide)
  · rw [Text.toLower_of_isDigit hDigit] at hLower
    exact absurd (hLower ▸ hDigit) (by decide)

theorem cap?_eq_some_iff (text : String) (cap : Option Int) :
    Variables.cap? text = some cap ↔ CapText text cap := by
  constructor
  · intro h
    refine ⟨Text.trim text, Text.trims_trim text, ?_⟩
    simp only [Variables.cap?] at h
    split at h
    · rename_i hNone
      exact .inl ⟨hNone, (Option.some.inj h).symm⟩
    · obtain ⟨n, hn, hCap⟩ := Option.map_eq_some_iff.mp h
      obtain ⟨hText, hFits⟩ := Text.int64?_eq_some_iff.mp hn
      exact .inr ⟨n, hText, hFits, hCap.symm⟩
  · rintro ⟨word, hTrims, hWord⟩
    simp only [Variables.cap?, hTrims.trim_eq]
    rcases hWord with ⟨hNone, rfl⟩ | ⟨n, hText, hFits, rfl⟩
    · exact if_pos hNone
    · rw [if_neg (lowercase_ne_none hText), Text.int64?_eq_some_iff.mpr ⟨hText, hFits⟩]
      rfl

/-- What is read is what the text writes. -/
theorem parse_eq_some_iff {x : Setting} {text : String} {value : x.Value} :
    x.parse text = some value ↔ x.Accepts text value := by
  cases x with
  | maxLimit => exact cap?_eq_some_iff text value
  | maxConnections | connectionTimeout | expiryHours => exact Text.nat?_eq_some_iff
  | secret => exact Option.some_inj
  | debugLogging | allFieldsWhenEmpty | keepRowsWithoutRelated | runMigrations | enableAuth =>
    exact Text.bool?_eq_some_iff

/-! ## Settings in an environment -/

/-- A setting depends on the stage and on its own variable. -/
theorem of_ofVariables (x : Setting) (env : Variables) :
    x.of (.ofVariables env) =
      ((env x.name).bind x.parse).getD (x.of (.preset (.ofText (env "APP_ENV")))) := by
  rcases x with _ | _ | ⟨_ | _⟩ | ⟨_ | _⟩ | _ | _ | _ | _ | _ | _ <;> rfl

/-- In `s` the setting has the value that its variable writes, or else the value in `preset`. -/
def Follows (x : Setting) (env : Variables) (preset s : AppSettings) : Prop :=
  (∃ text, env x.name = some text ∧ x.Accepts text (x.of s)) ∨
    (∀ text value, env x.name = some text → ¬ x.Accepts text value) ∧ x.of s = x.of preset

theorem follows_iff {x : Setting} {env : Variables} {preset s : AppSettings} :
    x.Follows env preset s ↔ ((env x.name).bind x.parse).getD (x.of preset) = x.of s := by
  cases hRead : (env x.name).bind x.parse with
  | none =>
    have hNone : ∀ text value, env x.name = some text → ¬ x.Accepts text value := by
      intro text value hText hAccepts
      rw [hText, Option.bind_some, parse_eq_some_iff.mpr hAccepts] at hRead
      cases hRead
    constructor
    · rintro (⟨text, hText, hAccepts⟩ | ⟨-, hPreset⟩)
      · exact absurd hAccepts (hNone text _ hText)
      · exact hPreset.symm
    · intro hPreset
      exact .inr ⟨hNone, hPreset.symm⟩
  | some value =>
    obtain ⟨text, hText, hParse⟩ := Option.bind_eq_some_iff.mp hRead
    constructor
    · rintro (⟨text', hText', hAccepts⟩ | ⟨hNone, -⟩)
      · rw [hText', Option.bind_some, parse_eq_some_iff.mpr hAccepts] at hRead
        exact (Option.some.inj hRead).symm
      · exact absurd (parse_eq_some_iff.mp hParse) (hNone text value hText)
    · rintro rfl
      exact .inl ⟨text, hText, parse_eq_some_iff.mp hParse⟩

end Setting

namespace AppSettings

theorem stage_ofVariables (env : Variables) :
    (ofVariables env).stage = .ofText (env "APP_ENV") := by
  unfold ofVariables
  cases Stage.ofText (env "APP_ENV") <;> rfl

/-- The stage and the settings are all there is. -/
theorem eq_of_settings {s t : AppSettings} (hStage : s.stage = t.stage)
    (hSettings : ∀ x : Setting, x.of s = x.of t) : s = t := by
  obtain ⟨_, ⟨_, _, ⟨_, _⟩, ⟨_, _⟩⟩, ⟨_, _, _⟩, ⟨_, _, _⟩⟩ := s
  obtain ⟨_, ⟨_, _, ⟨_, _⟩, ⟨_, _⟩⟩, ⟨_, _, _⟩, ⟨_, _, _⟩⟩ := t
  cases hStage
  cases hSettings .maxLimit
  cases hSettings .debugLogging
  cases hSettings (.allFieldsWhenEmpty .campaign)
  cases hSettings (.allFieldsWhenEmpty .adGroup)
  cases hSettings (.keepRowsWithoutRelated .campaign)
  cases hSettings (.keepRowsWithoutRelated .adGroup)
  cases hSettings .maxConnections
  cases hSettings .connectionTimeout
  cases hSettings .runMigrations
  cases hSettings .enableAuth
  cases hSettings .secret
  cases hSettings .expiryHours
  rfl

theorem eq_ofVariables_iff {env : Variables} {s : AppSettings} :
    ofVariables env = s ↔
      s.stage = .ofText (env "APP_ENV") ∧ ∀ x : Setting, x.Follows env (preset s.stage) s := by
  constructor
  · rintro rfl
    refine ⟨stage_ofVariables env, fun x => Setting.follows_iff.mpr ?_⟩
    rw [stage_ofVariables]
    exact (x.of_ofVariables env).symm
  · rintro ⟨hStage, hFollows⟩
    apply eq_of_settings
    · rw [hStage, stage_ofVariables]
    · intro x
      rw [x.of_ofVariables, ← hStage]
      exact Setting.follows_iff.mp (hFollows x)

/-! ## Changes of a variable -/

variable {env : Variables} {name : String} {text : Option String}

theorem stage_update (h : name ≠ "APP_ENV") :
    (ofVariables (Function.update env name text)).stage = (ofVariables env).stage := by
  rw [stage_ofVariables, stage_ofVariables, Function.update_of_ne h.symm]

/-- A variable has no effect on the settings of other variables. -/
theorem of_update (h : name ≠ "APP_ENV") {x : Setting} (hOther : x.name ≠ name) :
    x.of (ofVariables (Function.update env name text)) = x.of (ofVariables env) := by
  rw [x.of_ofVariables, x.of_ofVariables, Function.update_of_ne h.symm,
    Function.update_of_ne hOther]

/-- A text that writes no value of the setting is as good as none. -/
theorem update_unaccepted {x : Setting} {word : String} (h : ∀ value, ¬ x.Accepts word value) :
    ofVariables (Function.update env x.name (some word)) =
      ofVariables (Function.update env x.name none) := by
  have hParse : x.parse word = none :=
    Option.eq_none_iff_forall_ne_some.mpr fun value hValue =>
      h value (Setting.parse_eq_some_iff.mp hValue)
  apply eq_of_settings
  · rw [stage_update x.name_ne_stage, stage_update x.name_ne_stage]
  · intro y
    by_cases hSame : y = x
    · subst hSame
      rw [y.of_ofVariables, y.of_ofVariables, Function.update_self, Function.update_self,
        Function.update_of_ne y.name_ne_stage.symm, Function.update_of_ne y.name_ne_stage.symm,
        Option.bind_some, Option.bind_none, hParse]
    · have hOther : y.name ≠ x.name := fun hName => hSame (Setting.name_inj hName)
      rw [of_update x.name_ne_stage hOther, of_update x.name_ne_stage hOther]

/-- A setting that is not as in the preset of the stage has its value from its variable. -/
theorem exists_text_of_ne (x : Setting)
    (h : x.of (ofVariables env) ≠ x.of (preset (.ofText (env "APP_ENV")))) :
    ∃ word, env x.name = some word ∧ x.Accepts word (x.of (ofVariables env)) := by
  have hFollows : x.Follows env (preset (.ofText (env "APP_ENV"))) (ofVariables env) :=
    Setting.follows_iff.mpr (x.of_ofVariables env).symm
  rcases hFollows with hText | ⟨-, hPreset⟩
  · exact hText
  · exact absurd hPreset h

end AppSettings

/-- The settings are those of the stage except where a variable writes a value of its own setting. A
change of one variable changes its own setting at most, and not even that where the text writes no
value; so authentication ends, or the cap changes, only by a text that says so. -/
theorem overrides_independent (env : Variables) :
    (∀ s, AppSettings.ofVariables env = s ↔ s.stage = .ofText (env "APP_ENV") ∧
      ∀ x : Setting, x.Follows env (.preset s.stage) s) ∧
    (∀ x y : Setting, x.name = y.name → x = y) ∧
    (∀ name text, name ≠ "APP_ENV" →
      (AppSettings.ofVariables (Function.update env name text)).stage =
          (AppSettings.ofVariables env).stage ∧
        ∀ x : Setting, x.name ≠ name →
          x.of (.ofVariables (Function.update env name text)) = x.of (.ofVariables env)) ∧
    (∀ (x : Setting) word, (∀ value, ¬ x.Accepts word value) →
      AppSettings.ofVariables (Function.update env x.name (some word)) =
        .ofVariables (Function.update env x.name none)) ∧
    ((AppSettings.preset (.ofText (env "APP_ENV"))).security.enableAuth = true →
      (AppSettings.ofVariables env).security.enableAuth = false →
        env "SECURITY_ENABLE_AUTH" = some "false") ∧
    ((AppSettings.ofVariables env).fetch.maxLimit ≠
        (AppSettings.preset (.ofText (env "APP_ENV"))).fetch.maxLimit →
      ∃ word, env "FETCH_MAX_LIMIT" = some word ∧
        Setting.CapText word (AppSettings.ofVariables env).fetch.maxLimit) := by
  refine ⟨fun s => AppSettings.eq_ofVariables_iff, fun x y => Setting.name_inj,
    fun name text hName => ⟨AppSettings.stage_update hName, fun x => AppSettings.of_update hName⟩,
    fun x word => AppSettings.update_unaccepted, ?_,
    AppSettings.exists_text_of_ne .maxLimit⟩
  intro hPreset hEnded
  have hNe : Setting.enableAuth.of (.ofVariables env) ≠
      Setting.enableAuth.of (.preset (.ofText (env "APP_ENV"))) := by
    show (AppSettings.ofVariables env).security.enableAuth ≠
      (AppSettings.preset (.ofText (env "APP_ENV"))).security.enableAuth
    rw [hPreset, hEnded]
    decide
  obtain ⟨word, hText, hFlag⟩ := AppSettings.exists_text_of_ne .enableAuth hNe
  have hWord : word = toString (AppSettings.ofVariables env).security.enableAuth := hFlag
  rw [hEnded] at hWord
  exact hText.trans (congrArg some hWord)

/-- Of these texts the one for the cap, the one for the connections and the secret count. -/
theorem overrides_independent_production :
    AppSettings.ofVariables (fun name => List.lookup name
        [("APP_ENV", "production"), ("FETCH_MAX_LIMIT", " NonE\u2003"),
          ("DATABASE_MAX_CONNECTIONS", "+064"), ("SECURITY_ENABLE_AUTH", "FALSE"),
          ("JWT_SECRET", " s "), ("SECURITY_JWT_EXPIRY_HOURS", "18446744073709551616")]) =
      ⟨.production, ⟨none, false, .campaignDefault, .adGroupDefault⟩, ⟨64, 5, false⟩,
        ⟨true, " s ", 4⟩⟩ := by
  refine ((overrides_independent _).1 _).mpr ⟨by decide, fun x => Setting.follows_iff.mpr ?_⟩
  rcases x with _ | _ | ⟨_ | _⟩ | ⟨_ | _⟩ | _ | _ | _ | _ | _ | _ <;> rfl

end CampaignFetch
