import Gateway.CommandLine
import Gateway.Proofs.Sections

/-!
Layered settings. Each setting has the value of the highest layer that gives it one, whatever the layers
give to the others. Values that one layer gives are never lost because another gives some beside them.
-/
namespace Gateway

namespace Settings

/-! ## The variable of a setting -/

/-- The name of the variable that stands for a setting, in capitals. -/
def Setting.variableChars (x : Setting) : List Char :=
  "DEVROUTE__".toList ++ x.place.1.toList.map Char.toUpper ++ "__".toList ++
    x.place.2.toList.map Char.toUpper

/-- `variableChars` as a string. -/
def Setting.variable (x : Setting) : String := .ofList x.variableChars

/-- The small letter of a capital one, and any other character as it is. -/
def small (c : Char) : Char := if c.isUpper then .ofNat (c.toNat + 32) else c

theorem lowerChar_eq_small {c : Char} (h : c.isUpper ∨ c = '_') : Text.lowerChar c = small c := by
  rcases h with hupper | rfl
  · obtain ⟨hfirst, hlast⟩ : 0x41 ≤ c.toNat ∧ c.toNat ≤ 0x5A := by
      have hcapital : 'A'.val ≤ c.val ∧ c.val ≤ 'Z'.val := of_decide_eq_true hupper
      simpa [UInt32.le_iff_toNat_le] using hcapital
    have hnat : (↑c.toNat + 32 : Int).toNat = c.toNat + 32 := by omega
    have hranges : Text.lowerRanges = (0x41, 0x5A, 1, 32) :: Text.lowerRanges.tail := rfl
    have hfits : (decide (0x41 ≤ c.toNat) && decide (c.toNat ≤ 0x5A) &&
        (c.toNat - 0x41) % 1 == 0) = true := by simp [hfirst, hlast, Nat.mod_one]
    unfold Text.lowerChar small
    dsimp only
    rw [if_pos hupper, hranges, List.find?_cons]
    dsimp only
    rw [hfits]
    exact congrArg Char.ofNat hnat
  · decide

theorem lowerAfter_capitals (before s : List Char) (h : ∀ c ∈ s, c.isUpper ∨ c = '_') :
    Text.lowerAfter before s = s.map small := by
  induction s generalizing before with
  | nil => rfl
  | cons c s ih =>
    obtain ⟨hc, hs⟩ := List.forall_mem_cons.mp h
    have hsigma : (c == 'Σ') = false := by
      rw [beq_eq_false_iff_ne]
      rintro rfl
      exact absurd hc (by decide)
    have hdotted : (c == 'İ') = false := by
      rw [beq_eq_false_iff_ne]
      rintro rfl
      exact absurd hc (by decide)
    rw [Text.lowerAfter, hsigma, hdotted, ih _ hs, lowerChar_eq_small hc]
    rfl

theorem key_of_small_variableChars : ∀ x ∈ Setting.all,
    (match variableStart.isPrefixOf? (x.variableChars.map small) with
      | some rest => Key.ofText? (Text.replaceAll ['_', '_'] ['.'] rest)
      | none => none) = some x.key := by
  decide +kernel

theorem variableKey?_variable (x : Setting) : variableKey? x.variable = some x.key := by
  have hcapitals : ∀ x ∈ Setting.all, x.variableChars.all fun c => c.isUpper || c == '_' := by
    decide +kernel
  rw [variableKey?, Text.lowercase, Setting.variable, String.toList_ofList, String.toList_ofList,
    lowerAfter_capitals _ _ (by simpa using hcapitals x x.mem_all)]
  exact key_of_small_variableChars x x.mem_all

/-- In any letter case the variable stands for its setting. -/
theorem variableKey?_of_lowercase_eq {x : Setting} {name : String}
    (h : Text.lowercase name = Text.lowercase x.variable) : variableKey? name = some x.key := by
  rw [← variableKey?_variable, variableKey?, variableKey?, h]

/-! ## What the layers give -/

/-- What the variables of a hosting platform give to a setting. An empty port counts as none. -/
def platform (env : Environment) : Setting → Option Value
  | .port => ((env.get? "PORT").filter (· ≠ "")).map .text
  | .mount => (env.get? "SERVICE_ROUTE_PREFIX").map .text
  | .strip => (env.get? "SERVICE_ROUTE_PREFIX_STRIP").map fun raw => .boolean (isTruthy raw)
  | _ => none

/-- What the variables that stand for a setting give to it. Of several the last counts. -/
def named (env : Environment) (x : Setting) : Option Value :=
  (env.reverse.find? fun v => variableKey? v.1 = some x.key).map fun v => .text v.2

/-- What a setting is given below the command line, where `values` are those of the file. -/
def configured (values : List (Key × Value)) (env : Environment) (x : Setting) : Option Value :=
  (platform env x).or ((named env x).or ((given values x).or (given defaults x)))

/-- The values of a layer that knows one setting. -/
def only (x : Setting) (o : Option Value) : List (Key × Value) := (o.map (x.key, ·)).toList

theorem given_only (x y : Setting) (o : Option Value) :
    given (only y o) x = if x = y then o else none := by
  have hkeys : ∀ x ∈ Setting.all, ∀ y ∈ Setting.all, x.key = y.key → x = y := by decide
  cases o with
  | none => simp [given, only]
  | some v =>
    by_cases hsame : x = y
    · simp [given, only, hsame]
    · have hne : x.key ≠ y.key := mt (hkeys x x.mem_all y y.mem_all) hsame
      simp [given, only, lookup_cons_of_ne hne, hsame]

theorem platformValues_eq (env : Environment) :
    platformValues env = only .port (platform env .port) ++ only .mount (platform env .mount) ++
      only .strip (platform env .strip) := by
  unfold platformValues only platform
  congr 1
  · congr 1
    · cases env.get? "PORT" with
      | none => rfl
      | some p =>
        by_cases hempty : p = ""
        · simp [hempty]
        · simp [hempty, Option.filter, Setting.key, Setting.place]
    · cases env.get? "SERVICE_ROUTE_PREFIX" <;> rfl
  · cases env.get? "SERVICE_ROUTE_PREFIX_STRIP" <;> rfl

theorem given_platformValues (env : Environment) (x : Setting) :
    given (platformValues env) x = platform env x := by
  rw [platformValues_eq, given_append, given_append, given_only, given_only, given_only]
  cases x with
  | port => simp
  | mount => simp
  | strip => simp
  | _ => rfl

theorem plain_platformValues (env : Environment) : ∀ e ∈ platformValues env, Plain e := by
  intro e he
  rw [platformValues_eq, List.mem_append, List.mem_append] at he
  have honly : ∃ x, e ∈ only x (platform env x) := by
    rcases he with (he | he) | he
    · exact ⟨.port, he⟩
    · exact ⟨.mount, he⟩
    · exact ⟨.strip, he⟩
  obtain ⟨x, hx⟩ := honly
  obtain ⟨v, hv, rfl⟩ := Option.map_eq_some_iff.mp (Option.mem_toList.mp hx)
  refine plain_of_key ?_
  rintro rfl
  unfold platform at hv
  cases x
  case port | mount | strip => simp at hv
  all_goals contradiction

theorem given_variableValues (env : Environment) (x : Setting) :
    given (variableValues env) x = named env x := by
  unfold given named variableValues
  rw [← List.filterMap_reverse]
  induction env.reverse with
  | nil => rfl
  | cons v env ih =>
    obtain ⟨name, value⟩ := v
    cases hkey : variableKey? name with
    | none => simp [hkey, ih]
    | some k =>
      by_cases hsame : k = x.key
      · simp [hkey, hsame]
      · simp [hkey, hsame, lookup_cons_of_ne (Ne.symm hsame), ih]

/-! A value for one setting is none for another, in whichever layer it is given. -/

theorem given_concat_of_ne {x y : Setting} (h : y ≠ x) (values : List (Key × Value)) (v : Value) :
    given (values ++ [(x.key, v)]) y = given values y := by
  have hnone : given [(x.key, v)] y = none := (given_only y x (some v)).trans (if_neg h)
  rw [given_append, hnone, Option.none_or]

theorem named_concat_of_ne {x y : Setting} (h : y ≠ x) {name : String}
    (hname : variableKey? name = some x.key) (env : Environment) (value : String) :
    named (env ++ [(name, value)]) y = named env y := by
  have hvalues : variableValues (env ++ [(name, value)]) =
      variableValues env ++ [(x.key, .text value)] := by
    simp [variableValues, hname]
  rw [← given_variableValues, ← given_variableValues, hvalues, given_concat_of_ne h]

theorem platform_concat {name : String} (hname : (variableKey? name).isSome) (env : Environment)
    (value : String) : platform (env ++ [(name, value)]) = platform env := by
  have hget : ∀ other, variableKey? other = none →
      Environment.get? (env ++ [(name, value)]) other = env.get? other := by
    intro other hother
    have hne : other ≠ name := by
      rintro rfl
      rw [hother] at hname
      contradiction
    unfold Environment.get?
    rw [List.reverse_append, List.reverse_singleton, List.singleton_append, lookup_cons_of_ne hne]
  have hport := hget "PORT" (by decide +kernel)
  have hmount := hget "SERVICE_ROUTE_PREFIX" (by decide +kernel)
  have hstrip := hget "SERVICE_ROUTE_PREFIX_STRIP" (by decide +kernel)
  funext x
  unfold platform
  rw [hport, hmount, hstrip]

/-! ## Loading -/

theorem load_eq_ofStore {file : Option File} {env : Environment} {values : List (Key × Value)}
    (hfile : file.elim (.ok []) (fileValues ·.data) = .ok values)
    (hplain : ∀ e ∈ values ++ variableValues env, Plain e) :
    ∃ s, load file env = ofStore s ∧ s.Shaped ∧ ∀ x, s.held x = configured values env x := by
  obtain ⟨hvalues, hvariables⟩ := List.forall_mem_append.mp hplain
  obtain ⟨hshaped₁, hheld₁⟩ := Store.shaped_defaults.layer (file.map (·.name)) hvalues
  obtain ⟨hshaped₂, hheld₂⟩ := hshaped₁.layer (some "the environment") hvariables
  obtain ⟨hshaped₃, hheld₃⟩ := hshaped₂.layer none (plain_platformValues env)
  refine ⟨_, ?_, hshaped₃, fun x => ?_⟩
  · rw [load, layers, hfile]
    rfl
  · rw [hheld₃, hheld₂, hheld₁, Store.held_defaults, given_platformValues, given_variableValues,
      configured]

end Settings

/-! ## The command line on top -/

namespace CommandLine

open Settings (Setting Value Environment Key)

/-- What the flags give to a setting. -/
def given? (c : CommandLine) : Setting → Option Value
  | .entry => c.entry.map .text
  | .port => c.port.map fun p => .integer p.toNat
  | .host => c.host.map .text
  | .staticDir => c.staticDir.map .text
  | _ => none

/-- What a setting becomes: the value of the highest layer that gives it one. The layers are the
flags, the platform, the variables named after settings, the file and the defaults. -/
def resolved (c : CommandLine) (values : List (Key × Value)) (env : Environment) (x : Setting) :
    Option Value :=
  ((c.given? x).or (Settings.configured values env x)).bind x.read?

theorem resolved_concat_of_ne (c : CommandLine) {x y : Setting} (h : y ≠ x)
    (values : List (Key × Value)) (env : Environment) :
    (∀ v, c.resolved (values ++ [(x.key, v)]) env y = c.resolved values env y) ∧
      ∀ name value, Settings.variableKey? name = some x.key →
        c.resolved values (env ++ [(name, value)]) y = c.resolved values env y := by
  unfold resolved Settings.configured
  constructor
  · intro v
    rw [Settings.given_concat_of_ne h]
  · intro name value hname
    rw [Settings.named_concat_of_ne h hname, Settings.platform_concat (by simp [hname])]

theorem value?_apply (c : CommandLine) (s : Settings) (x : Setting) :
    (c.apply s).value? x = (c.given? x).or (s.value? x) := by
  obtain ⟨config, entry, port, host, dir⟩ := c
  cases x with
  | entry => cases entry <;> rfl
  | port => cases port <;> rfl
  | host => cases host <;> rfl
  | staticDir => cases dir <;> rfl
  | _ => rfl

/-- The flags give values that their settings can have. -/
theorem read?_of_given? {c : CommandLine} {x : Setting} {v : Value} (h : c.given? x = some v) :
    x.read? v = some v := by
  cases x
  case entry | host | staticDir =>
    obtain ⟨t, -, rfl⟩ := Option.map_eq_some_iff.mp h
    rfl
  case port =>
    obtain ⟨p, -, rfl⟩ := Option.map_eq_some_iff.mp h
    have hnatural : ¬(p.toNat : Int) < 0 := by omega
    have hnumber : Value.number? (.integer p.toNat) = some p.toNat := by
      rw [Value.number?, if_neg hnatural, Int.toNat_natCast]
    have hport : Value.port? (.integer p.toNat) = some p := by
      simp [Value.port?, hnumber, Option.filter, p.toNat_lt]
    exact congrArg (Option.map _) hport
  all_goals contradiction

theorem requiredPort_eq_missingPort_iff (s : Settings) :
    s.requiredPort = .error .missingPort ↔ s.value? .port = none := by
  unfold Settings.requiredPort Settings.value?
  cases s.port <;> simp

theorem isEnabled_effectiveMount_iff (s : Settings) :
    s.effectiveMount.isEnabled ↔ s.value? .strip = some (.boolean true) ∧
      ∃ raw, s.value? .mount = some (.text raw) ∧ Mount.normalize raw ≠ "" := by
  have hempty : Mount.normalize "" = "" := by decide
  unfold Settings.effectiveMount Mount.ofSettings Mount.isEnabled Settings.value?
  cases s.strip with
  | false => simp [Mount.disabled]
  | true =>
    cases s.mount with
    | none => simp [Mount.ofText, hempty]
    | some raw => simp [Mount.ofText]

theorem text_effectiveMount {s : Settings} {raw : String}
    (hstrip : s.value? .strip = some (.boolean true)) (hmount : s.value? .mount = some (.text raw)) :
    s.effectiveMount.text = Mount.normalize raw := by
  have htrue : s.strip = true := by simpa [Settings.value?] using hstrip
  have hraw : s.mount = some raw := by simpa [Settings.value?] using hmount
  rw [Settings.effectiveMount, htrue, hraw]
  rfl

/-- Layers of plain values, of which the winning ones are valid, are loaded, and each setting has the value
of the highest layer that gives it one, whatever the layers give to other settings. -/
theorem apply_load (c : CommandLine) (file : Option Settings.File) (env : Environment)
    (values : List (Key × Value))
    (hfile : file.elim (.ok []) (Settings.fileValues ·.data) = .ok values)
    (hplain : ∀ e ∈ values ++ Settings.variableValues env, Settings.Plain e)
    (hvalid : ∀ x v, Settings.configured values env x = some v → (x.read? v).isSome) :
    ∃ s, Settings.load file env = .ok s ∧
      (∀ x, (c.apply s).value? x = c.resolved values env x) ∧
      ((c.apply s).requiredPort = .error .missingPort ↔
        c.given? .port = none ∧ Settings.platform env .port = none ∧
          Settings.named env .port = none ∧ Settings.given values .port = none) ∧
      ((c.apply s).effectiveMount.isEnabled ↔
        c.resolved values env .strip = some (.boolean true) ∧
          ∃ raw, c.resolved values env .mount = some (.text raw) ∧ Mount.normalize raw ≠ "") ∧
      (∀ raw, c.resolved values env .strip = some (.boolean true) →
        c.resolved values env .mount = some (.text raw) →
          (c.apply s).effectiveMount.text = Mount.normalize raw) ∧
      (∀ (x : Setting) (name : String), Text.lowercase name = Text.lowercase x.variable →
        Settings.variableKey? name = some x.key) ∧
      ∀ x y, y ≠ x →
        (∀ v, c.resolved (values ++ [(x.key, v)]) env y = c.resolved values env y) ∧
          ∀ name value, Settings.variableKey? name = some x.key →
            c.resolved values (env ++ [(name, value)]) y = c.resolved values env y := by
  obtain ⟨store, hload, hshaped, hheld⟩ := Settings.load_eq_ofStore hfile hplain
  obtain ⟨s, hstore, hvalue⟩ := Settings.ofStore_of_shaped hshaped fun x v hv =>
    hvalid x v (by rwa [← hheld])
  have hresolved : ∀ x, (c.apply s).value? x = c.resolved values env x := by
    intro x
    rw [value?_apply, hvalue, hheld, resolved]
    cases hgiven : c.given? x with
    | none => rfl
    | some v => exact (read?_of_given? hgiven).symm
  refine ⟨s, hload.trans hstore, hresolved, ?_, ?_, ?_, ?_, ?_⟩
  · rw [requiredPort_eq_missingPort_iff, value?_apply, hvalue, hheld]
    have hread : (Settings.configured values env .port).bind (Setting.read? .port) = none ↔
        Settings.configured values env .port = none := by
      cases hport : Settings.configured values env .port with
      | none => simp
      | some v => simpa [Option.isSome_iff_ne_none] using hvalid .port v hport
    have hdefault : Settings.given Settings.defaults .port = none := by decide
    rw [Option.or_eq_none_iff, hread, Settings.configured, hdefault]
    simp
  · rw [isEnabled_effectiveMount_iff, hresolved, hresolved]
  · intro raw hstrip hmount
    rw [← hresolved] at hstrip hmount
    exact text_effectiveMount hstrip hmount
  · exact fun x name => Settings.variableKey?_of_lowercase_eq
  · exact fun x y hne => c.resolved_concat_of_ne hne values env

section Overlap

/-- A file that gives a port and a host. -/
def portFile : Settings.File :=
  ⟨"devroute.toml", Text.utf8 "[server]\nport = 8080\nhost = \"::1\"\n"⟩

def portFileValues : List (Key × Value) :=
  [(["server", "port"], .integer 8080), (["server", "host"], .text "::1")]

/-- Variables of which the platform's is empty. -/
def portVariables : Environment := [("PORT", ""), ("DEVROUTE__SERVER__PORT", "9000")]

def portVariableValues : List (Key × Value) := [(["server", "port"], .text "9000")]

/-- An empty port of the platform gives way to the variable of the setting, which comes before the
file. The host of the file stays, and so does the default level. -/
theorem apply_load_portVariables :
    ∃ s, Settings.load (some portFile) portVariables = .ok s ∧
      (apply { entry := some "api" } s).value? .entry = some (.text "api") ∧
      (apply { entry := some "api" } s).value? .port = some (.integer 9000) ∧
      (apply { entry := some "api" } s).value? .host = some (.text "::1") ∧
      (apply { entry := some "api" } s).value? .level = some (.text "info") := by
  have hvariables : Settings.variableValues portVariables = portVariableValues := by
    decide +kernel
  have hplatform : ∀ x, Settings.platform portVariables x = none := by
    intro x
    cases x <;> rfl
  have hconfigured : ∀ x, Settings.configured portFileValues portVariables x =
      (Settings.given portVariableValues x).or
        ((Settings.given portFileValues x).or (Settings.given Settings.defaults x)) := by
    intro x
    rw [Settings.configured, hplatform, ← Settings.given_variableValues, hvariables,
      Option.none_or]
  have hfile : (some portFile).elim (.ok []) (Settings.fileValues ·.data) = .ok portFileValues := by
    decide +kernel
  have hplain : ∀ e ∈ portFileValues ++ Settings.variableValues portVariables,
      Settings.Plain e := by
    have hkeys : ∀ e ∈ portFileValues ++ portVariableValues,
        ∃ x ∈ Setting.all, e.1 = x.key ∧ e.2 ≠ .emptyTable := by decide
    rw [hvariables]
    intro e he
    obtain ⟨k, v⟩ := e
    obtain ⟨x, -, hkey, hv⟩ := hkeys (k, v) he
    obtain rfl : k = x.key := hkey
    exact Settings.plain_of_key hv
  have hvalid : ∀ x v, Settings.configured portFileValues portVariables x = some v →
      (x.read? v).isSome := by
    have hall : ∀ x ∈ Setting.all, ((Settings.given portVariableValues x).or
        ((Settings.given portFileValues x).or (Settings.given Settings.defaults x))).all
          fun v => (x.read? v).isSome := by decide +kernel
    intro x v hv
    have hx := hall x x.mem_all
    rw [← hconfigured, hv] at hx
    exact hx
  obtain ⟨s, hload, hvalue, -⟩ := apply_load { entry := some "api" } (some portFile) portVariables
    portFileValues hfile hplain hvalid
  simp only [resolved, hconfigured] at hvalue
  refine ⟨s, hload, ?_, ?_, ?_, ?_⟩
  · rw [hvalue]
    decide +kernel
  · rw [hvalue]
    decide +kernel
  · rw [hvalue]
    decide +kernel
  · rw [hvalue]
    decide +kernel

end Overlap

end CommandLine
end Gateway
