import HelixGateway.Proofs.Introspection
import HelixGateway.Settings

/-!
# Where settings come from

The environment and the file of variables are two sources of which the environment counts first. A variable that the file
names without a value counts as not set. So the API key of a process is the text that its environment has for it, or else the
one that the file binds, unless this text is blank.

Main statements: `get?_ofSource`, `apiKey_of_load`.
-/

namespace HelixGateway

/-! ## Bindings of a file -/

namespace EnvFile

/-- Resolving the bindings of a file makes no key repeat. -/
theorem nodup_keys_resolve {environment : Entries String} {known : Entries (Option String)} (h : known.keys.Nodup)
    (bs : List (List Char × Option (List Char))) : (resolve environment known bs).keys.Nodup := by
  induction bs generalizing known with
  | nil => exact h
  | cons b bs ih => exact ih (Entries.nodup_keys_insert h _ _)

/-- A file binds each variable once. -/
theorem nodup_keys_bindings (environment : Entries String) (s : List Char) : (bindings environment s).keys.Nodup :=
  nodup_keys_resolve (show (Entries.keys ([] : Entries (Option String))).Nodup from List.nodup_nil) _

end EnvFile

namespace Settings

/-! ## One source -/

/-- A variable that is named without a value is not bound elsewhere. -/
def BindsOnce (bindings : Entries (Option String)) : Prop := bindings.Pairwise fun a b => a.2 = none → a.1 ≠ b.1

theorem bindsOnce_of_nodup {bindings : Entries (Option String)} (h : bindings.keys.Nodup) : BindsOnce bindings := by
  refine List.Pairwise.imp ?_ (List.pairwise_map.1 h)
  exact fun hne _ => hne

/-- In an environment every name has a value, so none is without one and bound again. -/
theorem bindsOnce_environment (environment : Entries String) :
    BindsOnce (environment.map fun e => (e.1, some e.2)) :=
  List.pairwise_map.2 (List.pairwise_of_forall fun _ _ h => absurd h (Option.some_ne_none _))

/-- The texts of a source, under all names but that of the origins. -/
theorem get?_plain {bindings : Entries (Option String)} (h : BindsOnce bindings) {k : String} (hk : k ≠ originsKey) :
    Entries.get? (bindings.filterMap fun (k, v) => v.bind fun s => if k = originsKey then none else some (k, Json.str s)) k =
      (bindings.get? k).join.map .str := by
  induction bindings with
  | nil => rfl
  | cons e bindings ih =>
    obtain ⟨k', v⟩ := e
    obtain ⟨he, hb⟩ := List.pairwise_cons.1 h
    have ih := ih hb
    by_cases hkey : k' = k
    · subst hkey
      cases v with
      | none =>
        have hn : Entries.get? bindings k' = none := by
          refine Entries.get?_eq_none_iff.2 fun hm => ?_
          obtain ⟨e, hm, hke⟩ := List.mem_map.1 hm
          exact he e hm rfl hke.symm
        simp [Entries.get?, ih, hn]
      | some s => simp [Entries.get?, hk]
    · cases v with
      | none => simp [Entries.get?, hkey, ih]
      | some s =>
        by_cases ho : k' = originsKey
        · simp [Entries.get?, ho, Ne.symm hk, ih]
        · simp [Entries.get?, hkey, ho, ih]

/-- A source has a text for a setting where it binds its name to one; the origins alone are read. -/
theorem get?_ofSource {source : SettingsSource} {bindings : Entries (Option String)} (hb : BindsOnce bindings)
    {values : Entries Json} (h : ofSource source bindings = .ok values) {k : String} (hk : k ≠ originsKey) :
    Entries.get? values k = (bindings.get? k).join.map .str := by
  rw [← get?_plain hb hk]
  unfold ofSource at h
  extract_lets plain at h
  split at h
  · rw [← Except.ok.inj h]
  · split at h
    · cases h
    · rw [← Except.ok.inj h]
    · rw [← Except.ok.inj h, Entries.get?, if_neg (Ne.symm hk)]

/-! ## The API key -/

/-- The name of the API key. -/
def apiKeyName : String := "HELIX_API_KEY"

/-- The text that a process has for its API key: that of the environment, or else the one that the file binds. -/
def declaredKey (environment : Entries String) (disk : Disk) : Option String :=
  (environment.get? apiKeyName).or
    ((fileVariables environment disk).toOption.bind fun bindings => (bindings.get? apiKeyName).join)

/-- A key that is not blank is not empty either. -/
theorem filter_usableKey (text : Option String) :
    (text.bind usableKey).filter (· ≠ "") = text.filter fun key => !Text.isBlankText key.toList := by
  cases text with
  | none => rfl
  | some key =>
    rw [Option.bind_some, usableKey]
    by_cases hb : Text.isBlankText key.toList = true
    · simp [hb, Option.filter_some]
    · have hne : key ≠ "" := by
        rintro rfl
        exact hb rfl
      simp [hb, hne, Option.filter_some]

/-- A text that is there passes the check, and so does one that is missing. -/
theorem optional_nullable_text {fields : Entries Json} {k : String} {text : Option String}
    (h : fields.get? k = text.map .str) :
    Json.optional (Json.nullable Json.checkText) fields [k] none = .ok text := by
  cases text with
  | none => exact Json.optional_of_missing fun j hj => List.mem_singleton.1 hj ▸ h
  | some s => exact Json.optional_of_first h rfl

/-- The key of the settings is the text under its name, if that can be used. -/
theorem apiKey_of_check {values : Entries Json} {settings : Settings} {text : Option String}
    (hv : Entries.get? values apiKeyName = text.map .str) (h : check values = .ok settings) :
    settings.apiKey = text.bind usableKey := by
  unfold check at h
  obtain ⟨⟨key, helixHost, helixPort, schemaPath, queriesPath, host, port, origins⟩, hb, rfl⟩ := map_eq_ok h
  have hkey := (optional_nullable_text hv).symm.trans (Checked.both_eq_ok_iff.1 hb).1
  rw [Except.ok.inj hkey]

/-- The API key is the text that the process has for it, unless that is blank. -/
theorem apiKey_of_load {environment : Entries String} {disk : Disk} {settings : Settings}
    (h : load environment disk = .ok settings) : settings.apiKey = (declaredKey environment disk).bind usableKey := by
  unfold load at h
  split at h
  · cases h
  · rename_i bindings hf
    split at h
    · cases h
    · rename_i first h₁
      split at h
      · cases h
      · rename_i second h₂
        refine apiKey_of_check ?_ (mapError_eq_ok h)
        have hfile : BindsOnce bindings := by
          obtain ⟨s, -, rfl⟩ := map_eq_ok (mapError_eq_ok hf)
          exact bindsOnce_of_nodup (EnvFile.nodup_keys_bindings environment s)
        rw [Entries.get?_append, get?_ofSource (bindsOnce_environment environment) h₁ (by decide),
          get?_ofSource hfile h₂ (by decide), Entries.get?_mapValues, declaredKey, hf, ← Option.map_or]
        cases environment.get? apiKeyName <;> rfl

end Settings

end HelixGateway
