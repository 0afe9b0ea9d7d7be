import HelixGateway.Proofs.Service.Confinement
import HelixGateway.Proofs.Settings
import Mathlib.Data.List.Basic

/-!
# Who is sent the API key

A service is configured once and then answers one request after the other. Whatever it is asked for in between and whatever
the database answers, all requests that it sends carry the same key: in front of a database in the cloud the text that the
process has for its API key, unless this is blank, and otherwise none.

Main statement: `apiKey_of_run`.
-/

namespace HelixGateway

/-! ## Requests that are made of orders -/

/-- Requests carry the key of the client that they are made by. -/
theorem Client.Carries.apiKey {c : Client} {orders : List Order} {requests : List DatabaseRequest} {refusal : Option Fault}
    (h : c.Carries orders requests refusal) : ∀ q ∈ requests, q.apiKey = c.sentKey := by
  induction h with
  | nil => exact List.forall_mem_nil _
  | sent hr _ ih =>
    obtain ⟨url, text, -, -, -, -, rfl⟩ := prepare_eq_ok hr
    exact List.forall_mem_cons.2 ⟨rfl, ih⟩
  | refused => exact List.forall_mem_nil _

namespace Config

/-- The key that requests carry under a configuration. -/
theorem sentKey_of_load {environment : Entries String} {disk : Disk} {source : String} {cloudUrl : Option String}
    {helixPort : Option Int} {config : Config} (h : load environment disk source cloudUrl helixPort = .ok config) :
    (Client.mk config.helixUrl config.apiKey).sentKey =
      if config.source = .cloud then
        (Settings.declaredKey environment disk).filter fun key => !Text.isBlankText key.toList
      else none := by
  unfold load at h
  split at h
  · cases h
  · rename_i settings hs
    split at h
    · cases h
    · rename_i dataSource _
      unfold make at h
      split at h
      · cases h
        rw [Client.sentKey, apiKey, Settings.apiKey_of_load hs]
        split
        · exact Settings.filter_usableKey _
        · rfl
      · cases h

end Config

namespace Service

/-- Answers requests one after the other, each with the files that are there then. A request that ends with a fault has no
influence on the next one. -/
def run (config : Config) (b : Backend) : List (Disk × WebRequest) → Trace → Trace
  | [], t => t
  | (disk, r) :: steps, t => run config b steps ((Service.mk config disk).respond r b t).2

/-- One request adds requests that carry the key of the service. -/
theorem apiKey_of_respond (s : Service) (r : WebRequest) (b : Backend) (t : Trace) :
    ∃ requests, (s.respond r b t).2.sent = t.sent ++ requests ∧ ∀ q ∈ requests, q.apiKey = s.client.sentKey := by
  obtain ⟨orders, ⟨requests, refusal, hc, hs, -⟩, -⟩ := obeys_respond s r b t
  exact ⟨requests, hs, hc.apiKey⟩

/-- A run adds requests that all carry the key of its configuration. -/
theorem sentKey_of_run (config : Config) (b : Backend) (steps : List (Disk × WebRequest)) (t : Trace) :
    ∃ requests, (run config b steps t).sent = t.sent ++ requests ∧
      ∀ q ∈ requests, q.apiKey = (Client.mk config.helixUrl config.apiKey).sentKey := by
  induction steps generalizing t with
  | nil => exact ⟨[], (List.append_nil _).symm, List.forall_mem_nil _⟩
  | cons step steps ih =>
    obtain ⟨disk, r⟩ := step
    obtain ⟨first, hfirst, hkey⟩ := apiKey_of_respond ⟨config, disk⟩ r b t
    obtain ⟨rest, hrest, hkeys⟩ := ih ((Service.mk config disk).respond r b t).2
    refine ⟨first ++ rest, ?_, fun q hq => ?_⟩
    · rw [run, hrest, hfirst, List.append_assoc]
    · exact (List.mem_append.1 hq).elim (hkey q) (hkeys q)

/-- Every request to the database carries the text that the process has for its API key, if the database is in the cloud and
the text is not blank, and otherwise none: under every configuration that can be loaded, and in every run. -/
theorem apiKey_of_run {environment : Entries String} {disk : Disk} {source : String} {cloudUrl : Option String}
    {helixPort : Option Int} {config : Config} (h : Config.load environment disk source cloudUrl helixPort = .ok config)
    (b : Backend) (steps : List (Disk × WebRequest)) (t : Trace) :
    ∃ requests, (run config b steps t).sent = t.sent ++ requests ∧ ∀ q ∈ requests, q.apiKey =
      if config.source = .cloud then
        (Settings.declaredKey environment disk).filter fun key => !Text.isBlankText key.toList
      else none := by
  rw [← Config.sentKey_of_load h]
  exact sentKey_of_run config b steps t

/-! ## A key with blanks around it -/

/-- A configuration in front of a database in the cloud, with a key between blanks. -/
def keyConfig : Config where
  source := .cloud
  settings := ⟨some " k ", "localhost", 6969, "helixdb-cfg/schema.hx", "helixdb-cfg/queries.hx", "0.0.0.0", 8080, ["*"]⟩
  cloudUrl := some "http://helix.test"
  helixPort := none
  hasUrl := fun _ => by decide

theorem load_keyConfig :
    Config.load [("HELIX_API_KEY", " k ")] (.empty []) "cloud" (some "http://helix.test") none = .ok keyConfig := by
  have hs : Settings.load [("HELIX_API_KEY", " k ")] (.empty []) = .ok keyConfig.settings := by
    rw [Settings.load, Settings.fileVariables_empty]
    rfl
  rw [Config.load, hs]
  rfl

/-- The blanks are sent too, for the schema as well as for an inspection. -/
theorem apiKey_of_run_keyConfig :
    let steps := [(Disk.empty [], plainRequest "/api/schema" ""), (Disk.empty [], plainRequest "/node-details" "id=7")]
    ∃ q₁ q₂, (run keyConfig ⟨fun _ _ => .unreachable ""⟩ steps .empty).sent = [q₁, q₂] ∧
      q₁.apiKey = some " k " ∧ q₂.apiKey = some " k " := by
  intro steps
  obtain ⟨requests, hs, hk⟩ := apiKey_of_run load_keyConfig ⟨fun _ _ => .unreachable ""⟩ steps .empty
  have hl : requests.length = 2 := by
    have hr : (run keyConfig ⟨fun _ _ => .unreachable ""⟩ steps .empty).sent.length = 2 := by decide +kernel
    rwa [hs] at hr
  obtain ⟨q₁, q₂, rfl⟩ := List.length_eq_two.1 hl
  have hkey : ∀ q ∈ [q₁, q₂], q.apiKey = some " k " := hk
  exact ⟨q₁, q₂, hs, hkey q₁ (by simp), hkey q₂ (by simp)⟩

end Service

end HelixGateway
