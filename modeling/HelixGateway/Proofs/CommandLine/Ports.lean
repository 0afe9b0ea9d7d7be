import HelixGateway.Proofs.CommandLine.Options

/-!
# The ports of a server

The ports that a command line asks for count before those of the settings, and a port that is not asked for is the one of the
settings. There is one exception: zero is a port like any other to those who ask for it, but it is taken for none.

Main statements: `run_of_parse`, `serves_iff`, `serves_asked_iff`.
-/

namespace HelixGateway.CommandLine

/-- A command ends by itself and has launched a server that listens at `listenPort`. A local database of the server is on
the host, at `databasePort`. -/
structure Serves (o : Outcome) (host : String) (databasePort listenPort : Int) : Prop where
  ending : o.ending = .returned 0
  launched : ∃ l, o.launched = some l ∧ l.port = listenPort ∧
    (l.config.source ≠ .cloud → l.config.helixUrl = "http://" ++ host ++ ":" ++ toString databasePort)

/-- Whether there is an address for a database in the cloud, where one is asked for. -/
def ServeRequest.HasAddress (r : ServeRequest) : Prop := r.source = .cloud → r.cloudUrl.getD "" ≠ ""

instance (r : ServeRequest) : Decidable r.HasAddress :=
  inferInstanceAs (Decidable (r.source = .cloud → r.cloudUrl.getD "" ≠ ""))

section Launch

variable {environment : Entries String} {disk : Disk} {settings : Settings} {argv : List String} {r : ServeRequest}

/-- A data source is read back from its text. -/
theorem ofText?_text (source : DataSource) : DataSource.ofText? source.text = some source := by
  cases source <;> decide

/-- What is asked for is launched, unless it has a database in the cloud without an address. -/
theorem run_of_parse (hs : Settings.load environment disk = .ok settings) (hp : parse argv = .ok (.serve r))
    (hc : r.HasAddress) :
    (run environment disk argv).ending = .returned 0 ∧
      (run environment disk argv).launched = some (r.launch ⟨r.source, settings, r.cloudUrl, r.databasePort, hc⟩) := by
  have hcloud : ¬(r.source = .cloud ∧ r.cloudUrl.getD "" = "") := fun h => hc h.1 h.2
  have hload : Config.load environment disk r.source.text r.cloudUrl r.databasePort =
      .ok ⟨r.source, settings, r.cloudUrl, r.databasePort, hc⟩ := by
    rw [Config.load, hs]
    simp only [ofText?_text, Config.make]
    exact dif_pos hc
  rw [run, hp]
  simp [perform, serve, hcloud, hload]

/-- Nothing is launched in front of a cloud without an address. -/
theorem launched_of_not_hasAddress (hp : parse argv = .ok (.serve r)) (hc : ¬r.HasAddress) :
    (run environment disk argv).launched = none := by
  obtain ⟨hcloud, hurl⟩ := Classical.not_imp.1 hc
  rw [run, hp]
  simp [perform, serve, hcloud, not_not.1 hurl]

/-- Addresses on one host are the same exactly if their ports are. -/
theorem url_inj {host : String} {m n : Int} :
    "http://" ++ host ++ ":" ++ toString m = "http://" ++ host ++ ":" ++ toString n ↔ m = n := by
  refine ⟨fun h => ?_, fun h => by rw [h]⟩
  have hl := congrArg String.toList h
  simp only [String.toList_append, List.append_right_inj] at hl
  exact Decimal.toString_injective (String.toList_injective hl)

/-- A server is at the ports that are given, zero not counted, or else at those of the settings. -/
theorem serves_iff (hs : Settings.load environment disk = .ok settings) (hp : parse argv = .ok (.serve r))
    {databasePort listenPort : Int} :
    Serves (run environment disk argv) settings.helixHost databasePort listenPort ↔
      r.HasAddress ∧ (r.source ≠ .cloud → (Config.givenPort r.databasePort).getD settings.helixPort = databasePort) ∧
        (Config.givenPort r.listenPort).getD settings.port = listenPort := by
  constructor
  · intro h
    obtain ⟨l, hl, hport, hurl⟩ := h.launched
    have hc : r.HasAddress := by
      by_contra hc
      cases (launched_of_not_hasAddress hp hc).symm.trans hl
    cases (run_of_parse hs hp hc).2.symm.trans hl
    exact ⟨hc, fun hne => url_inj.1 ((Config.helixUrl_local hne).symm.trans (hurl hne)), hport⟩
  · rintro ⟨hc, hdatabase, hlisten⟩
    obtain ⟨hending, hlaunched⟩ := run_of_parse hs hp hc
    refine ⟨hending, _, hlaunched, hlisten, fun hne => (Config.helixUrl_local hne).trans ?_⟩
    exact url_inj.2 (hdatabase hne)

/-- A port that is given counts if it is not zero; zero does as well if the other one is zero too. -/
theorem getD_givenPort_iff {given : Option Int} {other : Int} :
    (Config.givenPort given).getD other = given.getD other ↔ given ≠ some 0 ∨ other = 0 := by
  cases given with
  | none => simp [Config.givenPort]
  | some n =>
    by_cases h : n = 0
    · simp [Config.givenPort, Option.filter_some, h]
    · simp [Config.givenPort, Option.filter_some, h]

/-- No port is asked for exactly if no value is given for it. -/
theorem askedPort?_eq_none_iff {flag : Flag} (hf : flag ∈ portFlags) (hp : parse argv = .ok (.serve r)) :
    askedPort? flag argv = none ↔ valuesGiven flag argv = [] := by
  rw [askedPort?, Option.bind_eq_none_iff]
  constructor
  · intro h
    by_contra hne
    have hl := List.getLast?_eq_some_getLast hne
    have hi := (setsPort_of_parse hf hp).integers _ (List.getLast_mem hne)
    rw [h _ hl] at hi
    cases hi
  · intro h
    simp [h]

/-- Where the settings can be loaded, a line that can be read as one of a server comes to the following.

1. An option of a port with an integer behind it, which no later option sets again, asks for this integer, whatever else is on
   the line and whatever integer it is.
2. A port is not asked for if and only if the line gives no value for it.
3. One server is launched, at the ports that are asked for, save zero, or else at those of the settings; only a database in the
   cloud without an address is refused.
4. So the ports that are asked for always count before those of the settings, if and only if zero is not asked for, or is the
   port of the settings. The port of the database concerns local databases alone. -/
theorem serves_asked_iff (hs : Settings.load environment disk = .ok settings) (hp : parse argv = .ok (.serve r)) :
    (∀ flag ∈ portFlags, ∀ name, (name, flag) ∈ spellings (some .serve) → ∀ (n : Int) (a b : List String),
      serverArguments argv = a ++ name :: toString n :: b → "--" ∉ a → valuesOf flag (classify (some .serve) b) = [] →
      askedPort? flag argv = some n) ∧
    (∀ flag ∈ portFlags, askedPort? flag argv = none ↔ valuesGiven flag argv = []) ∧
    (r.HasAddress → Serves (run environment disk argv) settings.helixHost
      (((askedPort? .databasePort argv).filter (· ≠ 0)).getD settings.helixPort)
      (((askedPort? .listenPort argv).filter (· ≠ 0)).getD settings.port)) ∧
    (Serves (run environment disk argv) settings.helixHost ((askedPort? .databasePort argv).getD settings.helixPort)
        ((askedPort? .listenPort argv).getD settings.port) ↔
      r.HasAddress ∧ (r.source ≠ .cloud → askedPort? .databasePort argv ≠ some 0 ∨ settings.helixPort = 0) ∧
        (askedPort? .listenPort argv ≠ some 0 ∨ settings.port = 0)) := by
  have hdatabase : r.port? .databasePort = askedPort? .databasePort argv := port?_of_parse (by decide) hp
  have hlisten : r.port? .listenPort = askedPort? .listenPort argv := port?_of_parse (by decide) hp
  refine ⟨fun flag hf name hname n a b hargs ha hb => askedPort?_of_written hp hf hname hargs ha hb,
    fun flag hf => askedPort?_eq_none_iff hf hp, fun hc => ?_, ?_⟩
  · rw [serves_iff hs hp, ← hdatabase, ← hlisten]
    exact ⟨hc, fun _ => rfl, rfl⟩
  · rw [serves_iff hs hp, ← hdatabase, ← hlisten]
    exact and_congr_right fun _ => and_congr (imp_congr_right fun _ => getD_givenPort_iff) getD_givenPort_iff

end Launch

/-- Settings that are all left to themselves, but for the ports. -/
def portSettings (helixPort port : Int) : Settings :=
  ⟨none, "localhost", helixPort, "helixdb-cfg/schema.hx", "helixdb-cfg/queries.hx", "0.0.0.0", port, ["*"]⟩

/-- The port of the database is asked for, the other one is the one of the environment. -/
theorem serves_asked_database :
    let environment := [("HELIX_PORT", "6970"), ("PORT", "8081")]
    let argv := ["serve", "--log-level", "DEBUG", "-p", "7000", "local-file"]
    askedPort? .databasePort argv = some 7000 ∧ askedPort? .listenPort argv = none ∧
      Serves (run environment (.empty []) argv) "localhost" 7000 8081 := by
  intro environment argv
  have hs : Settings.load environment (.empty []) = .ok (portSettings 6970 8081) := by
    rw [Settings.load, Settings.fileVariables_empty]
    rfl
  have hp : parse argv = .ok (.serve { source := .localFiles, databasePort := some 7000, verbosity := .debug }) := by
    decide +kernel
  obtain ⟨hwritten, hnone, hserves, -⟩ := serves_asked_iff hs hp
  have hdatabase : askedPort? .databasePort argv = some 7000 :=
    hwritten .databasePort (by decide) "-p" (by decide) 7000 ["--log-level", "DEBUG"] ["local-file"] rfl (by decide) (by decide)
  have hlisten : askedPort? .listenPort argv = none := (hnone .listenPort (by decide)).2 (by decide)
  have hserved := hserves (by decide)
  rw [hdatabase, hlisten] at hserved
  exact ⟨hdatabase, hlisten, hserved⟩

/-- Zero is asked for twice, and the server is at the ports of the settings. -/
theorem zero_not_served :
    let argv := ["serve", "--port", "0", "--listen-port", "0"]
    askedPort? .databasePort argv = some 0 ∧ askedPort? .listenPort argv = some 0 ∧
      Serves (run [] (.empty []) argv) "localhost" 6969 8080 ∧ ¬Serves (run [] (.empty []) argv) "localhost" 0 0 := by
  intro argv
  have hs : Settings.load [] (.empty []) = .ok (portSettings 6969 8080) := by
    rw [Settings.load, Settings.fileVariables_empty]
    rfl
  have hp : parse argv = .ok (.serve { databasePort := some 0, listenPort := some 0 }) := by
    decide +kernel
  refine ⟨by decide, by decide, (serves_iff hs hp).2 (by decide), ?_⟩
  intro h
  obtain ⟨-, -, hlisten⟩ := (serves_iff hs hp).1 h
  exact absurd hlisten (by decide)

end HelixGateway.CommandLine
