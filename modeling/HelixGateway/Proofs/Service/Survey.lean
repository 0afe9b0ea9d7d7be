import HelixGateway.Proofs.Json.IntegerText
import HelixGateway.Proofs.Service.Answer
import HelixGateway.Proofs.Service.Confinement

/-!
# Surveys of nodes

A survey is an inspection that tells nodes, up to a limit and with a label. A limit that is no integer or is negative is
refused, and so is a survey that has to have a label and has none. What is not refused is passed on in one request: the limit
as a plain decimal, unless it is beyond the greatest one, the label as it is, and nothing else. Only an address that is too
long is not sent.

Main statements: `Survey.parameters_eq_ok_iff`, `respond_survey`.
-/

namespace HelixGateway

namespace Service

variable {s : Service} {r : WebRequest}

/-- A limit that is spelled as a number is asked for as that number. -/
theorem AsksLimit.of_spells {text : String} {n : Int} (h : r.parameters.get? "limit" = some text)
    (hs : Json.SpellsInteger text.toList n) (hl : text.length ≤ Decimal.maxDigits) (h0 : 0 ≤ n) : AsksLimit r (some n) :=
  .read h (Json.checkInteger_of_spells hs hl) h0

/-! ## Two surveys -/

/-- The inspections that tell nodes up to a limit. -/
inductive Survey where
  | nodesEdges
  | nodesByLabel

namespace Survey

def route : Survey → Route
  | nodesEdges => .nodesEdges
  | nodesByLabel => .nodesByLabel

def endpoint : Survey → String
  | nodesEdges => "nodes-edges"
  | nodesByLabel => "nodes-by-label"

/-- The name of the parameter that holds the label. -/
def labelName : Survey → String
  | nodesEdges => "node_label"
  | nodesByLabel => "label"

/-- Whether a survey has to have a label. -/
def needsLabel : Survey → Bool
  | nodesEdges => false
  | nodesByLabel => true

/-- The label that a request names. -/
def label (l : Survey) (r : WebRequest) : Option String := r.parameters.get? l.labelName

/-- The parameters of a survey, checked. -/
def parameters (l : Survey) (r : WebRequest) : Checked Passthrough :=
  match l with
  | nodesEdges => nodesEdgesParameters r
  | nodesByLabel => nodesByLabelParameters r

/-- What is passed on for a limit and a label. -/
def texts (l : Survey) (limit : Option Int) (label : Option String) : Passthrough.Texts :=
  ⟨Passthrough.validLimit limit, none, [(l.labelName, label)]⟩

/-- The address that a survey is read at. -/
def address (l : Survey) (s : Service) (limit : Option Int) (label : Option String) : String :=
  s.client.resolve ((l.texts limit label).passthrough.toUrl l.endpoint)

/-- A request is refused for a limit that is no integer or is negative, or for want of a label. -/
def Refuses (l : Survey) (r : WebRequest) : Prop :=
  (∃ text, r.parameters.get? "limit" = some text ∧ ∀ n, (Json.str text).checkInteger = .ok n → n < 0) ∨
    (l.needsLabel = true ∧ l.label r = none)

variable {l : Survey}

/-- The parameters of a survey can be written. -/
theorem isWritable_of_parameters {p : Passthrough} (h : l.parameters r = .ok p) : p.isWritable = true := by
  cases l with
  | nodesEdges => exact isWritable_of_nodesEdges h
  | nodesByLabel => exact isWritable_of_nodesByLabel h

/-- The parameters pass their checks with a limit that is asked for, and with a label if there has to be one. -/
theorem parameters_eq_ok_iff {p : Passthrough} :
    l.parameters r = .ok p ↔ ∃ limit, AsksLimit r limit ∧ (l.needsLabel = true → l.label r ≠ none) ∧
      p = (l.texts limit (l.label r)).passthrough := by
  cases l with
  | nodesEdges =>
    rw [parameters, nodesEdgesParameters, optional_text]
    constructor
    · intro h
      obtain ⟨⟨limit, label⟩, hb, rfl⟩ := map_eq_ok h
      obtain ⟨hl, ht⟩ := Checked.both_eq_ok_iff.1 hb
      cases ht
      exact ⟨limit, limitOf_eq_ok_iff.1 hl, nofun, rfl⟩
    · rintro ⟨limit, ha, -, rfl⟩
      rw [limitOf_eq_ok_iff.2 ha]
      rfl
  | nodesByLabel =>
    rw [parameters, nodesByLabelParameters]
    constructor
    · intro h
      obtain ⟨⟨label, limit⟩, hb, rfl⟩ := map_eq_ok h
      obtain ⟨ht, hl⟩ := Checked.both_eq_ok_iff.1 hb
      have hlabel : nodesByLabel.label r = some label := textOf_eq_ok_iff.1 ht
      rw [hlabel]
      exact ⟨limit, limitOf_eq_ok_iff.1 hl, nofun, rfl⟩
    · rintro ⟨limit, ha, hn, rfl⟩
      obtain ⟨label, hlabel⟩ := Option.ne_none_iff_exists'.1 (hn rfl)
      have ht : textOf r "label" = .ok label := textOf_eq_ok_iff.2 hlabel
      rw [ht, limitOf_eq_ok_iff.2 ha, hlabel]
      rfl

/-- A survey refuses a request exactly if no limit is asked for, or no label where one is needed. -/
theorem refuses_iff : l.Refuses r ↔ ¬∃ limit, AsksLimit r limit ∧ (l.needsLabel = true → l.label r ≠ none) := by
  constructor
  · rintro (⟨text, ht, hn⟩ | ⟨hneed, hnone⟩) ⟨limit, ha, hlabel⟩
    · cases ha with
      | absent h =>
        rw [ht] at h
        cases h
      | read h hread h0 =>
        rw [ht] at h
        cases h
        exact absurd (hn _ hread) (by omega)
    · exact hlabel hneed hnone
  · intro h
    by_contra hr
    rw [Refuses, not_or, not_and] at hr
    obtain ⟨hlimit, hlabel⟩ := hr
    refine h ?_
    cases hl : r.parameters.get? "limit" with
    | none => exact ⟨none, .absent hl, hlabel⟩
    | some text =>
      have hread : ∃ n, (Json.str text).checkInteger = .ok n ∧ 0 ≤ n := by
        by_contra hn
        refine hlimit ⟨text, hl, fun n hok => ?_⟩
        by_contra hneg
        exact hn ⟨n, hok, by omega⟩
      obtain ⟨n, hok, h0⟩ := hread
      exact ⟨some n, .read hl hok h0, hlabel⟩

theorem methods_route (l : Survey) : l.route.methods = ["GET"] := by
  cases l with
  | nodesEdges => rfl
  | nodesByLabel => rfl

/-- The endpoint of a survey is made of form characters. -/
theorem isFormChar_endpoint (l : Survey) : ∀ x ∈ l.endpoint.toList, Text.Percent.isFormChar x = true ∧ x ≠ '?' := by
  cases l with
  | nodesEdges => decide
  | nodesByLabel => decide

/-- The route of a survey answers with its inspection. -/
theorem answerRoute_route (s : Service) (r : WebRequest) (l : Survey) :
    s.answerRoute r l.route = s.answerInspection l.endpoint (l.parameters r) emptyGraph := by
  cases l with
  | nodesEdges => rfl
  | nodesByLabel => rfl

/-- What is asked for is the limit, unless it is too large, and the label. -/
theorem asked_texts (l : Survey) (limit : Option Int) (label : Option String) :
    (l.texts limit label).asked = ((limit.filter (· ≤ 300)).map fun n => ("limit", toString n)).toList ++
      (label.map fun v => (l.labelName, v)).toList := by
  cases label with
  | none => rfl
  | some v => rfl

end Survey

/-! ## Requests for a survey -/

section Requests

variable {l : Survey} (hp : Route.ofPath? r.path = some l.route)

include hp

/-- By another method than the one of a survey nothing is sent. -/
theorem sent_of_method (hm : r.method ≠ "GET") (b : Backend) (t : Trace) : (s.respond r b t).2.sent = t.sent := by
  obtain ⟨orders, ⟨requests, refusal, hc, hs, -⟩, ha, -⟩ := obeys_respond s r b t
  have hr : routeOf? r = none := by
    have hn : l.route.methods.contains r.method = false := by
      rw [l.methods_route]
      simpa using hm
    rw [routeOf?, hp, Option.filter_some, hn]
    rfl
  rw [Allowed, hr] at ha
  have ho : orders = [] := ha
  subst ho
  cases hc
  rw [hs, List.append_nil]

variable (hm : r.method = "GET")

include hm

theorem dispatch_survey : s.dispatch r = s.answerInspection l.endpoint (l.parameters r) emptyGraph := by
  rw [dispatch_of_route hp (by rw [hm, l.methods_route]; exact List.mem_singleton.2 rfl), l.answerRoute_route]

/-- A request that is refused is answered with status 422, and nothing is sent. -/
theorem respond_survey_refused (h : l.Refuses r) (b : Backend) (t : Trace) :
    ∃ headers issues, s.respond r b t = (.ok ⟨422, headers, .issues issues⟩, t) := by
  -- what is refused has no checked parameters
  cases hps : l.parameters r with
  | ok p =>
    obtain ⟨limit, ha, hn, -⟩ := Survey.parameters_eq_ok_iff.1 hps
    exact absurd ⟨limit, ha, hn⟩ (Survey.refuses_iff.1 h)
  | error issues =>
    have hd : s.dispatch r b t = (.ok ⟨422, [], .issues (issues.map (Issue.under (.name "query")))⟩, t) := by
      rw [dispatch_survey hp hm, hps]
      rfl
    obtain ⟨headers, hr⟩ := respond_of_dispatch_ok (hm ▸ by decide) hd
    exact ⟨_, _, hr⟩

/-- A request whose parameters pass the checks is one inspection. -/
theorem dispatch_of_parameters {p : Passthrough} (hps : l.parameters r = .ok p) :
    s.dispatch r = s.inspect l.endpoint p emptyGraph := by
  rw [dispatch_survey hp hm, hps, answerInspection]

/-- What cannot be put together is not sent. -/
theorem respond_of_error {p : Passthrough} (hps : l.parameters r = .ok p) {e : Fault}
    (h : s.client.prepare "GET" (p.toUrl l.endpoint) .null = .error e) (b : Backend) (t : Trace) :
    (s.respond r b t).2 = t := by
  rw [(respond_of_dispatch (hm ▸ by decide) b t).1, dispatch_of_parameters hp hm hps, run_inspect_of_error
    (Survey.isWritable_of_parameters hps) h]

/-- An inspection that can be reached sends the one request for it. -/
theorem sent_of_reaches {p : Passthrough} (hps : l.parameters r = .ok p) {url : Url}
    (hr : s.client.Reaches (p.toUrl l.endpoint) url) (hk : s.client.hasPlainKey = true) (b : Backend) (t : Trace) :
    (s.respond r b t).2.sent = t.sent ++ [s.client.requestFor "GET" (p.toUrl l.endpoint) url none] := by
  obtain ⟨logs, hrun⟩ := run_inspect (Survey.isWritable_of_parameters hps) hr hk emptyGraph b t
  rw [(respond_of_dispatch (hm ▸ by decide) b t).1, dispatch_of_parameters hp hm hps, hrun, trace_answerOutcome]

/-- What passes the checks is sent once, and its query is made of the parameters. -/
theorem sent_of_parameters {p : Passthrough} (hps : l.parameters r = .ok p) {base : Url} (hb : s.client.Reaches "" base)
    (hq : base.query = none) (hf : base.fragment = none) (hk : s.client.hasPlainKey = true)
    (h : (s.client.resolve (p.toUrl l.endpoint)).length ≤ Url.maxLength) (b : Backend) (t : Trace) :
    ∃ request, (s.respond r b t).2.sent = t.sent ++ [request] ∧ request.method = "GET" ∧
      request.resolved = s.client.resolve (p.toUrl l.endpoint) ∧
      request.url.query.getD [] = Text.Percent.encodePairs p.pairs := by
  obtain ⟨url, hr⟩ := Client.reaches_toUrl hb (fun x hx => (l.isFormChar_endpoint x hx).1) h
  have hget : String.ofList ("GET".toList.flatMap Text.upper) = "GET" := by decide
  exact ⟨_, sent_of_reaches hp hm hps hr hk b t, hget, rfl,
    Client.query_of_reaches_toUrl hb hq hf l.isFormChar_endpoint hr⟩

end Requests

/-- What a request for a survey makes the service send.

1. By another method than GET nothing is sent.
2. A limit that is no integer or is negative is refused with status 422, and so is the want of a label. Nothing is sent.
3. Otherwise one GET is sent, and its query is read back as the limit, in decimal and unless it is above 300, and the label
as the request has it; or the address would be too long, and nothing is sent.

The database has an address that requests can be sent to, without query and fragment, and the key can stand in a header. -/
theorem respond_survey (s : Service) (r : WebRequest) (l : Survey) (hp : Route.ofPath? r.path = some l.route) (b : Backend)
    (t : Trace) :
    (r.method ≠ "GET" → (s.respond r b t).2.sent = t.sent) ∧
    (r.method = "GET" → l.Refuses r →
      ∃ headers issues, s.respond r b t = (.ok ⟨422, headers, .issues issues⟩, t)) ∧
    ∀ base, s.client.Reaches "" base → base.query = none → base.fragment = none → s.client.hasPlainKey = true →
      r.method = "GET" → ¬ l.Refuses r →
        ∃ limit, AsksLimit r limit ∧
          ((l.address s limit (l.label r)).length ≤ Url.maxLength →
            ∃ request, (s.respond r b t).2.sent = t.sent ++ [request] ∧ request.method = "GET" ∧
              request.resolved = l.address s limit (l.label r) ∧
              Passthrough.readTexts (request.url.query.getD []) =
                ((limit.filter (· ≤ 300)).map fun n => ("limit", toString n)).toList ++
                  ((l.label r).map fun v => (l.labelName, v)).toList) ∧
          (Url.maxLength < (l.address s limit (l.label r)).length → (s.respond r b t).2.sent = t.sent) := by
  refine ⟨fun hm => sent_of_method hp hm b t, fun hm hr => respond_survey_refused hp hm hr b t,
    fun base hb hq hf hk hm hr => ?_⟩
  obtain ⟨limit, ha, hn⟩ := not_not.1 (mt Survey.refuses_iff.2 hr)
  have hps : l.parameters r = .ok (l.texts limit (l.label r)).passthrough :=
    Survey.parameters_eq_ok_iff.2 ⟨limit, ha, hn, rfl⟩
  refine ⟨limit, ha, fun hl => ?_, fun hl => by rw [respond_of_error hp hm hps (Client.prepare_of_long hl _ _)]⟩
  obtain ⟨request, hs, hget, hresolved, hquery⟩ := sent_of_parameters hp hm hps hb hq hf hk hl b t
  refine ⟨request, hs, hget, hresolved, ?_⟩
  rw [hquery, Passthrough.Texts.pairs_passthrough, Passthrough.readTexts_encodePairs, l.asked_texts]

/-- A label with a mark in it and a limit with a sign, zeros in front and a fraction. -/
def paddedRequest : WebRequest := plainRequest "/nodes-by-label" "label=a%26b&limit=%2B007.0"

/-- The limit is asked for with blanks and a sign around it. -/
theorem asksLimit_paddedRequest : AsksLimit paddedRequest (some 7) := by
  have hlimit : paddedRequest.parameters.get? "limit" = some "+007.0" := by decide +kernel
  have hspells : Json.SpellsInteger ([] ++ (['+'] ++ ("007".toList ++ ".0".toList) ++ []))
      (Decimal.signed false (Decimal.placeValue "007".toList)) :=
    .intro nofun .plus (Decimal.isDigits_iff.2 (by decide)) (.zeros (by decide) (by decide)) nofun
  exact .of_spells hlimit hspells (by decide) (by decide)

/-- The request is passed on with the limit in digits and the label encoded. -/
theorem respond_survey_padded :
    ∃ request, ((fileService "").respond paddedRequest (replying "[7]") .empty).2.sent = [request] ∧ request.method = "GET" ∧
      Passthrough.readTexts (request.url.query.getD []) = [("limit", "7"), ("label", "a&b")] := by
  have hlabel : Survey.nodesByLabel.label paddedRequest = some "a&b" := by decide +kernel
  have hr : ¬ Survey.nodesByLabel.Refuses paddedRequest := fun h =>
    Survey.refuses_iff.1 h ⟨_, asksLimit_paddedRequest, fun _ hn => by rw [hlabel] at hn; cases hn⟩
  obtain ⟨limit, ha, hsent, -⟩ := (respond_survey (fileService "") paddedRequest .nodesByLabel (by decide)
    (replying "[7]") .empty).2.2 _ (reaches_fileService "") rfl rfl rfl rfl hr
  rw [ha.unique asksLimit_paddedRequest, hlabel] at hsent
  obtain ⟨request, hs, hget, -, hquery⟩ := hsent (by decide +kernel)
  exact ⟨request, hs, hget, hquery⟩

/-! ## Surveys that are not passed on as they are asked for -/

/-- A request for the nodes with a label that is written as it is. -/
def labelRequest (label : List Char) : WebRequest := plainRequest "/nodes-by-label" (String.ofList ("label=".toList ++ label))

/-- A label of plain characters is read as it is written. -/
theorem parameters_labelRequest {label : List Char} (h : ∀ c ∈ label, Text.isAscii c = true ∧ c ∉ ['%', '+', '&']) :
    (labelRequest label).parameters = .ofEntries [("label", String.ofList label)] := by
  have hquery : (labelRequest label).query = "label".toList ++ '=' :: label := String.toList_ofList
  have hascii : ∀ c ∈ (labelRequest label).query, c.toNat < 0x80 := by
    rw [hquery]
    intro c hc
    rcases List.mem_append.1 hc with hc | hc
    · exact (show ∀ c ∈ "label".toList, c.toNat < 0x80 by decide) c hc
    · rcases List.mem_cons.1 hc with rfl | hc
      · decide
      · exact of_decide_eq_true (h c hc).1
  have hplain : Text.Percent.decodeForm label = label :=
    Text.Percent.decodeForm_of_plain fun c hc => ⟨(h c hc).1, by
      refine ⟨?_, ?_⟩ <;>
      · rintro rfl
        exact (h _ hc).2 (by decide)⟩
  have hname : Text.Percent.decodeForm "label".toList = "label".toList :=
    Text.Percent.decodeForm_of_plain (by decide)
  rw [WebRequest.parameters, WebRequest.sentQuery_of_ascii hascii, hquery,
    Text.Percent.decodePairs_single (by decide) (by decide) fun hm => (h _ hm).2 (by decide), hplain, hname]
  rfl

/-- A label takes up three characters of an address for each one that needs encoding. -/
theorem length_lt_address {label : List Char} (hn : ∀ c ∈ label, c ≠ ' ' ∧ Text.Percent.isUnreserved c = false) (s : Service) :
    3 * label.length < (Survey.nodesByLabel.address s none (some (String.ofList label))).length := by
  have hpairs : (Survey.nodesByLabel.texts none (some (String.ofList label))).passthrough.pairs =
      [("label".toList, label)] := by
    rw [Passthrough.Texts.pairs_passthrough, Survey.asked_texts]
    simp [Survey.labelName]
  have hurl := (Survey.nodesByLabel.texts none (some (String.ofList label))).passthrough.length_encodePairs_le
    Survey.nodesByLabel.endpoint
  have hjoin : (Text.Percent.encodePairs [("label".toList, label)]).length =
      (Text.Percent.encodeForm "label".toList).length + ((Text.Percent.encodeForm label).length + 1) := List.length_append
  have hform := Text.Percent.length_encodeForm hn
  rw [hpairs, hjoin] at hurl
  rw [Survey.address, Client.resolve_of_not_mem, String.length_append]
  · omega
  · intro hm
    refine Text.Percent.slash_ne_of_isFormChar (Passthrough.isFormChar_of_mem_toUrl (fun x hx => ?_) hm) rfl
    exact (Survey.nodesByLabel.isFormChar_endpoint x hx).1

/-- A long label of characters that need encoding is not refused, and yet nothing is sent. -/
theorem respond_labelRequest {label : List Char} (h : ∀ c ∈ label, Text.isAscii c = true ∧ c ∉ ['%', '+', '&'])
    (hn : ∀ c ∈ label, c ≠ ' ' ∧ Text.Percent.isUnreserved c = false) (hl : Url.maxLength ≤ 3 * label.length) (s : Service) :
    ¬ Survey.nodesByLabel.Refuses (labelRequest label) ∧ ∀ b t, (s.respond (labelRequest label) b t).2 = t := by
  have hps := parameters_labelRequest h
  have hlabel : Survey.nodesByLabel.label (labelRequest label) = some (String.ofList label) := by
    rw [Survey.label, hps]
    rfl
  have hlimit : AsksLimit (labelRequest label) none := .absent (by rw [hps]; rfl)
  have hneed : Survey.nodesByLabel.needsLabel = true → Survey.nodesByLabel.label (labelRequest label) ≠ none := by
    rw [hlabel]
    exact fun _ => nofun
  have hlong : Url.maxLength <
      (Survey.nodesByLabel.address s none (Survey.nodesByLabel.label (labelRequest label))).length := by
    rw [hlabel]
    exact lt_of_le_of_lt hl (length_lt_address hn s)
  have hroute : Route.ofPath? (labelRequest label).path = some Survey.nodesByLabel.route :=
    show Route.ofPath? "/nodes-by-label".toList = some .nodesByLabel by decide
  exact ⟨fun hr => Survey.refuses_iff.1 hr ⟨none, hlimit, hneed⟩,
    respond_of_error hroute rfl (Survey.parameters_eq_ok_iff.2 ⟨none, hlimit, hneed, rfl⟩)
      (Client.prepare_of_long hlong _ _)⟩

/-- Requests for surveys that are not refused, and yet no GET that asks for the same is sent.

1. A label of 22000 exclamation marks makes the address too long.
2. Behind the query of an address with a query, a survey is another parameter.
3. An address that is none is not sent. -/
theorem survey_not_passed_on :
    (¬ Survey.nodesByLabel.Refuses (labelRequest (List.replicate 22000 '!')) ∧
      ∀ b, ((fileService "").respond (labelRequest (List.replicate 22000 '!')) b .empty).2.sent = []) ∧
    (¬ Survey.nodesEdges.Refuses (plainRequest "/nodes-edges" "") ∧
      ∀ b, ∃ request, ((cloudService "http://helix.test?x=1" (by decide)).respond (plainRequest "/nodes-edges" "") b
          .empty).2.sent = [request] ∧
        Passthrough.readTexts (request.url.query.getD []) = [("x", "1/nodes-edges")]) ∧
    ∀ b, ((cloudService "http://helix.test:no" (by decide)).respond (plainRequest "/nodes-edges" "") b .empty).2.sent = [] := by
  have hmarks : ∀ c ∈ List.replicate 22000 '!', c = '!' := fun c hc => List.eq_of_mem_replicate hc
  have hlength : Url.maxLength ≤ 3 * (List.replicate 22000 '!').length := by
    rw [List.length_replicate]
    decide
  have hlong : ¬ Survey.nodesByLabel.Refuses (labelRequest (List.replicate 22000 '!')) ∧
      ∀ b t, ((fileService "").respond (labelRequest (List.replicate 22000 '!')) b t).2 = t :=
    respond_labelRequest (fun c hc => by rw [hmarks c hc]; decide) (fun c hc => by rw [hmarks c hc]; decide) hlength _
  have hlimit : AsksLimit (plainRequest "/nodes-edges" "") none := .absent (by decide +kernel)
  have hlabel : Survey.nodesEdges.label (plainRequest "/nodes-edges" "") = none := by decide +kernel
  have hedges : ¬ Survey.nodesEdges.Refuses (plainRequest "/nodes-edges" "") := fun hr =>
    Survey.refuses_iff.1 hr ⟨none, hlimit, nofun⟩
  have hps : Survey.nodesEdges.parameters (plainRequest "/nodes-edges" "") = .ok ⟨none, none, [("node_label", .null)]⟩ :=
    Survey.parameters_eq_ok_iff.2 ⟨none, hlimit, nofun, by rw [hlabel]; rfl⟩
  have hreaches : (cloudService "http://helix.test?x=1" (by decide)).client.Reaches "nodes-edges"
      ⟨"http".toList, [], "helix.test".toList, none, [], some "x=1/nodes-edges".toList, none⟩ :=
    ⟨by rfl, by decide, by rfl⟩
  have hport : (cloudService "http://helix.test:no" (by decide)).client.prepare "GET" "nodes-edges" .null =
      .error (.badUrl (.badPort "no".toList)) := by rfl
  refine ⟨⟨hlong.1, fun b => ?_⟩, ⟨hedges, fun b => ?_⟩, fun b => ?_⟩
  · rw [hlong.2 b .empty]
    rfl
  · refine ⟨_, sent_of_reaches (l := .nodesEdges) (by decide) rfl hps hreaches rfl b .empty, ?_⟩
    show Passthrough.readTexts "x=1/nodes-edges".toList = _
    decide +kernel
  · rw [respond_of_error (l := .nodesEdges) (by decide) rfl hps hport b .empty]
    rfl

end Service

end HelixGateway
