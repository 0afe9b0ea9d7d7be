import HelixGateway.AccessLog
import HelixGateway.Proofs.Text.Separator

/-!
# Which requests the access log hides

A line of the access log names the client, the method, the target and the version of a request, and the status of its
answer. It is hidden if the target is the path of health checks, and also if that path stands right behind a double quote
inside the target, wherever the request leads.

Main statement: `keeps_line_iff`.
-/

namespace HelixGateway.AccessLog

open Text

/-- What a line of the access log is about. Client, method and version hold neither slashes nor double quotes nor spaces, the
target holds no space, and the status no slash. -/
structure Line where
  client : List Char
  method : List Char
  target : List Char
  version : List Char
  status : List Char
  client_plain : ∀ c ∈ client, c ∉ ['/', '"', ' ']
  method_plain : ∀ c ∈ method, c ∉ ['/', '"', ' ']
  version_plain : ∀ c ∈ version, c ∉ ['/', '"', ' ']
  target_space : ' ' ∉ target
  status_slash : '/' ∉ status

namespace Line

/-- The line as it is written. -/
def text (l : Line) : List Char :=
  l.client ++ (" - \"".toList ++ (l.method ++ (" ".toList ++ (l.target ++ (" HTTP/".toList ++ (l.version ++
    ("\" ".toList ++ l.status)))))))

/-- The path that a target names: what precedes the first question mark. -/
def path (l : Line) : List Char := before ['?'] l.target

variable {l : Line}

/-- The hidden path stands behind a quote in a line exactly if it does in the target. -/
theorem quoted_infix_text_iff : '"' :: hiddenPath <:+: l.text ↔ '"' :: hiddenPath <:+: l.target := by
  have hpair : ['"', '/'] <+: '"' :: hiddenPath := ⟨"health".toList, rfl⟩
  have hspace : ' ' ∉ '"' :: hiddenPath := by decide
  have htext : l.text = l.client ++ ' ' :: (['-'] ++ ' ' :: ('"' :: l.method ++ ' ' :: (l.target ++ ' ' ::
      ("HTTP/".toList ++ (l.version ++ ['"']) ++ ' ' :: l.status)))) := by
    simp [text]
  have hplain : ∀ {s : List Char}, '/' ∉ s → ¬ '"' :: hiddenPath <:+: s := fun hs =>
    (Apart.of_not_mem_right hs).not_occurring hpair
  have hclient : '/' ∉ l.client := fun hm => l.client_plain _ hm (by decide)
  have hmethod : '/' ∉ '"' :: l.method := by
    intro hm
    rcases List.mem_cons.1 hm with hm | hm
    · exact absurd hm (by decide)
    · exact l.method_plain _ hm (by decide)
  have hversion : ¬ '"' :: hiddenPath <:+: "HTTP/".toList ++ (l.version ++ ['"']) := by
    have hq : '"' ∉ "HTTP/".toList ++ l.version := by
      intro hm
      rcases List.mem_append.1 hm with hm | hm
      · exact absurd hm (by decide)
      · exact l.version_plain _ hm (by decide)
    rw [← List.append_assoc]
    refine Apart.not_occurring hpair ((Apart.of_not_mem_left hq).append (Apart.of_not_mem_right (by decide)) (Or.inr (by decide)))
  -- the quoted path holds no space, so it lies in one of the words of the line
  rw [htext]
  simp only [infix_append_cons_iff hspace]
  simp only [hplain hclient, hplain (show '/' ∉ ['-'] by decide), hplain hmethod, hversion, hplain l.status_slash, false_or,
    or_false]

/-- The hidden path is a word of a line exactly if it is the target. -/
theorem blank_infix_text_iff : ' ' :: (hiddenPath ++ [' ']) <:+: l.text ↔ l.target = hiddenPath := by
  have hpair : [' ', '/'] <+: ' ' :: (hiddenPath ++ [' ']) := ⟨"health ".toList, rfl⟩
  have htext : l.text = (l.client ++ (" - \"".toList ++ l.method)) ++ ' ' :: (l.target ++ ' ' ::
      ("HTTP/".toList ++ (l.version ++ ("\" ".toList ++ l.status)))) := by
    simp [text]
  have hbefore : '/' ∉ (l.client ++ (" - \"".toList ++ l.method)) ++ [' '] := by
    simp only [List.mem_append, not_or]
    exact ⟨⟨fun hm => l.client_plain _ hm (by decide), by decide, fun hm => l.method_plain _ hm (by decide)⟩, by decide⟩
  -- only the target has a slash right behind a space
  have hbehind : Apart ' ' '/' (l.target ++ ' ' :: ("HTTP/".toList ++ (l.version ++ ("\" ".toList ++ l.status)))) := by
    have hrest : '/' ∉ l.version ++ ("\" ".toList ++ l.status) := by
      simp only [List.mem_append, not_or]
      exact ⟨fun hm => l.version_plain _ hm (by decide), by decide, l.status_slash⟩
    have hhttp : Apart ' ' '/' (" HTTP/".toList ++ (l.version ++ ("\" ".toList ++ l.status))) :=
      Apart.append (by rw [Apart]; decide) (Apart.of_not_mem_right hrest) (Or.inl (by decide))
    exact (Apart.of_not_mem_left l.target_space).append hhttp (Or.inl fun hm => l.target_space (List.mem_of_getLast? hm))
  rw [htext, infix_append_of_apart hpair (Apart.of_not_mem_right hbefore), List.infix_cons_iff,
    or_iff_left (hbehind.not_occurring hpair), List.cons_prefix_cons]
  constructor
  · rintro ⟨-, rest, hr⟩
    -- both texts are cut at their first space
    have hcut := congrArg (cut [' ']) hr
    rw [List.append_assoc, List.singleton_append, cut_append_of_not_mem (by decide),
      cut_append_of_not_mem l.target_space] at hcut
    exact (Prod.mk.inj (Option.some.inj hcut)).1.symm
  · intro h
    rw [h]
    exact ⟨rfl, _, List.append_assoc _ _ _⟩

end Line

/-- A record whose message is a line is hidden if its target is the path of health checks, and otherwise just if that path
stands behind a double quote in the target. -/
theorem keeps_line_iff (l : Line) {template : List Char} {args : List Json} (h : Template.fill template args = .ok l.text) :
    ∃ shown, keeps template args = .ok shown ∧
      (shown = false ↔ l.target = hiddenPath ∨ '"' :: hiddenPath <:+: l.target) := by
  refine ⟨isShown l.text, by rw [keeps, h]; rfl, ?_⟩
  rw [isShown_eq_false_iff, Line.quoted_infix_text_iff, Line.blank_infix_text_iff, or_comm]

/-! ## Two lines -/

/-- The template of the records. -/
def lineTemplate : List Char := "%s - \"%s %s HTTP/%s\" %d".toList

/-- The arguments of the record of a request that is answered with status 200. -/
def lineArguments (target : String) : List Json := [.str "127.0.0.1:5000", .str "GET", .str target, .str "1.1", .int 200]

/-- The line of such a request. -/
def lineOf (target : List Char) (h : ' ' ∉ target) : Line where
  client := "127.0.0.1:5000".toList
  method := "GET".toList
  target := target
  version := "1.1".toList
  status := "200".toList
  client_plain := by decide
  method_plain := by decide
  version_plain := by decide
  target_space := h
  status_slash := by decide

/-- A request for the hidden path leaves no line, and one for a path that only starts so leaves one. -/
theorem keeps_line_health :
    keeps lineTemplate (lineArguments "/health") = .ok false ∧ keeps lineTemplate (lineArguments "/healthz") = .ok true := by
  have hhealth : Template.fill lineTemplate (lineArguments "/health") = .ok (lineOf "/health".toList (by decide)).text := by
    decide +kernel
  have hother : Template.fill lineTemplate (lineArguments "/healthz") = .ok (lineOf "/healthz".toList (by decide)).text := by
    decide +kernel
  obtain ⟨shown, hk, hs⟩ := keeps_line_iff _ hhealth
  obtain ⟨shown', hk', hs'⟩ := keeps_line_iff _ hother
  have hn : shown' = true := by
    rw [← Bool.not_eq_false, hs', not_or, ← occurs_iff]
    decide
  rw [hk, hk', hs.2 (Or.inl rfl), hn]
  exact ⟨rfl, rfl⟩

/-- A request for another path is hidden. -/
theorem items_hidden :
    let l := lineOf "/items?next=\"/health".toList (by decide)
    Template.fill lineTemplate (lineArguments "/items?next=\"/health") = .ok l.text ∧ l.path = "/items".toList ∧
      keeps lineTemplate (lineArguments "/items?next=\"/health") = .ok false := by
  decide +kernel

end HelixGateway.AccessLog
