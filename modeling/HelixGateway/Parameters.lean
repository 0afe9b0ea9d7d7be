import HelixGateway.HelixType.Coercion
import HelixGateway.Fault

/-!
# The parameters of a query

A request brings parameters in its body and in its query string. A body that is an object holds parameters as they are;
any other body becomes the parameter `body`. A parameter of the query string that the body does not have is read as the
type that the catalogue declares for it, and stays a text if it has no type or does not fit it.

Main statement: `keys_merge`.
-/

namespace HelixGateway.Parameters

/-- Reads a value of a query string. -/
def coerceQueryValue (value : String) (type? : Option String) : Except Fault Json :=
  match type? with
  | none => .ok (.str value)
  | some type =>
    match HelixType.parse type with
    | .error _ => .ok (.str value)
    | .ok t =>
      match HelixType.coerce value t with
      | .ok v => .ok v
      | .error (.conversion _) => .ok (.str value)
      | .error .integerOverflow => .error .integerOverflow

/-- The parameters that a body holds. -/
def ofBody : Option Json → Entries Json
  | none | some .null => []
  | some (.obj fields) => fields
  | some v => [("body", v)]

/-- Reads the values of a query string. -/
def typed (catalogue : OrdMap String) : Entries String → Except Fault (Entries Json)
  | [] => .ok []
  | (k, value) :: es =>
    match coerceQueryValue value (catalogue.get? k) with
    | .error e => .error e
    | .ok v => (typed catalogue es).map ((k, v) :: ·)

/-- The entries of a query string that the body does not decide. -/
def undecided (seed : Entries Json) (query : OrdMap String) : Entries String :=
  query.entries.filter fun e => !seed.has e.1

/-- The parameters of a request: those of the body, then those of the query string that the body does not have. -/
def merge (query : OrdMap String) (body : Option Json) (catalogue : OrdMap String) : Except Fault (Entries Json) :=
  (typed catalogue (undecided (ofBody body) query)).map (ofBody body ++ ·)

/-- Typing the values keeps the keys. -/
theorem keys_typed {catalogue : OrdMap String} {es : Entries String} {vs : Entries Json}
    (h : typed catalogue es = .ok vs) : vs.keys = es.keys := by
  induction es generalizing vs with
  | nil =>
    cases h
    rfl
  | cons e es ih =>
    obtain ⟨k, value⟩ := e
    rw [typed] at h
    split at h
    · cases h
    · cases ht : typed catalogue es with
      | error e => simp [ht, Except.map] at h
      | ok ws =>
        simp only [ht, Except.map, Except.ok.injEq] at h
        subst h
        rw [Entries.keys_cons, Entries.keys_cons, ih ht]

/-- The keys of the body come first, then the other keys of the query string, both in their order. -/
theorem keys_merge {query : OrdMap String} {body : Option Json} {catalogue : OrdMap String} {vs : Entries Json}
    (h : merge query body catalogue = .ok vs) :
    vs.keys = (ofBody body).keys ++ query.keys.filter fun k => !(ofBody body).has k := by
  rw [merge] at h
  cases ht : typed catalogue (undecided (ofBody body) query) with
  | error e => simp [ht, Except.map] at h
  | ok ws =>
    simp only [ht, Except.map, Except.ok.injEq] at h
    subst h
    have hk := keys_typed ht
    have hu : Entries.keys (undecided (ofBody body) query) = query.keys.filter fun k => !(ofBody body).has k := by
      rw [Entries.keys, undecided, OrdMap.keys, Entries.keys, List.filter_map]
      rfl
    rw [hu] at hk
    rw [← hk]
    simp [Entries.keys]

end HelixGateway.Parameters
