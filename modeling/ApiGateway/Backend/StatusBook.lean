import ApiGateway.Backend.Status

/-!
# The statuses of all backends

A `StatusBook` holds one status a backend key. Updating one key leaves every other
status as it was (`get?_update_of_ne`).
-/

namespace ApiGateway.Backend

/-- One status a key. -/
structure StatusBook where
  entries : List (String × Status)
deriving DecidableEq

namespace StatusBook

/-- Every key starts with the status of an unknown backend. -/
def new (keys : List String) (now : Instant) : StatusBook :=
  ⟨keys.map fun key => (key, .new now)⟩

def get? (book : StatusBook) (key : String) : Option Status :=
  book.entries.lookup key

/-- Change the status of a key; a key that is not in the book stays out of it. -/
def update (key : String) (change : Status → Status) (book : StatusBook) : StatusBook :=
  ⟨book.entries.map fun entry =>
    if entry.1 = key then (entry.1, change entry.2) else entry⟩

theorem lookup_update (key other : String) (change : Status → Status)
    (entries : List (String × Status)) :
    (entries.map fun entry =>
        if entry.1 = key then (entry.1, change entry.2) else entry).lookup other =
      if other = key then (entries.lookup other).map change else entries.lookup other := by
  induction entries with
  | nil => simp
  | cons entry rest inductionHypothesis =>
      obtain ⟨name, status⟩ := entry
      by_cases found : other = name
      · subst found
        by_cases same : other = key
        · simp [same]
        · simp [same]
      · have absent : (other == name) = false := by simpa using found
        by_cases same : name = key
        · simp only [List.map_cons, same, if_true, List.lookup_cons] at absent ⊢
          simp only [absent]
          simpa using inductionHypothesis
        · simp only [List.map_cons, same, if_false, List.lookup_cons, absent]
          simpa using inductionHypothesis

@[simp] theorem get?_update_self (key : String) (change : Status → Status) (book : StatusBook) :
    (book.update key change).get? key = (book.get? key).map change := by
  simp [get?, update, lookup_update]

theorem get?_update_of_ne {key other : String} (different : other ≠ key)
    (change : Status → Status) (book : StatusBook) :
    (book.update key change).get? other = book.get? other := by
  simp [get?, update, lookup_update, different]

/-- May requests go to a key now? A key without a status is not held back. -/
def availability (book : StatusBook) (key : String) (now : Instant) : Except String Unit :=
  match book.get? key with
  | some status => status.availability now
  | none => .ok ()

/-- Record the outcome of a request; the flag tells that the circuit opened. -/
def recordResult (book : StatusBook) (key : String) (success : Bool) (now : Instant)
    (policy : CircuitPolicy) : StatusBook × Bool :=
  (book.update key fun status => (status.recordResult success now policy).1,
    match book.get? key with
    | some status => (status.recordResult success now policy).2
    | none => false)

end StatusBook

end ApiGateway.Backend
