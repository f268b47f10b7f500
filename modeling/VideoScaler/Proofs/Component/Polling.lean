import VideoScaler.Filter.Scaler

/-! How often a component is called for one surface.

Components differ in what they do, and nothing needs to be promised about when a result is there.
To see the calls a component is put under watch: it does all it did before, its calls are noted,
and a result that it has put off a given number of times in a row counts as a failure, so that
asking for it comes to an end.
-/

set_option autoImplicit false

namespace VideoScaler

namespace Scaler

variable {κ : Type} [Component κ] {c d e : κ} {s : Surface} {m n o : Media}

def received : Except Status Data → Attempt Error Surface
  | .error status => .error (.refused (.operation "QueryOutput" status))
  | .ok (.buffer _) => .error (.refused (.operation "QueryOutput" .noInterface))
  | .ok (.surface s) => .ok s

theorem exchange_of_refused {failure : Failure Status}
    (submitted : Component.submit c (.surface s) m = (.error failure, d, n)) :
    exchange c s m = (.error (failure.map (Error.operation "SubmitInput")), d, n) := by
  unfold exchange
  simp only
  split
  case h_1 refused =>
    rw [submitted] at refused
    cases refused
    rw [submitted]
  case h_2 accepted =>
    rw [submitted] at accepted
    cases accepted

theorem exchange_of_polled {answer : Except Status Data}
    (submitted : Component.submit c (.surface s) m = (.ok (), d, n))
    (polled : ∀ busy, Component.poll d busy n = (answer, e, o)) :
    exchange c s m = (received answer, e, o) := by
  have same : ∀ busy, Component.poll (Component.submit c (.surface s) m).2.1 busy
      (Component.submit c (.surface s) m).2.2 = (answer, e, o) := by
    rw [submitted]
    exact polled
  unfold exchange
  simp only
  -- The split is on the outcome as it is computed, so that polling may use that it is a success.
  split
  case h_1 refused =>
    rw [submitted] at refused
    cases refused
  case h_2 accepted =>
    rw [same]
    cases answer with
    | error status => rfl
    | ok data => cases data <;> rfl

end Scaler

/-- What a component does when it is called, whatever that is. -/
structure Conduct (κ : Type) where
  setProperty : κ → String → Variant → Except Status Unit × κ
  property? : κ → String → Option Variant
  init : κ → SurfaceFormat → Int32 → Int32 → Except Status Unit × κ
  submit : κ → Data → Media → Attempt Status Unit × κ × Media
  query : κ → Media → Except Status Data × κ × Media
  terminate : κ → Media → Except Status Unit × κ × Media
  discard : κ → Media → Media

/-- Does a component put its result off this number of times and give this answer then? -/
inductive Conduct.Answers {κ : Type} (conduct : Conduct κ) :
    Nat → κ → Media → Except Status Data × κ × Media → Prop where
  | now {c : κ} {m : Media} (there : isNotReady (conduct.query c m).1 = false) :
    Answers conduct 0 c m (conduct.query c m)
  | later {k : Nat} {c : κ} {m : Media} {answer : Except Status Data × κ × Media}
    (putOff : isNotReady (conduct.query c m).1 = true)
    (rest : Answers conduct k (conduct.query c m).2.1 (conduct.query c m).2.2 answer) :
    Answers conduct (k + 1) c m answer

inductive Exchanged where
  | submit | query
  deriving DecidableEq, Repr

structure Watched {κ : Type} (conduct : Conduct κ) (limit : Nat) where
  inner : κ
  /-- How often the result can still be put off. -/
  left : Nat
  calls : List Exchanged

namespace Watched

variable {κ : Type} {conduct : Conduct κ} {limit : Nat}

def next (c : Watched conduct limit) (call : Exchanged) (inner : κ) : Watched conduct limit :=
  ⟨inner, limit, c.calls ++ [call]⟩

def submit (c : Watched conduct limit) (d : Data) (m : Media) :
    Attempt Status Unit × Watched conduct limit × Media :=
  let (result, inner, m) := conduct.submit c.inner d m
  (result, c.next .submit inner, m)

def query (c : Watched conduct limit) (m : Media) :
    Except Status Data × Watched conduct limit × Media :=
  let r := conduct.query c.inner m
  if isNotReady r.1 = true then
    match c.left with
    | 0 => (.error .fail, c.next .query r.2.1, r.2.2)
    | left + 1 => (r.1, { c.next .query r.2.1 with left }, r.2.2)
  else
    (r.1, c.next .query r.2.1, r.2.2)

variable {c : Watched conduct limit} {m : Media}

theorem query_of_there (there : isNotReady (conduct.query c.inner m).1 = false) :
    c.query m = ((conduct.query c.inner m).1, c.next .query (conduct.query c.inner m).2.1,
      (conduct.query c.inner m).2.2) := by
  rw [query, if_neg (by rw [there]; decide)]

theorem query_of_putOff (putOff : isNotReady (conduct.query c.inner m).1 = true) {left : Nat}
    (left_eq : c.left = left + 1) :
    c.query m = ((conduct.query c.inner m).1,
      { c.next .query (conduct.query c.inner m).2.1 with left },
      (conduct.query c.inner m).2.2) := by
  simp only [query, if_pos putOff, left_eq]

theorem isNotReady_of_none (none : c.left = 0) : isNotReady (c.query m).1 = false := by
  by_cases putOff : isNotReady (conduct.query c.inner m).1 = true
  · simp only [query, if_pos putOff, none]
    rfl
  · rw [query, if_neg putOff]
    exact eq_false_of_ne_true putOff

theorem left_of_isNotReady (putOff : isNotReady (c.query m).1 = true) :
    (c.query m).2.1.left < c.left := by
  cases left_eq : c.left with
  | zero =>
    rw [isNotReady_of_none left_eq] at putOff
    cases putOff
  | succ left =>
    by_cases again : isNotReady (conduct.query c.inner m).1 = true
    · rw [query_of_putOff again left_eq]
      exact Nat.lt_succ_self left
    · rw [query_of_there (eq_false_of_ne_true again)] at putOff
      exact absurd putOff again

instance : Component (Watched conduct limit) where
  setProperty c name value :=
    let (result, inner) := conduct.setProperty c.inner name value
    (result, { c with inner })
  property? c name := conduct.property? c.inner name
  init c format width height :=
    let (result, inner) := conduct.init c.inner format width height
    (result, { c with inner })
  submit := submit
  query := query
  terminate c m :=
    let (result, inner, m) := conduct.terminate c.inner m
    (result, { c with inner }, m)
  discard c m := conduct.discard c.inner m
  Busy _ := True
  waits c := c.left
  busy_of_submit _ _ _ _ := trivial
  waits_of_query _ _ _ putOff := ⟨trivial, left_of_isNotReady putOff⟩

theorem pollWithin_eq {k : Nat} {answer : Except Status Data × κ × Media}
    (answers : conduct.Answers k c.inner m answer) (few : k ≤ c.left) {bound : Nat}
    (busy : Component.Busy c) (within : Component.waits c < bound) :
    Component.pollWithin bound c busy within m =
      (answer.1, ⟨answer.2.1, limit, c.calls ++ List.replicate (k + 1) .query⟩, answer.2.2) := by
  generalize inner_eq : c.inner = inner at answers
  induction answers generalizing c bound with
  | now there =>
    subst inner_eq
    obtain ⟨bound, rfl⟩ := Nat.exists_eq_add_one.2 (Nat.zero_lt_of_lt within)
    have asked : Component.query c _ = _ := query_of_there there
    unfold Component.pollWithin
    rw [dif_neg (by rw [asked, there]; decide), asked]
    rfl
  | @later k inner m answer putOff rest ih =>
    subst inner_eq
    obtain ⟨bound, rfl⟩ := Nat.exists_eq_add_one.2 (Nat.zero_lt_of_lt within)
    obtain ⟨left, left_eq⟩ := Nat.exists_eq_add_one.2 (Nat.zero_lt_of_lt few)
    have asked : Component.query c m = _ := query_of_putOff putOff left_eq
    unfold Component.pollWithin
    rw [dif_pos (by rw [asked]; exact putOff)]
    have media_eq : (Component.query c m).2.2 = (conduct.query c.inner m).2.2 := by rw [asked]
    rw [media_eq, ih]
    · simp only [asked, next, List.append_assoc, List.singleton_append, ← List.replicate_succ]
    · rw [asked]
      show k ≤ left
      omega
    · rw [asked]
      rfl

variable {s : Surface} {n : Media} {d : κ}

theorem submit_eq {result : Attempt Status Unit}
    (submitted : conduct.submit c.inner (.surface s) m = (result, d, n)) :
    Component.submit c (.surface s) m = (result, c.next .submit d, n) := by
  show Watched.submit c (.surface s) m = _
  rw [submit, submitted]

theorem exchange_of_answers {k : Nat} {answer : Except Status Data} {e : κ} {o : Media}
    (submitted : conduct.submit c.inner (.surface s) m = (.ok (), d, n))
    (answers : conduct.Answers k d n (answer, e, o)) (few : k ≤ limit) :
    Scaler.exchange c s m = (Scaler.received answer,
      ⟨e, limit, c.calls ++ .submit :: List.replicate (k + 1) .query⟩, o) := by
  refine Scaler.exchange_of_polled (submit_eq submitted) fun busy => ?_
  rw [Component.poll, pollWithin_eq answers few]
  simp only [next, List.append_assoc, List.singleton_append]

end Watched

/-- What a component does that keeps the laws of components. -/
def Component.conduct (κ : Type) [Component κ] : Conduct κ :=
  ⟨setProperty, property?, init, submit, query, terminate, discard⟩

section
variable {κ : Type} [Component κ]

theorem Component.answers_pollWithin {bound : Nat} {c : κ} (busy : Busy c)
    (within : waits c < bound) (m : Media) :
    ∃ k, k < bound ∧ (conduct κ).Answers k c m (pollWithin bound c busy within m) := by
  induction bound generalizing c m with
  | zero => exact absurd within (Nat.not_lt_zero _)
  | succ bound ih =>
    unfold pollWithin
    simp only
    split
    case isTrue putOff =>
      obtain ⟨k, fewer, answers⟩ := ih _ _ _
      exact ⟨k + 1, Nat.succ_lt_succ fewer, .later putOff answers⟩
    case isFalse there =>
      exact ⟨0, Nat.zero_lt_succ _, .now (eq_false_of_ne_true there)⟩

/-- A component that keeps the laws does the same under watch. -/
theorem Watched.exchange_watched {limit : Nat} (c : Watched (Component.conduct κ) limit)
    (s : Surface) (m : Media)
    (patient : Component.waits (Component.submit c.inner (.surface s) m).2.1 ≤ limit) :
    (Scaler.exchange c s m).1 = (Scaler.exchange c.inner s m).1 ∧
      (Scaler.exchange c s m).2.1.inner = (Scaler.exchange c.inner s m).2.1 ∧
      (Scaler.exchange c s m).2.2 = (Scaler.exchange c.inner s m).2.2 := by
  rcases submitted : Component.submit c.inner (.surface s) m with ⟨failure | ⟨⟩, d, n⟩
  · rw [Scaler.exchange_of_refused submitted, Scaler.exchange_of_refused (submit_eq submitted)]
    exact ⟨rfl, rfl, rfl⟩
  · have busy := Component.busy_of_submit c.inner (.surface s) m (by rw [submitted])
    rw [submitted] at patient busy
    obtain ⟨k, fewer, answers⟩ := Component.answers_pollWithin busy (Nat.lt_succ_self _) n
    rcases polled : Component.poll d busy n with ⟨answer, e, o⟩
    rw [Component.poll] at polled
    rw [polled] at answers
    rw [Scaler.exchange_of_polled submitted fun _ => polled,
      exchange_of_answers submitted answers (by omega)]
    exact ⟨rfl, rfl, rfl⟩

end

end VideoScaler
