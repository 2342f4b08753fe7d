import Mathlib.Data.List.Basic
import SchemaClasses.Client

/-! The client that comes out of the calls that make it. Calls may come in any order and be
repeated: the last call for a time or a count is the one that matters, and so is the last header
under each name. -/

namespace SchemaClasses

/-- Of all pairs under the name, the one with the value is the last. -/
def IsLast (name value : String) (pairs : List (String × String)) : Prop :=
  ∃ before behind, pairs = before ++ (name, value) :: behind ∧ ∀ pair ∈ behind, pair.1 ≠ name

/-- The last pair under a name is the first one from behind. -/
theorem isLast_iff_get?_reverse (name value : String) (pairs : List (String × String)) :
    IsLast name value pairs ↔ Entries.get? name pairs.reverse = some value := by
  rw [Entries.get?_eq_some_iff]
  constructor
  · rintro ⟨before, behind, rfl, hbehind⟩
    refine ⟨behind.reverse, before.reverse, by simp, ?_⟩
    simpa only [List.mem_reverse] using hbehind
  · rintro ⟨behind, before, hpairs, hbehind⟩
    refine ⟨before.reverse, behind.reverse, ?_, ?_⟩
    · rw [← List.reverse_reverse pairs, hpairs]
      simp
    · simpa only [List.mem_reverse] using hbehind

/-- A pair that comes later is the last one under its name, and otherwise nothing has changed. -/
theorem isLast_append_iff (name value : String) (pairs later : List (String × String)) :
    IsLast name value (pairs ++ later) ↔ IsLast name value later ∨
      name ∉ later.map Prod.fst ∧ IsLast name value pairs := by
  simp only [isLast_iff_get?_reverse, List.reverse_append, Entries.get?_append]
  have hnames : name ∈ later.map Prod.fst ↔ (Entries.get? name later.reverse).isSome := by
    rw [Entries.isSome_get?_iff, List.map_reverse, List.mem_reverse]
  rw [hnames]
  cases Entries.get? name later.reverse <;> simp

/-- What comes before counts for nothing where all of its names come again. -/
theorem isLast_append_of_names {pairs later : List (String × String)}
    (h : ∀ pair ∈ pairs, pair.1 ∈ later.map Prod.fst) (name value : String) :
    IsLast name value (pairs ++ later) ↔ IsLast name value later := by
  rw [isLast_append_iff]
  refine or_iff_left ?_
  rintro ⟨hname, before, behind, rfl, -⟩
  exact hname (h (name, value) (by simp))

/-- Every name has a last pair. -/
theorem exists_isLast_iff (name : String) (pairs : List (String × String)) :
    (∃ value, IsLast name value pairs) ↔ name ∈ pairs.map Prod.fst := by
  simp only [isLast_iff_get?_reverse]
  rw [← Option.isSome_iff_exists, Entries.isSome_get?_iff, List.map_reverse, List.mem_reverse]

namespace Client

/-- What can be said of a client while it is made. -/
inductive Call where
  | header (name value : String)
  | headers (pairs : List (String × String))
  | timeout (d : Duration)
  | connectTimeout (d : Duration)
  | retries (count : Nat)
deriving DecidableEq, Repr

namespace Call

/-- The headers that are entered, in order. -/
def entries : Call → List (String × String)
  | header name value => [(name, value)]
  | headers pairs => pairs
  | _ => []

def timeout? : Call → Option Duration
  | timeout d => some d
  | _ => none

def connectTimeout? : Call → Option Duration
  | connectTimeout d => some d
  | _ => none

def retries? : Call → Option Nat
  | retries count => some count
  | _ => none

end Call

def call (c : Client) : Call → Client
  | .header name value => c.withHeader name value
  | .headers pairs => c.withHeaders pairs
  | .timeout d => c.withTimeout d
  | .connectTimeout d => c.withConnectTimeout d
  | .retries count => c.withRetries count

def called (c : Client) (calls : List Call) : Client :=
  calls.foldl call c

/-- There is one entry to each name, with the last of the values that were entered, and of all else
the client has what was said last. What was not said is as it is by default. -/
structure HasLast (c : Client) (calls : List Call) : Prop where
  nodup : (c.headers.map Prod.fst).Nodup
  mem_iff : ∀ name value, (name, value) ∈ c.headers ↔
    IsLast name value (calls.flatMap Call.entries)
  timeout : c.timeout = (calls.filterMap Call.timeout?).getLast?.getD default.timeout
  connectTimeout : c.connectTimeout =
    (calls.filterMap Call.connectTimeout?).getLast?.getD default.connectTimeout
  retries : c.retries = (calls.filterMap Call.retries?).getLast?.getD default.retries

variable {α : Type} (c : Client)

theorem withHeaders_cons (name value : String) (pairs : List (String × String)) :
    c.withHeaders ((name, value) :: pairs) = (c.withHeader name value).withHeaders pairs := rfl

/-- Headers change nothing else. -/
theorem withHeaders_eq (pairs : List (String × String)) :
    c.withHeaders pairs = { c with headers := (c.withHeaders pairs).headers } := by
  induction pairs generalizing c with
  | nil => rfl
  | cons pair pairs ih => exact ih (c.withHeader pair.1 pair.2)

theorem get?_withHeaders (pairs : List (String × String)) (name : String) :
    Entries.get? name (c.withHeaders pairs).headers =
      (Entries.get? name pairs.reverse).or (Entries.get? name c.headers) := by
  induction pairs generalizing c with
  | nil => rfl
  | cons pair pairs ih =>
      obtain ⟨name', value⟩ := pair
      rw [withHeaders_cons, ih, List.reverse_cons, Entries.get?_append, Option.or_assoc]
      congr 1
      rw [withHeader, Entries.get?_set]
      by_cases h : name = name'
      · simp [Entries.get?, h]
      · simp [Entries.get?, h, Ne.symm h]

theorem nodup_withHeaders {c : Client} (h : (c.headers.map Prod.fst).Nodup)
    (pairs : List (String × String)) : ((c.withHeaders pairs).headers.map Prod.fst).Nodup := by
  induction pairs generalizing c with
  | nil => exact h
  | cons pair pairs ih => exact ih (Entries.nodup_keys_set h pair.1 pair.2)

theorem get?_call (k : Call) (name : String) : Entries.get? name (c.call k).headers =
    (Entries.get? name k.entries.reverse).or (Entries.get? name c.headers) := by
  cases k with
  | header name' value => exact get?_withHeaders c [(name', value)] name
  | headers pairs => exact get?_withHeaders c pairs name
  | timeout d => rfl
  | connectTimeout d => rfl
  | retries count => rfl

theorem nodup_call {c : Client} (h : (c.headers.map Prod.fst).Nodup) (k : Call) :
    ((c.call k).headers.map Prod.fst).Nodup := by
  cases k with
  | header name value => exact Entries.nodup_keys_set h name value
  | headers pairs => exact nodup_withHeaders h pairs
  | timeout d => exact h
  | connectTimeout d => exact h
  | retries count => exact h

theorem get?_called (calls : List Call) (name : String) :
    Entries.get? name (c.called calls).headers =
      (Entries.get? name (calls.flatMap Call.entries).reverse).or
        (Entries.get? name c.headers) := by
  induction calls generalizing c with
  | nil => rfl
  | cons k calls ih =>
      rw [called, List.foldl_cons, ← called, ih, get?_call, List.flatMap_cons,
        List.reverse_append, Entries.get?_append, Option.or_assoc]

theorem nodup_called {c : Client} (h : (c.headers.map Prod.fst).Nodup) (calls : List Call) :
    ((c.called calls).headers.map Prod.fst).Nodup := by
  induction calls generalizing c with
  | nil => exact h
  | cons k calls ih => exact ih (nodup_call h k)

theorem timeout_call (k : Call) : (c.call k).timeout = k.timeout?.getD c.timeout := by
  cases k with
  | headers pairs =>
      rw [call, withHeaders_eq]
      rfl
  | _ => rfl

theorem connectTimeout_call (k : Call) :
    (c.call k).connectTimeout = k.connectTimeout?.getD c.connectTimeout := by
  cases k with
  | headers pairs =>
      rw [call, withHeaders_eq]
      rfl
  | _ => rfl

theorem retries_call (k : Call) : (c.call k).retries = k.retries?.getD c.retries := by
  cases k with
  | headers pairs =>
      rw [call, withHeaders_eq]
      rfl
  | _ => rfl

/-- What a call either sets or leaves as it is has the value that was said last. -/
theorem field_called {field : Client → α} {said : Call → Option α}
    (hstep : ∀ c k, field (call c k) = (said k).getD (field c)) (calls : List Call) :
    field (c.called calls) = (calls.filterMap said).getLast?.getD (field c) := by
  induction calls generalizing c with
  | nil => rfl
  | cons k calls ih =>
      rw [called, List.foldl_cons, ← called, ih, hstep]
      cases hsaid : said k with
      | none => rw [List.filterMap_cons_none hsaid, Option.getD_none]
      | some a =>
          rw [List.filterMap_cons_some hsaid, List.getLast?_cons, Option.getD_some,
            Option.getD_some]

theorem hasLast_called (calls : List Call) : (default.called calls).HasLast calls := by
  have hnodup := nodup_called (c := default) List.nodup_nil calls
  exact {
    nodup := hnodup
    mem_iff := fun name value => by
      rw [← Entries.get?_eq_some_iff_mem hnodup, get?_called, isLast_iff_get?_reverse]
      exact Eq.congr_left (Option.or_none)
    timeout := field_called default timeout_call calls
    connectTimeout := field_called default connectTimeout_call calls
    retries := field_called default retries_call calls }

end Client

end SchemaClasses
