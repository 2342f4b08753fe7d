import SchemaClasses.Proofs.ClientCalls
import SchemaClasses.Proofs.Validation

/-! The headers of a request, from the command line to the client. Each is cut at its first colon
and kept in its place, the first that cannot be read is reported, and the client has one entry to
each name, with the value that was given last. -/

namespace SchemaClasses

namespace Settings

/-- A header is read as the pair of the trimmed texts on the two sides of its first colon. -/
structure Reads (raw : String) (pair : String × String) : Prop where
  isHeader : IsHeader raw
  cut : ∃ before behind, raw.toList = before ++ ':' :: behind ∧ ':' ∉ before ∧
    pair = (String.ofList (Text.trim before), String.ofList (Text.trim behind))

/-- The calls say what the settings do of the headers, the time and the number of repetitions. They
may say it in any order and more than once, and other things before. -/
structure Tells (calls : List Client.Call) (s : Settings) : Prop where
  headers : ∀ name value, IsLast name value (calls.flatMap Client.Call.entries) ↔
    IsLast name value s.headers
  timeout : (calls.filterMap Client.Call.timeout?).getLast? = some s.timeout
  retries : (calls.filterMap Client.Call.retries?).getLast? = some s.retries
  connectTimeout : calls.filterMap Client.Call.connectTimeout? = []

/-- The client has one entry to each name, with the last of its values, and the times and the number
of repetitions that the flags ask for. -/
structure Serves (c : Client) (headers : List (String × String)) (flags : Flags) : Prop where
  nodup : (c.headers.map Prod.fst).Nodup
  names : ∀ name, name ∈ c.headers.map Prod.fst ↔ name ∈ headers.map Prod.fst
  mem_iff : ∀ name value, (name, value) ∈ c.headers ↔ IsLast name value headers
  timeout : c.timeout = .ofSeconds flags.timeout
  retries : c.retries = flags.retries
  connectTimeout : c.connectTimeout = Client.default.connectTimeout

theorem headerOf_eq_ok_iff (raw : String) (pair : String × String) :
    headerOf raw = .ok pair ↔ Reads raw pair := by
  rw [headerOf_eq]
  by_cases hheader : IsHeader raw
  · have hcut := cutFirst?_eq ':' raw.toList
    rw [if_pos hheader.1] at hcut
    rw [if_pos hheader]
    constructor
    · intro h
      obtain ⟨hraw, hcolon⟩ := cutFirst?_eq_some_iff.mp hcut
      exact ⟨hheader, _, _, hraw, hcolon, (Except.ok.inj h).symm⟩
    · rintro ⟨-, before, behind, hraw, hcolon, rfl⟩
      rw [cutFirst?_eq_some_iff.mpr ⟨hraw, hcolon⟩] at hcut
      cases hcut
      rfl
  · rw [if_neg hheader]
    exact iff_of_false nofun fun h => hheader h.isHeader

theorem headerOf_eq_error_iff (raw : String) (e : SettingsError) :
    headerOf raw = .error e ↔ ¬ IsHeader raw ∧ e = .invalidHeader raw := by
  rw [headerOf_eq]
  by_cases hheader : IsHeader raw
  · rw [if_pos hheader]
    exact iff_of_false nofun fun h => h.1 hheader
  · rw [if_neg hheader, Except.error.injEq, and_iff_right hheader, eq_comm]

theorem isHeader_iff_exists_ok (raw : String) :
    IsHeader raw ↔ ∃ pair, headerOf raw = .ok pair := by
  rw [headerOf_eq]
  by_cases hheader : IsHeader raw <;> simp [hheader]

theorem takeWhile_append_cons {sep : Char} {before : List Char} (h : sep ∉ before)
    (behind : List Char) : (before ++ sep :: behind).takeWhile (· ≠ sep) = before := by
  have hcut : Text.cutFirst? sep (before ++ sep :: behind) = some (before, behind) :=
    cutFirst?_eq_some_iff.mpr ⟨rfl, h⟩
  rw [cutFirst?_eq, if_pos (by simp)] at hcut
  exact (Prod.mk.inj (Option.some.inj hcut)).1

/-- A name that was read has neither colons nor blanks in it. -/
theorem Reads.name {raw : String} {pair : String × String} (h : Reads raw pair) :
    pair.1 ≠ "" ∧ ∀ c ∈ pair.1.toList, c ≠ ':' ∧ ¬ Text.isBlank c := by
  obtain ⟨⟨-, hne, hblank⟩, before, behind, hraw, hcolon, rfl⟩ := h
  rw [hraw, takeWhile_append_cons hcolon] at hne hblank
  have hsplits : Text.SplitsAtBlanks (':' ∉ ·) :=
    ⟨List.not_mem_nil, fun a c b hc => by
      have hne : ':' ≠ c := by
        rintro rfl
        cases hc
      simp [hne]⟩
  rw [String.toList_ofList, Ne, String.ofList_eq_empty_iff]
  refine ⟨hne, fun c hc => ⟨?_, hblank c hc⟩⟩
  rintro rfl
  exact (hsplits.trim_iff before).mpr hcolon hc

/-- A name and a value are read as they are, but for blanks around them. -/
theorem headerOf_append {name value : String} (hcolon : ':' ∉ name.toList)
    (hne : Text.trimmed name ≠ "") (hblank : ∀ c ∈ (Text.trimmed name).toList, ¬ Text.isBlank c) :
    headerOf (name ++ ":" ++ value) = .ok (Text.trimmed name, Text.trimmed value) := by
  have htext : (name ++ ":" ++ value).toList = name.toList ++ ':' :: value.toList := by simp
  rw [Text.trimmed, Ne, String.ofList_eq_empty_iff] at hne
  rw [Text.trimmed, String.toList_ofList] at hblank
  refine (headerOf_eq_ok_iff _ _).mpr ⟨⟨?_, ?_, ?_⟩, name.toList, value.toList, htext, hcolon, rfl⟩
  · simp [htext]
  · rwa [htext, takeWhile_append_cons hcolon]
  · rwa [htext, takeWhile_append_cons hcolon]

/-- The headers are read last, and nothing else depends on them. -/
theorem ofFlags_eq_map {flags : Flags} {base : Settings}
    (h : ofFlags { flags with headers := [] } = .ok base) (raws : List String) :
    ofFlags { flags with headers := raws } =
      (raws.mapM headerOf).map fun pairs => { base with headers := pairs } := by
  unfold ofFlags at h ⊢
  obtain ⟨endpoint, hendpoint, h⟩ := eq_ok_of_bind h
  obtain ⟨output, houtput, h⟩ := eq_ok_of_bind h
  obtain ⟨namespaceName, hnamespaceName, h⟩ := eq_ok_of_bind h
  obtain ⟨language, hlanguage, h⟩ := eq_ok_of_bind h
  obtain ⟨holder, hholder, h⟩ := eq_ok_of_bind h
  cases h
  have hlanguage' : languageOf { flags with headers := raws } output = .ok language := hlanguage
  rw [hendpoint, houtput, hnamespaceName]
  simp only [ok_bind, hlanguage', hholder]
  rfl

theorem mapM_headerOf_eq_ok_iff (raws : List String) (pairs : List (String × String)) :
    raws.mapM headerOf = .ok pairs ↔ List.Forall₂ Reads raws pairs := by
  constructor
  · intro h
    exact (forall₂_of_mapM h).imp fun raw pair => (headerOf_eq_ok_iff raw pair).mp
  · intro h
    exact mapM_of_forall₂ (h.imp fun raw pair => (headerOf_eq_ok_iff raw pair).mpr)

theorem serves_of_tells {flags : Flags} {s : Settings}
    (htimeout : s.timeout = .ofSeconds flags.timeout)
    (hretries : s.retries = flags.retries) {calls : List Client.Call} (htells : Tells calls s) :
    Serves (Client.default.called calls) s.headers flags := by
  have hlast := Client.hasLast_called calls
  have hmem : ∀ name value, (name, value) ∈ (Client.default.called calls).headers ↔
      IsLast name value s.headers :=
    fun name value => (hlast.mem_iff name value).trans (htells.headers name value)
  exact {
    nodup := hlast.nodup
    names := fun name => by
      rw [← exists_isLast_iff name s.headers]
      simp [← hmem]
    mem_iff := hmem
    timeout := by rw [hlast.timeout, htells.timeout, Option.getD_some, htimeout]
    retries := by rw [hlast.retries, htells.retries, Option.getD_some, hretries]
    connectTimeout := by rw [hlast.connectTimeout, htells.connectTimeout]; rfl }

theorem tells_client (s : Settings) :
    Tells [.headers s.headers, .timeout s.timeout, .retries s.retries] s where
  headers name value := by simp [Client.Call.entries]
  timeout := rfl
  retries := rfl
  connectTimeout := rfl

/-- With all else in order, the flags are refused for the first header that cannot be read. If there
is none, every header is kept in its place as a name, without colons and blanks, and a value, and
the client has the last value of each name. -/
theorem ofFlags_headers_and_client_serves {flags : Flags} {base : Settings}
    (h : ofFlags { flags with headers := [] } = .ok base) (raws : List String) :
    (∀ e, ofFlags { flags with headers := raws } = .error e ↔ ∃ before raw behind,
      raws = before ++ raw :: behind ∧ (∀ r ∈ before, IsHeader r) ∧ ¬ IsHeader raw ∧
        e = .invalidHeader raw) ∧
    (∀ s, ofFlags { flags with headers := raws } = .ok s ↔ ∃ pairs,
      List.Forall₂ Reads raws pairs ∧ s = { base with headers := pairs }) ∧
    (∀ raw pair, Reads raw pair →
      pair.1 ≠ "" ∧ ∀ c ∈ pair.1.toList, c ≠ ':' ∧ ¬ Text.isBlank c) ∧
    (∀ name value : String, ':' ∉ name.toList → Text.trimmed name ≠ "" →
      (∀ c ∈ (Text.trimmed name).toList, ¬ Text.isBlank c) →
      headerOf (name ++ ":" ++ value) = .ok (Text.trimmed name, Text.trimmed value)) ∧
    ∀ s, ofFlags { flags with headers := raws } = .ok s → Serves s.client s.headers flags ∧
      ∀ calls, Tells calls s → Serves (Client.default.called calls) s.headers flags := by
  refine ⟨fun e => ?_, fun s => ?_, fun raw pair => Reads.name,
    fun name value => headerOf_append, fun s hs => ?_⟩
  · rw [ofFlags_eq_map h, map_eq_error_iff, mapM_eq_error_iff]
    simp only [isHeader_iff_exists_ok, headerOf_eq_error_iff]
  · rw [ofFlags_eq_map h, map_eq_ok_iff]
    simp only [mapM_headerOf_eq_ok_iff]
  · have htimeout : s.timeout = .ofSeconds flags.timeout := (follows_of_ofFlags hs).timeout
    have hretries : s.retries = flags.retries := (follows_of_ofFlags hs).retries
    exact ⟨serves_of_tells htimeout hretries (tells_client s),
      fun calls => serves_of_tells htimeout hretries⟩

namespace Requested

def flags : Flags :=
  { Flags.default with
    namespaceName := some "Content"
    endpoint := some "schema.json"
    output := some "Content.cs"
    timeout := 5
    retries := 2 }

/-- A name twice, and a third time in another case. -/
def raws : List String :=
  ["X-Key: 1", " Accept :\ta:b ", "x-key:", "X-Key:2: 3"]

def headers : List (String × String) :=
  [("X-Key", "1"), ("Accept", "a:b"), ("x-key", ""), ("X-Key", "2: 3")]

/-- Everything is said twice, and not in order. -/
def calls : List Client.Call :=
  [.retries 9, .header "x-key" "0", .headers headers, .timeout ⟨1⟩, .headers headers, .retries 2,
    .timeout (.ofSeconds 5)]

theorem ofFlags_headers_and_client_serves_of_flags :
    ofFlags { flags with headers := ["X: 1", "no colon", ": v", "A b: c"] } =
      .error (.invalidHeader "no colon") ∧
    headerOf ("\tX-Key" ++ ":" ++ " :1") = .ok ("X-Key", ":1") ∧
    ∃ s, ofFlags { flags with headers := raws } = .ok s ∧ s.headers = headers ∧
      Serves s.client s.headers flags ∧ Serves (Client.default.called calls) s.headers flags := by
  obtain ⟨base, hbase⟩ : ∃ base, ofFlags { flags with headers := [] } = .ok base := ⟨_, rfl⟩
  obtain ⟨herror, -, -, hread, -⟩ := ofFlags_headers_and_client_serves hbase
    ["X: 1", "no colon", ": v", "A b: c"]
  obtain ⟨-, hok, -, -, hserves⟩ := ofFlags_headers_and_client_serves hbase raws
  have hpoor : ∃ before raw behind,
      ["X: 1", "no colon", ": v", "A b: c"] = before ++ raw :: behind ∧
      (∀ r ∈ before, IsHeader r) ∧ ¬ IsHeader raw ∧
        SettingsError.invalidHeader "no colon" = .invalidHeader raw :=
    ⟨["X: 1"], "no colon", [": v", "A b: c"], by decide⟩
  have hreads : List.Forall₂ Reads raws headers :=
    (mapM_headerOf_eq_ok_iff raws headers).mp (by decide)
  have hs := (hok { base with headers := headers }).mpr ⟨headers, hreads, rfl⟩
  obtain ⟨hclient, hcalls⟩ := hserves _ hs
  have hbefore : ∀ pair ∈ ("x-key", "0") :: headers, pair.1 ∈ headers.map Prod.fst := by decide
  have hfollows := follows_of_ofFlags hs
  have htells : Tells calls { base with headers := headers } := {
    headers := isLast_append_of_names hbefore
    timeout := congrArg some hfollows.timeout.symm
    retries := congrArg some hfollows.retries.symm
    connectTimeout := rfl }
  have hkey := hread "\tX-Key" " :1" (by decide) (by decide) (Text.forall_mem_of_all (by decide))
  exact ⟨(herror _).mpr hpoor, hkey, _, hs, rfl, hclient, hcalls calls htells⟩

end Requested

end Settings

end SchemaClasses
