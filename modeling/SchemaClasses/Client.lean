import SchemaClasses.Entries
import SchemaClasses.Text.Escaped

/-! How a service is asked for its schema: the headers of the request, the time it may take and how
often it is repeated. -/

namespace SchemaClasses

/-! ### Durations -/

/-- A span of time in milliseconds. -/
structure Duration where
  millis : Nat
deriving DecidableEq, Repr

namespace Duration

def ofSeconds (seconds : Nat) : Duration := ⟨seconds * 1000⟩

/-- Up to three decimals of a second, without zeros at the end. -/
def decimals (millis : Nat) : List Char :=
  let digits := [millis / 100 % 10, millis / 10 % 10, millis % 10]
  (digits.reverse.dropWhile (· = 0)).reverse.map Nat.digitChar

/-- In seconds from one second on, else in milliseconds. No time at all has the finest unit. -/
def text (d : Duration) : String :=
  let seconds := d.millis / 1000
  if 0 < seconds then
    let fraction := decimals (d.millis % 1000)
    toString seconds ++ (if fraction.isEmpty then "" else "." ++ String.ofList fraction) ++ "s"
  else if 0 < d.millis then toString d.millis ++ "ms"
  else "0ns"

end Duration

/-! ### Settings -/

structure Client where
  /-- One value to a name; names differ in case. -/
  headers : List (String × String)
  timeout : Duration
  connectTimeout : Duration
  retries : Nat
deriving DecidableEq, Repr

namespace Client

def defaultTimeout : Nat := 30

def default : Client where
  headers := []
  timeout := .ofSeconds defaultTimeout
  connectTimeout := .ofSeconds 10
  retries := 0

/-- Sets a header; of several under a name the last one counts. -/
def withHeader (c : Client) (name value : String) : Client :=
  { c with headers := Entries.set name value c.headers }

def withHeaders (c : Client) (headers : List (String × String)) : Client :=
  headers.foldl (fun c (name, value) => c.withHeader name value) c

def withTimeout (c : Client) (d : Duration) : Client :=
  { c with timeout := d }

def withConnectTimeout (c : Client) (d : Duration) : Client :=
  { c with connectTimeout := d }

def withRetries (c : Client) (count : Nat) : Client :=
  { c with retries := count }

/-- Puts a header into a list in ascending order of names. -/
def insertHeader (header : String × String) : List (String × String) → List (String × String)
  | [] => [header]
  | h :: rest => if h.1 < header.1 then h :: insertHeader header rest else header :: h :: rest

/-- The headers as they are shown: escaped, in ascending order of names. -/
def shownHeaders (c : Client) : List (String × String) :=
  (c.headers.map fun (name, value) => (Text.escaped name, Text.escaped value)).foldr
    insertHeader []

end Client

end SchemaClasses
