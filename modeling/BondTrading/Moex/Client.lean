/-
# BondTrading.Moex.Client -- the client of MOEX ISS

`MoexIssClient` of `infrastructure/moex/client.py`, twice.

* The functions as they read: `get`, `refresh` and `accruedInterestOn` ask a network that has
  an answer for every attempt of every request.
* The client as it runs: any number of calls at once in one event loop, each a coroutine that
  waits for the semaphore, for a response or for its gathered requests.  `clientMachine` has
  one event for every place where a coroutine goes on.

`authenticate`, the log records and the pauses between attempts are left out; a call is not
cancelled from outside.
-/
import BondTrading.Machines.Runs
import BondTrading.Moex.Mapper
import BondTrading.Py.Time

namespace BondTrading.Moex

open Py (Decimal Dict Instant Json)
open Machines (Machine)

/-! ## Settings -/

/-- What the client uses of `MoexSettings`. -/
structure MoexSettings where
  retries : ℕ := 3
  concurrency : ℕ := 5
  marketTtlSeconds : ℕ := 900
  retries_range : 1 ≤ retries ∧ retries ≤ 5 := by decide
  concurrency_range : 1 ≤ concurrency ∧ concurrency ≤ 20 := by decide
  marketTtlSeconds_ge : 60 ≤ marketTtlSeconds := by decide

/-! ## Responses -/

/-- How `self._http.get` ends: `json` is what `response.json()` gives, if it gives anything. -/
inductive HttpOutcome where
  | transportError (message : String)
  | otherError (message : String)
  | response (statusCode : ℕ) (json : Option Json)

/-- What the client raises. -/
inductive ClientError where
  /-- `httpx.TransportError`. -/
  | transport (message : String)
  /-- Any other exception of `httpx`. -/
  | request (message : String)
  /-- `MoexTemporaryError`. -/
  | temporary (message : String)
  /-- `httpx.HTTPStatusError`. -/
  | status (statusCode : ℕ)
  /-- `json.JSONDecodeError`. -/
  | notJson
  | mapper (error : MapperError)
  deriving DecidableEq, Repr

/-- `retry_if_exception_type((httpx.TransportError, MoexTemporaryError))`. -/
def ClientError.isRetried : ClientError → Bool
  | .transport _ | .temporary _ => true
  | _ => false

/-- What an attempt of `_get` makes of a response. -/
def payloadOf : HttpOutcome → Except ClientError Payload
  | .transportError message => .error (.transport message)
  | .otherError message => .error (.request message)
  | .response statusCode json =>
      if statusCode = 429 ∨ 500 ≤ statusCode then
        .error (.temporary ("MOEX temporary HTTP " ++ toString statusCode))
      else if statusCode < 200 ∨ 300 ≤ statusCode then .error (.status statusCode)
      else
        match json with
        | none => .error .notJson
        | some (.object entries) => .ok (Dict.ofList entries)
        | some _ => .error (.mapper (.data "MOEX response is not a JSON object"))

/-! ## Requests -/

structure GetRequest where
  path : String
  params : List (String × String)
  deriving DecidableEq, Repr

def searchRequest (normalized : String) : GetRequest where
  path := "/securities.json"
  params := [("q", normalized), ("iss.meta", "on"),
    ("securities.columns", "secid,shortname,regnumber,name,isin,is_traded,primary_boardid")]

/-- What the search found. -/
structure Found where
  searchPayload : Payload
  secid : String
  boardId : String

/-- The requests that `refresh` gathers. -/
inductive Part where
  | specification
  | market
  | bondization
  deriving DecidableEq, Repr

def Part.request (found : Found) : Part → GetRequest
  | .specification => ⟨"/securities/" ++ found.secid ++ ".json", [("iss.meta", "on")]⟩
  | .market =>
      ⟨"/engines/stock/markets/bonds/boards/" ++ found.boardId ++ "/securities/" ++ found.secid ++
        ".json", [("iss.meta", "on")]⟩
  | .bondization =>
      ⟨"/statistics/engines/stock/markets/bonds/bondization/" ++ found.secid ++ ".json",
        [("iss.meta", "on"), ("limit", "unlimited")]⟩

def historyRequest (secid : String) (boardId : Option String) (valueDate : Date) : GetRequest where
  path := "/history/engines/stock/markets/bonds/boards/" ++
    ((boardId.filter (· ≠ "")).getD "TQCB") ++ "/securities/" ++ secid ++ ".json"
  params := [("from", Py.isoDate valueDate), ("till", Py.isoDate valueDate), ("iss.meta", "off"),
    ("history.columns", "TRADEDATE,ACCINT")]

/-! ## Payloads -/

/-- The lines of `refresh` between the search and the gathered requests. -/
def locate (normalized : String) (searchPayload : Payload) : Except ClientError Found := do
  let searchRow ← (findExactSecurity searchPayload normalized).mapError ClientError.mapper
  let secid := ((searchRow.get "secid").orElse (.string "")).str
  if secid = "" then throw (.mapper (.data "MOEX search result has no SECID"))
  return ⟨searchPayload, secid, ((searchRow.get "primary_boardid").orElse (.string "TQCB")).str⟩

/-- The loop of `accrued_interest_on`. -/
def accruedIn (valueDate : Date) : List Row → Except ClientError (Option Decimal)
  | [] => .ok none
  | row :: rows =>
      if ((row.get "TRADEDATE").orElse (.string "")).str ≠ Py.isoDate valueDate then
        accruedIn valueDate rows
      else if (row.get "ACCINT").isMissing then .ok none
      else
        match Decimal.ofText (row.get "ACCINT").str with
        | some accrued => .ok (some accrued)
        | none => .error (.mapper (.data
            ("MOEX returned invalid historical ACI: " ++ (row.get "ACCINT").repr)))

/-- `accrued_interest_on` after its request. -/
def accruedOf (valueDate : Date) (payload : Payload) : Except ClientError (Option Decimal) := do
  let rows ← (tableRows payload "history").mapError ClientError.mapper
  accruedIn valueDate rows

/-! ## The functions as they read -/

/-- What the server gives to each attempt of a request, counted from one. -/
abbrev Network := GetRequest → ℕ → HttpOutcome

/-- `stop_after_attempt(self._settings.retries)`: the exception of attempt `n` is not the
last one. -/
def MoexSettings.again (settings : MoexSettings) (n : ℕ) (error : ClientError) : Bool :=
  error.isRetried && n < settings.retries

/-- The attempts of `_get` from `n` on, `left` of them after this one; the last exception is
raised again. -/
def getFrom (server : ℕ → HttpOutcome) : (left n : ℕ) → Except ClientError Payload
  | 0, n => payloadOf (server n)
  | left + 1, n =>
      match payloadOf (server n) with
      | .ok payload => .ok payload
      | .error error => if error.isRetried then getFrom server left (n + 1) else .error error

/-- `_get`. -/
def MoexSettings.get (settings : MoexSettings) (server : ℕ → HttpOutcome) :
    Except ClientError Payload :=
  getFrom server (settings.retries - 1) 1

/-- `asyncio.gather`: the exception that comes first is raised, whichever it is. -/
def gather (first : Part) (outcomes : Part → Except ClientError Payload) :
    Except ClientError (Part → Payload) := do
  let _ ← outcomes first
  let specification ← outcomes .specification
  let market ← outcomes .market
  let bondization ← outcomes .bondization
  return fun
    | .specification => specification
    | .market => market
    | .bondization => bondization

/-- `MoexIssClient`. -/
structure MoexIssClient where
  settings : MoexSettings
  timezone : LocalZone
  library : Library

namespace MoexIssClient

variable (client : MoexIssClient)

/-- `map_refresh_result(..)` as `refresh` calls it. -/
def mapParts (normalized : String) (found : Found) (payloads : Part → Payload) (wall : Instant) :
    Except ClientError (MoexRefreshResult Decimal) :=
  (mapRefreshResult client.library normalized found.searchPayload (payloads .specification)
    (payloads .market) (payloads .bondization) client.timezone (some wall) wall).mapError
      ClientError.mapper

/-- `refresh` of a normalized ISIN that is not answered from the cache; `first` is the
gathered request that fails first, if one fails. -/
def refresh (network : Network) (first : Part) (wall : Instant) (normalized : String) :
    Except ClientError (MoexRefreshResult Decimal) := do
  let searchPayload ← client.settings.get (network (searchRequest normalized))
  let found ← locate normalized searchPayload
  let payloads ← gather first fun part => client.settings.get (network (part.request found))
  client.mapParts normalized found payloads wall

/-- `accrued_interest_on`. -/
def accruedInterestOn (network : Network) (secid : String) (boardId : Option String)
    (valueDate : Date) : Except ClientError (Option Decimal) := do
  let payload ← client.settings.get (network (historyRequest secid boardId valueDate))
  accruedOf valueDate payload

end MoexIssClient

/-! ## The client as it runs -/

/-- A coroutine of `_get`. -/
inductive Fetch where
  /-- Attempt `n` is next: asleep, or waiting for the semaphore. -/
  | waiting (n : ℕ)
  /-- Attempt `n` is out and holds the semaphore. -/
  | sent (n : ℕ)
  | returned (outcome : Except ClientError Payload)

/-- The response of an attempt that is out. -/
def Fetch.receive (settings : MoexSettings) (n : ℕ) (outcome : HttpOutcome) : Fetch :=
  match payloadOf outcome with
  | .ok payload => .returned (.ok payload)
  | .error error =>
      if settings.again n error then .waiting (n + 1) else .returned (.error error)

/-- The exception a coroutine ended with. -/
def Fetch.failure : Fetch → Option ClientError
  | .returned (.error error) => some error
  | _ => none

/-- The payload a coroutine ended with. -/
def Fetch.payload : Fetch → Option Payload
  | .returned (.ok payload) => some payload
  | _ => none

/-- A call that is not answered at once; the ISIN is normalized. -/
inductive Call where
  | refresh (isin : String)
  | accruedInterestOn (secid : String) (boardId : Option String) (valueDate : Date)
  deriving DecidableEq, Repr

/-- The request a call begins with. -/
def Call.request : Call → GetRequest
  | .refresh isin => searchRequest isin
  | .accruedInterestOn secid boardId valueDate => historyRequest secid boardId valueDate

inductive Answer where
  | refreshed (result : MoexRefreshResult Decimal)
  | accrued (amount : Option Decimal)
  deriving DecidableEq, Repr

/-- Where a call stands. -/
inductive Progress where
  | asking (call : Call) (fetch : Fetch)
  /-- `failed` is the exception that `gather` got first. -/
  | gathering (isin : String) (found : Found) (parts : Part → Fetch) (failed : Option ClientError)

/-- A call and what it returned. -/
structure Task where
  progress : Progress
  answer : Option (Except ClientError Answer)

/-- One of the requests of a call. -/
inductive Slot where
  | first
  | part (part : Part)
  deriving DecidableEq, Repr

/-- The request in a slot and its coroutine. -/
def Progress.fetch : Progress → Slot → Option (GetRequest × Fetch)
  | .asking call fetch, .first => some (call.request, fetch)
  | .gathering _ found parts _, .part part => some (part.request found, parts part)
  | _, _ => none

/-- The coroutine in a slot goes out. -/
def Progress.send (n : ℕ) : Progress → Slot → Progress
  | .asking call _, .first => .asking call (.sent n)
  | .gathering isin found parts failed, .part part =>
      .gathering isin found (Function.update parts part (.sent n)) failed
  | progress, _ => progress

/-- How a call goes on when its first request has returned. -/
def Call.proceed (call : Call) (outcome : Except ClientError Payload) : Task :=
  match call with
  | .refresh isin =>
      match outcome >>= locate isin with
      | .ok found => ⟨.gathering isin found (fun _ => .waiting 1) none, none⟩
      | .error error => ⟨.asking call (.returned outcome), some (.error error)⟩
  | .accruedInterestOn _ _ valueDate =>
      ⟨.asking call (.returned outcome),
        some ((outcome >>= accruedOf valueDate).map Answer.accrued)⟩

/-- The coroutine of a slot goes on with a response. -/
def Task.receive (task : Task) (fetch : Fetch) : Slot → Task
  | .first =>
      match task.progress with
      | .asking call _ =>
          match fetch with
          | .returned outcome => call.proceed outcome
          | waiting => ⟨.asking call waiting, task.answer⟩
      | _ => task
  | .part part =>
      match task.progress with
      | .gathering isin found parts failed =>
          ⟨.gathering isin found (Function.update parts part fetch) (failed.or fetch.failure),
            task.answer⟩
      | _ => task

structure ClientState where
  cache : Dict String (ℚ × MoexRefreshResult Decimal)
  /-- `self._semaphore`. -/
  available : ℕ
  tasks : List Task

inductive ClientEvent where
  /-- `refresh(isin, force=force)` at a monotonic time. -/
  | refresh (isin : String) (force : Bool) (monotonic : ℚ)
  | accruedInterestOn (secid : String) (boardId : Option String) (valueDate : Date)
  /-- A coroutine gets the semaphore and sends its request. -/
  | send (task : ℕ) (slot : Slot)
  | receive (task : ℕ) (slot : Slot) (outcome : HttpOutcome)
  /-- A refresh goes on after `gather`. -/
  | resume (task : ℕ) (wall : Instant) (monotonic : ℚ)

/-- What a call is answered at once. -/
abbrev Reply := Option (Except ClientError Answer)

/-- A call starts with its first request. -/
def ClientState.open (s : ClientState) (call : Call) : ClientState :=
  { s with tasks := s.tasks ++ [⟨.asking call (.waiting 1), none⟩] }

/-- `if not force and cached and cached[0] > time.monotonic()`. -/
def ClientState.cached (s : ClientState) (isin : String) (force : Bool) (monotonic : ℚ) :
    Option (MoexRefreshResult Decimal) :=
  ((s.cache.get? isin).filter fun cached => ¬ force ∧ cached.1 > monotonic).map Prod.snd

/-- The first lines of `refresh`. -/
def ClientState.begin (s : ClientState) (isin : String) (force : Bool) (monotonic : ℚ) :
    ClientState × Reply :=
  match normalized isin with
  | .error error => (s, some (.error (.mapper error)))
  | .ok isin =>
      match s.cached isin force monotonic with
      | some result => (s, some (.ok (.refreshed result)))
      | none => (s.open (.refresh isin), none)

namespace MoexIssClient

variable (client : MoexIssClient)

/-- `MoexIssClient(..)`. -/
def start : ClientState := ⟨Dict.empty, client.settings.concurrency, []⟩

/-- What `gather` returns or raises, when it does. -/
def gathered (parts : Part → Fetch) (failed : Option ClientError) :
    Option (Except ClientError (Part → Payload)) :=
  match failed with
  | some error => some (.error error)
  | none => do
      let specification ← (parts .specification).payload
      let market ← (parts .market).payload
      let bondization ← (parts .bondization).payload
      return .ok fun
        | .specification => specification
        | .market => market
        | .bondization => bondization

/-- What a refresh that waits for `gather` gives when it goes on, and its ISIN. -/
def conclude (s : ClientState) (t : ℕ) (wall : Instant) :
    Option (String × Progress × Except ClientError (MoexRefreshResult Decimal)) :=
  match s.tasks[t]? with
  | some ⟨.gathering isin found parts failed, none⟩ =>
      (gathered parts failed).map fun payloads =>
        (isin, .gathering isin found parts failed,
          payloads >>= fun payloads => client.mapParts isin found payloads wall)
  | _ => none

/-- `self._cache[normalized] = ..` where there is a result. -/
def remember (cache : Dict String (ℚ × MoexRefreshResult Decimal)) (isin : String)
    (monotonic : ℚ) :
    Except ClientError (MoexRefreshResult Decimal) → Dict String (ℚ × MoexRefreshResult Decimal)
  | .ok result => cache.set isin (monotonic + client.settings.marketTtlSeconds, result)
  | .error _ => cache

/-- One step, where the event can happen. -/
def step? (s : ClientState) : ClientEvent → Option (ClientState × Reply)
  | .refresh isin force monotonic => some (s.begin isin force monotonic)
  | .accruedInterestOn secid boardId valueDate =>
      some (s.open (.accruedInterestOn secid boardId valueDate), none)
  | .send t slot => do
      let task ← s.tasks[t]?
      let (_, fetch) ← task.progress.fetch slot
      match fetch, s.available with
      | .waiting n, available + 1 =>
          some ({ s with
            available
            tasks := s.tasks.set t { task with progress := task.progress.send n slot } }, none)
      | _, _ => none
  | .receive t slot outcome => do
      let task ← s.tasks[t]?
      let (_, fetch) ← task.progress.fetch slot
      match fetch with
      | .sent n =>
          some ({ s with
            available := s.available + 1
            tasks := s.tasks.set t
              (task.receive (Fetch.receive client.settings n outcome) slot) }, none)
      | _ => none
  | .resume t wall monotonic => do
      let (isin, progress, outcome) ← client.conclude s t wall
      some ({ s with
        cache := client.remember s.cache isin monotonic outcome
        tasks := s.tasks.set t ⟨progress, some (outcome.map Answer.refreshed)⟩ }, none)

/-- The client in one event loop; an event that cannot happen changes nothing. -/
def clientMachine : Machine ClientState ClientEvent Reply where
  step s e := (client.step? s e).getD (s, none)

end MoexIssClient

end BondTrading.Moex
