/-
The client that evaluates flags in the process. It fetches definitions when it is started, then
polls for them in the background; a fetch that fails leaves the flags it knows as they are, and a
closed client never fetches again.
-/
import StagedRollout.Flag.Document
import StagedRollout.Exposure
import StagedRollout.Http.Message

namespace StagedRollout

/-! ## Fetches -/

/-- What happens to a client while it waits for a fetch. -/
inductive Interruption where
  | nothing
  | stop
  | close
  /-- One thing and then another. -/
  | both (first next : Interruption)
  deriving DecidableEq

/-- A fetch of definitions: the requests it sends, what happens meanwhile, and what it brings. -/
structure Fetch where
  requests : List Http.Request
  interruption : Interruption
  outcome : Except Fault Value

namespace Fetch

/-- A fetch from a source of the caller's own, which needs no request. -/
def ofSource (interruption : Interruption) (outcome : Except Fault Value) : Fetch :=
  ⟨[], interruption, outcome⟩

/-- Where the service keeps its definitions. -/
def definitionsPath : String := "/flags/definitions"

/-- A failure of the transport as a failure of the service; other faults pass as they are. -/
def wrap : Fault → Fault
  | .transport name text =>
    .service .connection "Failed to fetch flag definitions" (some (.transport name text))
  | f => f

/-- What the answer to a request for definitions brings. -/
def payload (room : Nat) (answer : Except Fault Http.Response) : Except Fault Value := do
  (← answer.mapError wrap).read room "fetch_definitions" "flag definitions"

/-- A fetch from the service. Where no connection is ready, nothing is asked and nothing happens
meanwhile. -/
def ofService (library : Http.Library) (settings : Settings) (interruption : Interruption) :
    Fetch :=
  match library.connect (Http.Access.ofSettings settings) with
  | .ok () =>
    let request := Http.Request.make settings definitionsPath []
    ⟨[request], interruption, payload library.room (library.get request)⟩
  | .error f => ⟨[], .nothing, .error (wrap f)⟩

/-- The flags that a fetch brings. -/
def flags (f : Fetch) : Reported (Table Flag) := do
  Document.read (← Reported.ofExcept f.outcome)

end Fetch

/-! ## Waiting -/

/-- The clock by which pollers wait. A wait that is too long for the clock fails at once. -/
structure Clock where
  canWait : Double → Bool

/-- The clock of a system that counts nanoseconds in 64 bits with a sign, and gives whole
microseconds. -/
def Clock.system : Clock := ⟨fun seconds => seconds.le (.finite (mkRat 9223372036854775 1000000))⟩

/-! ## State -/

/-- What a client knows of the flags. Definitions that it once had stay known. -/
inductive Knowledge where
  | notStarted
  | awaited
  | known (flags : Table Flag)

namespace Knowledge

def name : Knowledge → String
  | .notStarted => "NOT_STARTED"
  | .awaited => "POLLING_NOT_READY"
  | .known _ => "READY"

/-- What is known once definitions are waited for. -/
def await : Knowledge → Knowledge
  | .notStarted => .awaited
  | k => k

end Knowledge

/-- A poller in the background. Pollers are numbered from one in the order in which they are made,
and each has a stop signal of its own. One that is dismissed by its signal ends instead of waiting
again; one whose wait fails, or that is told to end in a fetch, ends at once. -/
structure Poller where
  number : Nat
  isDismissed : Bool
  deriving DecidableEq

namespace Poller

/-- A poller when the stop signal of a number is given. -/
def hear (signal : Nat) (p : Poller) : Poller :=
  if p.number = signal then { p with isDismissed := true } else p

end Poller

/-- Who calls an operation: a caller from outside, or a poller in the course of its fetch. -/
inductive Actor where
  | caller
  | poller (number : Nat)
  deriving DecidableEq

structure PollingClient where
  settings : Settings
  tracker : Tracker
  knowledge : Knowledge
  isClosed : Bool
  /-- Whether a start is in force. -/
  isStarted : Bool
  /-- The poller that the client waits for when it stops. -/
  held : Option Nat
  /-- The stop signal that the client gives when it stops: that of the poller made last, or of none
  while none was made. -/
  signal : Nat
  /-- The pollers that have not ended. -/
  pollers : List Poller
  /-- How many fetches were begun. -/
  fetches : Nat

namespace PollingClient

/-- The name under which the client logs. -/
def logName : String := "k1s0_featureflag.local"

/-- A client that was not started yet. -/
def fresh (settings : Settings) (tracker : Tracker) : PollingClient :=
  ⟨settings, tracker, .notStarted, false, false, none, 0, [], 0⟩

/-- The flags that the client evaluates. -/
def snapshot (c : PollingClient) : Table Flag :=
  match c.knowledge with
  | .known flags => flags
  | _ => []

/-- Whether definitions were ever fetched. -/
def isReady (c : PollingClient) : Bool :=
  match c.knowledge with
  | .known _ => true
  | _ => false

/-- Whether the client has a poller. -/
def isPolling (c : PollingClient) : Bool := c.held.isSome

/-- A client after an operation: the result, and what was logged and sent on the way. -/
structure Step (α : Type) where
  client : PollingClient
  result : α
  notices : List Notice
  requests : List Http.Request

/-! ## Ending -/

/-- Lets the dismissed pollers end, except one that is in the course of a fetch. -/
def settle (actor : Actor) (c : PollingClient) : PollingClient :=
  { c with pollers := c.pollers.filter fun p => !p.isDismissed || actor == .poller p.number }

/-- What is logged about the end of a poller: it is waited for, except by itself. -/
def farewell (actor : Actor) : Option Nat → List Notice
  | none => []
  | some number => if actor = .poller number then [] else [.pollingStopped]

/-- Ends polling: the client lets go of its poller and gives the stop signal. -/
def stop (actor : Actor) (c : PollingClient) : PollingClient × List Notice :=
  (settle actor
    { c with isStarted := false, held := none, pollers := c.pollers.map (Poller.hear c.signal) },
    farewell actor c.held)

/-- Closes the client for good. -/
def close (actor : Actor) (c : PollingClient) : PollingClient × List Notice :=
  if c.isClosed then (c, []) else stop actor { c with isClosed := true }

/-- What happens to the client during a fetch. -/
def interrupt (actor : Actor) (c : PollingClient) : Interruption → PollingClient × List Notice
  | .nothing => (c, [])
  | .stop => c.stop actor
  | .close => c.close actor
  | .both first next =>
    let (between, told) := c.interrupt actor first
    let (after, more) := between.interrupt actor next
    (after, told ++ more)

/-! ## Fetching -/

/-- The client in the middle of a fetch. -/
def during (actor : Actor) (fetch : Fetch) (c : PollingClient) : PollingClient × List Notice :=
  interrupt actor { c with fetches := c.fetches + 1 } fetch.interruption

/-- Fetches definitions once and tells whether they are the new snapshot. What a closed client
fetched is dropped. A failure is only logged; a demand to end passes. -/
def refresh (actor : Actor) (fetch : Fetch) (c : PollingClient) : Step (Except Fault Bool) :=
  if c.isClosed then ⟨c, .ok false, [], []⟩
  else
    let (after, told) := c.during actor fetch
    let told := told ++ fetch.flags.notices
    match fetch.flags.outcome with
    | .error (.exit name) => ⟨after, .error (.exit name), told, fetch.requests⟩
    | .error _ => ⟨after, .ok false, told ++ [.fetchFailed], fetch.requests⟩
    | .ok flags =>
      if after.isClosed then ⟨after, .ok false, told, fetch.requests⟩
      else ⟨{ after with knowledge := .known flags }, .ok true, told ++ [.fetched flags.length],
        fetch.requests⟩

/-- The content of a fetch for its own sake; the snapshot stays as it is. -/
def look (fetch : Fetch) (c : PollingClient) : Step (Except Fault Value) :=
  let (after, told) := c.during .caller fetch
  ⟨after, fetch.outcome, told, fetch.requests⟩

/-! ## Starting -/

/-- The client with a start in force. -/
def begin (c : PollingClient) : PollingClient :=
  { c with isStarted := true, knowledge := c.knowledge.await }

/-- The interval of the poller that a started client needs; none if it needs no poller. -/
def pollerInterval? (c : PollingClient) : Option Double :=
  match c.settings.polling with
  | some p => if p.isEnabled && !c.isClosed && c.isStarted && !c.isPolling then some p.interval
    else none
  | none => none

/-- The client with a new poller, whose signal it takes. A poller that cannot wait is at its end
before it fetches anything. -/
def launch (canWait : Bool) (c : PollingClient) : PollingClient :=
  { c with
    held := some (c.signal + 1)
    signal := c.signal + 1
    pollers := if canWait then ⟨c.signal + 1, false⟩ :: c.pollers else c.pollers }

/-- Starts the client: one fetch at once, then a poller if polling is enabled and nothing ended it
meanwhile. A start that is in force already is not repeated. -/
def start (clock : Clock) (fetch : Fetch) (c : PollingClient) : Step (Except Fault Unit) :=
  if c.isClosed then ⟨c, .ok (), [.startRefused], []⟩
  else if c.isStarted then ⟨c, .ok (), [], []⟩
  else
    let s := c.begin.refresh .caller fetch
    match s.result, s.client.pollerInterval? with
    | .error f, _ => ⟨s.client, .error f, s.notices, s.requests⟩
    | .ok _, some interval =>
      ⟨s.client.launch (clock.canWait interval), .ok (), s.notices ++ [.pollingStarted interval],
        s.requests⟩
    | .ok _, none => ⟨s.client, .ok (), s.notices, s.requests⟩

/-- The client without the poller of a number. -/
def drop (number : Nat) (c : PollingClient) : PollingClient :=
  { c with pollers := c.pollers.filter fun p => p.number ≠ number }

/-- Lets the interval of a poller pass: it fetches once, and ends if it was dismissed or told to
end. The result tells whether there is a poller. -/
def tick (fetch : Fetch) (c : PollingClient) : Step Bool :=
  match c.pollers with
  | [] => ⟨c, false, [], []⟩
  | p :: _ =>
    let s := c.refresh (.poller p.number) fetch
    match s.result with
    | .error _ => ⟨(s.client.drop p.number).settle .caller, true, s.notices, s.requests⟩
    | .ok _ => ⟨s.client.settle .caller, true, s.notices, s.requests⟩

end PollingClient

end StagedRollout
