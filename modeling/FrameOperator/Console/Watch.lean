import FrameOperator.Lib.Runs

/-!
# The console's watch

`runWatchLoop` (`src/lib/k8s-watch.ts`): it lists to learn a version, watches from it, and starts over when the stream ends. The
loop is resumed by what its fetches, its reader and its timers give it; beside it the API server holds the changes of the path. How
the bytes of a stream are cut into lines is left out.
-/

namespace FrameOperator.Console

def backoffStartMs : Nat := 1000

def backoffMaxMs : Nat := 30000

def fallbackAfterFailures : Nat := 3

/-- A `WatchError` with its status, or what `fetch` and the reader reject with. -/
inductive Thrown where
  | watchError (status : Nat)
  | rejected

def isExpiredResourceVersion : Thrown → Bool
  | .watchError status => status = 410
  | .rejected => false

/-- A fetch: no status where it rejects, and a body that may be absent. -/
def fetched {α : Type} : Option Nat → Option α → Except Thrown α
  | none, _ => .error .rejected
  | some status, body =>
    if 200 ≤ status ∧ status < 300 then
      match body with
      | none => .error (.watchError 0)
      | some a => .ok a
    else .error (.watchError status)

/-- What the loop waits for. The stream remembers whether it has told of an event. -/
inductive Waits where
  | list
  | watch
  | stream (seen : Bool)
  | sleep (ms : Nat)
  | poll
  | returned
deriving DecidableEq

structure Loop where
  waits : Waits := .list
  backoff : Nat := backoffStartMs
  failures : Nat := 0

/-- The `catch` of the loop. -/
def Loop.caught (l : Loop) (err : Thrown) : Loop :=
  if isExpiredResourceVersion err then { l with waits := .list }
  else if fallbackAfterFailures ≤ l.failures + 1 then { l with failures := l.failures + 1, waits := .poll }
  else { l with failures := l.failures + 1, waits := .sleep l.backoff }

/-- How an attempt, one iteration of the loop, went. -/
inductive Attempt where
  | listFailed (err : Thrown)
  | watchFailed (err : Thrown) (seen : Bool)
  | ended

/-- What an attempt leaves of the loop. A list that succeeds starts the failures and the backoff over. -/
def Loop.attempted (l : Loop) : Attempt → Loop
  | .listFailed err => l.caught err
  | .watchFailed err _ => Loop.caught {} err
  | .ended => {}

def Loop.woken (l : Loop) : Loop :=
  match l.waits with
  | .sleep _ => { l with waits := .list, backoff := min (l.backoff * 2) backoffMaxMs }
  | _ => l

/-- The loop makes another attempt unless it polls. -/
def Loop.iterate (l : Loop) (a : Attempt) : Loop := if l.waits = .poll then l else l.woken.attempted a

/-- The loop by its attempts. -/
def runWatchLoop (attempts : List Attempt) : Loop := attempts.foldl Loop.iterate {}

inductive Event where
  | committed (version : Nat)
  | watches (resourceVersion : Nat)
  | signals
  | attempted (a : Attempt)

/-- The loop, and the API server's side of the path; `cursor` is how far the last list or stream came. -/
structure Watched where
  loop : Loop := {}
  now : Nat := 0
  changes : List Nat := []
  cursor : Option Nat := none

inductive Line where
  | unreadable
  | bookmark
  | error (code : Option Nat)
  | change

inductive Input where
  | commit
  | elsewhere
  | list (status : Option Nat) (versioned : Bool)
  | watch (status : Option Nat) (streamed : Bool)
  | line (l : Line)
  | done
  | broke
  | timer
  | abort

namespace Watched

/-- The next change that a stream from the cursor delivers. -/
def next (w : Watched) : Option Nat := (w.changes.filter fun c => w.cursor.any (· < c)).min?

/-- An attempt is over. -/
def attempted (w : Watched) (a : Attempt) : Watched × List Event := ({ w with loop := w.loop.attempted a }, [.attempted a])

def step (w : Watched) (i : Input) : Watched × List Event :=
  match w.loop.waits, i with
  | _, .commit => ({ w with now := w.now + 1, changes := w.changes ++ [w.now + 1] }, [.committed (w.now + 1)])
  | _, .elsewhere => ({ w with now := w.now + 1 }, [])
  | _, .abort => ({ w with loop.waits := .returned }, [])
  | .list, .list status versioned =>
    match fetched status (if versioned then some w.now else none) with
    | .error err => w.attempted (.listFailed err)
    | .ok v => ({ w with loop := { waits := .watch }, cursor := some v }, [.watches v])
  | .watch, .watch status streamed =>
    match fetched status (if streamed then some () else none) with
    | .error err => w.attempted (.watchFailed err false)
    | .ok () => ({ w with loop.waits := .stream false }, [])
  | .stream seen, .line l =>
    match l with
    | .unreadable => (w, [])
    | .bookmark => ({ w with loop.waits := .stream true }, [])
    | .error code => w.attempted (.watchFailed (.watchError (code.getD 0)) seen)
    | .change =>
      match w.next with
      | none => (w, [])
      | some c => ({ w with loop.waits := .stream true, cursor := some c }, [.signals])
  | .stream _, .done => w.attempted .ended
  | .stream seen, .broke => w.attempted (.watchFailed .rejected seen)
  | .sleep _, .timer => ({ w with loop := w.loop.woken }, [])
  | .poll, .timer => (w, [.signals])
  | _, _ => (w, [])

end Watched

end FrameOperator.Console
