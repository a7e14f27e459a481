import FrameOperator.Lib.Runs
import Mathlib.Logic.Function.Basic

/-!
# The console's session

`currentSession`, `ensureToken` and `logout` (`src/lib/auth.ts`) share the session of the tab and the token on the global object.
Each call waits for its fetch, and any other may go on in between. Who listens for a lost session is left out.
-/

namespace FrameOperator.Console

def refreshMarginMs : Int := 120000

structure Session where
  token : String
  expiresAt : Int

/-- What a call waits for. -/
inductive Awaits where
  | token
  | json
  | logout
deriving DecidableEq

structure Tab where
  session : Option Session := none
  published : Option String := none
  calls : Nat → Option Awaits := fun _ => none
  next : Nat := 0

/-- The head of a response: its status, and whether its content type is HTML. -/
structure Head where
  status : Nat
  html : Bool

def Head.servedByAuthd (h : Head) : Bool := !h.html

def Head.ok (h : Head) : Bool := 200 ≤ h.status && h.status < 300

inductive Act where
  | currentSession
  | ensureToken (now : Int)
  | logout
  /-- A fetch is answered, or rejects. -/
  | answered (id : Nat) (head : Option Head)
  /-- The body of a response is read, or is not the JSON expected. -/
  | parsed (id : Nat) (body : Option (String × Int)) (now : Int)

inductive Told where
  | started (id : Nat)
  | resolved (id : Nat) (token : String)
  | returned (token : String)
  | loggedOut

namespace Tab

/-- A call goes on to wait for something else, or settles. -/
def wait (t : Tab) (id : Nat) (a : Option Awaits) : Tab := { t with calls := Function.update t.calls id a }

def start (t : Tab) (a : Awaits) : Tab × List Told := ({ t.wait t.next (some a) with next := t.next + 1 }, [.started t.next])

def clearSession (t : Tab) : Tab := { t with session := none, published := none }

/-- What `ensureToken` returns without a fetch. -/
def cached (t : Tab) (now : Int) : Option String :=
  (t.session.filter fun s => s.expiresAt - now > refreshMarginMs).map Session.token

def step (t : Tab) : Act → Tab × List Told
  | .currentSession => t.start .token
  | .ensureToken now =>
    match t.cached now with
    | some token => (t, [.returned token])
    | none => t.start .token
  | .logout => t.start .logout
  | .answered id head =>
    match t.calls id with
    | some .token =>
      match head with
      | none => (t.wait id none, [])
      | some head =>
        if head.status = 401 ∨ head.servedByAuthd = false then ((t.wait id none).clearSession, [])
        else if head.ok then (t.wait id (some .json), [])
        else (t.wait id none, [])
    -- the session is dropped whether or not the fetch failed
    | some .logout => ((t.wait id none).clearSession, [.loggedOut])
    | _ => (t, [])
  | .parsed id body now =>
    match t.calls id, body with
    | some .json, none => (t.wait id none, [])
    | some .json, some (token, expiresIn) =>
      ({ t.wait id none with session := some ⟨token, now + expiresIn * 1000⟩, published := some token }, [.resolved id token])
    | _, _ => (t, [])

end Tab

end FrameOperator.Console
