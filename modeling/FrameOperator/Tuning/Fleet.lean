import FrameOperator.Tuning.Cluster

/-!
# The cluster, its hosts and their agents, step by step

The cluster with the machines under its Nodes, and with every step that can fall between two others taken by itself: a pass of the
controller treats one Node in each step, and a tick of a node's agent (`cmd/agent/main.go`) takes four.
-/

namespace FrameOperator

/-- How far an agent is with its tick, and the Node it holds: read; measured; published. -/
inductive Tick where
  | read (node : Node)
  | measured (node : Node) (activeEnter : Option Time) (migProfile : String)
  | published (node : Node)

/-- A machine: its containerd unit and when that was last active, and what its agent did and is still to do. -/
structure Host where
  unit : String
  activeEnter : Option Time
  lastActedRequest : String
  armed : Bool
  tick : Option Tick

/-- What a pass listed, the nodes to come, and its state with the server as written. -/
structure Working where
  env : PassEnv
  deleting : Bool
  listed : List Node
  all : List NodeTuning
  rest : List Node
  pass : Pass

structure Fleet where
  server : Server
  hosts : String → Host
  working : Option Working

/-- The writes of Nodes, and the units that entered the active state. -/
inductive FleetEvent where
  | wrote (e : Event)
  | activated (node : String) (at_ : Time)

/-! ## The agent -/

/-- Nothing for a unit off the allowlist, never active, or not to be asked about. -/
def Host.unitActiveEnterTimestamp (h : Host) (readable : Bool) : Option Time :=
  if isRestartable h.unit && readable then h.activeEnter else none

/-- What the agent would publish is what its Node object already says. -/
def equalNodeMetadata (unit : String) (activeEnter : Option Time) (migProfile : String) (n : Node) : Bool :=
  n.annotations .unit == some (.text unit) &&
    activeEnter.all (fun t => n.annotations .unitActiveEnter == some (.stamp t)) &&
    (migProfile == "" || n.labels migConfigLabel == some migProfile)

def Node.mergeMetadata (base new cur : Node) : Node :=
  { cur with
    annotations := mergeMap base.annotations new.annotations cur.annotations
    labels := mergeMap base.labels new.labels cur.labels }

theorem Node.name_mergeMetadata (base new cur : Node) : (base.mergeMetadata new cur).name = cur.name := rfl

/-- The agent's patch, computed from the Node it read and applied to the one that is there. -/
def Server.publish (s : Server) (base new : Node) : Server :=
  s.editNode base.name (base.mergeMetadata new) (base.name_mergeMetadata new)

/-- `publishNodeState`: nothing, or a patch that answers with the Node as it is then. -/
def publishNodeState (s : Server) (h : Host) (node : Node) (activeEnter : Option Time) (migProfile : String)
    (committed : Bool) : Server × Node :=
  let new := setNodeState h.unit activeEnter migProfile node
  if equalNodeMetadata h.unit activeEnter migProfile node then (s, new)
  else if committed then (s.publish node new, ((s.publish node new).nodes.get? node.name).getD new)
  else (s, new)

/-- `serviceRestartRequest`: schedule the restart asked for, unless this agent already acted on it. -/
def serviceRestartRequest (h : Host) (node : Node) (scheduled recorded : Bool) : Host :=
  let requested := node.annotations.raw .restartRequested
  if requested = "" then h
  else if requested = h.lastActedRequest then h
  else if isRestartable h.unit && scheduled then
    { h with armed := true, lastActedRequest := if recorded then requested else h.lastActedRequest }
  else h

/-! ## The steps -/

inductive FleetAction where
  /-- A pass sets out on a version of the history, and lists the Nodes. -/
  | beginPass (version : Nat) (env : PassEnv)
  /-- The pass treats the next of its nodes. -/
  | turn
  /-- The pass is through with its nodes. -/
  | finish
  /-- The controller's process dies. -/
  | abandon
  | tickRead (node : String)
  | tickMeasure (node : String) (readable : Bool) (migProfile : String)
  | tickPublish (node : String) (committed : Bool)
  | tickService (node : String) (scheduled recorded : Bool)
  /-- The agent gives up on its tick, or dies. -/
  | tickAbort (node : String)
  /-- The unit enters the active state, at its own doing or somebody else's. -/
  | activate (node : String) (at_ : Time)
  /-- The restart that the agent scheduled: the unit enters the active state. -/
  | fire (node : String) (at_ : Time)
  /-- A step of the cluster that is neither a pass nor the agent's. -/
  | other (a : Action)

variable (r : NodeTuningReconciler)

namespace Fleet

def setHost (f : Fleet) (x : String) (h : Host) : Fleet := { f with hosts := Function.update f.hosts x h }

/-- The pass sets out: it reads its NodeTuning from the cache, and lists the Nodes and the NodeTunings. -/
def beginPass (f : Fleet) (version : Nat) (env : PassEnv) : Fleet :=
  match f.working, f.server.tunings.past[version]?, env.listNodes with
  | none, some copy, .ok () =>
    let listed := f.server.nodes.items
    let pass := NodeTuningReconciler.begin_ f.server copy
    if copy.val.deletionTimestamp.isSome then { f with working := some ⟨env, true, listed, [], listed, pass⟩ }
    else
      match r.workOf listed copy.val, env.listTunings with
      | .ok work, .ok all => { f with working := some ⟨env, false, listed, all, work, pass⟩ }
      | _, _ => f
  | _, _, _ => f

end Fleet

/-- The pass as it takes its next turn: on the server as it is now, with nothing written in this turn yet. -/
def Working.resume (w : Working) (s : Server) : Pass := { w.pass with server := s, log := [] }

def Working.turn (w : Working) (s : Server) (node : Node) : Pass × Bool :=
  if w.deleting then
    match NodeTuningReconciler.releaseOwned w.env w.listed (w.resume s, .ok ()) node with
    | (q, .ok ()) => (q, true)
    | (q, .error _) => (q, false)
  else
    let q := r.reconcileNode w.env w.listed w.all (w.resume s) node
    (q, q.alive)

/-- What the end of the pass leaves on the server. -/
def Working.finish (w : Working) (s : Server) : Server :=
  if w.deleting then ((w.resume s).removeFinalizer w.env.dropFinalizer).1.server
  else (NodeTuningReconciler.finishPass w.env (w.resume s)).1.server

namespace Fleet

def turn (f : Fleet) : Fleet × List FleetEvent :=
  match f.working with
  | none => (f, [])
  | some w =>
    match w.rest with
    | [] => (f, [])
    | node :: rest =>
      let done := w.turn r f.server node
      ({ f with
          server := done.1.server
          working := if done.2 then some { w with rest := rest, pass := done.1 } else none },
        done.1.log.map .wrote)

def finish (f : Fleet) : Fleet :=
  match f.working with
  | none => f
  | some w => if w.rest.isEmpty then { f with server := w.finish f.server, working := none } else f

def tickRead (f : Fleet) (x : String) : Fleet :=
  match (f.hosts x).tick, f.server.nodes.get? x with
  | none, some node => f.setHost x { f.hosts x with tick := some (.read node) }
  | _, _ => f

def tickMeasure (f : Fleet) (x : String) (readable : Bool) (migProfile : String) : Fleet :=
  match (f.hosts x).tick with
  | some (.read node) =>
    f.setHost x { f.hosts x with
      tick := some (.measured node ((f.hosts x).unitActiveEnterTimestamp readable) migProfile) }
  | _ => f

def tickPublish (f : Fleet) (x : String) (committed : Bool) : Fleet :=
  match (f.hosts x).tick with
  | some (.measured node activeEnter migProfile) =>
    let done := publishNodeState f.server (f.hosts x) node activeEnter migProfile committed
    { f with server := done.1 }.setHost x { f.hosts x with tick := some (.published done.2) }
  | _ => f

def tickService (f : Fleet) (x : String) (scheduled recorded : Bool) : Fleet :=
  match (f.hosts x).tick with
  | some (.published node) =>
    f.setHost x { serviceRestartRequest (f.hosts x) node scheduled recorded with tick := none }
  | _ => f

/-- The unit enters the active state; its timestamps strictly increase. -/
def activate (f : Fleet) (x : String) (at_ : Time) : Fleet × List FleetEvent :=
  if (f.hosts x).activeEnter.all (· < at_) then (f.setHost x { f.hosts x with activeEnter := some at_ }, [.activated x at_])
  else (f, [])

end Fleet

/-- The step is neither a pass of the controller nor a write of the agent on its Node. -/
def Action.foreign : Action → Bool
  | .pass _ _ => false
  | .publish _ _ _ _ => false
  | _ => true

def fleetStep (f : Fleet) : FleetAction → Fleet × List FleetEvent
  | .beginPass version env => (f.beginPass r version env, [])
  | .turn => f.turn r
  | .finish => (f.finish, [])
  | .abandon => ({ f with working := none }, [])
  | .tickRead x => (f.tickRead x, [])
  | .tickMeasure x readable migProfile => (f.tickMeasure x readable migProfile, [])
  | .tickPublish x committed => (f.tickPublish x committed, [])
  | .tickService x scheduled recorded => (f.tickService x scheduled recorded, [])
  | .tickAbort x => (f.setHost x { f.hosts x with tick := none }, [])
  | .activate x at_ => f.activate x at_
  | .fire x at_ => if (f.hosts x).armed then (f.setHost x { f.hosts x with armed := false }).activate x at_ else (f, [])
  | .other a => if a.foreign then ({ f with server := (step r f.server a).1 }, []) else (f, [])

end FrameOperator
