import BcmPlatform.Bomx.Omx
import BcmPlatform.Lib.Queues
import Mathlib.Logic.Function.Basic

/-! `BOMX_BufferTracker`: the time stamps and flags of the input frames that are in the decoder, in display order, without the
    free nodes: `Add` takes a new one when there is none. Then the same tracker with its nodes: the list of the allocated nodes,
    the list of the free ones, and the heap that `Add` takes a new node from. -/

namespace BcmPlatform.Bomx

/-- `BOMX_BufferTrackerNode` -/
structure TrackerNode where
  ticks : Ticks
  flags : BufferFlags
  pts : Nat
  deriving DecidableEq, Repr

/-- The allocated nodes. -/
abbrev BufferTracker := List TrackerNode

namespace BufferTracker

/-- The node goes to the tail, to the head, or behind the last node with a PTS that is not greater. -/
def insert (t : BufferTracker) (n : TrackerNode) : BufferTracker :=
  match t.getLast?, t.head? with
  | some last, some first =>
    if last.pts ≤ n.pts then t ++ [n]
    else if n.pts < first.pts then n :: t
    else
      let greater := (t.reverse.takeWhile (·.pts > n.pts)).length
      t.take (t.length - greater) ++ n :: t.drop (t.length - greater)
  | _, _ => [n]

def add (t : BufferTracker) (h : BufferHeader) : BufferTracker × Nat :=
  let pts := tickToPts h.nTimeStamp
  (t.insert { ticks := h.nTimeStamp, flags := h.nFlags, pts }, pts)

/-- The loop of `Remove` that drops stale nodes while at least 30 were missed. -/
def cleanup (ticks : Ticks) : BufferTracker → Nat → BufferTracker
  | [], _ => []
  | n :: t, miss =>
    if miss ≥ 30 then
      if n.ticks ≠ 0 ∧ n.ticks < ticks then cleanup ticks t (miss - 1) else n :: cleanup ticks t miss
    else n :: t

/-- `Remove`: the tracker without the frame, and the frame's ticks and flags. -/
def remove (t : BufferTracker) (pts : Nat) : BufferTracker × Ticks × BufferFlags :=
  match t.findIdx? (·.pts = pts) with
  | none => (t, ptsToTick pts, {})
  | some miss =>
    match t[miss]? with
    | none => (t, ptsToTick pts, {})
    | some n =>
      let t := t.eraseIdx miss
      (if miss > 300 then cleanup n.ticks t miss else t, n.ticks, n.flags)

/-- `Last`: no frame is later. -/
def last (t : BufferTracker) (ticks : Ticks) : Bool := t.all (·.ticks ≤ ticks)

end BufferTracker
end BcmPlatform.Bomx

/-! ### Nodes -/

namespace BcmPlatform.Bomx
open Lib

/-- `BUFTR_CLEANUP_THRESHOLD` -/
def buftrCleanupThreshold : Nat := 300

/-- `BUFTR_CLEANUP_KEEP` -/
def buftrCleanupKeep : Nat := 30

/-- The contents of a node for a header. -/
def TrackerNode.ofHeader (pHeader : BufferHeader) : TrackerNode :=
  { ticks := pHeader.nTimeStamp, flags := pHeader.nFlags, pts := tickToPts pHeader.nTimeStamp }

/-- Nodes are named by their address. -/
abbrev NodeId := Nat

/-- `BOMX_BufferTracker`. The addresses from `heap` on were never given out; `asserts` counts the assertions that failed. -/
structure NodeTracker where
  allocList : List NodeId := []
  freeList : List NodeId := []
  node : NodeId → TrackerNode := fun _ => { ticks := 0, flags := {}, pts := 0 }
  maxAllocated : Nat
  valid : Bool := true
  heap : NodeId := 0
  asserts : Nat := 0

/-- What `Remove` returns in the header, and the nodes that its clean-up took out. -/
structure Removal where
  tracker : NodeTracker
  found : Bool
  nTimeStamp : Ticks
  nFlags : BufferFlags
  discarded : List NodeId

namespace NodeTracker

/-- The loop of the constructor. `new` says whether the heap has a node. -/
def allocate : List Bool → NodeTracker → NodeTracker
  | [], s => s
  | false :: _, s => { s with valid := false }
  | true :: news, s => allocate news { s with freeList := s.freeList ++ [s.heap], heap := s.heap + 1 }

/-- The constructor, for as many entries as there are answers of the heap. -/
def construct (news : List Bool) : NodeTracker := allocate news { maxAllocated := news.length }

/-! ### `Add` -/

/-- The node that `Add` takes. -/
def newNode (s : NodeTracker) : NodeId := s.freeList.headD s.heap

/-- The tracker without that node; nothing if there is none. -/
def takeNode (new : Bool) (s : NodeTracker) : Option NodeTracker :=
  match s.freeList with
  | _ :: freeList => some { s with freeList }
  | [] => if new then some { s with heap := s.heap + 1, maxAllocated := s.maxAllocated + 1 } else none

/-- The scan backward from `pPrev` to a node with a lesser or equal PTS. -/
def scanBackward (s : NodeTracker) (pts : Nat) : Nat → NodeId → Option NodeId
  | 0, _ => none
  | fuel + 1, pPrev =>
    match Queue.prev s.allocList pPrev with
    | none => none
    | some pPrev => if (s.node pPrev).pts > pts then scanBackward s pts fuel pPrev else some pPrev

/-- The node goes into the list, in display order. -/
def insertNode (pNode : NodeId) (s : NodeTracker) : NodeTracker :=
  match s.allocList with
  | [] => { s with allocList := [pNode] }
  | first :: rest =>
    let last := (first :: rest).getLast (List.cons_ne_nil first rest)
    if (s.node last).pts ≤ (s.node pNode).pts then { s with allocList := s.allocList ++ [pNode] }
    else if (s.node pNode).pts < (s.node first).pts then { s with allocList := pNode :: s.allocList }
    else
      match s.scanBackward (s.node pNode).pts s.allocList.length last with
      | none => { s with asserts := s.asserts + 1 }
      | some pPrev => { s with allocList := Queue.insertAfter pPrev pNode s.allocList }

/-- `Add`: the tracker and, if it returns true, the PTS. -/
def add (pHeader : BufferHeader) (new : Bool) (s : NodeTracker) : NodeTracker × Option Nat :=
  let pNode := s.newNode
  match s.takeNode new with
  | none => (s, none)
  | some s =>
    let entry := TrackerNode.ofHeader pHeader
    (insertNode pNode { s with node := Function.update s.node pNode entry }, some entry.pts)

/-! ### `Remove` -/

/-- The search of `Remove`: the first node with the PTS, and how many it passed over. -/
def search (node : NodeId → TrackerNode) (pts : Nat) : List NodeId → Nat → Option (NodeId × Nat)
  | [], _ => none
  | pNode :: rest, miss => if (node pNode).pts = pts then some (pNode, miss) else search node pts rest (miss + 1)

/-- A node goes from the one list to the other. -/
def release (pNode : NodeId) (s : NodeTracker) : NodeTracker :=
  { s with allocList := s.allocList.erase pNode, freeList := s.freeList ++ [pNode] }

/-- Whether the clean-up takes a node out. -/
def stale (s : NodeTracker) (ticks : Ticks) (pNode : NodeId) : Bool :=
  decide ((s.node pNode).ticks ≠ 0 ∧ (s.node pNode).ticks < ticks)

/-- The loop of the clean-up from `pNode` on, in at most `fuel` rounds: the tracker and the nodes taken out. -/
def cleanup (ticks : Ticks) : Nat → Option NodeId → Nat → NodeTracker → Option (NodeTracker × List NodeId)
  | _, none, _, s => some (s, [])
  | 0, some _, miss, s => if miss ≥ buftrCleanupKeep then none else some (s, [])
  | fuel + 1, some pNode, miss, s =>
    if miss ≥ buftrCleanupKeep then
      let pNextNode := Queue.next s.allocList pNode
      if s.stale ticks pNode then
        (cleanup ticks fuel pNextNode (miss - 1) (s.release pNode)).map fun r => (r.1, pNode :: r.2)
      else cleanup ticks fuel pNextNode miss s
    else some (s, [])

/-- `Remove`. The clean-up is given a round for each node. -/
def remove (pts : Nat) (s : NodeTracker) : Option Removal :=
  match search s.node pts s.allocList 0 with
  | none => some { tracker := s, found := false, nTimeStamp := ptsToTick pts, nFlags := {}, discarded := [] }
  | some (pNode, miss) =>
    let nFlags := (s.node pNode).flags
    let nTimeStamp := (s.node pNode).ticks
    let s := s.release pNode
    if miss > buftrCleanupThreshold then
      (s.cleanup nTimeStamp s.allocList.length s.allocList.head? miss).map fun r =>
        { tracker := r.1, found := true, nTimeStamp, nFlags, discarded := r.2 }
    else some { tracker := s, found := true, nTimeStamp, nFlags, discarded := [] }

/-! ### `Flush` -/

/-- The loop of `Flush`, over the nodes that are left. -/
def flushNodes : List NodeId → NodeTracker → NodeTracker
  | [], s => s
  | pNode :: rest, s => flushNodes rest { s with allocList := rest, freeList := s.freeList ++ [pNode] }

def flush (s : NodeTracker) : NodeTracker := s.flushNodes s.allocList

end NodeTracker

/-! ### Runs -/

inductive TrackerCall where
  | add (pHeader : BufferHeader) (new : Bool)
  | remove (pts : Nat)
  | flush
  deriving DecidableEq, Repr

/-- A tracker with what was done to it: the call that added a node last, the entries that were added and neither removed
    nor flushed, in that order, and whether a clean-up took out a node. -/
structure TrackerRun where
  tracker : NodeTracker
  calls : Nat := 0
  addedAt : NodeId → Nat := fun _ => 0
  pending : List TrackerNode := []
  cleaned : Bool := false

namespace TrackerRun

def step (s : TrackerRun) : TrackerCall → Option TrackerRun
  | .add pHeader new =>
    let r := s.tracker.add pHeader new
    match r.2 with
    | none => some { s with tracker := r.1, calls := s.calls + 1 }
    | some _ =>
      some { s with
        tracker := r.1
        calls := s.calls + 1
        addedAt := Function.update s.addedAt s.tracker.newNode s.calls
        pending := s.pending ++ [.ofHeader pHeader] }
  | .remove pts =>
    (s.tracker.remove pts).map fun r =>
      { s with
        tracker := r.tracker
        calls := s.calls + 1
        pending := s.pending.eraseP (·.pts = pts)
        cleaned := s.cleaned || !r.discarded.isEmpty }
  | .flush => some { s with tracker := s.tracker.flush, calls := s.calls + 1, pending := [] }

/-- A list of calls on a new tracker. -/
def run (news : List Bool) (calls : List TrackerCall) : Option TrackerRun :=
  calls.foldlM step { tracker := .construct news }

end TrackerRun
end BcmPlatform.Bomx
