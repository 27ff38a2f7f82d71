import ActorSilo.Activation.Record

/-! # The idle-collection wheel

Bucket `k` is due `k` quanta after the wheel's epoch; an activation scheduled `timeout` from now
goes to the first bucket due at or after that moment and holds its number as its ticket. A
timeout below one quantum, a bucket already scanned and a system activation are refused. A scan
takes every due bucket, keeps the stale collection candidates and schedules the others again with
their age limit; a forced scan takes the candidates idle for at least a given age. Only an
unclaimed ticket naming the bucket lets a bucket give an activation up.
-/

namespace ActorSilo

/-- The timing wheel. -/
structure Collector where
  quantum : Duration
  epoch : Instant
  nextTicket : Nat := 0
  /-- Buckets by ticket, ascending, with the activation ids they hold. -/
  buckets : List (Nat × List Nat) := []
  deriving Inhabited

namespace Collector

def maxTicket : Nat := Nat.pow 2 64 - 1

/-- A wheel made at `now`; its quantum is at least one millisecond. -/
def make (quantum : Duration) (now : Instant) : Collector :=
  { quantum := if quantum < Duration.ofMillis 1 then Duration.ofMillis 1 else quantum, epoch := now }

def count (c : Collector) : Nat := c.buckets.foldl (fun n b => n + b.2.length) 0

def bucketCount (c : Collector) : Nat := c.buckets.length

/-- When bucket `t` is due. -/
def deadline (c : Collector) (t : Nat) : Instant := c.epoch + min (c.quantum.toNanos * t) maxTicket

/-- The ticket for `timeout` from `now`, no earlier than `next`. -/
def ticketFor (c : Collector) (next : Nat) (timeout : Duration) (now : Instant) :
    Except ClockOverflow (Except CollectorError Nat) := do
  if timeout < c.quantum then return .error (.timeoutBelowQuantum timeout c.quantum)
  let due ← now.after timeout
  let q := c.quantum.toNanos
  let t := min ((due - c.epoch + q - 1) / q) maxTicket
  if t < next then return .error .ticketExpired
  return .ok t

def bucket? (c : Collector) (t : Nat) : Option (List Nat) := (c.buckets.find? (·.1 == t)).map (·.2)

/-- Replaces the ids of bucket `t`, allocating it in ticket order. -/
def setBucket (c : Collector) (t : Nat) (ids : List Nat) : Collector :=
  { c with buckets := insert c.buckets }
where
  insert : List (Nat × List Nat) → List (Nat × List Nat)
    | [] => [(t, ids)]
    | (k, v) :: rest =>
      if k == t then (t, ids) :: rest
      else if t < k then (t, ids) :: (k, v) :: rest
      else (k, v) :: insert rest

def dropBucket (c : Collector) (t : Nat) : Collector :=
  { c with buckets := c.buckets.filter (·.1 != t) }

/-- Puts `a` into bucket `t`. -/
def add (c : Collector) (a : Activation) (t : Nat) : Collector × Activation :=
  let ids := (c.bucket? t).getD []
  (c.setBucket t (ids ++ [a.id]), { a with cancelled := false, ticket := some t })

/-- Takes `a` out of bucket `t` if its unclaimed ticket names that bucket; the ticket is
then claimed and cleared. -/
def removeFrom (c : Collector) (a : Activation) (t : Nat) : Collector × Activation × Bool :=
  match c.bucket? t with
  | some ids =>
    if a.ticket == some t && !a.cancelled && ids.contains a.id then
      (c.setBucket t (ids.erase a.id), { a with cancelled := true, ticket := none }, true)
    else (c, a, false)
  | none => (c, a, false)

/-- Schedules an idle activation `timeout` from `now`. A zero timeout turns collection
off and does nothing; an activation that holds a ticket already is refused. -/
def schedule (c : Collector) (a : Activation) (timeout : Duration) (now : Instant) :
    Except ClockOverflow (Except CollectorError (Collector × Activation)) := do
  if a.isExempt then return .error (.exempt a.address.render)
  if timeout.isZero then return .ok (c, a)
  if a.ticket.isSome then return .error (.alreadyScheduled a.address.render)
  match ← c.ticketFor c.nextTicket timeout now with
  | .ok t => return .ok (c.add a t)
  | .error e => return .error e

/-- Takes an activation out of the wheel; false when it holds no ticket, its bucket was
scanned, or its ticket was claimed. -/
def cancel (c : Collector) (a : Activation) : Collector × Activation × Bool :=
  if a.isExempt then (c, a, false)
  else
    match a.ticket with
    | none => (c, a, false)
    | some t => if t < c.nextTicket then (c, a, false) else c.removeFrom a t

/-- Moves an activation to the bucket `timeout` from `now`; true when it ends up
scheduled. On failure its ticket is cleared. -/
def reschedule (c : Collector) (a : Activation) (timeout : Duration) (now : Instant) :
    Except ClockOverflow (Collector × Activation × Bool) := do
  if a.isExempt then return (c, a, false)
  let failed (c : Collector) (a : Activation) : Collector × Activation × Bool :=
    (c, { a with ticket := none }, false)
  match a.ticket with
  | none => return failed c a
  | some old =>
    if old < c.nextTicket then return failed c a
    match ← c.ticketFor c.nextTicket timeout now with
    | .error _ =>
      let (c, a, _) := c.removeFrom a old
      return failed c a
    | .ok new =>
      if new == old then return (c, a, true)
      let (c, a, removed) := c.removeFrom a old
      if !removed then return failed c a
      let (c, a) := c.add a new
      return (c, a, true)

/-- The activation of id `id` among `acts`. -/
def find? (acts : List Activation) (id : Nat) : Option Activation := acts.find? (·.id == id)

/-- `acts` with the activation of `a`'s id replaced by `a`. -/
def replace (acts : List Activation) (a : Activation) : List Activation :=
  acts.map fun x => if x.id == a.id then a else x

/-- Scans bucket `k`: its claimed activations that are stale candidates are returned,
the others are scheduled again with their age limit. -/
def scanBucket (c : Collector) (acts : List Activation) (k : Nat) (now : Instant) :
    Except ClockOverflow (Collector × List Activation × List Nat) := do
  let ids := (c.bucket? k).getD []
  let c := { c.dropBucket k with nextTicket := k + 1 }
  let visit (acc : Collector × List Activation × List Nat) (id : Nat) :
      Except ClockOverflow (Collector × List Activation × List Nat) := do
    let (c, acts, stale) := acc
    match find? acts id with
    | none => return (c, acts, stale)
    | some a =>
      if !(a.ticket == some k && !a.cancelled) then return (c, acts, stale)
      let a := { a with cancelled := true, ticket := none }
      if a.isCandidate now && a.isStale now then return (c, replace acts a, stale ++ [id])
      match ← c.schedule a a.ageLimit now with
      | .ok (c, a) => return (c, replace acts a, stale)
      | .error _ => return (c, replace acts a, stale)
  ids.foldlM visit (c, acts, [])

/-- Scans every due bucket, in ticket order: the stale idle activations found. Once the clock
is past the last deadline a ticket can name, every bucket stays due and the scan never ends:
that stops the program as a clock overflow does. -/
def scanStale (c : Collector) (acts : List Activation) (now : Instant) :
    Except ClockOverflow (Collector × List Activation × List Nat) := do
  if maxTicket ≤ now - c.epoch then throw {}
  let last := (now - c.epoch) / c.quantum.toNanos
  if last < c.nextTicket then return (c, acts, [])
  let due := (c.buckets.map (·.1)).filter fun k => c.nextTicket ≤ k && k ≤ last
  let visit (acc : Collector × List Activation × List Nat) (k : Nat) :
      Except ClockOverflow (Collector × List Activation × List Nat) := do
    let (c, acts, stale) := acc
    let (c, acts, found) ← c.scanBucket acts k now
    return (c, acts, stale ++ found)
  let (c, acts, stale) ← due.foldlM visit (c, acts, [])
  return ({ c with nextTicket := last + 1 }, acts, stale)

/-- Takes from every bucket the candidates idle for at least `age`. -/
def scanAll (c : Collector) (acts : List Activation) (age : Duration) (now : Instant) :
    Collector × List Activation × List Nat :=
  let visit (k : Nat) (acc : Collector × List Activation × List Nat) (id : Nat) :
      Collector × List Activation × List Nat :=
    let (c, acts, taken) := acc
    match find? acts id with
    | none => (c, acts, taken)
    | some a =>
      if a.isCandidate now && age ≤ a.idleness now then
        let (c, a, removed) := c.removeFrom a k
        if removed then (c, replace acts a, taken ++ [id]) else (c, acts, taken)
      else (c, acts, taken)
  c.buckets.foldl (fun acc (k, ids) => ids.foldl (visit k) acc) (c, acts, [])

/-- `ActivationCollector { quantum: 10s, count: n, buckets: n, next_ticket: n }`. -/
def structural (c : Collector) : String :=
  "ActivationCollector \x7b quantum: " ++ c.quantum.render ++ ", count: " ++ toString c.count ++
    ", buckets: " ++ toString c.bucketCount ++ ", next_ticket: " ++ toString c.nextTicket ++ " \x7d"

end Collector

end ActorSilo
