import ActorSilo.Duration

/-! # Silo configuration

Three sections configure a silo.

* Messaging: how long a caller waits for a response (30 s), whether and how often a
  request is resent when it times out (no; at most 2 resends), how often a message may be
  forwarded (2), whether deadlocks are detected (yes), the longest expected turn (2 h),
  an optional delay before a stale directory entry is removed, and fault injection
  (rejection and loss rates, both 0, and an optional seed).
* Collection: the period of the idle-collection wheel (60 s), the default idle age
  limit (2 h), per-type age limits, and an optional cap on keep-alive requests.
* Limits: the soft and hard mailbox limits of ordinary grains (1000, 5000) and of
  stateless workers (10000, 50000). A limit of zero is off.
-/

namespace ActorSilo

/-- A soft and a hard threshold, with the name used in messages. Zero turns one off. -/
structure LimitValue where
  name : String
  soft : Nat
  hard : Nat
  deriving BEq, DecidableEq, Repr, Inhabited

structure MessagingConfig where
  responseTimeout : Duration := .ofSecs 30
  resendOnTimeout : Bool := false
  maxResendCount : Nat := 2
  maxForwardCount : Nat := 2
  performDeadlockDetection : Bool := true
  maxRequestProcessingTime : Duration := .ofSecs 7200
  lazyUnregisterDelay : Option Duration := none
  rejectionInjectionRate : Float := 0.0
  messageLossInjectionRate : Float := 0.0
  faultInjectionSeed : Option Nat := none
  deriving Inhabited

structure CollectionConfig where
  quantum : Duration := .ofSecs 60
  defaultAgeLimit : Duration := .ofSecs 7200
  /-- Age limits by grain type name, one per name. -/
  ageLimits : List (String × Duration) := []
  maxKeepAlive : Option Duration := none
  deriving BEq, Inhabited

structure LimitConfig where
  maxEnqueuedRequests : LimitValue := ⟨"MaxEnqueuedRequests", 1000, 5000⟩
  maxEnqueuedRequestsStatelessWorker : LimitValue := ⟨"MaxEnqueuedRequests_StatelessWorker", 10000, 50000⟩
  deriving BEq, Inhabited

structure SiloConfig where
  messaging : MessagingConfig := {}
  collection : CollectionConfig := {}
  limits : LimitConfig := {}
  deriving Inhabited

namespace MessagingConfig

def same (a b : MessagingConfig) : Bool :=
  a.responseTimeout == b.responseTimeout && a.resendOnTimeout == b.resendOnTimeout &&
  a.maxResendCount == b.maxResendCount && a.maxForwardCount == b.maxForwardCount &&
  a.performDeadlockDetection == b.performDeadlockDetection &&
  a.maxRequestProcessingTime == b.maxRequestProcessingTime &&
  a.lazyUnregisterDelay == b.lazyUnregisterDelay &&
  a.rejectionInjectionRate == b.rejectionInjectionRate &&
  a.messageLossInjectionRate == b.messageLossInjectionRate &&
  a.faultInjectionSeed == b.faultInjectionSeed

end MessagingConfig

namespace CollectionConfig

/-- Sets the age limit of a type name, replacing an earlier one. -/
def setAgeLimit (c : CollectionConfig) (name : String) (d : Duration) : CollectionConfig :=
  { c with ageLimits := (c.ageLimits.filter (·.1 != name)) ++ [(name, d)] }

/-- The age limit of a grain type: its own, else the default. -/
def ageLimitFor (c : CollectionConfig) (name : String) : Duration :=
  match c.ageLimits.find? (·.1 == name) with
  | some (_, d) => d
  | none => c.defaultAgeLimit

def same (a b : CollectionConfig) : Bool :=
  a.quantum == b.quantum && a.defaultAgeLimit == b.defaultAgeLimit &&
  a.maxKeepAlive == b.maxKeepAlive && a.ageLimits.length == b.ageLimits.length &&
  a.ageLimits.all fun (k, v) => b.ageLimits.find? (·.1 == k) == some (k, v)

end CollectionConfig

namespace LimitConfig

/-- The limit of a grain type: the stateless-worker one for workers. -/
def forGrain (l : LimitConfig) (statelessWorker : Bool) : LimitValue :=
  if statelessWorker then l.maxEnqueuedRequestsStatelessWorker else l.maxEnqueuedRequests

end LimitConfig

namespace SiloConfig

def same (a b : SiloConfig) : Bool :=
  a.messaging.same b.messaging && a.collection.same b.collection && a.limits == b.limits

/-- One step of building a configuration from the defaults. -/
inductive Setting where
  | responseTimeout (d : Duration)
  | resendOnTimeout (b : Bool)
  | maxResendCount (n : Nat)
  | maxForwardCount (n : Nat)
  | deadlockDetection (b : Bool)
  | faultInjection (rejectionRate lossRate : Float) (seed : Option Nat)
  | collectionQuantum (d : Duration)
  | defaultAgeLimit (d : Duration)
  | ageLimit (name : String) (d : Duration)
  | maxKeepAlive (d : Duration)
  | maxEnqueuedRequests (soft hard : Nat)
  | maxEnqueuedRequestsStatelessWorker (soft hard : Nat)

def apply (c : SiloConfig) : Setting → SiloConfig
  | .responseTimeout d => { c with messaging := { c.messaging with responseTimeout := d } }
  | .resendOnTimeout b => { c with messaging := { c.messaging with resendOnTimeout := b } }
  | .maxResendCount n => { c with messaging := { c.messaging with maxResendCount := n } }
  | .maxForwardCount n => { c with messaging := { c.messaging with maxForwardCount := n } }
  | .deadlockDetection b => { c with messaging := { c.messaging with performDeadlockDetection := b } }
  | .faultInjection r l s =>
    { c with messaging := { c.messaging with
        rejectionInjectionRate := r, messageLossInjectionRate := l, faultInjectionSeed := s } }
  | .collectionQuantum d => { c with collection := { c.collection with quantum := d } }
  | .defaultAgeLimit d => { c with collection := { c.collection with defaultAgeLimit := d } }
  | .ageLimit name d => { c with collection := c.collection.setAgeLimit name d }
  | .maxKeepAlive d => { c with collection := { c.collection with maxKeepAlive := some d } }
  | .maxEnqueuedRequests s h =>
    { c with limits := { c.limits with
        maxEnqueuedRequests := { c.limits.maxEnqueuedRequests with soft := s, hard := h } } }
  | .maxEnqueuedRequestsStatelessWorker s h =>
    { c with limits := { c.limits with
        maxEnqueuedRequestsStatelessWorker :=
          { c.limits.maxEnqueuedRequestsStatelessWorker with soft := s, hard := h } } }

def build (settings : List Setting) : SiloConfig := settings.foldl apply {}

end SiloConfig

/-- How one outstanding request waits: the whole timeout, and whether and how often it
is resent meanwhile. -/
structure CallbackConfig where
  timeout : Duration
  resendOnTimeout : Bool
  maxResendCount : Nat
  deriving BEq, Repr, Inhabited

namespace CallbackConfig

def ofMessaging (m : MessagingConfig) : CallbackConfig :=
  ⟨m.responseTimeout, m.resendOnTimeout, m.maxResendCount⟩

/-- The timer fires more than once when resending with a budget. -/
def repeats (c : CallbackConfig) : Bool := c.resendOnTimeout && c.maxResendCount > 0

/-- The timer period: an equal share of the timeout per attempt when resending, else
the whole timeout; shares are whole nanoseconds, rounded down. -/
def timerPeriod (c : CallbackConfig) : Duration :=
  if c.repeats then c.timeout.divBy (c.maxResendCount + 1) else c.timeout

/-- `CallbackConfig { timeout: 300ms, resend_on_timeout: false, max_resend_count: 0 }`. -/
def structural (c : CallbackConfig) : String :=
  "CallbackConfig \x7b timeout: " ++ c.timeout.render ++ ", resend_on_timeout: " ++
    toString c.resendOnTimeout ++ ", max_resend_count: " ++ toString c.maxResendCount ++ " \x7d"

end CallbackConfig

end ActorSilo
