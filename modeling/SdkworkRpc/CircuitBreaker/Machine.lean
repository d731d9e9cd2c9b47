import SdkworkRpc.Library.Interleaving
import SdkworkRpc.Library.Machine
import Mathlib.Data.Fintype.Basic

/-! The circuit breaker as its individual atomic operations. Each program point
stands before one load, store, swap, fetch_add, compare_exchange or clock reading
of the source; between two of them any other caller may run. -/
namespace SdkworkRpc.CircuitBreaker

open Machine

/- The three values stored in the `AtomicU8`; `from_u8` and the three constants
translate between the byte and the constructor and nothing else is ever stored. -/
inductive CircuitBreakerState where
  | closed | opened | halfOpen
  deriving DecidableEq, Repr

structure CircuitBreakerConfig where
  failureThreshold : Nat
  recoveryTimeout : Duration
  halfOpenMaxProbes : Nat
  thresholdFits : failureThreshold ≤ u32Max
  probesFit : halfOpenMaxProbes ≤ u32Max

def defaultConfig : CircuitBreakerConfig :=
  ⟨5, .fromSecs 30, 1, by decide, by decide⟩

/-- The four atomics, and the nanoseconds elapsed since `created_at`. -/
structure Breaker where
  state : CircuitBreakerState
  consecutiveFailures : Nat
  halfOpenProbes : Nat
  openedAtNanos : Nat
  clock : Nat
  deriving DecidableEq

def new : Breaker := ⟨.closed, 0, 0, 0, 0⟩

inductive Operation where
  | state | allowRequest | recordSuccess | recordFailure
  deriving DecidableEq, Repr

inductive Answer where
  | state (value : CircuitBreakerState)
  | allowed (value : Bool)
  | recorded
  deriving DecidableEq, Repr

/- Where a caller stands. `refresh...` is inside `refresh_state`, entered from the
operation it carries; `probe...` is the loop of `acquire_half_open_probe`; `open...`
is inside `open`, entered only from `record_failure`. -/
inductive Point where
  | idle (answer : Option Answer)
  | refreshLoad (op : Operation)
  | refreshOpenedAt (op : Operation)
  | refreshElapsed (op : Operation) (openedNanos : Nat)
  | refreshExchange (op : Operation)
  | refreshProbes (op : Operation)
  | refreshFailures (op : Operation)
  | stateLoad
  | allowLoad
  | probeLoad
  | probeExchange (observed : Nat)
  | successSwap
  | successFailures
  | successProbes
  | successOpenedAt
  | failureLoad
  | failureAdd
  | openSwap
  | openClock
  | openStore (nanos : Nat)
  | openProbes
  deriving DecidableEq, Repr

/- What a step shows of itself. Steps that no property watches are `quiet`. -/
inductive Event (ι : Type*) where
  | ticked
  | quiet (caller : ι)
  | swapped (caller : ι) (value : CircuitBreakerState) (time : Nat)
  | exchanged (caller : ι) (time : Nat)
  | loadedOpenedAt (caller : ι)
  | stampedOpenedAt (caller : ι)
  | clearedOpenedAt (caller : ι)
  | resetProbes (caller : ι)
  | acquired (caller : ι)
  deriving DecidableEq

inductive Move where
  | call (op : Operation)
  | advance
  deriving DecidableEq, Repr

/-- The first step of an operation after its `refresh_state` has returned. -/
def afterRefresh : Operation → Point
  | .state => .stateLoad
  | .allowRequest => .allowLoad
  | .recordSuccess => .successSwap
  | .recordFailure => .failureLoad

def advance {ι : Type*} (cfg : CircuitBreakerConfig) (i : ι) (b : Breaker) :
    Point → Option (Breaker × Point × Event ι)
  | .idle _ => none
  | .refreshLoad op =>
    some (b, if b.state = .opened then .refreshOpenedAt op else afterRefresh op, .quiet i)
  | .refreshOpenedAt op =>
    some (b, if b.openedAtNanos = 0 then afterRefresh op
      else .refreshElapsed op b.openedAtNanos, .loadedOpenedAt i)
  | .refreshElapsed op openedNanos =>
    some (b, if b.clock - openedNanos < cfg.recoveryTimeout.nanos then afterRefresh op
      else .refreshExchange op, .quiet i)
  | .refreshExchange op =>
    if b.state = .opened then
      some ({ b with state := .halfOpen }, .refreshProbes op, .exchanged i b.clock)
    else some (b, afterRefresh op, .quiet i)
  | .refreshProbes op => some ({ b with halfOpenProbes := 0 }, .refreshFailures op, .resetProbes i)
  | .refreshFailures op => some ({ b with consecutiveFailures := 0 }, afterRefresh op, .quiet i)
  | .stateLoad => some (b, .idle (some (.state b.state)), .quiet i)
  | .allowLoad =>
    match b.state with
    | .closed => some (b, .idle (some (.allowed true)), .quiet i)
    | .opened => some (b, .idle (some (.allowed false)), .quiet i)
    | .halfOpen => some (b, .probeLoad, .quiet i)
  | .probeLoad =>
    some (b, if cfg.halfOpenMaxProbes ≤ b.halfOpenProbes then .idle (some (.allowed false))
      else .probeExchange b.halfOpenProbes, .quiet i)
  | .probeExchange observed =>
    if b.halfOpenProbes = observed then
      some ({ b with halfOpenProbes := saturatingAdd u32Max observed 1 },
        .idle (some (.allowed true)), .acquired i)
    else some (b, .probeLoad, .quiet i)
  | .successSwap => some ({ b with state := .closed }, .successFailures, .swapped i .closed b.clock)
  | .successFailures => some ({ b with consecutiveFailures := 0 }, .successProbes, .quiet i)
  | .successProbes => some ({ b with halfOpenProbes := 0 }, .successOpenedAt, .resetProbes i)
  | .successOpenedAt =>
    some ({ b with openedAtNanos := 0 }, .idle (some .recorded), .clearedOpenedAt i)
  | .failureLoad =>
    some (b, if b.state = .halfOpen then .openSwap else .failureAdd, .quiet i)
  | .failureAdd =>
    some ({ b with consecutiveFailures := (b.consecutiveFailures + 1) % 2 ^ 32 },
      if cfg.failureThreshold ≤ saturatingAdd u32Max b.consecutiveFailures 1 then .openSwap
      else .idle (some .recorded), .quiet i)
  | .openSwap => some ({ b with state := .opened }, .openClock, .swapped i .opened b.clock)
  | .openClock => some (b, .openStore (b.clock % 2 ^ 64), .quiet i)
  | .openStore nanos => some ({ b with openedAtNanos := nanos }, .openProbes, .stampedOpenedAt i)
  | .openProbes => some ({ b with halfOpenProbes := 0 }, .idle (some .recorded), .resetProbes i)

/-- A caller at rest may enter an operation; every operation opens with `refresh_state`. -/
def callerStep {ι : Type*} (cfg : CircuitBreakerConfig) (i : ι) (b : Breaker) (p : Point) :
    Move → Option (Breaker × Point × Event ι)
  | .advance => advance cfg i b p
  | .call op =>
    match p with
    | .idle _ => some (b, .refreshLoad op, .quiet i)
    | _ => none

def tick {ι : Type*} (b : Breaker) (nanos : Nat) : Option (Breaker × Event ι) :=
  some ({ b with clock := b.clock + nanos }, .ticked)

def system (ι : Type*) (cfg : CircuitBreakerConfig) :
    Interleaving.System ι Breaker Point Move Nat (Event ι) :=
  ⟨callerStep cfg, tick⟩

abbrev World (ι : Type*) := Interleaving.State ι Breaker Point (Event ι)
abbrev Action (ι : Type*) := Interleaving.Action ι Move Nat

def start (ι : Type*) : World ι := ⟨new, fun _ => .idle none, []⟩

def step {ι : Type*} [DecidableEq ι] (cfg : CircuitBreakerConfig) :
    World ι → Action ι → Option (World ι) := (system ι cfg).next

def Point.isIdle : Point → Bool
  | .idle _ => true
  | _ => false

/- What one step does to the shared fields, read off its event alone. -/
def Effect {ι : Type*} (i : ι) (b c : Breaker) : Event ι → Prop
  | .ticked => False
  | .quiet j => j = i ∧ c.state = b.state ∧ c.halfOpenProbes = b.halfOpenProbes ∧
      c.openedAtNanos = b.openedAtNanos
  | .swapped j value time => j = i ∧ time = b.clock ∧ c = { b with state := value }
  | .exchanged j time =>
    j = i ∧ time = b.clock ∧ b.state = .opened ∧ c = { b with state := .halfOpen }
  | .loadedOpenedAt j => j = i ∧ c = b
  | .stampedOpenedAt j => j = i ∧ ∃ nanos, c = { b with openedAtNanos := nanos }
  | .clearedOpenedAt j => j = i ∧ c = { b with openedAtNanos := 0 }
  | .resetProbes j => j = i ∧ c = { b with halfOpenProbes := 0 }
  | .acquired j => j = i ∧
      c = { b with halfOpenProbes := saturatingAdd u32Max b.halfOpenProbes 1 }

theorem advance_effect {ι : Type*} {cfg : CircuitBreakerConfig} {i : ι} {b c : Breaker}
    {p q : Point} {e : Event ι} (taken : advance cfg i b p = some (c, q, e)) :
    Effect i b c e ∧ c.clock = b.clock := by
  cases p <;> simp only [advance] at taken
  case idle => cases taken
  case refreshExchange op =>
    split at taken <;> cases Option.some.inj taken <;> simp_all [Effect]
  case allowLoad =>
    split at taken <;> cases Option.some.inj taken <;> simp_all [Effect]
  case probeExchange observed =>
    split at taken <;> cases Option.some.inj taken <;> simp_all [Effect]
  all_goals cases Option.some.inj taken; simp [Effect]

/-- Inside an operation and about to store 0 into half_open_probes. -/
def Point.resetting : Point → Bool
  | .refreshProbes _ => true
  | .successProbes => true
  | .openProbes => true
  | _ => false

/- The program point an event comes from, where a property depends on it. -/
def Source {ι : Type*} (b c : Breaker) (p : Point) : Event ι → Prop
  | .exchanged _ _ => ∃ op, p = .refreshExchange op
  | .stampedOpenedAt _ => p = .openStore c.openedAtNanos
  | .resetProbes _ => p.resetting = true
  | .acquired _ => p = .probeExchange b.halfOpenProbes
  | _ => True

theorem advance_source {ι : Type*} {cfg : CircuitBreakerConfig} {i : ι} {b c : Breaker}
    {p q : Point} {e : Event ι} (taken : advance cfg i b p = some (c, q, e)) :
    Source b c p e := by
  cases p <;> simp only [advance] at taken
  case idle => cases taken
  case refreshExchange op =>
    split at taken <;> cases Option.some.inj taken <;> simp [Source]
  case allowLoad =>
    split at taken <;> cases Option.some.inj taken <;> simp [Source]
  case probeExchange observed =>
    split at taken <;> cases Option.some.inj taken <;> simp_all [Source]
  all_goals cases Option.some.inj taken; simp [Source, Point.resetting]

theorem call_enters {ι : Type*} (cfg : CircuitBreakerConfig) {i : ι} {b c : Breaker}
    {p q : Point} {op : Operation} {e : Event ι}
    (taken : callerStep cfg i b p (.call op) = some (c, q, e)) :
    p.isIdle = true ∧ c = b ∧ q = .refreshLoad op ∧ e = .quiet i := by
  cases p with
  | idle answer =>
    cases Option.some.inj taken
    exact ⟨rfl, rfl, rfl, rfl⟩
  | _ => cases taken

theorem callerStep_effect {ι : Type*} {cfg : CircuitBreakerConfig} {i : ι} {b c : Breaker}
    {p q : Point} {a : Move} {e : Event ι} (taken : callerStep cfg i b p a = some (c, q, e)) :
    Effect i b c e ∧ c.clock = b.clock := by
  cases a with
  | advance => exact advance_effect taken
  | call op =>
    obtain ⟨_, rfl, _, rfl⟩ := call_enters cfg taken
    exact ⟨⟨rfl, rfl, rfl, rfl⟩, rfl⟩

/-- A condition on the steps inside operations, given the state before the step. -/
def AtAdvance {ι : Type*} (cond : World ι → ι → Prop) (s : World ι) : Action ι → Prop
  | .thread i .advance => cond s i
  | _ => True

instance {ι : Type*} (cond : World ι → ι → Prop) [∀ s i, Decidable (cond s i)] (s : World ι) :
    (act : Action ι) → Decidable (AtAdvance cond s act)
  | .thread i .advance => inferInstanceAs (Decidable (cond s i))
  | .thread _ (.call _) => isTrue trivial
  | .environment _ => isTrue trivial

def Quiescent {ι : Type*} (s : World ι) : Prop := ∀ i, (s.thread i).isIdle = true

instance {ι : Type*} [Fintype ι] (s : World ι) : Decidable (Quiescent s) :=
  inferInstanceAs (Decidable (∀ i, (s.thread i).isIdle = true))

end SdkworkRpc.CircuitBreaker
