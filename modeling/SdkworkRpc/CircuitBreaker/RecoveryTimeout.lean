import SdkworkRpc.CircuitBreaker.OpenedAt

/-! How long the breaker stays Open. A compare_exchange to HalfOpen is judged
against the last swap to Open before it, whatever time it read itself. -/
namespace SdkworkRpc.CircuitBreaker

open Run Interleaving

variable {ι : Type*} [DecidableEq ι]

def lastOpening : List (Event ι) → Option (ι × Nat)
  | [] => none
  | .swapped i .opened time :: _ => some (i, time)
  | _ :: h => lastOpening h

/- Whether opened_at_nanos holds the time stored by the very `open` call that made
the most recent swap to Open. -/
def stampCurrent : List (Event ι) → Bool
  | [] => false
  | .swapped _ .opened _ :: _ => false
  | .stampedOpenedAt i :: h => decide ((lastOpening h).map Prod.fst = some i)
  | .clearedOpenedAt _ :: _ => false
  | _ :: h => stampCurrent h

/- Whether the caller's last load of opened_at_nanos returned that time, with no
swap to Open since. -/
def sawLatest (c : ι) : List (Event ι) → Bool
  | [] => false
  | .swapped _ .opened _ :: _ => false
  | .loadedOpenedAt i :: h => if i = c then stampCurrent h else sawLatest c h
  | _ :: h => sawLatest c h

/-- Every compare_exchange to HalfOpen came at least the timeout after the most
recent swap to Open before it. -/
def TimeoutHonoured (timeout : Nat) : List (Event ι) → Prop
  | [] => True
  | .exchanged _ time :: h =>
    (∀ o, lastOpening h = some o → o.2 + timeout ≤ time) ∧ TimeoutHonoured timeout h
  | _ :: h => TimeoutHonoured timeout h

def Point.exchanging : Point → Bool
  | .refreshExchange _ => true
  | _ => false

/-- A compare_exchange about to succeed is paired with the latest opening's own
time, and `open` reads the clock before 2^64 nanoseconds. -/
def PairsWithOpening (s : World ι) (i : ι) : Prop :=
  ((s.thread i).exchanging = true → s.shared.state = .opened → sawLatest i s.history = true) ∧
  (s.thread i = .openClock → s.shared.clock < 2 ^ 64)

instance (s : World ι) (i : ι) : Decidable (PairsWithOpening s i) :=
  inferInstanceAs (Decidable ((_ → _ → _) ∧ (_ → _)))

def Informed (timeout : Nat) (i : ι) (b : Breaker) (h : List (Event ι)) : Point → Prop
  | .refreshElapsed _ nanos => sawLatest i h = true → ∃ o, lastOpening h = some o ∧ o.2 ≤ nanos
  | .refreshExchange _ =>
    sawLatest i h = true → ∃ o, lastOpening h = some o ∧ o.2 + timeout ≤ b.clock
  | .openStore nanos => ∀ time, lastOpening h = some (i, time) → time ≤ nanos
  | _ => True

structure Dated (timeout : Nat) (b : Breaker) (h : List (Event ι)) : Prop where
  honoured : TimeoutHonoured timeout h
  past : ∀ o, lastOpening h = some o → o.2 ≤ b.clock
  stored : stampCurrent h = true → ∃ o, lastOpening h = some o ∧ o.2 ≤ b.openedAtNanos

def timeoutOutline (timeout : Nat) : Outline ι Breaker Point (Event ι) where
  common := Dated timeout
  own := Informed timeout

theorem informed_after_refresh (timeout : Nat) (i : ι) (b : Breaker) (h : List (Event ι))
    (op : Operation) : Informed timeout i b h (afterRefresh op) := by
  cases op <;> trivial

/- A step of another caller takes away what this one saw, or leaves it alone. -/
theorem informed_frame {timeout : Nat} {i j : ι} {b c : Breaker} {h : List (Event ι)}
    {e : Event ι} {p : Point} (other : j ≠ i) (effect : Effect i b c e) (clock : c.clock = b.clock)
    (informed : Informed timeout j b h p) : Informed timeout j c (e :: h) p := by
  cases e with
  | ticked => exact effect.elim
  | swapped k value time =>
    obtain ⟨rfl, rfl, rfl⟩ := effect
    cases value
    · exact informed
    -- After a new opening nothing that was loaded before it counts.
    · cases p <;> simp_all [Informed, sawLatest, lastOpening, other.symm]
    · exact informed
  | loadedOpenedAt k =>
    obtain ⟨rfl, rfl⟩ := effect
    cases p <;> simp_all [Informed, sawLatest, lastOpening, other.symm]
  | _ => cases p <;> simp_all [Informed, sawLatest, lastOpening]

theorem dated_frame {timeout : Nat} {i : ι} {b c : Breaker} {h : List (Event ι)} {e : Event ι}
    (dated : Dated timeout b h) (effect : Effect i b c e) (clock : c.clock = b.clock)
    (exchange : ∀ time, e = .exchanged i time → ∀ o, lastOpening h = some o → o.2 + timeout ≤ time)
    (stamp : e = .stampedOpenedAt i → ∀ time, lastOpening h = some (i, time) →
      time ≤ c.openedAtNanos) : Dated timeout c (e :: h) := by
  obtain ⟨honoured, past, stored⟩ := dated
  cases e with
  | ticked => exact effect.elim
  | swapped k value time =>
    obtain ⟨rfl, rfl, rfl⟩ := effect
    cases value
    · exact ⟨honoured, past, stored⟩
    · exact ⟨honoured, by simp [lastOpening], by simp [stampCurrent]⟩
    · exact ⟨honoured, past, stored⟩
  | exchanged k time =>
    obtain ⟨rfl, rfl, _, rfl⟩ := effect
    exact ⟨⟨exchange _ rfl, honoured⟩, past, stored⟩
  | stampedOpenedAt k =>
    obtain ⟨rfl, nanos, rfl⟩ := effect
    refine ⟨honoured, past, fun current => ?_⟩
    obtain ⟨o, ho, hi⟩ := Option.map_eq_some_iff.mp (of_decide_eq_true current)
    subst hi
    exact ⟨o, ho, stamp rfl o.2 ho⟩
  | clearedOpenedAt k => exact ⟨honoured, by rw [clock]; exact past, by simp [stampCurrent]⟩
  | _ =>
    exact ⟨honoured, by rw [clock]; exact past, by simp_all [Effect, stampCurrent, lastOpening]⟩

theorem informed_advance {cfg : CircuitBreakerConfig} {i : ι} {b c : Breaker}
    {h : List (Event ι)} {p q : Point} {e : Event ι} (dated : Dated cfg.recoveryTimeout.nanos b h)
    (informed : Informed cfg.recoveryTimeout.nanos i b h p)
    (early : p = .openClock → b.clock < 2 ^ 64)
    (taken : advance cfg i b p = some (c, q, e)) :
    Informed cfg.recoveryTimeout.nanos i c (e :: h) q := by
  cases p <;> simp only [advance] at taken
  case idle => cases taken
  case refreshOpenedAt op =>
    cases Option.some.inj taken
    split
    · exact informed_after_refresh _ _ _ _ op
    · intro saw
      simp only [sawLatest, if_true] at saw
      exact dated.stored saw
  case refreshElapsed op nanos =>
    cases Option.some.inj taken
    split
    · exact informed_after_refresh _ _ _ _ op
    · rename_i elapsed
      intro saw
      obtain ⟨o, ho, bound⟩ := informed saw
      have := dated.past o ho
      exact ⟨o, ho, by omega⟩
  case openClock =>
    cases Option.some.inj taken
    intro time opening
    have := dated.past _ opening
    rw [Nat.mod_eq_of_lt (early rfl)]
    exact this
  case refreshLoad op =>
    cases Option.some.inj taken
    split
    · trivial
    · exact informed_after_refresh _ _ _ _ op
  case refreshExchange op =>
    split at taken <;> cases Option.some.inj taken
    · trivial
    · exact informed_after_refresh _ _ _ _ op
  case refreshFailures op =>
    cases Option.some.inj taken
    exact informed_after_refresh _ _ _ _ op
  case allowLoad => split at taken <;> cases Option.some.inj taken <;> trivial
  case probeExchange observed => split at taken <;> cases Option.some.inj taken <;> trivial
  all_goals cases Option.some.inj taken
  all_goals first | trivial | (split <;> trivial)

theorem timeout_preserved (cfg : CircuitBreakerConfig) (s : World ι) (act : Action ι)
    (t : World ι) (held : (timeoutOutline cfg.recoveryTimeout.nanos).Holds s)
    (paired : AtAdvance PairsWithOpening s act) (taken : step cfg s act = some t) :
    (timeoutOutline cfg.recoveryTimeout.nanos).Holds t := by
  refine outline_preserved _ (AtAdvance PairsWithOpening) ?_ ?_ ?_ s act t held paired taken
  · intro s i a c q e held paired hs
    obtain ⟨effect, clock⟩ := callerStep_effect hs
    cases a with
    | call op =>
      obtain ⟨_, rfl, rfl, rfl⟩ := call_enters cfg hs
      exact ⟨dated_frame held.1 effect clock nofun nofun, trivial⟩
    | advance =>
      refine ⟨dated_frame held.1 effect clock ?_ ?_,
        informed_advance held.1 (held.2 i) paired.2 hs⟩
      -- The exchange succeeds: what the caller loaded was the latest opening's own time.
      · intro time he o ho
        subst he
        obtain ⟨op, hp⟩ := advance_source hs
        have mine := held.2 i
        rw [hp] at mine
        obtain ⟨o', ho', bound⟩ := mine (paired.1 (by rw [hp]; rfl) effect.2.2.1)
        cases Option.some.inj (ho.symm.trans ho')
        exact effect.2.1 ▸ bound
      · intro he time opening
        subst he
        have hp : s.thread i = .openStore c.openedAtNanos := advance_source hs
        have mine := held.2 i
        rw [hp] at mine
        exact mine time opening
  · intro s i a c q e j held _ hs other
    obtain ⟨effect, clock⟩ := callerStep_effect hs
    exact informed_frame other effect clock (held.2 j)
  · intro s nanos c e held _ hs
    cases Option.some.inj hs
    refine ⟨⟨held.1.honoured, ?_, held.1.stored⟩, fun j => ?_⟩
    · intro o ho
      exact Nat.le_trans (held.1.past o ho) (Nat.le_add_right _ _)
    · have mine := held.2 j
      cases hp : s.thread j <;> rw [hp] at mine <;> try trivial
      intro saw
      obtain ⟨o, ho, bound⟩ := mine saw
      exact ⟨o, ho, Nat.le_trans bound (Nat.le_add_right _ _)⟩

/-- In every run in which each successful compare_exchange is paired with the time
the latest opening stored itself, the recovery timeout is honoured. -/
theorem recovery_timeout_honoured (cfg : CircuitBreakerConfig) (as : List (Action ι))
    (s : World ι) (paired : Along (step cfg) (AtAdvance PairsWithOpening) (start ι) as)
    (ends : run (step cfg) (start ι) as = some s) :
    TimeoutHonoured cfg.recoveryTimeout.nanos s.history := by
  have initial : (timeoutOutline cfg.recoveryTimeout.nanos).Holds (start ι) :=
    ⟨⟨trivial, nofun, nofun⟩, fun _ => trivial⟩
  exact (run_invariant (step cfg) _ _ (timeout_preserved cfg) as _ s initial paired ends).1.honoured

def recoverAtFifteen : List (Action (Fin 2)) :=
  openAtFive ++ .environment 10 :: .thread second (.call .state) :: advances second 7

theorem recovery_timeout_honoured_at_fifteen :
    ∃ s, run (step quickConfig) (start (Fin 2)) recoverAtFifteen = some s ∧
      .exchanged 1 15 ∈ s.history ∧ TimeoutHonoured 10 s.history :=
  ⟨_, rfl, by decide, recovery_timeout_honoured quickConfig recoverAtFifteen _ (by decide) rfl⟩

/- Caller 0 reopens at 16 and has not stored the time yet; caller 1 pairs the new
Open with the old time, 5. -/
def stalePairing : List (Action (Fin 2)) :=
  recoverAtFifteen ++ .environment 1 :: .thread first (.call .recordFailure) :: advances first 3 ++
    .thread second (.call .state) :: advances second 4

theorem recovery_timeout_violated :
    ∃ s, run (step quickConfig) (start (Fin 2)) stalePairing = some s ∧
      ¬ TimeoutHonoured quickConfig.recoveryTimeout.nanos s.history := by
  refine ⟨_, rfl, fun honoured => ?_⟩
  have late := honoured.1 (0, 16) rfl
  exact absurd late (by decide)

end SdkworkRpc.CircuitBreaker
