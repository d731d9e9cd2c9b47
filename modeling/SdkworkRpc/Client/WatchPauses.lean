import SdkworkRpc.Client.CacheFreshness
import SdkworkRpc.Resilience.JitterWindow

/-! The reconnect loop of the watch on a clock. A session that ends with an error is followed by
a pause, and the cached endpoints grow older until the next session is heard. The counter that
the pauses grow with goes back to zero only when a stream ends cleanly, however much was heard
on the streams that broke. -/
namespace SdkworkRpc.Client

open SdkworkRpc.Core Machine Run Resilience

structure WatchLoopConfig where
  initialReconnectBackoff : Duration
  maxReconnectBackoff : Duration
  cacheTtl : Duration

def WatchLoopConfig.default : WatchLoopConfig := ⟨.ofMillis 500, .fromSecs 30, .fromSecs 15⟩

/-- A heartbeat, or a serving instance to be put in the entry. -/
def Refreshes [SdkworkUtils] (proto : DiscoveryProto) (m : WatchMessage) : Prop :=
  proto.eventType m = .heartbeat ∨ ∃ endpoint, change proto m = .upsert endpoint

instance [SdkworkUtils] (proto : DiscoveryProto) (m : WatchMessage) :
    Decidable (Refreshes proto m) :=
  match h : change proto m with
  | .upsert endpoint => isTrue (.inr ⟨endpoint, h⟩)
  | .keep | .remove _ => decidable_of_iff (proto.eventType m = .heartbeat) (by simp [Refreshes, h])

/- `attempt` is the loop's own; the last three are kept for the statements: whether the session
under way has been refreshed, when it last was or when it begins, and how many sessions in a
row before it were not. -/
structure WatchTask where
  now : Nat
  attempt : Nat
  entry : Option CachedEndpoints
  heard : Bool
  since : Nat
  silent : Nat

def WatchTask.spawned (now : Nat) : WatchTask := ⟨now, 0, none, false, now, 0⟩

/-- Each comes some time after the one before it. What a discovery call brings may come at any
time, what belongs to a session only after the pause before it. -/
inductive WatchEvent where
  | message (wait : Nat) (message : WatchMessage)
  | ended (wait : Nat) (result : RpcFrameworkResult Unit) (draw : Jitter)
  | discovered (wait : Nat) (endpoints : List ResolvedEndpoint)

def WatchEvent.wait : WatchEvent → Nat
  | .message wait _ | .ended wait _ _ | .discovered wait _ => wait

def reconnectStep [SdkworkUtils] (proto : DiscoveryProto) (config : WatchLoopConfig)
    (s : WatchTask) : WatchEvent → Option WatchTask
  | .message wait m =>
    let now := s.now + wait
    if now < s.since then none
    else
      let entry := applyMessage proto now m s.entry
      if Refreshes proto m then some ⟨now, s.attempt, entry, true, now, 0⟩
      else some { s with now := now, entry := entry }
  | .ended wait result draw =>
    let now := s.now + wait
    if now < s.since then none
    else
      let silent := if s.heard then 0 else s.silent + 1
      match result with
      | .ok () => some ⟨now, 0, s.entry, false, now, silent⟩
      | .error _ =>
        let backoff := reconnectBackoff s.attempt config.initialReconnectBackoff
          config.maxReconnectBackoff draw
        some ⟨now, saturatingAdd u32Max s.attempt 1, s.entry, false, now + backoff.nanos, silent⟩
  | .discovered wait endpoints =>
    let now := s.now + wait
    some { s with now := now, entry := some ⟨endpoints, now⟩ }

/-- What the control plane keeps to: the longest time between two refreshing messages of an open
stream, the longest until the first of a session or its failure, and how many sessions in a row
fail without one. -/
structure Plane where
  idle : Nat
  connect : Nat
  misses : Nat

def Plane.patience (plane : Plane) (s : WatchTask) : Nat :=
  if s.heard then plane.idle else plane.connect

/-- Nothing else may be waited for so long; what else comes, and when, is left open. -/
def Plane.Keeps (plane : Plane) (s : WatchTask) (e : WatchEvent) : Prop :=
  s.now + e.wait ≤ s.since + plane.patience s ∧
    match e with
    | .ended _ _ _ => s.heard = false → s.silent < plane.misses
    | _ => True

theorem Plane.patience_heard (plane : Plane) {s : WatchTask} (heard : s.heard = true) :
    plane.patience s = plane.idle := by
  rw [patience, if_pos heard]

theorem Plane.patience_unheard (plane : Plane) {s : WatchTask} (unheard : s.heard = false) :
    plane.patience s = plane.connect := by
  rw [patience, unheard]
  rfl

def WatchLoopConfig.longestPause (config : WatchLoopConfig) : Nat :=
  (longestBackoff 16 config.initialReconnectBackoff config.maxReconnectBackoff).nanos

section Pauses

variable (attempt : Nat) (initial maxBackoff : Duration)

theorem longestBackoff_nanos :
    (longestBackoff attempt initial maxBackoff).nanos =
      if initial.nanos = 0 ∨ maxBackoff.nanos = 0 then initial.nanos
      else windowMillis (delayWindow attempt initial maxBackoff) * 1000000 := by
  simp only [longestBackoff, backoffBase_zero]
  split
  · rfl
  · rw [← backoffMillis_exact]
    rfl

theorem longestBackoff_late {attempt : Nat} (late : 16 ≤ attempt) :
    (longestBackoff attempt initial maxBackoff).nanos =
      (longestBackoff 16 initial maxBackoff).nanos := by
  rw [longestBackoff_nanos, longestBackoff_nanos, delayWindow, delayWindow,
    Nat.min_eq_right late, Nat.min_self]

theorem longestBackoff_le_late :
    (longestBackoff attempt initial maxBackoff).nanos ≤
      (longestBackoff 16 initial maxBackoff).nanos := by
  rcases Nat.le_total 16 attempt with late | early
  · exact Nat.le_of_eq (longestBackoff_late initial maxBackoff late)
  rw [longestBackoff_nanos, longestBackoff_nanos]
  split
  · exact Nat.le_refl _
  · have grows := delayWindow_mono attempt initial maxBackoff early
    exact Nat.mul_le_mul_right _ (windowMillis_mono grows)

theorem fullJitterBackoff_lastDraw :
    fullJitterBackoff attempt initial maxBackoff lastDraw =
      longestBackoff attempt initial maxBackoff := rfl

theorem reconnectBackoff_le_longestPause (config : WatchLoopConfig) (draw : Jitter) :
    (reconnectBackoff attempt config.initialReconnectBackoff config.maxReconnectBackoff draw).nanos
      ≤ config.longestPause := by
  rw [reconnectBackoff, WatchLoopConfig.longestPause]
  exact Nat.le_trans (fullJitterBackoff_le_longest ..) (longestBackoff_le_late ..)

theorem reconnectBackoff_last (config : WatchLoopConfig) {attempt : Nat} (late : 16 ≤ attempt) :
    (reconnectBackoff attempt config.initialReconnectBackoff config.maxReconnectBackoff
      lastDraw).nanos = config.longestPause := by
  rw [reconnectBackoff, fullJitterBackoff_lastDraw, WatchLoopConfig.longestPause]
  exact longestBackoff_late _ _ late

end Pauses

section Loop

variable [SdkworkUtils]

theorem applyMessage_refreshed {proto : DiscoveryProto} {m : WatchMessage}
    {entry : Option CachedEndpoints} {cached : CachedEndpoints} {now : Nat}
    (refreshes : Refreshes proto m) (left : applyMessage proto now m entry = some cached) :
    cached.updatedAt = now := by
  rcases refreshes with beats | ⟨endpoint, upserts⟩
  · rw [applyMessage, if_pos beats] at left
    obtain ⟨held, -, rfl⟩ := Option.map_eq_some_iff.mp left
    rfl
  unfold change at upserts
  split at upserts
  · cases upserts
  rename_i beatless
  cases given : m.serviceInstance with
  | none =>
    rw [given] at upserts
    cases upserts
  | some i =>
    simp only [given] at upserts
    split at upserts
    · cases upserts
    rename_i serving
    split at upserts
    · cases upserts
    rename_i solid
    simp only [applyMessage, if_neg beatless, given, if_neg serving, mapDiscoveredInstance,
      if_neg solid] at left
    cases Option.some.inj left
    rfl

theorem change_upsert {proto : DiscoveryProto} {m : WatchMessage} {i : ServiceInstance}
    {e : ResolvedEndpoint} (beatless : proto.eventType m ≠ .heartbeat)
    (given : m.serviceInstance = some i)
    (serving : ¬ (proto.eventType m = .instanceDeregistered || !isServing proto i.status) = true)
    (mapped : mapDiscoveredInstance proto i = some e) : change proto m = .upsert i.endpoint := by
  unfold mapDiscoveredInstance at mapped
  split at mapped
  · cases mapped
  · rename_i solid
    simp only [change, if_neg beatless, given, if_neg serving, if_neg solid]

theorem applyMessage_kept {proto : DiscoveryProto} {m : WatchMessage}
    {entry : Option CachedEndpoints} {cached : CachedEndpoints} {now : Nat}
    (other : ¬ Refreshes proto m) (left : applyMessage proto now m entry = some cached)
    (filled : cached.endpoints ≠ []) :
    ∃ before, entry = some before ∧ before.endpoints ≠ [] ∧
      before.updatedAt = cached.updatedAt := by
  obtain ⟨beatless, never⟩ := not_or.mp other
  rw [applyMessage, if_neg beatless] at left
  cases given : m.serviceInstance with
  | none =>
    rw [given] at left
    exact ⟨cached, left, filled, rfl⟩
  | some i =>
    have held : (entry.getD ⟨[], now⟩).endpoints ≠ [] ∧
        (entry.getD ⟨[], now⟩).updatedAt = cached.updatedAt := by
      simp only [given] at left
      split at left
      · split at left
        · cases left
        · rename_i removing some
          cases Option.some.inj left
          refine ⟨fun empty => some ?_, rfl⟩
          rw [empty]
          rfl
      · rename_i serving
        split at left
        · rename_i e mapped
          exact absurd ⟨_, change_upsert beatless given serving mapped⟩ never
        · cases Option.some.inj left
          exact ⟨filled, rfl⟩
    cases entry with
    | none => exact absurd rfl held.1
    | some before => exact ⟨before, rfl, held⟩

variable (proto : DiscoveryProto) (config : WatchLoopConfig) (plane : Plane)

/-- How old filled endpoints can be: the session under way was refreshed no later than they
were, or has them from before the sessions that failed and the pauses after them. -/
structure Aged (s : WatchTask) (cached : CachedEndpoints) : Prop where
  heard : s.heard = true → s.since ≤ cached.updatedAt
  young : s.heard = false → s.since ≤ cached.updatedAt + (plane.idle + config.longestPause +
    s.silent * (plane.connect + config.longestPause))

structure Young (s : WatchTask) : Prop where
  heard : s.heard = true → s.since ≤ s.now
  pausing : s.since ≤ s.now + config.longestPause
  silent : s.silent ≤ plane.misses
  aged : ∀ cached, s.entry = some cached → cached.endpoints ≠ [] → Aged config plane s cached

variable {proto config plane}

theorem reconnectStep_ended {s t : WatchTask} {wait : Nat} {result : RpcFrameworkResult Unit}
    {draw : Jitter} (taken : reconnectStep proto config s (.ended wait result draw) = some t) :
    t.entry = s.entry ∧ t.heard = false ∧ t.silent = (if s.heard then 0 else s.silent + 1) ∧
      t.now = s.now + wait ∧ t.since ≤ s.now + wait + config.longestPause := by
  have pause := reconnectBackoff_le_longestPause s.attempt config draw
  simp only [reconnectStep] at taken
  split at taken
  · cases taken
  · cases result with
    | ok _ =>
      cases Option.some.inj taken
      exact ⟨rfl, rfl, rfl, rfl, Nat.le_add_right _ _⟩
    | error _ =>
      cases Option.some.inj taken
      exact ⟨rfl, rfl, rfl, rfl, Nat.add_le_add_left pause _⟩

theorem young_message {s t : WatchTask} {wait : Nat} {m : WatchMessage}
    (held : Young config plane s)
    (taken : reconnectStep proto config s (.message wait m) = some t) : Young config plane t := by
  simp only [reconnectStep] at taken
  split at taken
  · cases taken
  split at taken
  · rename_i refreshes
    cases Option.some.inj taken
    refine ⟨fun _ => Nat.le_refl _, Nat.le_add_right _ _, Nat.zero_le _, ?_⟩
    intro cached left _
    have fresh := applyMessage_refreshed refreshes left
    exact ⟨fun _ => Nat.le_of_eq fresh.symm, nofun⟩
  · rename_i other
    cases Option.some.inj taken
    refine ⟨fun heard => Nat.le_trans (held.heard heard) (Nat.le_add_right _ _), ?_,
      held.silent, ?_⟩
    · have pausing := held.pausing
      simp only
      omega
    · intro cached left filled
      obtain ⟨before, there, some, same⟩ := applyMessage_kept other left filled
      have aged := held.aged before there some
      exact ⟨fun heard => same ▸ aged.heard heard, fun deaf => same ▸ aged.young deaf⟩

theorem young_ended {s t : WatchTask} {wait : Nat} {result : RpcFrameworkResult Unit}
    {draw : Jitter} (held : Young config plane s) (keeps : plane.Keeps s (.ended wait result draw))
    (taken : reconnectStep proto config s (.ended wait result draw) = some t) :
    Young config plane t := by
  obtain ⟨soon, room⟩ := keeps
  obtain ⟨entry, unheard, silent, now, paused⟩ := reconnectStep_ended taken
  have deaf : ¬ t.heard = true := by
    rw [unheard]
    exact Bool.false_ne_true
  simp only [WatchEvent.wait] at soon
  cases heard : s.heard with
  | true =>
    -- A session that was refreshed starts the count anew.
    rw [plane.patience_heard heard] at soon
    rw [heard, if_pos rfl] at silent
    refine ⟨fun h => absurd h deaf, by omega, by omega, fun cached there filled => ?_⟩
    have fresh := (held.aged cached (entry ▸ there) filled).heard heard
    refine ⟨fun h => absurd h deaf, fun _ => ?_⟩
    rw [silent, Nat.zero_mul]
    omega
  | false =>
    have counted := room heard
    rw [plane.patience_unheard heard] at soon
    simp only [heard, Bool.false_eq_true, if_false] at silent
    refine ⟨fun h => absurd h deaf, by omega, by omega, fun cached there filled => ?_⟩
    have young := (held.aged cached (entry ▸ there) filled).young heard
    refine ⟨fun h => absurd h deaf, fun _ => ?_⟩
    rw [silent, Nat.succ_mul]
    omega

theorem young_step (s : WatchTask) (e : WatchEvent) (t : WatchTask) (held : Young config plane s)
    (keeps : plane.Keeps s e) (taken : reconnectStep proto config s e = some t) :
    Young config plane t := by
  cases e with
  | message wait m => exact young_message held taken
  | ended wait result draw => exact young_ended held keeps taken
  | discovered wait endpoints =>
    cases Option.some.inj taken
    have pausing := held.pausing
    refine ⟨fun heard => Nat.le_trans (held.heard heard) (Nat.le_add_right _ _), ?_,
      held.silent, ?_⟩
    · simp only
      omega
    · rintro cached ⟨⟩ -
      refine ⟨fun heard => Nat.le_trans (held.heard heard) (Nat.le_add_right _ _), fun _ => ?_⟩
      simp only
      omega

omit [SdkworkUtils] in
theorem young_answers {s : WatchTask} (held : Young config plane s) {wait : Nat}
    (soon : s.now + wait ≤ s.since + plane.patience s) (filled : entryEndpoints s.entry ≠ [])
    (covers : plane.idle + (plane.misses + 1) * (plane.connect + config.longestPause) ≤
      config.cacheTtl.nanos) :
    (cachedEndpoints config.cacheTtl (s.now + wait) s.entry).isSome = true := by
  cases there : s.entry with
  | none =>
    rw [there] at filled
    exact absurd rfl filled
  | some cached =>
    have solid : cached.endpoints ≠ [] := by rwa [there] at filled
    have aged := held.aged cached there solid
    have missed : s.silent * (plane.connect + config.longestPause) ≤
        plane.misses * (plane.connect + config.longestPause) := Nat.mul_le_mul_right _ held.silent
    have age : s.now + wait - cached.updatedAt ≤ config.cacheTtl.nanos := by
      rw [Nat.succ_mul] at covers
      cases heard : s.heard with
      | true =>
        have fresh := aged.heard heard
        rw [plane.patience_heard heard] at soon
        omega
      | false =>
        have young := aged.young heard
        rw [plane.patience_unheard heard] at soon
        omega
    rw [cachedEndpoints, if_neg (by simpa using solid), if_neg (Nat.not_lt.mpr age)]
    rfl

/-! ## The run that takes longest -/

variable (proto config plane)

def Reaches (s t : WatchTask) : Prop :=
  ∃ events, run (reconnectStep proto config) s events = some t ∧
    Along (reconnectStep proto config) plane.Keeps s events

variable {proto config plane} {start s : WatchTask}

theorem Reaches.step {e : WatchEvent} {t : WatchTask} (before : Reaches proto config plane start s)
    (keeps : plane.Keeps s e) (taken : reconnectStep proto config s e = some t) :
    Reaches proto config plane start t := by
  obtain ⟨events, ends, along⟩ := before
  refine ⟨events ++ [e], run_append ends ?_, along_append ends along ⟨keeps, fun _ _ => trivial⟩⟩
  rw [run, taken]
  rfl

theorem Reaches.beat {m : WatchMessage} {endpoints : List ResolvedEndpoint} {updatedAt : Nat}
    (before : Reaches proto config plane start s) (beats : proto.eventType m = .heartbeat)
    (early : s.now ≤ s.since) (there : s.entry = some ⟨endpoints, updatedAt⟩) :
    ∃ t, Reaches proto config plane start t ∧ t.attempt = s.attempt ∧ t.heard = true ∧
      t.now = t.since ∧ t.entry = some ⟨endpoints, t.since⟩ := by
  have clock : s.now + (s.since - s.now) = s.since := by omega
  have taken : reconnectStep proto config s (.message (s.since - s.now) m) =
      some ⟨s.since, s.attempt, some ⟨endpoints, s.since⟩, true, s.since, 0⟩ := by
    simp only [reconnectStep, clock, if_neg (Nat.lt_irrefl _), if_pos (show Refreshes proto m from
      .inl beats), applyMessage, if_pos beats, there]
    rfl
  refine ⟨_, before.step ⟨?_, trivial⟩ taken, rfl, rfl, rfl, rfl⟩
  simp only [WatchEvent.wait]
  omega

theorem Reaches.broken (before : Reaches proto config plane start s) (early : s.now ≤ s.since)
    {delay : Nat} (soon : delay ≤ plane.patience s)
    (room : s.heard = false → s.silent < plane.misses) :
    ∃ t, Reaches proto config plane start t ∧ t.attempt = saturatingAdd u32Max s.attempt 1 ∧
      t.entry = s.entry ∧ t.heard = false ∧ t.silent = (if s.heard then 0 else s.silent + 1) ∧
      t.now ≤ t.since ∧ (16 ≤ s.attempt → t.since = s.since + delay + config.longestPause) := by
  have clock : s.now + (s.since + delay - s.now) = s.since + delay := by omega
  have after : ¬ s.since + delay < s.since := Nat.not_lt.mpr (Nat.le_add_right _ _)
  have taken : reconnectStep proto config s
      (.ended (s.since + delay - s.now) (.error (.transport "")) lastDraw) =
        some ⟨s.since + delay, saturatingAdd u32Max s.attempt 1, s.entry, false,
          s.since + delay + (reconnectBackoff s.attempt config.initialReconnectBackoff
            config.maxReconnectBackoff lastDraw).nanos, if s.heard then 0 else s.silent + 1⟩ := by
    simp only [reconnectStep, clock, if_neg after]
  refine ⟨_, before.step ⟨?_, room⟩ taken, rfl, rfl, rfl, rfl, Nat.le_add_right _ _,
    fun late => ?_⟩
  · simp only [WatchEvent.wait]
    omega
  · exact congrArg (s.since + delay + ·) (reconnectBackoff_last config late)

variable {now : Nat} {endpoints : List ResolvedEndpoint} {beat : WatchMessage}

/-- Streams that are each refreshed before they break count all the same. -/
theorem broken_streams (endpoints : List ResolvedEndpoint)
    (beats : proto.eventType beat = .heartbeat) {n : Nat} (countable : n ≤ u32Max) :
    ∃ s updatedAt, Reaches proto config plane (.spawned now) s ∧ s.attempt = n ∧
      s.now ≤ s.since ∧ s.entry = some ⟨endpoints, updatedAt⟩ := by
  induction n with
  | zero =>
    have spawned : Reaches proto config plane (.spawned now) (.spawned now) := ⟨[], rfl, trivial⟩
    exact ⟨_, _, spawned.step (e := .discovered 0 endpoints) ⟨Nat.le_add_right _ _, trivial⟩ rfl,
      rfl, Nat.le_refl _, rfl⟩
  | succ n ih =>
    obtain ⟨s, updatedAt, reached, attempt, early, there⟩ := ih (by omega)
    obtain ⟨t, heard, same, speaks, clock, beaten⟩ := reached.beat beats early there
    obtain ⟨u, ended, counted, kept, -, -, later, -⟩ :=
      heard.broken (Nat.le_of_eq clock) (Nat.zero_le _) fun deaf => by
        rw [speaks] at deaf
        cases deaf
    refine ⟨u, t.since, ended, ?_, later, kept.trans beaten⟩
    rw [counted, same, attempt]
    exact saturatingAdd_of_le countable

/-- After enough of them, one that stays silent before it breaks, and then as many sessions
as there may be that fail unrefreshed. -/
theorem longest_silence (endpoints : List ResolvedEndpoint)
    (beats : proto.eventType beat = .heartbeat) {n : Nat} (allowed : n ≤ plane.misses) :
    ∃ s updatedAt, Reaches proto config plane (.spawned now) s ∧ 16 ≤ s.attempt ∧
      s.heard = false ∧ s.silent = n ∧ s.now ≤ s.since ∧
      s.entry = some ⟨endpoints, updatedAt⟩ ∧
      s.since = updatedAt + plane.idle + config.longestPause +
        n * (plane.connect + config.longestPause) := by
  induction n with
  | zero =>
    obtain ⟨s, updatedAt, reached, attempt, early, there⟩ :=
      @broken_streams _ proto config plane now beat endpoints beats 16 (by decide)
    obtain ⟨t, heard, same, speaks, clock, beaten⟩ := reached.beat beats early there
    have soon := Nat.le_of_eq (plane.patience_heard speaks).symm
    obtain ⟨u, ended, counted, kept, deaf, silent, later, paused⟩ :=
      heard.broken (Nat.le_of_eq clock) soon fun deaf => by rw [speaks] at deaf; cases deaf
    refine ⟨u, t.since, ended, ?_, deaf, ?_, later, kept.trans beaten, ?_⟩
    · rw [counted, same, attempt]
      decide
    · rw [silent, speaks]
      rfl
    · rw [paused (by omega), Nat.zero_mul, Nat.add_zero]
  | succ n ih =>
    obtain ⟨s, updatedAt, reached, late, deaf, silent, early, there, slept⟩ := ih (by omega)
    have soon := Nat.le_of_eq (plane.patience_unheard deaf).symm
    obtain ⟨u, ended, counted, kept, still, more, later, paused⟩ :=
      reached.broken early soon fun _ => by omega
    refine ⟨u, updatedAt, ended, ?_, still, ?_, later, kept.trans there, ?_⟩
    · rw [counted]
      exact Nat.le_min.mpr ⟨by omega, by decide⟩
    · rw [more, deaf, silent]
      rfl
    · rw [paused late, slept, Nat.succ_mul]
      omega

end Loop

/-- At every moment of every run, up to the next event, endpoints that the cache has are
answered with. -/
def AlwaysAnswers [SdkworkUtils] (proto : DiscoveryProto) (config : WatchLoopConfig)
    (plane : Plane) (start : WatchTask) : Prop :=
  ∀ events s, run (reconnectStep proto config) start events = some s →
    Along (reconnectStep proto config) plane.Keeps start events →
    ∀ wait, s.now + wait ≤ s.since + plane.patience s → entryEndpoints s.entry ≠ [] →
      (cachedEndpoints config.cacheTtl (s.now + wait) s.entry).isSome = true

/- For every configuration, and every control plane that keeps to its figures, whatever else
it sends and whatever discovery calls bring: cached endpoints are never too old to be answered
with exactly if the time to live covers the longest silence of a stream and, for each session
that may fail unrefreshed and the one after them, the time to connect and the longest pause of
all. Streams that were refreshed before they broke do not shorten that pause. -/
theorem watch_cache_answers_iff [SdkworkUtils] (proto : DiscoveryProto)
    (config : WatchLoopConfig) (plane : Plane) (now : Nat) (beat : WatchMessage)
    (beats : proto.eventType beat = .heartbeat) :
    AlwaysAnswers proto config plane (.spawned now) ↔
      plane.idle + (plane.misses + 1) * (plane.connect + config.longestPause) ≤
        config.cacheTtl.nanos := by
  constructor
  · intro answers
    obtain ⟨s, updatedAt, ⟨events, ends, along⟩, -, deaf, -, early, there, slept⟩ :=
      @longest_silence _ proto config plane now beat [⟨"", 1, true⟩] beats plane.misses
        (Nat.le_refl _)
    have last : s.now + (s.since + plane.connect - s.now) = s.since + plane.connect := by omega
    have filled : entryEndpoints s.entry ≠ [] := by
      rw [there]
      exact List.cons_ne_nil _ _
    have hit := answers events s ends along (s.since + plane.connect - s.now)
      (by rw [last, plane.patience_unheard deaf]) filled
    obtain ⟨answer, hit⟩ := Option.isSome_iff_exists.mp hit
    obtain ⟨cached, held, -, -, young⟩ := cachedEndpoints_hit hit
    cases Option.some.inj (there.symm.trans held)
    rw [last] at young
    rw [Nat.succ_mul]
    simp only at young
    omega
  · intro covers events s ends along wait soon filled
    have initial : Young config plane (.spawned now) :=
      ⟨fun _ => Nat.le_refl _, Nat.le_add_right _ _, Nat.zero_le _, nofun⟩
    have young := run_invariant (reconnectStep proto config) plane.Keeps
      (Young config plane) young_step events (.spawned now) s initial along ends
    exact young_answers young soon filled covers

attribute [local instance] languageUtils

/- The defaults do not cover a control plane that answers at once and misses nothing: the
longest pause is thirty seconds against fifteen. A ceiling of five seconds covers one that may
be silent for three, takes one to connect and misses one session in a row. -/
def shortPauses : WatchLoopConfig :=
  { WatchLoopConfig.default with maxReconnectBackoff := .fromSecs 5 }

theorem watch_cache_answers_short_pauses :
    ¬ AlwaysAnswers plainProto .default ⟨0, 0, 0⟩ (.spawned 0) ∧
    AlwaysAnswers plainProto shortPauses ⟨3000000000, 1000000000, 1⟩ (.spawned 0) := by
  constructor
  · rw [watch_cache_answers_iff plainProto .default ⟨0, 0, 0⟩ 0 ⟨none, 3, none⟩ (by decide)]
    decide
  · exact (watch_cache_answers_iff plainProto shortPauses ⟨3000000000, 1000000000, 1⟩ 0
      ⟨none, 3, none⟩ (by decide)).mpr (by decide)

end SdkworkRpc.Client
