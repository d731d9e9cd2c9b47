import SdkworkRpc.Library.Decimal
import SdkworkRpc.Resilience.RetryRuns

/-! The pushback of a server, from the bytes of its trailer to the waits of the client. -/
namespace SdkworkRpc.Resilience

open Machine Client Run Text

def written (plus : Bool) (zeros n : Nat) : String :=
  String.ofList ((if plus = true then ['+'] else []) ++
    (List.replicate zeros '0' ++ Nat.toDigits 10 n))

def Asks {t : Tonic} (status : Status t) (n : Nat) : Prop :=
  n ≤ u64Max ∧ ∃ value plus zeros, status.metadata.get grpcRetryPushbackMs = some value ∧
    value.bytes = bytes (written plus zeros n)

theorem digit_byte : ∀ n < 10, (Char.ofNat (48 + n)).utf8Size = 1 ∧
    visibleByte (Char.ofNat (48 + n)).val.toUInt8 = true := by decide

theorem written_char {plus : Bool} {zeros n : Nat} {c : Char}
    (member : c ∈ (written plus zeros n).toList) :
    c.utf8Size = 1 ∧ visibleByte c.val.toUInt8 = true := by
  rw [written, String.toList_ofList] at member
  rcases List.mem_append.mp member with sign | digits
  · cases plus with
    | false => cases sign
    | true =>
      cases List.mem_singleton.mp sign
      decide
  · have digit := List.all_eq_true.mp (canonical_digits zeros n) c digits
    obtain ⟨small, char⟩ := digit_value digit
    rw [← char, digitChar_ofNat _ small]
    exact digit_byte _ small

theorem written_visible (plus : Bool) (zeros n : Nat) :
    (bytes (written plus zeros n)).all visibleByte = true := by
  rw [← @String.ofList_toList (written plus zeros n),
    bytes_of_ascii fun c member => (written_char member).1, List.all_map, List.all_eq_true]
  intro c member
  exact (written_char member).2

theorem written_reads {t : Tonic} {value : MetadataValue t} {plus : Bool} {zeros n : Nat}
    (same : value.bytes = bytes (written plus zeros n)) :
    value.toStr = some (written plus zeros n) := by
  rw [MetadataValue.toStr, same]
  exact t.toStr_visible (written_visible plus zeros n)

theorem sign_cases {cs sign : List Char} (signs : sign = [] ∨ sign = ['+']) :
    ∃ plus : Bool, sign ++ cs = (if plus = true then ['+'] else []) ++ cs := by
  rcases signs with rfl | rfl
  · exact ⟨false, rfl⟩
  · exact ⟨true, rfl⟩

theorem parse_written_iff {n : Nat} {text : String} :
    parseUnsigned u64Max text = some n ↔
      n ≤ u64Max ∧ ∃ plus zeros, text = written plus zeros n := by
  rw [parseUnsigned_iff]
  constructor
  · rintro ⟨fits, sign, zeros, signs, same⟩
    obtain ⟨plus, shape⟩ := sign_cases signs
    refine ⟨fits, plus, zeros, ?_⟩
    rw [written, ← shape, ← same, String.ofList_toList]
  · rintro ⟨fits, plus, zeros, rfl⟩
    refine ⟨fits, _, zeros, ?_, String.toList_ofList⟩
    cases plus
    · exact .inl rfl
    · exact .inr rfl

theorem extractRetryPushbackMs_iff {t : Tonic} {status : Status t} {n : Nat} :
    extractRetryPushbackMs status = some n ↔ Asks status n := by
  unfold extractRetryPushbackMs Asks
  simp only [Option.bind_eq_bind, Option.bind_eq_some_iff, parse_written_iff]
  constructor
  · rintro ⟨value, found, text, read, fits, plus, zeros, rfl⟩
    exact ⟨fits, value, plus, zeros, found, (t.toStr_bytes read).symm⟩
  · rintro ⟨fits, value, plus, zeros, found, same⟩
    exact ⟨value, found, _, written_reads same, fits, plus, zeros, rfl⟩

/-- The deadline in numbers: the sum saturates, and a deadline of more milliseconds than a
`u64` holds covers everything. -/
theorem deadlineCoversBackoff_iff {backoffMs : Nat} {remaining : Duration} :
    deadlineCoversBackoff backoffMs remaining = true ↔
      min (backoffMs + max (backoffMs / 2) 10) u64Max ≤ remaining.asMillis := by
  unfold deadlineCoversBackoff u64TryFrom
  simp only [saturatingAdd, rpcEstimateMs, minRpcDeadlineReserveMs]
  split
  · rename_i ms fits
    split at fits
    · cases fits
      exact decide_eq_true_iff
    · cases fits
  · rename_i large
    split at large
    · cases large
    · rename_i beyond
      have least := Nat.min_le_right (backoffMs + max (backoffMs / 2) 10) u64Max
      exact iff_of_true rfl (by omega)

section

variable {t : Tonic} {policy : RetryPolicy} {admission : RetryAdmission}

/-- All that a retry after a pushback of `n` needs, in numbers. -/
structure Obliges (policy : RetryPolicy) (admission : RetryAdmission) (attempt : Nat)
    (budget : RetryBudgetTracker) (remaining : Duration) (n : Nat) : Prop where
  listed : Code.resourceExhausted ∈ policy.retryableCodes
  admitted : admission.methodRequiresIdempotency = true → admission.hasIdempotencyKey = true
  attempts : attempt < policy.maxAttempts.toNat
  tokens : 0 < budget.remaining
  deadline : min (min n policy.maxBackoffMs.toNat +
    max (min n policy.maxBackoffMs.toNat / 2) 10) u64Max ≤ remaining.asMillis

theorem allowsRetryMetadata_iff : admission.allowsRetryMetadata = true ↔
    (admission.methodRequiresIdempotency = true → admission.hasIdempotencyKey = true) := by
  obtain ⟨requires, has⟩ := admission
  cases requires <;> cases has <;> decide

theorem exhausted_retry_iff {status : Status t} (exhausted : status.code = .resourceExhausted)
    (attempt : Nat) (budget : RetryBudgetTracker) (remaining : Duration) (draw : Jitter)
    (ms : Nat) :
    (shouldRetryCallWithPushback policy status attempt budget admission remaining draw).1 =
        .retry ms ↔
      ∃ n, Asks status n ∧ Obliges policy admission attempt budget remaining n ∧
        ms = min n policy.maxBackoffMs.toNat := by
  refine (exhausted_decision policy status attempt budget admission remaining draw exhausted
    ms).trans ?_
  simp only [extractRetryPushbackMs_iff, allowsRetryMetadata_iff, deadlineCoversBackoff_iff,
    exhausted]
  constructor
  · rintro ⟨n, asked, listed, admitted, attempts, deadline, tokens, rfl⟩
    exact ⟨n, asked, ⟨listed, admitted, attempts, tokens, deadline⟩, rfl⟩
  · rintro ⟨n, asked, obliges, rfl⟩
    exact ⟨n, asked, obliges.listed, obliges.admitted, obliges.attempts, obliges.deadline,
      obliges.tokens, rfl⟩

/-- The wait is the one that the failure asks for, up to the policy's ceiling. -/
def Heeds (policy : RetryPolicy) (f : Failure t) (r : Retry) : Prop :=
  r.remaining = f.remaining ∧ ∃ n, Asks f.status n ∧ r.backoffMs = min n policy.maxBackoffMs.toNat

theorem stopped_ends {s u : RetryLoop} {failures : List (Failure t)} (stopped : s.stopped = true)
    (ends : run (retryStep policy admission) s failures = some u) : failures = [] ∧ u = s := by
  cases failures with
  | nil => exact ⟨rfl, (Option.some.inj ends).symm⟩
  | cons f rest =>
    obtain ⟨v, taken, -⟩ := run_cons ends
    rw [retryStep, if_pos (.inl stopped)] at taken
    cases taken

theorem exhausted_step {s u : RetryLoop} {f : Failure t}
    (exhausted : f.status.code = .resourceExhausted)
    (taken : retryStep policy admission s f = some u) :
    u.stopped = true ∧ u.retries = s.retries ∨
      ∃ r, Heeds policy f r ∧ u.retries = r :: s.retries := by
  unfold retryStep at taken
  split at taken
  · cases taken
  split at taken
  · cases taken
    exact .inl ⟨rfl, rfl⟩
  · rename_i backoffMs budget decided
    cases taken
    have retried := congrArg Prod.fst decided
    obtain ⟨n, asked, -, same⟩ := (exhausted_retry_iff exhausted _ _ _ _ _).mp retried
    exact .inr ⟨_, ⟨rfl, n, asked, same⟩, rfl⟩

theorem exhausted_run {failures : List (Failure t)} {s u : RetryLoop}
    (exhausted : ∀ f ∈ failures, f.status.code = .resourceExhausted)
    (ends : run (retryStep policy admission) s failures = some u) :
    ∃ added, u.retries = added.reverse ++ s.retries ∧
      List.Forall₂ (Heeds policy) (failures.take added.length) added ∧
      (failures.length = added.length ∨
        u.stopped = true ∧ failures.length = added.length + 1) := by
  induction failures generalizing s with
  | nil =>
    cases Option.some.inj ends
    exact ⟨[], rfl, .nil, .inl rfl⟩
  | cons f rest ih =>
    obtain ⟨v, taken, tail⟩ := run_cons ends
    rcases exhausted_step (exhausted f List.mem_cons_self) taken with
      ⟨stopped, same⟩ | ⟨r, heeds, more⟩
    · obtain ⟨rfl, rfl⟩ := stopped_ends stopped tail
      exact ⟨[], same, .nil, .inr ⟨stopped, rfl⟩⟩
    · obtain ⟨added, retries, waits, count⟩ :=
        ih (fun g member => exhausted g (List.mem_cons_of_mem f member)) tail
      refine ⟨r :: added, ?_, .cons heeds waits, ?_⟩
      · rw [retries, more, List.reverse_cons, List.append_assoc]
        rfl
      · simp only [List.length_cons]
        exact count.imp (congrArg (· + 1)) (And.imp_right (congrArg (· + 1)))

end

/-- A retry after an exhausted resource is decided exactly by the bytes of the first trailer:
the number they write, in decimal with an optional plus sign and leading zeros, is the wait up
to the ceiling, and everything else stops the call. So in every run of a call that only meets
exhausted resources the waits are those the servers asked for, one for each failure and in
order, but for a last failure that stops it. -/
theorem pushback_heeded {t : Tonic} (policy : RetryPolicy) (admission : RetryAdmission) :
    (∀ (status : Status t), status.code = .resourceExhausted → ∀ attempt budget remaining draw ms,
      (shouldRetryCallWithPushback policy status attempt budget admission remaining draw).1 =
          .retry ms ↔
        ∃ n, Asks status n ∧ Obliges policy admission attempt budget remaining n ∧
          ms = min n policy.maxBackoffMs.toNat) ∧
    ∀ (attempt budget : Nat) (remaining : Duration) (failures : List (Failure t)) (s : RetryLoop),
      (∀ f ∈ failures, f.status.code = .resourceExhausted) →
      run (retryStep policy admission) (.start attempt budget remaining) failures = some s →
      List.Forall₂ (Heeds policy) (failures.take s.retries.length) s.retries.reverse ∧
        (failures.length = s.retries.length ∨
          s.stopped = true ∧ failures.length = s.retries.length + 1) := by
  refine ⟨fun status exhausted attempt budget remaining draw ms => ?_, ?_⟩
  · exact exhausted_retry_iff exhausted attempt budget remaining draw ms
  · intro attempt budget remaining failures s exhausted ends
    obtain ⟨added, retries, waits, count⟩ := exhausted_run exhausted ends
    have all : s.retries = added.reverse := retries.trans (List.append_nil _)
    rw [all, List.reverse_reverse, List.length_reverse]
    exact ⟨waits, count⟩

/- A server asks for 250 ms, then for half a minute, which the policy cuts to two seconds, then
for something that is no number. -/
def asking (text : String) (secs : UInt64) : Failure http :=
  ⟨⟨.resourceExhausted, ((MetadataValue.tryFrom http text).elim (emptyMap http)
    ((emptyMap http).insert grpcRetryPushbackMs))⟩, .fromSecs secs, lowDraw⟩

theorem pushback_heeded_twice :
    ∃ s, run (retryStep (.forProfile .rpcReadOnly) ⟨false, false⟩) (.start 0 32 (.fromSecs 9))
        [asking "250" 9, asking "+0030000" 8, asking "soon" 5] = some s ∧
      s.retries.map Retry.backoffMs = [2000, 250] ∧
      List.Forall₂ (Heeds (.forProfile .rpcReadOnly)) [asking "250" 9, asking "+0030000" 8]
        s.retries.reverse := by
  have evaluated : (run (retryStep (.forProfile .rpcReadOnly) ⟨false, false⟩)
      (.start 0 32 (.fromSecs 9)) [asking "250" 9, asking "+0030000" 8, asking "soon" 5]).map
        (fun s => s.retries.map Retry.backoffMs) = some [2000, 250] := by decide +kernel
  obtain ⟨s, ends, waits⟩ := Option.map_eq_some_iff.mp evaluated
  have heeded := ((pushback_heeded (.forProfile .rpcReadOnly) ⟨false, false⟩).2 0 32 _ _ s
    (by simp [asking]) ends).1
  have two : s.retries.length = 2 := by
    rw [← List.length_map, waits]
    rfl
  rw [two] at heeded
  exact ⟨s, ends, waits, heeded⟩

end SdkworkRpc.Resilience
