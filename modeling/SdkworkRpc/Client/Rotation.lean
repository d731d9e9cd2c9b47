import SdkworkRpc.Client.LoadBalance
import SdkworkRpc.Library.Rotation
import SdkworkRpc.Library.Run

/-! How the picks of a balancer spread over its candidates. The source returns a reference
into the snapshot, so equal endpoints at two positions are two candidates: here a pick is
the position it returns. -/
namespace SdkworkRpc.Client

open Machine Run Rotation

/-- The loop of `pick_weighted`, with the position it returns. -/
def pickSlotAt (slot accumulated : Nat) : List ResolvedEndpoint → Option Nat
  | [] => none
  | e :: rest =>
    let accumulated := accumulated + max e.weight 1
    if slot < accumulated then some 0 else (pickSlotAt slot accumulated rest).map (· + 1)

def weights (es : List ResolvedEndpoint) : List Nat := es.map fun e => max e.weight 1

def pickWeightedAt (candidates : List ResolvedEndpoint) (cursor : RoundRobinCursor) :
    Option Nat × RoundRobinCursor :=
  if (weights candidates).sum = 0 then (if candidates.isEmpty then none else some 0, cursor)
  else
    let slot := cursor.next % (weights candidates).sum
    ((pickSlotAt slot 0 candidates).or
      (if candidates.isEmpty then none else some (candidates.length - 1)), cursor.advance)

/-- `pick_endpoint`, with the position among the candidates that it returns. -/
def pickEndpointAt (endpoints : List ResolvedEndpoint) (algorithm : LoadBalanceAlgorithm)
    (cursor : RoundRobinCursor) : Option Nat × RoundRobinCursor :=
  if endpoints.isEmpty then (none, cursor)
  else
    let candidates := candidates endpoints
    match algorithm with
    | .pickFirst => (some 0, cursor)
    | .roundRobin => (some (cursor.next % candidates.length), cursor.advance)
    | .weighted => pickWeightedAt candidates cursor

def consecutive (endpoints : List ResolvedEndpoint) (algorithm : LoadBalanceAlgorithm) :
    Nat → RoundRobinCursor → List (Option Nat)
  | 0, _ => []
  | n + 1, cursor =>
    (pickEndpointAt endpoints algorithm cursor).1 ::
      consecutive endpoints algorithm n (pickEndpointAt endpoints algorithm cursor).2

theorem pickSlotAt_blockOf {slot accumulated : Nat} (below : accumulated ≤ slot)
    (es : List ResolvedEndpoint) :
    pickSlotAt slot accumulated es = blockOf (weights es) (slot - accumulated) := by
  induction es generalizing accumulated with
  | nil => rfl
  | cons e rest ih =>
    simp only [pickSlotAt, weights, List.map_cons, blockOf]
    by_cases inside : slot < accumulated + max e.weight 1
    · rw [if_pos inside, if_pos (by omega)]
    · rw [if_neg inside, if_neg (by omega), ih (by omega), Nat.sub_add_eq]
      rfl

theorem pickSlot_position (slot accumulated : Nat) (es : List ResolvedEndpoint) :
    pickSlot slot accumulated es = (pickSlotAt slot accumulated es).bind (es[·]?) := by
  induction es generalizing accumulated with
  | nil => rfl
  | cons e rest ih =>
    simp only [pickSlot, pickSlotAt]
    by_cases inside : slot < accumulated + max e.weight 1
    · rw [if_pos inside, if_pos inside]
      rfl
    · rw [if_neg inside, if_neg inside, ih, Option.bind_map]
      rfl

theorem candidates_nonempty {endpoints : List ResolvedEndpoint} (given : endpoints ≠ []) :
    candidates endpoints ≠ [] := by
  unfold candidates
  split
  · exact given
  · rename_i healthy
    simpa using healthy

theorem weights_positive {es : List ResolvedEndpoint} (given : es ≠ []) : 0 < (weights es).sum := by
  cases es with
  | nil => exact absurd rfl given
  | cons e rest =>
    rw [weights, List.map_cons, List.sum_cons]
    omega

theorem pickSlotAt_found {es : List ResolvedEndpoint} (given : es ≠ []) (value : Nat) :
    ∃ i, i < es.length ∧ blockOf (weights es) (value % (weights es).sum) = some i ∧
      pickSlotAt (value % (weights es).sum) 0 es = some i := by
  obtain ⟨i, short, found⟩ := blockOf_lt (Nat.mod_lt value (weights_positive given))
  rw [weights, List.length_map] at short
  exact ⟨i, short, found, (pickSlotAt_blockOf (Nat.zero_le _) es).trans found⟩

theorem pickWeightedAt_blockOf {es : List ResolvedEndpoint} (given : es ≠ [])
    (cursor : RoundRobinCursor) :
    pickWeightedAt es cursor =
      (blockOf (weights es) (cursor.next % (weights es).sum), cursor.advance) := by
  obtain ⟨i, _, lies, found⟩ := pickSlotAt_found given cursor.next
  rw [pickWeightedAt, if_neg (weights_positive given).ne', lies]
  simp only [found, Option.some_or]

theorem pickEndpoint_position (endpoints : List ResolvedEndpoint)
    (algorithm : LoadBalanceAlgorithm) (cursor : RoundRobinCursor) :
    pickEndpoint endpoints algorithm cursor =
      ((pickEndpointAt endpoints algorithm cursor).1.bind ((candidates endpoints)[·]?),
        (pickEndpointAt endpoints algorithm cursor).2) := by
  by_cases none_left : endpoints.isEmpty = true
  · rw [pickEndpoint, pickEndpointAt, if_pos none_left, if_pos none_left]
    rfl
  rw [pickEndpoint, pickEndpointAt, if_neg none_left, if_neg none_left]
  cases algorithm with
  | pickFirst => simp [List.head?_eq_getElem?]
  | roundRobin => rfl
  | weighted =>
    have given : candidates endpoints ≠ [] :=
      candidates_nonempty fun empty => none_left (by rw [empty]; rfl)
    obtain ⟨i, short, lies, found⟩ := pickSlotAt_found given cursor.next
    have heavy : (List.map (fun e => max e.weight 1) (candidates endpoints)).sum ≠ 0 :=
      (weights_positive given).ne'
    have scanned : pickSlot (cursor.next % (weights (candidates endpoints)).sum) 0
        (candidates endpoints) = some ((candidates endpoints).get ⟨i, short⟩) := by
      rw [pickSlot_position, found]
      exact List.getElem?_eq_getElem short
    simp only [pickWeightedAt_blockOf given, pickWeighted, lies, Option.bind_some]
    rw [if_neg heavy, List.getElem?_eq_getElem short]
    exact congrArg (fun found => (Option.or found _, _)) scanned

def RoundRobinCursor.advanced (c : RoundRobinCursor) (picks : Nat) : RoundRobinCursor :=
  ⟨min (c.next + picks) usizeMax, Nat.min_le_right _ _⟩

theorem advanced_zero (c : RoundRobinCursor) : c.advanced 0 = c := by
  obtain ⟨next, fits⟩ := c
  exact RoundRobinCursor.mk.injEq .. ▸ Nat.min_eq_left fits

theorem advance_advanced (c : RoundRobinCursor) (picks : Nat) :
    c.advance.advanced picks = c.advanced (picks + 1) := by
  have same : min (min (c.next + 1) usizeMax + picks) usizeMax =
      min (c.next + (picks + 1)) usizeMax := by omega
  simp only [RoundRobinCursor.advanced, RoundRobinCursor.advance, saturatingAdd, same]

theorem pickEndpointAt_roundRobin {endpoints : List ResolvedEndpoint} (given : endpoints ≠ [])
    (cursor : RoundRobinCursor) :
    pickEndpointAt endpoints .roundRobin cursor =
      (some (cursor.next % (candidates endpoints).length), cursor.advance) :=
  if_neg (by simpa using given)

theorem pickEndpointAt_weighted {endpoints : List ResolvedEndpoint} (given : endpoints ≠ [])
    (cursor : RoundRobinCursor) :
    pickEndpointAt endpoints .weighted cursor =
      (blockOf (weights (candidates endpoints))
        (cursor.next % (weights (candidates endpoints)).sum), cursor.advance) :=
  (if_neg (by simpa using given)).trans (pickWeightedAt_blockOf (candidates_nonempty given) cursor)

theorem consecutive_advanced {endpoints : List ResolvedEndpoint}
    {algorithm : LoadBalanceAlgorithm}
    (moves : ∀ c, (pickEndpointAt endpoints algorithm c).2 = c.advance) (n : Nat)
    (cursor : RoundRobinCursor) :
    consecutive endpoints algorithm n cursor =
      (List.range n).map fun k => (pickEndpointAt endpoints algorithm (cursor.advanced k)).1 := by
  induction n generalizing cursor with
  | zero => rfl
  | succ n ih =>
    rw [consecutive, moves, ih, List.range_succ_eq_map, List.map_cons, advanced_zero, List.map_map]
    simp only [advance_advanced]
    rfl

/-- While the cursor has room, as many consecutive picks as the candidates weigh return
each candidate as often as it weighs. The scan itself finds a candidate at every cursor, so
the one after it is never used. -/
theorem weighted_proportional (endpoints : List ResolvedEndpoint) (given : endpoints ≠ [])
    (cursor : RoundRobinCursor)
    (room : cursor.next + (weights (candidates endpoints)).sum ≤ usizeMax) :
    let picks := consecutive endpoints .weighted (weights (candidates endpoints)).sum cursor
    (∀ position e, (candidates endpoints)[position]? = some e →
      picks.count (some position) = max e.weight 1) ∧
    (∀ pick ∈ picks, ∃ position, position < (candidates endpoints).length ∧
      pick = some position) ∧
    ∀ value, pickSlot (value % (weights (candidates endpoints)).sum) 0 (candidates endpoints) ≠
      none := by
  have some_left := candidates_nonempty given
  have picked : consecutive endpoints .weighted (weights (candidates endpoints)).sum cursor =
      ((List.range (weights (candidates endpoints)).sum).map fun k =>
        (cursor.next + k) % (weights (candidates endpoints)).sum).map
          (blockOf (weights (candidates endpoints))) := by
    rw [consecutive_advanced fun c => by rw [pickEndpointAt_weighted given], List.map_map]
    refine List.map_congr_left fun k short => ?_
    have inside := List.mem_range.mp short
    have free : (cursor.advanced k).next = cursor.next + k := Nat.min_eq_left (by omega)
    rw [pickEndpointAt_weighted given, free]
    rfl
  refine ⟨fun position e found => ?_, fun pick member => ?_, fun value => ?_⟩
  · obtain ⟨short, rfl⟩ := List.getElem?_eq_some_iff.mp found
    rw [picked, ((residues_perm _ _).map _).count_eq,
      blockOf_count _ (by simpa [weights] using short)]
    simp [weights]
  · rw [picked] at member
    obtain ⟨slot, among, rfl⟩ := List.mem_map.mp member
    obtain ⟨k, _, rfl⟩ := List.mem_map.mp among
    obtain ⟨position, short, lies, _⟩ := pickSlotAt_found some_left (cursor.next + k)
    exact ⟨position, short, lies⟩
  · obtain ⟨position, short, _, found⟩ := pickSlotAt_found some_left value
    rw [pickSlot_position, found]
    simp [short]

/- Weights 3 and 0 among the healthy, and an unhealthy endpoint that is no candidate. -/
def mixedSnapshot : List ResolvedEndpoint :=
  [⟨"a:1", 3, true⟩, ⟨"b:1", 5, false⟩, ⟨"c:1", 0, true⟩]

theorem weighted_three_to_one :
    (consecutive mixedSnapshot .weighted 4 RoundRobinCursor.default.advance).count (some 0) = 3 ∧
    (consecutive mixedSnapshot .weighted 4 RoundRobinCursor.default.advance).count (some 1) = 1 :=
  have shares := (weighted_proportional mixedSnapshot (by decide) RoundRobinCursor.default.advance
    (by decide)).1
  ⟨shares 0 ⟨"a:1", 3, true⟩ rfl, shares 1 ⟨"c:1", 0, true⟩ rfl⟩

/-! ## The cursor over its whole life -/

/-- One call of `pick_endpoint`; the snapshot and the algorithm may change from call to call. -/
structure Pick where
  endpoints : List ResolvedEndpoint
  algorithm : LoadBalanceAlgorithm

def pickStep (cursor : RoundRobinCursor) (p : Pick) : Option RoundRobinCursor :=
  some (pickEndpoint p.endpoints p.algorithm cursor).2

def Pick.moves (p : Pick) : Bool := !p.endpoints.isEmpty && p.algorithm != .pickFirst

theorem pickStep_cursor (cursor : RoundRobinCursor) (p : Pick) :
    pickStep cursor p = some (if p.moves then cursor.advance else cursor) := by
  rw [pickStep, pickEndpoint_position]
  cases given : p.endpoints with
  | nil => simp [pickEndpointAt, Pick.moves, given]
  | cons e rest =>
    have nonempty : e :: rest ≠ [] := List.cons_ne_nil e rest
    cases chosen : p.algorithm with
    | pickFirst => simp [pickEndpointAt, Pick.moves, chosen]
    | roundRobin => simp [pickEndpointAt_roundRobin nonempty, Pick.moves, given, chosen]
    | weighted => simp [pickEndpointAt_weighted nonempty, Pick.moves, given, chosen]

theorem run_advanced (picks : List Pick) (cursor : RoundRobinCursor) :
    run pickStep cursor picks = some (cursor.advanced (picks.countP Pick.moves)) := by
  induction picks generalizing cursor with
  | nil => exact congrArg some (advanced_zero cursor).symm
  | cons p rest ih =>
    rw [run, pickStep_cursor, Option.bind_some, ih, List.countP_cons]
    cases p.moves with
    | false => rfl
    | true => exact congrArg some (advance_advanced cursor _)

/-- Every next candidate is picked once in a round if and only if the cursor does not reach
the limit of its width before the round's last pick. -/
theorem round_robin_rotates_iff (picks : List Pick) (cursor : RoundRobinCursor)
    (reached : run pickStep .default picks = some cursor) (endpoints : List ResolvedEndpoint) :
    (∀ position < (candidates endpoints).length,
      (consecutive endpoints .roundRobin (candidates endpoints).length cursor).count
        (some position) = 1) ↔
      min (picks.countP Pick.moves) usizeMax + (candidates endpoints).length ≤ usizeMax + 1 := by
  rw [run_advanced] at reached
  cases Option.some.inj reached
  have counted : (RoundRobinCursor.default.advanced (picks.countP Pick.moves)).next =
      min (picks.countP Pick.moves) usizeMax := by
    simp only [RoundRobinCursor.advanced, RoundRobinCursor.default, Nat.zero_add]
  rw [← counted]
  generalize RoundRobinCursor.default.advanced (picks.countP Pick.moves) = cursor
  rw [← rotates_iff cursor.fits]
  by_cases given : endpoints = []
  · subst given
    exact ⟨fun _ _ inside => absurd inside (Nat.not_lt_zero _),
      fun _ _ inside => absurd inside (Nat.not_lt_zero _)⟩
  · have picked : consecutive endpoints .roundRobin (candidates endpoints).length cursor =
        ((List.range (candidates endpoints).length).map fun k =>
          min (cursor.next + k) usizeMax % (candidates endpoints).length).map some := by
      rw [consecutive_advanced fun c => by rw [pickEndpointAt_roundRobin given], List.map_map]
      exact List.map_congr_left fun k _ => by rw [pickEndpointAt_roundRobin given]; rfl
    simp only [picked, List.count_map_of_injective _ _ (Option.some_injective Nat)]

/- Picks by all three algorithms, of which the first does not move the cursor. -/
def earlierPicks : List Pick :=
  [⟨mixedSnapshot, .pickFirst⟩, ⟨mixedSnapshot, .weighted⟩, ⟨[⟨"a:1", 1, true⟩], .roundRobin⟩,
    ⟨mixedSnapshot, .roundRobin⟩]

theorem later_round_rotates :
    ∃ cursor, run pickStep .default earlierPicks = some cursor ∧ cursor.next = 3 ∧
      (consecutive mixedSnapshot .roundRobin 2 cursor).count (some 0) = 1 ∧
      (consecutive mixedSnapshot .roundRobin 2 cursor).count (some 1) = 1 := by
  have rotates := (round_robin_rotates_iff earlierPicks _ rfl mixedSnapshot).mpr (by decide)
  exact ⟨_, rfl, rfl, rotates 0 (by decide), rotates 1 (by decide)⟩

/- After as many picks as the counter can hold the second of two endpoints is picked for
ever, because a saturated cursor does not move. -/
def pairSnapshot : List ResolvedEndpoint := [⟨"a:1", 1, true⟩, ⟨"b:1", 1, true⟩]

theorem round_robin_sticks :
    ∃ cursor, run pickStep .default (List.replicate usizeMax ⟨pairSnapshot, .roundRobin⟩) =
        some cursor ∧
      (candidates pairSnapshot).length = 2 ∧
      (∀ n, consecutive pairSnapshot .roundRobin n cursor = List.replicate n (some 1)) ∧
      (consecutive pairSnapshot .roundRobin 2 cursor).count (some 0) = 0 := by
  have given : pairSnapshot ≠ [] := by decide
  have stuck : ∀ n, consecutive pairSnapshot .roundRobin n
      (RoundRobinCursor.default.advanced usizeMax) = List.replicate n (some 1) := by
    intro n
    rw [consecutive_advanced fun c => by rw [pickEndpointAt_roundRobin given]]
    apply List.eq_replicate_iff.mpr
    refine ⟨by simp, fun pick member => ?_⟩
    obtain ⟨k, _, rfl⟩ := List.mem_map.mp member
    have limit : ((RoundRobinCursor.default.advanced usizeMax).advanced k).next = usizeMax := by
      simp only [RoundRobinCursor.advanced, RoundRobinCursor.default]
      omega
    have odd : usizeMax % (candidates pairSnapshot).length = 1 := by decide
    rw [pickEndpointAt_roundRobin given, limit, odd]
  refine ⟨RoundRobinCursor.default.advanced usizeMax, ?_, rfl, stuck, ?_⟩
  · rw [run_advanced, List.countP_replicate]
    rfl
  · rw [stuck]
    rfl

end SdkworkRpc.Client
