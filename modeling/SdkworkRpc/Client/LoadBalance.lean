import SdkworkRpc.Library.Machine
import Mathlib.Algebra.GroupWithZero.Nat
import Mathlib.Data.List.Basic

/-! Load balancing over a resolver's snapshot of endpoints. -/
namespace SdkworkRpc.Client

open Machine

structure ResolvedEndpoint where
  endpoint : String
  weight : Nat
  healthy : Bool
  deriving DecidableEq, Repr

inductive LoadBalanceAlgorithm where
  | pickFirst | roundRobin | weighted
  deriving DecidableEq, Repr

structure RoundRobinCursor where
  next : Nat
  fits : next ≤ usizeMax
  deriving DecidableEq

def RoundRobinCursor.default : RoundRobinCursor := ⟨0, by decide⟩

def RoundRobinCursor.advance (c : RoundRobinCursor) : RoundRobinCursor :=
  ⟨saturatingAdd usizeMax c.next 1, Nat.min_le_right _ _⟩

def candidates (endpoints : List ResolvedEndpoint) : List ResolvedEndpoint :=
  if (endpoints.filter (·.healthy)).isEmpty then endpoints else endpoints.filter (·.healthy)

/- The loop of `pick_weighted`: the first endpoint whose running total exceeds the slot. -/
def pickSlot (slot accumulated : Nat) : List ResolvedEndpoint → Option ResolvedEndpoint
  | [] => none
  | e :: rest =>
    let accumulated := accumulated + max e.weight 1
    if slot < accumulated then some e else pickSlot slot accumulated rest

def pickWeighted (candidates : List ResolvedEndpoint) (cursor : RoundRobinCursor) :
    Option ResolvedEndpoint × RoundRobinCursor :=
  let totalWeight := (candidates.map fun e => max e.weight 1).sum
  if totalWeight = 0 then (candidates.head?, cursor)
  else
    let slot := cursor.next % totalWeight
    ((pickSlot slot 0 candidates).or candidates.getLast?, cursor.advance)

def pickEndpoint (endpoints : List ResolvedEndpoint) (algorithm : LoadBalanceAlgorithm)
    (cursor : RoundRobinCursor) : Option ResolvedEndpoint × RoundRobinCursor :=
  if endpoints.isEmpty then (none, cursor)
  else
    let candidates := candidates endpoints
    match algorithm with
    | .pickFirst => (candidates.head?, cursor)
    | .roundRobin => (candidates[cursor.next % candidates.length]?, cursor.advance)
    | .weighted => pickWeighted candidates cursor

theorem pickSlot_mem {slot accumulated : Nat} {es : List ResolvedEndpoint} {e : ResolvedEndpoint}
    (picked : pickSlot slot accumulated es = some e) : e ∈ es := by
  induction es generalizing accumulated with
  | nil => cases picked
  | cons x xs ih =>
    simp only [pickSlot] at picked
    split at picked
    · cases Option.some.inj picked
      exact List.mem_cons_self
    · exact List.mem_cons_of_mem _ (ih picked)

theorem pickEndpoint_mem {endpoints : List ResolvedEndpoint} {algorithm : LoadBalanceAlgorithm}
    {cursor next : RoundRobinCursor} {e : ResolvedEndpoint}
    (picked : pickEndpoint endpoints algorithm cursor = (some e, next)) :
    e ∈ candidates endpoints := by
  unfold pickEndpoint at picked
  split at picked
  · cases picked
  · cases algorithm with
    | pickFirst => exact List.mem_of_mem_head? (congrArg Prod.fst picked)
    | roundRobin => exact List.mem_of_getElem? (congrArg Prod.fst picked)
    | weighted =>
      simp only [pickWeighted] at picked
      split at picked
      · exact List.mem_of_mem_head? (congrArg Prod.fst picked)
      · rcases Option.or_eq_some_iff.mp (congrArg Prod.fst picked) with h | ⟨_, h⟩
        · exact pickSlot_mem h
        · exact List.mem_of_getLast? h

theorem pickEndpoint_single (e : ResolvedEndpoint) (algorithm : LoadBalanceAlgorithm)
    (cursor : RoundRobinCursor) : (pickEndpoint [e] algorithm cursor).1 = some e := by
  have alone : candidates [e] = [e] := by
    unfold candidates
    cases healthy : e.healthy with
    | true => simp [healthy]
    | false => simp [healthy]
  simp only [pickEndpoint, List.isEmpty_cons, Bool.false_eq_true, if_false, alone]
  cases algorithm with
  | pickFirst => rfl
  | roundRobin => simp [Nat.mod_one]
  | weighted =>
    have heavy : max e.weight 1 ≠ 0 := by omega
    have inside : cursor.next % max e.weight 1 < max e.weight 1 :=
      Nat.mod_lt _ (Nat.pos_of_ne_zero heavy)
    simp [pickWeighted, pickSlot, inside]

theorem roundRobin_reaches {endpoints : List ResolvedEndpoint} {e : ResolvedEndpoint}
    (member : e ∈ candidates endpoints) (fits : endpoints.length ≤ usizeMax) :
    ∃ cursor next, pickEndpoint endpoints .roundRobin cursor = (some e, next) := by
  obtain ⟨i, hi, rfl⟩ := List.mem_iff_getElem.mp member
  have shorter : (candidates endpoints).length ≤ endpoints.length := by
    unfold candidates
    split
    · exact Nat.le_refl _
    · exact List.length_filter_le _ _
  have some_left : endpoints.isEmpty = false := by
    cases endpoints with
    | nil => simp [candidates] at hi
    | cons _ _ => rfl
  let cursor : RoundRobinCursor := ⟨i, by omega⟩
  have slot : cursor.next % (candidates endpoints).length = i := Nat.mod_eq_of_lt hi
  exact ⟨cursor, cursor.advance, by simp [pickEndpoint, some_left, slot, hi]⟩

end SdkworkRpc.Client
