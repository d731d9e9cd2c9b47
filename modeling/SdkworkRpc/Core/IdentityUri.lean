import SdkworkRpc.Library.Fields
import Mathlib.Data.String.Basic

/-! The identity URI of a method. Its parts are written one after the other as they are given,
none of them checked or escaped. -/
namespace SdkworkRpc.Core

open Fields

structure RpcIdentityParts where
  nameSpace : String
  environment : String
  rpcSurface : String
  protoPackage : String
  service : String
  method : String
  operationId : String
  deriving DecidableEq, Repr

def buildRpcIdentityUri (parts : RpcIdentityParts) : String :=
  "sdkwork-rpc://" ++ parts.nameSpace ++ "/" ++ parts.environment ++ "/" ++ parts.rpcSurface ++
    "/" ++ parts.protoPackage ++ "/" ++ parts.service ++ "/" ++ parts.method ++
    "?operationId=" ++ parts.operationId

def RpcIdentityParts.segments (parts : RpcIdentityParts) : List String :=
  [parts.nameSpace, parts.environment, parts.rpcSurface, parts.protoPackage, parts.service]

def operationMarker : String := "?operationId="

def IdentifiesParts (parts : RpcIdentityParts) : Prop :=
  ∀ other, buildRpcIdentityUri other = buildRpcIdentityUri parts → other = parts

theorem operationMarker_marker : Marker operationMarker.toList :=
  ⟨'?', "operationId=".toList, by decide, by decide⟩

theorem slash_toList : "/".toList = ['/'] := by decide

def RpcIdentityParts.path (parts : RpcIdentityParts) : List (List Char) :=
  parts.segments.map String.toList ++ [parts.method.toList]

theorem written_toList (scheme marker : String) (parts : RpcIdentityParts) :
    (scheme ++ parts.nameSpace ++ "/" ++ parts.environment ++ "/" ++ parts.rpcSurface ++ "/" ++
      parts.protoPackage ++ "/" ++ parts.service ++ "/" ++ parts.method ++ marker ++
      parts.operationId).toList =
    scheme.toList ++
      (['/'].intercalate parts.path ++ (marker.toList ++ parts.operationId.toList)) := by
  simp only [String.toList_append, slash_toList, RpcIdentityParts.path,
    RpcIdentityParts.segments, List.map_cons, List.map_nil, List.cons_append,
    List.nil_append, List.intercalate_cons_cons, List.intercalate_singleton, List.append_assoc]

theorem uri_toList (parts : RpcIdentityParts) :
    (buildRpcIdentityUri parts).toList = "sdkwork-rpc://".toList ++
      (['/'].intercalate parts.path ++ (operationMarker.toList ++ parts.operationId.toList)) :=
  written_toList "sdkwork-rpc://" operationMarker parts

theorem parts_of_path {fields : List (List Char)} (six : fields.length = 6) (rest : List Char) :
    ∃ parts : RpcIdentityParts, parts.path = fields ∧ parts.operationId.toList = rest := by
  match fields, six with
  | [a, b, c, d, e, f], _ =>
    refine ⟨⟨.ofList a, .ofList b, .ofList c, .ofList d, .ofList e, .ofList f, .ofList rest⟩,
      ?_, String.toList_ofList⟩
    simp only [RpcIdentityParts.path, RpcIdentityParts.segments, List.map_cons, List.map_nil,
      List.cons_append, List.nil_append, String.toList_ofList]

theorem parts_ext {parts other : RpcIdentityParts} (path : other.path = parts.path)
    (operation : other.operationId.toList = parts.operationId.toList) : other = parts := by
  cases parts
  cases other
  simp only [RpcIdentityParts.path, RpcIdentityParts.segments, List.map_cons, List.map_nil,
    List.cons_append, List.nil_append, List.cons.injEq, String.toList_inj] at path operation
  simp only [path, operation]

theorem identifiesParts_iff (parts : RpcIdentityParts) :
    IdentifiesParts parts ↔
      ∀ fields rest, fields.length = parts.path.length →
        ['/'].intercalate fields ++ (operationMarker.toList ++ rest) =
          ['/'].intercalate parts.path ++ (operationMarker.toList ++ parts.operationId.toList) →
        fields = parts.path ∧ rest = parts.operationId.toList := by
  constructor
  · intro unique fields rest length same
    obtain ⟨other, rfl, rfl⟩ := parts_of_path length rest
    have equal := unique other (String.toList_inj.mp (by rw [uri_toList, uri_toList, same]))
    rw [equal]
    exact ⟨rfl, rfl⟩
  · intro unique other same
    have texts := congrArg String.toList same
    rw [uri_toList, uri_toList] at texts
    obtain ⟨path, operation⟩ := unique other.path _ rfl (List.append_cancel_left texts)
    exact parts_ext path operation

/- The URI identifies its parts exactly if no segment has a slash in it, the method included,
and neither the method nor the operation has the beginning of the query in it. -/
theorem identity_uri_exact (parts : RpcIdentityParts) :
    IdentifiesParts parts ↔
      (∀ segment ∈ parts.segments ++ [parts.method], '/' ∉ segment.toList) ∧
      ¬ operationMarker.toList <:+: parts.method.toList ∧
      ¬ operationMarker.toList <:+: parts.operationId.toList := by
  have several : parts.segments.map String.toList ≠ [] := List.cons_ne_nil _ _
  rw [identifiesParts_iff, RpcIdentityParts.path, unique_iff operationMarker_marker several]
  apply and_congr_left'
  rw [← List.map_singleton, ← List.map_append, List.forall_mem_map]

example :
    buildRpcIdentityUri ⟨"acme/eu", "test", "app", "p.v1", "S", "M", "s.m"⟩ =
      buildRpcIdentityUri ⟨"acme", "eu/test", "app", "p.v1", "S", "M", "s.m"⟩ := by
  decide

end SdkworkRpc.Core
