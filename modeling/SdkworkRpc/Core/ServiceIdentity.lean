import SdkworkRpc.Library.Text
import SdkworkRpc.Library.Machine

/-! Errors of the framework, and the identities its listeners accept. -/
namespace SdkworkRpc.Core

open Machine Text

inductive RpcFrameworkError where
  | validation (message : String)
  | configuration (message : String)
  | transport (message : String)
  | discovery (message : String)
  deriving DecidableEq, Repr

abbrev RpcFrameworkResult (α : Type) := Except RpcFrameworkError α

def ensure (holds : Bool) (message : String) : RpcFrameworkResult Unit :=
  if holds then .ok () else .error (.validation message)

def orInvalid {α : Type} (value : Option α) (message : String) : RpcFrameworkResult α :=
  match value with
  | some a => .ok a
  | none => .error (.validation message)

@[simp] theorem ensure_true (message : String) : ensure true message = .ok () := rfl

@[simp] theorem orInvalid_some {α : Type} (a : α) (message : String) :
    orInvalid (some a) message = .ok a := rfl

theorem ensure_ok {holds : Bool} {message : String} {u : Unit}
    (passed : ensure holds message = .ok u) : holds = true := by
  cases holds with
  | true => rfl
  | false => cases passed

theorem orInvalid_ok {α : Type} {value : Option α} {message : String} {a : α}
    (present : orInvalid value message = .ok a) : value = some a := by
  cases value with
  | none => cases present
  | some b => cases present; rfl

structure VerifiedRpcServiceIdentity where
  serviceId : String
  trustDomain : String
  spiffeUri : String
  certificateSha256 : String
  deriving DecidableEq, Repr

def identifierByte (b : UInt8) : Bool :=
  (48 ≤ b && b ≤ 57) || (65 ≤ b && b ≤ 90) || (97 ≤ b && b ≤ 122) ||
    b == 45 || b == 95 || b == 46 || b == 58

theorem identifierByte_range {b : UInt8} (plain : identifierByte b = true) :
    45 ≤ b.toNat ∧ b.toNat ≤ 122 := by
  simp only [identifierByte, Bool.or_eq_true, Bool.and_eq_true, decide_eq_true_eq, beq_iff_eq,
    UInt8.le_iff_toNat_le, ← UInt8.toNat_inj] at plain
  simp only [UInt8.reduceToNat] at plain
  omega

def validateIdentifier (field value : String) : RpcFrameworkResult Unit := do
  ensure (!(value.isEmpty || (bytes value).length > 128))
    (field ++ " must contain 1 to 128 characters")
  ensure ((bytes value).all identifierByte) (field ++ " contains unsupported characters")

/-- What `validate_identifier` lets through, whatever the field is called. -/
structure Identifier (value : String) : Prop where
  given : value.isEmpty = false
  short : (bytes value).length ≤ 128
  plain : (bytes value).all identifierByte = true

theorem validateIdentifier_ok {field value : String} :
    validateIdentifier field value = .ok () ↔ Identifier value := by
  constructor
  · intro passed
    obtain ⟨_, sized, passed⟩ := bind_ok passed
    have sized := ensure_ok sized
    simp only [Bool.not_eq_true', Bool.or_eq_false_iff, decide_eq_false_iff_not, Nat.not_lt]
      at sized
    exact ⟨sized.1, sized.2, ensure_ok passed⟩
  · intro identifier
    have sized : (!(value.isEmpty || decide ((bytes value).length > 128))) = true := by
      simp only [identifier.given, Bool.false_or, Bool.not_eq_true', decide_eq_false_iff_not,
        Nat.not_lt]
      exact identifier.short
    unfold validateIdentifier
    rw [sized, identifier.plain]
    rfl

end SdkworkRpc.Core
