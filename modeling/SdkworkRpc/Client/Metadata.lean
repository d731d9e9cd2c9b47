import SdkworkRpc.Core.Utils
import Mathlib.Logic.Function.Basic

/-! Outbound call metadata. What the transport library decides is a parameter: the
bytes it accepts in a header value, the names it accepts as metadata keys, and the values it
lets be read as text. -/
namespace SdkworkRpc.Client

open Text SdkworkUtils

def visibleByte (b : UInt8) : Bool := b == 9 || (32 ≤ b && b < 127)

/- Of `to_str` it is relied on that it reads visible characters, and nothing but what stands in
the value, byte for byte. -/
structure Tonic where
  headerByte : UInt8 → Bool
  metadataKey : String → Option String
  toStr : List UInt8 → Option String
  toStr_visible : ∀ {text}, (bytes text).all visibleByte = true → toStr (bytes text) = some text
  toStr_bytes : ∀ {value text}, toStr value = some text → bytes text = value

/-- A value that was accepted: it holds no byte that is illegal in a header. -/
structure MetadataValue (t : Tonic) where
  bytes : List UInt8
  legal : bytes.all t.headerByte = true
  deriving DecidableEq

def MetadataValue.tryFrom (t : Tonic) (s : String) : Option (MetadataValue t) :=
  if legal : (Text.bytes s).all t.headerByte = true then some ⟨Text.bytes s, legal⟩ else none

/-- The values under each key, in order; a key that is absent has none. -/
structure MetadataMap (t : Tonic) where
  values : String → List (MetadataValue t)

def MetadataMap.insert {t : Tonic} (m : MetadataMap t) (key : String) (value : MetadataValue t) :
    MetadataMap t := ⟨Function.update m.values key [value]⟩

def MetadataMap.get {t : Tonic} (m : MetadataMap t) (key : String) : Option (MetadataValue t) :=
  (m.values key).head?

def MetadataValue.toStr {t : Tonic} (v : MetadataValue t) : Option String := t.toStr v.bytes

theorem value_ext {t : Tonic} {value other : MetadataValue t} (same : value.bytes = other.bytes) :
    value = other := by
  obtain ⟨valueBytes, _⟩ := value
  obtain ⟨otherBytes, _⟩ := other
  cases same
  rfl

theorem visibleByte_ascii {b : UInt8} (visible : visibleByte b = true) : b.toNat < 128 := by
  simp only [visibleByte, Bool.or_eq_true, Bool.and_eq_true, beq_iff_eq, decide_eq_true_eq,
    UInt8.lt_iff_toNat_lt, UInt8.reduceToNat] at visible
  rcases visible with rfl | ⟨_, small⟩
  · decide
  · omega

/- The names of the standard metadata keys, constants of the shared protocol crate. -/
structure MetadataNames where
  authorization : String
  accessToken : String
  requestId : String
  traceparent : String
  idempotencyKey : String
  requestHash : String

structure RpcCallMetadata where
  authorization : Option String
  accessToken : Option String
  requestId : Option String
  traceparent : Option String
  idempotencyKey : Option String
  requestHash : Option String
  deriving DecidableEq

section

variable [SdkworkUtils]

def RpcCallMetadata.hasIdempotencyKey (m : RpcCallMetadata) : Bool := !isBlank m.idempotencyKey

def insertOptional {t : Tonic} (map : MetadataMap t) (key : String) :
    Option String → MetadataMap t
  | none => map
  | some value =>
    if isBlank (some value) then map
    else match t.metadataKey key, MetadataValue.tryFrom t value with
      | some parsedKey, some parsedValue => map.insert parsedKey parsedValue
      | _, _ => map

def RpcCallMetadata.applyTo {t : Tonic} (names : MetadataNames) (m : RpcCallMetadata)
    (map : MetadataMap t) : MetadataMap t :=
  let map := insertOptional map names.authorization m.authorization
  let map := insertOptional map names.accessToken m.accessToken
  let map := insertOptional map names.requestId m.requestId
  let map := insertOptional map names.traceparent m.traceparent
  let map := insertOptional map names.idempotencyKey m.idempotencyKey
  insertOptional map names.requestHash m.requestHash

theorem insertOptional_other {t : Tonic} (map : MetadataMap t) (key other : String)
    (value : Option String) (distinct : t.metadataKey key ≠ some other) :
    (insertOptional map key value).values other = map.values other := by
  cases value with
  | none => rfl
  | some value =>
    simp only [insertOptional]
    split
    · rfl
    · split
      · rename_i parsed stored hk _
        have ne : other ≠ parsed := by
          rintro rfl
          exact distinct hk
        simp [MetadataMap.insert, Function.update_of_ne ne]
      · rfl

theorem insertOptional_accepted {t : Tonic} (map : MetadataMap t) (key parsed value : String)
    (valid : t.metadataKey key = some parsed) (given : isBlank (some value) = false)
    (legal : (bytes value).all t.headerByte = true) :
    (insertOptional map key (some value)).values parsed = [⟨bytes value, legal⟩] := by
  simp [insertOptional, given, valid, MetadataValue.tryFrom, legal, MetadataMap.insert]

def HoldsExactly {t : Tonic} (map : MetadataMap t) (key value : String) : Prop :=
  (map.values key).map MetadataValue.bytes = [bytes value]

/-- What admission and the wire must agree on: a key that is counted is sent. -/
def KeyOnWire {t : Tonic} (names : MetadataNames) (key : String) (m : RpcCallMetadata)
    (map : MetadataMap t) : Prop :=
  m.hasIdempotencyKey = true →
    ∃ value, m.idempotencyKey = some value ∧ HoldsExactly (m.applyTo names map) key value

/-- The key is counted and sent exactly when every byte of it is legal in a header
value, or it is absent or blank and so not counted. -/
theorem key_on_wire_iff (t : Tonic) (names : MetadataNames) (key : String)
    (valid : t.metadataKey names.idempotencyKey = some key)
    (distinct : t.metadataKey names.requestHash ≠ some key)
    (m : RpcCallMetadata) (map : MetadataMap t) :
    KeyOnWire names key m map ↔
      ∀ value, m.idempotencyKey = some value → isBlank (some value) = false →
        (bytes value).all t.headerByte = true := by
  constructor
  · intro agrees value given solid
    have counted : m.hasIdempotencyKey = true := by
      simp [RpcCallMetadata.hasIdempotencyKey, given, solid]
    obtain ⟨sent, same, holds⟩ := agrees counted
    cases Option.some.inj (given.symm.trans same)
    have member : bytes value ∈ ((m.applyTo names map).values key).map MetadataValue.bytes := by
      rw [holds]
      exact List.mem_singleton_self _
    obtain ⟨stored, _, hb⟩ := List.mem_map.mp member
    exact hb ▸ stored.legal
  · intro legal counted
    cases given : m.idempotencyKey with
    | none => simp [RpcCallMetadata.hasIdempotencyKey, given, isBlank_none] at counted
    | some value =>
      have solid : isBlank (some value) = false := by
        simpa [RpcCallMetadata.hasIdempotencyKey, given] using counted
      refine ⟨value, rfl, ?_⟩
      unfold HoldsExactly RpcCallMetadata.applyTo
      rw [insertOptional_other _ _ _ _ distinct, given,
        insertOptional_accepted _ _ _ _ valid solid (legal value given solid)]
      rfl

end

def visibleText (value : List UInt8) : Option String :=
  if value.all visibleByte = true then
    some (String.ofList (value.map fun b => Char.ofNat b.toNat))
  else none

theorem visibleText_visible {text : String} (visible : (bytes text).all visibleByte = true) :
    visibleText (bytes text) = some text := by
  rw [visibleText, if_pos visible, ofList_bytes]
  intro b member
  exact visibleByte_ascii (List.all_eq_true.mp visible b member)

theorem visibleText_bytes {value : List UInt8} {text : String}
    (read : visibleText value = some text) : bytes text = value := by
  unfold visibleText at read
  split at read
  · rename_i visible
    cases read
    apply bytes_ofList_ascii
    intro b member
    exact visibleByte_ascii (List.all_eq_true.mp visible b member)
  · cases read

/- The rules of HTTP: a value holds tabs and the bytes from 32 on except 127; a name
is made of token characters, is compared in lower case, and ends in -bin only when
it is binary. -/
def http : Tonic where
  toStr := visibleText
  toStr_visible := visibleText_visible
  toStr_bytes := visibleText_bytes
  headerByte b := b == 9 || (32 ≤ b && b != 127)
  metadataKey s :=
    if s.toList.all (fun c => c.isAlphanum || c ∈ "!#$%&'*+-.^_`|~".toList) && s != "" &&
      !"nib-".toList.isPrefixOf s.toList.reverse
    then some (String.ofList (s.toList.map Char.toLower)) else none

def standardNames : MetadataNames :=
  ⟨"authorization", "access-token", "x-request-id", "traceparent", "idempotency-key",
    "x-request-hash"⟩

def withKey (key : String) : RpcCallMetadata := ⟨none, none, none, none, some key, none⟩

def emptyMap (t : Tonic) : MetadataMap t := ⟨fun _ => []⟩

attribute [local instance] languageUtils

theorem key_on_wire_order :
    KeyOnWire standardNames "idempotency-key" (withKey "order-1") (emptyMap http) := by
  refine (key_on_wire_iff http standardNames "idempotency-key" (by decide) (by decide)
    (withKey "order-1") (emptyMap http)).mpr ?_
  intro value given _
  cases Option.some.inj given
  decide

/-- A line feed inside the key: counted for retries, dropped from the wire. -/
theorem counted_key_not_on_wire :
    (withKey "order\n1").hasIdempotencyKey = true ∧
    (((withKey "order\n1").applyTo standardNames (emptyMap http)).values "idempotency-key") = [] ∧
    ¬ KeyOnWire standardNames "idempotency-key" (withKey "order\n1") (emptyMap http) := by
  have dropped : ((withKey "order\n1").applyTo standardNames (emptyMap http)).values
      "idempotency-key" = [] := by decide
  refine ⟨by decide, dropped, fun agrees => ?_⟩
  obtain ⟨value, _, holds⟩ := agrees (by decide)
  simp [HoldsExactly, dropped] at holds

end SdkworkRpc.Client
