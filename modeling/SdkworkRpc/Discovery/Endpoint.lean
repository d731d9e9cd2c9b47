import SdkworkRpc.Client.Discovery
import SdkworkRpc.Client.Transport
import SdkworkRpc.Discovery.Registration

/-! The address an instance advertises against the address a client dials for it. Each side
knows schemes of its own. -/
namespace SdkworkRpc.Discovery

open Text SdkworkUtils Client

section

variable [SdkworkUtils]

/-- A trimmed endpoint, under the first of two schemes unless it has one of them already. -/
def normalizeEndpoint (plain secure endpoint : String) : String :=
  let trimmed := trim endpoint
  if startsWith trimmed plain || startsWith trimmed secure then trimmed else plain ++ trimmed

def normalizeHttpEndpoint (endpoint : String) : String :=
  normalizeEndpoint "http://" "https://" endpoint

def normalizeGrpcEndpoint (bindAddr : String) : String :=
  normalizeEndpoint "grpc://" "grpcs://" bindAddr

def grpcAdvertisedEndpoint (bindAddr : String) : String := normalizeGrpcEndpoint bindAddr

def httpScheme (address : String) : Bool :=
  startsWith (trim address) "http://" || startsWith (trim address) "https://"

def grpcScheme (address : String) : Bool :=
  startsWith (trim address) "grpc://" || startsWith (trim address) "grpcs://"

section

variable {address : String}

theorem grpc_not_http (grpc : grpcScheme address = true) : httpScheme address = false := by
  unfold httpScheme
  rw [Bool.or_eq_false_iff]
  rcases (Bool.or_eq_true _ _).mp grpc with plain | secure
  · exact ⟨startsWith_exclusive (by decide) (by decide) plain,
      startsWith_exclusive (by decide) (by decide) plain⟩
  · exact ⟨startsWith_exclusive (by decide) (by decide) secure,
      startsWith_exclusive (by decide) (by decide) secure⟩

theorem normalizeGrpcEndpoint_grpc (grpc : grpcScheme address = true) :
    normalizeGrpcEndpoint address = trim address := by
  unfold grpcScheme at grpc
  simp only [normalizeGrpcEndpoint, normalizeEndpoint, grpc, if_true]

theorem normalizeGrpcEndpoint_bare (bare : grpcScheme address = false) :
    normalizeGrpcEndpoint address = "grpc://" ++ trim address := by
  unfold grpcScheme at bare
  simp only [normalizeGrpcEndpoint, normalizeEndpoint, bare, Bool.false_eq_true, if_false]

theorem normalizeGrpcEndpoint_given (given : isBlank (some address) = false) :
    isBlank (some (normalizeGrpcEndpoint address)) = false := by
  cases grpc : grpcScheme address with
  | true => rw [normalizeGrpcEndpoint_grpc grpc, isBlank_trim, given]
  | false =>
    rw [normalizeGrpcEndpoint_bare grpc]
    exact isBlank_append rfl (by decide) _

theorem tonicEndpointUri_bare (given : isBlank (some address) = false)
    (bare : grpcScheme address = false) :
    tonicEndpointUri address =
      .ok (if httpScheme address then trim address else "http://" ++ trim address) := by
  obtain ⟨noPlain, noSecure⟩ := Bool.or_eq_false_iff.mp bare
  have solid : isBlank (some (trim address)) = false := by
    rw [isBlank_trim, given]
  simp only [tonicEndpointUri, solid, stripPrefix_none noPlain, stripPrefix_none noSecure,
    Bool.false_eq_true, if_false]
  unfold httpScheme
  split
  · rfl
  · rfl

theorem tonicEndpointUri_advertised (given : isBlank (some address) = false) :
    tonicEndpointUri ("grpc://" ++ trim address) = .ok ("http://" ++ trim address) := by
  have fixed : trim ("grpc://" ++ trim address) = "grpc://" ++ trim address :=
    trim_append rfl (by decide) given
  have solid : isBlank (some ("grpc://" ++ trim address)) = false :=
    isBlank_append rfl (by decide) _
  have noSecure : startsWith ("grpc://" ++ trim address) "grpcs://" = false :=
    startsWith_exclusive (by decide) (by decide) (startsWith_self_append _ _)
  have stripped : stripPrefix ("grpc://" ++ trim address) "grpc://" = some (trim address) :=
    stripPrefix_iff.mpr rfl
  simp only [tonicEndpointUri, fixed, solid, stripPrefix_none noSecure, stripped,
    Bool.false_eq_true, if_false]

/-- A gRPC scheme is replaced by one that is no longer. -/
theorem shorter_uri {uri : String} (converted : tonicEndpointUri address = .ok uri)
    (grpc : grpcScheme address = true) : uri ≠ "http://" ++ trim address := by
  rintro rfl
  simp only [tonicEndpointUri] at converted
  split at converted
  · cases converted
  have lengths : ∀ {front rest : String}, trim address = front ++ rest → 7 ≤ front.length →
      ∀ scheme : String, scheme.length ≤ 8 → "http://" ++ trim address ≠ scheme ++ rest := by
    intro front rest split long scheme short same
    have counted := congrArg String.length same
    rw [split, String.length_append, String.length_append, String.length_append] at counted
    have seven : "http://".length = 7 := by decide
    omega
  split at converted
  · rename_i rest stripped
    exact lengths (stripPrefix_iff.mp stripped) (by decide) "https://" (by decide)
      (Except.ok.inj converted).symm
  · rename_i secure
    split at converted
    · rename_i rest stripped
      exact lengths (stripPrefix_iff.mp stripped) (by decide) "http://" (by decide)
        (Except.ok.inj converted).symm
    · rename_i plain
      rcases (Bool.or_eq_true _ _).mp grpc with is | is
      · rw [not_startsWith_of_stripPrefix plain] at is
        cases is
      · rw [not_startsWith_of_stripPrefix secure] at is
        cases is

theorem advertised_uri_iff (given : isBlank (some address) = false) :
    tonicEndpointUri (normalizeGrpcEndpoint address) = tonicEndpointUri address ↔
      httpScheme address = false := by
  cases grpc : grpcScheme address with
  | true =>
    rw [normalizeGrpcEndpoint_grpc grpc, tonicEndpointUri_trim]
    exact iff_of_true rfl (grpc_not_http grpc)
  | false =>
    rw [normalizeGrpcEndpoint_bare grpc, tonicEndpointUri_advertised given,
      tonicEndpointUri_bare given grpc]
    cases http : httpScheme address with
    | true =>
      refine iff_of_false ?_ (by decide)
      intro same
      exact longer_differs (by decide) (Except.ok.inj same)
    | false => exact iff_of_true rfl rfl

/-- The connection to the registry goes to the URI that a channel would dial for its address,
exactly if the address does not come with a gRPC scheme, taken for part of a host there. -/
theorem normalizeHttpEndpoint_dialled_iff (given : isBlank (some address) = false) :
    tonicEndpointUri address = .ok (normalizeHttpEndpoint address) ↔
      grpcScheme address = false := by
  cases grpc : grpcScheme address with
  | false =>
    refine iff_of_true ?_ rfl
    rw [tonicEndpointUri_bare given grpc, normalizeHttpEndpoint, normalizeEndpoint]
    rfl
  | true =>
    refine iff_of_false ?_ (by decide)
    have http := grpc_not_http grpc
    have kept : normalizeHttpEndpoint address = "http://" ++ trim address := by
      unfold httpScheme at http
      simp only [normalizeHttpEndpoint, normalizeEndpoint, http, Bool.false_eq_true, if_false]
    rw [kept]
    exact fun dialled => shorter_uri dialled grpc rfl

end

/-! ## From the registration to the channel -/

theorem resolveAndConnect_single {proto : DiscoveryProto} {i : ServiceInstance}
    (serving : isServing proto i.status = true) (given : isBlank (some i.endpoint) = false)
    (build : Build) (tonic : Transport) (service : String) (algorithm : LoadBalanceAlgorithm)
    (cursor : RoundRobinCursor) (config : GrpcChannelConfig) :
    (resolveAndConnect build tonic (fun name => discoverEndpoints proto name [i]) service algorithm
      cursor config).1 = connectGrpcChannelWithConfig build tonic i.endpoint config := by
  have discovered : discoverEndpoints proto service [i] =
      .ok [⟨i.endpoint, max i.weight 1, true⟩] := by
    simp [discoverEndpoints, mapDiscoveredInstance, given, serving]
  have picked := pickEndpoint_single ⟨i.endpoint, max i.weight 1, true⟩ algorithm cursor
  simp only [resolveAndConnect, discovered]
  split
  · rename_i next pick
    rw [pick] at picked
    cases picked
  · rename_i found next pick
    rw [pick] at picked
    cases picked
    rfl

theorem connect_open {a b : String}
    (same : connectGrpcChannelWithConfig tlsBuild openTransport a .default =
      connectGrpcChannelWithConfig tlsBuild openTransport b .default) :
    tonicEndpointUri a = tonicEndpointUri b := by
  unfold connectGrpcChannelWithConfig at same
  cases first : tonicEndpointUri a with
  | error e =>
    cases second : tonicEndpointUri b with
    | error e' =>
      rw [first, second] at same
      cases same
      rfl
    | ok uri =>
      rw [first, second] at same
      cases same
  | ok uri =>
    cases second : tonicEndpointUri b with
    | error e =>
      rw [first, second] at same
      cases same
    | ok uri' =>
      rw [first, second] at same
      cases same
      rfl

/-- Registered under the advertised address and found by discovery, an instance is dialled
as it would be directly: at the same URI, with the same TLS settings. -/
def DialledAsAdvertised (address : String) : Prop :=
  ∀ (registration : DiscoveryInstanceConfig) (revision : Option Nat) (i : ServiceInstance)
    (proto : DiscoveryProto) (build : Build) (tonic : Transport) (service : String)
    (algorithm : LoadBalanceAlgorithm) (cursor : RoundRobinCursor) (config : GrpcChannelConfig),
    registration.advertisedEndpoint = grpcAdvertisedEndpoint address →
    i.endpoint = (registration.request revision).endpoint → isServing proto i.status = true →
    (resolveAndConnect build tonic (fun name => discoverEndpoints proto name [i]) service algorithm
      cursor config).1 = connectGrpcChannelWithConfig build tonic address config

theorem dialledAsAdvertised_iff {address : String} (given : isBlank (some address) = false) :
    DialledAsAdvertised address ↔
      tonicEndpointUri (normalizeGrpcEndpoint address) = tonicEndpointUri address := by
  constructor
  · intro dialled
    -- The endpoint stays a variable, or it would be computed to compare it.
    have registered : ∀ endpoint, endpoint = grpcAdvertisedEndpoint address →
        isBlank (some endpoint) = false → tonicEndpointUri endpoint = tonicEndpointUri address := by
      intro endpoint advertised solid
      have reached := dialled { sharedConfig 0 with advertisedEndpoint := endpoint } none
        ⟨"orders-1", endpoint, 100, 1⟩ ⟨fun _ => some .serving, fun _ => none⟩ tlsBuild
        openTransport "orders" .pickFirst .default .default advertised rfl rfl
      have alone := @resolveAndConnect_single _ ⟨fun _ => some .serving, fun _ => none⟩
        ⟨"orders-1", endpoint, 100, 1⟩ rfl solid tlsBuild openTransport "orders" .pickFirst .default
        .default
      exact connect_open (alone.symm.trans reached)
    exact registered (normalizeGrpcEndpoint address) rfl (normalizeGrpcEndpoint_given given)
  · intro same registration revision i proto build tonic service algorithm cursor config
      advertised stored serving
    have endpoint : i.endpoint = normalizeGrpcEndpoint address := by
      rw [stored]
      exact advertised
    have solid : isBlank (some i.endpoint) = false := by
      rw [endpoint]
      exact normalizeGrpcEndpoint_given given
    rw [resolveAndConnect_single serving solid, endpoint]
    exact connect_congr same

/- The address that is advertised and the one given are dialled alike exactly if it does not
come with an HTTP scheme, which the registering side takes for part of a host. -/
theorem advertised_address_dialled_iff (address : String)
    (given : isBlank (some address) = false) :
    (tonicEndpointUri (normalizeGrpcEndpoint address) = tonicEndpointUri address ↔
      httpScheme address = false) ∧
    (DialledAsAdvertised address ↔ httpScheme address = false) := by
  refine ⟨advertised_uri_iff given, ?_⟩
  rw [dialledAsAdvertised_iff given]
  exact advertised_uri_iff given

end

attribute [local instance] languageUtils

theorem padded_address_dialled :
    tonicEndpointUri (normalizeGrpcEndpoint " grpcs://h:1 ") = .ok "https://h:1" := by
  rw [(advertised_address_dialled_iff " grpcs://h:1 " (by decide)).1.mpr (by decide)]
  decide

/-- An `https` address is dialled over TLS directly, and in plaintext, at a host of another
name, once it was advertised. -/
theorem https_address_dialled_plain :
    isBlank (some "https://h:1") = false ∧
    grpcAdvertisedEndpoint "https://h:1" = "grpc://https://h:1" ∧
    tonicEndpointUri "https://h:1" = .ok "https://h:1" ∧
    tonicEndpointUri (grpcAdvertisedEndpoint "https://h:1") = .ok "http://https://h:1" ∧
    secureScheme "https://h:1" = true ∧
    secureScheme (grpcAdvertisedEndpoint "https://h:1") = false := by
  decide

end SdkworkRpc.Discovery
