import SdkworkRpc.Client.Credential
import SdkworkRpc.Library.Hex

/-! The headers of a call to the discovery registry: who calls, with which permission, and
the identifiers of the request and of its trace. What the source draws at random is given. -/
namespace SdkworkRpc.Discovery

open Text Client SdkworkRpc.Core

/-- A version 4 identifier in the two forms it is written in, with what is relied on of them:
digits and hyphens, and that the thirteenth digit is the version. -/
structure Uuid where
  hyphenated : String
  simple : String
  digits : hyphenated.toList.all (fun c => lowerHexDigit c || c == '-') = true
  uuid : SimpleUuid simple
  version : simple.toList[12]? = some '4'

structure Draws where
  requestId : Uuid
  traceId : Uuid
  parentId : UInt64

def buildTraceparent (draws : Draws) : String :=
  let parentIdVal := draws.parentId ||| 1
  let parentId := String.ofList (Hex.fixed 16 parentIdVal.toNat)
  "00-" ++ draws.traceId.simple ++ "-" ++ parentId ++ "-01"

/-- A provider is known by the token it gives. -/
structure SubjectTokenProvider where
  subjectToken : String

def unsignedLocalSubject (subjectId : String) : SubjectTokenProvider := ⟨subjectId⟩

def registryMetadata (names : MetadataNames) (provider : SubjectTokenProvider)
    (permission : String) (draws : Draws) : List (String × String) :=
  [("x-sdkwork-subject-id", provider.subjectToken),
    ("x-sdkwork-registry-permissions", permission),
    (names.requestId, draws.requestId.hyphenated),
    (names.traceparent, buildTraceparent draws)]

def registryReadMetadata (names : MetadataNames) (provider : SubjectTokenProvider)
    (draws : Draws) : List (String × String) := registryMetadata names provider "read" draws

def registryWriteMetadata (names : MetadataNames) (provider : SubjectTokenProvider)
    (draws : Draws) : List (String × String) := registryMetadata names provider "write" draws

def unsignedRegistryReadMetadata (names : MetadataNames) (subjectId : String) (draws : Draws) :
    List (String × String) := registryReadMetadata names (unsignedLocalSubject subjectId) draws

def unsignedRegistryWriteMetadata (names : MetadataNames) (subjectId : String) (draws : Draws) :
    List (String × String) := registryWriteMetadata names (unsignedLocalSubject subjectId) draws

def insertAscii {t : Tonic} (metadata : MetadataMap t) (key value : String) : MetadataMap t :=
  match t.metadataKey key, MetadataValue.tryFrom t value with
  | some parsedKey, some parsedValue => metadata.insert parsedKey parsedValue
  | _, _ => metadata

def applyMetadataTemplate {t : Tonic} (target : MetadataMap t) :
    List (String × String) → MetadataMap t
  | [] => target
  | (key, value) :: template => applyMetadataTemplate (insertAscii target key value) template

/-! ## The trace context, read back -/

structure TraceContext where
  traceId : Nat
  parentId : Nat
  traceFlags : Nat
  deriving DecidableEq, Repr

/-- The header as the W3C recommendation has it for version 00: 32, 16 and 2 lower-case
digits, and neither identifier is zero. -/
def parseTraceparent (s : String) : Option TraceContext :=
  let cs := s.toList
  if cs.length = 55 ∧ cs.take 3 = ['0', '0', '-'] ∧ cs[35]? = some '-' ∧ cs[52]? = some '-' then do
    let traceId ← Hex.read ((cs.drop 3).take 32)
    let parentId ← Hex.read ((cs.drop 36).take 16)
    let traceFlags ← Hex.read (cs.drop 53)
    if traceId = 0 ∨ parentId = 0 then none else some ⟨traceId, parentId, traceFlags⟩
  else none

theorem lowerHexDigit_value {c : Char} (hex : lowerHexDigit c = true) :
    (Hex.value c).isSome = true := by
  simp only [lowerHexDigit, Bool.or_eq_true, Bool.and_eq_true, decide_eq_true_eq] at hex
  unfold Hex.value
  split
  · rfl
  · rename_i letter
    have above : 'a' ≤ c ∧ c ≤ 'f' := by
      rcases hex with digit | within
      · exact absurd (by simpa [Char.isDigit, Char.le_def, UInt32.le_iff_toNat_le] using digit)
          letter
      · simpa [Char.le_def, UInt32.le_iff_toNat_le] using within
    simp [above]

/-- The digits are a number, and the version keeps it from being zero. -/
theorem Uuid.reads (u : Uuid) : ∃ n, Hex.read u.simple.toList = some n ∧ n ≠ 0 := by
  obtain ⟨n, read⟩ := Hex.readFrom_total 0 fun c member => lowerHexDigit_value (u.uuid.hex c member)
  have four : Hex.value '4' = some 4 := by decide
  exact ⟨n, read, Hex.readFrom_ne_zero read (List.mem_of_getElem? u.version) four (by decide)⟩

theorem odd_nonzero (n : UInt64) : (n ||| 1).toNat ≠ 0 := by
  rw [UInt64.toNat_or]
  intro zero
  have low := congrArg (Nat.testBit · 0) zero
  simp at low

theorem parseTraceparent_layout {trace parent : List Char} {traceId parentId : Nat}
    (traceWidth : trace.length = 32) (parentWidth : parent.length = 16)
    (traceRead : Hex.read trace = some traceId) (parentRead : Hex.read parent = some parentId)
    (traced : traceId ≠ 0) (parented : parentId ≠ 0) :
    parseTraceparent (String.ofList
      ('0' :: '0' :: '-' :: (trace ++ '-' :: (parent ++ ['-', '0', '1'])))) =
        some ⟨traceId, parentId, 1⟩ := by
  have flags : Hex.read ['0', '1'] = some 1 := by decide
  have pastTrace : ∀ n ≥ 32, trace.drop n = [] := fun n wide =>
    List.drop_eq_nil_of_le (by omega)
  have pastParent : parent.drop 17 = [] := List.drop_eq_nil_of_le (by omega)
  simp [parseTraceparent, traceWidth, parentWidth, List.take_append, List.drop_append, pastTrace,
    pastParent, traceRead, parentRead, flags, traced, parented]

theorem traceparent_round_trip (draws : Draws) :
    ∃ traceId, Hex.read draws.traceId.simple.toList = some traceId ∧
      parseTraceparent (buildTraceparent draws) =
        some ⟨traceId, (draws.parentId ||| 1).toNat, 1⟩ := by
  obtain ⟨traceId, read, nonzero⟩ := draws.traceId.reads
  have layout : buildTraceparent draws = String.ofList ('0' :: '0' :: '-' ::
      (draws.traceId.simple.toList ++ '-' ::
        (Hex.fixed 16 (draws.parentId ||| 1).toNat ++ ['-', '0', '1']))) := by
    apply String.toList_inj.mp
    simp [buildTraceparent]
  refine ⟨traceId, read, ?_⟩
  rw [layout]
  exact parseTraceparent_layout draws.traceId.uuid.size (Hex.fixed_length _ _) read
    (Hex.read_fixed (UInt64.toNat_lt _)) nonzero (odd_nonzero _)

/-! ## What a template leaves in the metadata -/

section

variable {t : Tonic}

theorem insertAscii_other (m : MetadataMap t) {key value other : String}
    (distinct : t.metadataKey key ≠ some other) :
    (insertAscii m key value).values other = m.values other := by
  unfold insertAscii
  split
  · rename_i parsed stored hk _
    have ne : other ≠ parsed := by
      rintro rfl
      exact distinct hk
    simp [MetadataMap.insert, Function.update_of_ne ne]
  · rfl

theorem insertAscii_legal (m : MetadataMap t) {key value : String}
    (valid : t.metadataKey key = some key) (legal : (bytes value).all t.headerByte = true) :
    HoldsExactly (insertAscii m key value) key value := by
  simp [HoldsExactly, insertAscii, valid, MetadataValue.tryFrom, legal, MetadataMap.insert]

theorem insertAscii_illegal (m : MetadataMap t) {key value : String}
    (illegal : (bytes value).all t.headerByte = false) : insertAscii m key value = m := by
  have refused : MetadataValue.tryFrom t value = none := dif_neg (by simp [illegal])
  unfold insertAscii
  rw [refused]
  cases t.metadataKey key with
  | none => rfl
  | some parsed => rfl

theorem template_append (m : MetadataMap t) (front back : List (String × String)) :
    applyMetadataTemplate m (front ++ back) =
      applyMetadataTemplate (applyMetadataTemplate m front) back := by
  induction front generalizing m with
  | nil => rfl
  | cons entry rest ih => exact ih (insertAscii m entry.1 entry.2)

theorem template_other (m : MetadataMap t) {template : List (String × String)} {other : String}
    (absent : ∀ entry ∈ template, t.metadataKey entry.1 ≠ some other) :
    (applyMetadataTemplate m template).values other = m.values other := by
  induction template generalizing m with
  | nil => rfl
  | cons entry rest ih =>
    obtain ⟨first, later⟩ := List.forall_mem_cons.mp absent
    rw [applyMetadataTemplate, ih _ later, insertAscii_other m first]

/-- No key is written twice, and each is a key as it stands. -/
structure Separate (t : Tonic) (template : List (String × String)) : Prop where
  keys : ∀ key ∈ template.map Prod.fst, t.metadataKey key = some key
  distinct : (template.map Prod.fst).Nodup

theorem Separate.around {key value : String} {template : List (String × String)}
    (separate : Separate t template) (member : (key, value) ∈ template) :
    ∃ front back, template = front ++ (key, value) :: back ∧
      (∀ entry ∈ front, t.metadataKey entry.1 ≠ some key) ∧
      ∀ entry ∈ back, t.metadataKey entry.1 ≠ some key := by
  have other : ∀ entry ∈ template, entry.1 ≠ key → t.metadataKey entry.1 ≠ some key := by
    intro entry listed differ same
    rw [separate.keys _ (List.mem_map_of_mem listed)] at same
    exact differ (Option.some.inj same)
  have distinct := separate.distinct
  obtain ⟨front, back, rfl⟩ := List.append_of_mem member
  rw [List.map_append, List.map_cons, List.nodup_append, List.nodup_cons] at distinct
  obtain ⟨-, ⟨alone, -⟩, apart⟩ := distinct
  refine ⟨front, back, rfl, fun entry listed => ?_, fun entry listed => ?_⟩
  · apply other entry (List.mem_append_left _ listed)
    exact apart entry.1 (List.mem_map_of_mem listed) key List.mem_cons_self
  · apply other entry (List.mem_append_right _ (List.mem_cons_of_mem _ listed))
    intro same
    exact alone (List.mem_map.mpr ⟨entry, listed, same⟩)

theorem template_legal (m : MetadataMap t) {template : List (String × String)} {key value : String}
    (separate : Separate t template) (member : (key, value) ∈ template)
    (legal : (bytes value).all t.headerByte = true) :
    HoldsExactly (applyMetadataTemplate m template) key value := by
  have valid := separate.keys key (List.mem_map_of_mem member)
  obtain ⟨front, back, rfl, -, last⟩ := separate.around member
  unfold HoldsExactly
  rw [template_append, applyMetadataTemplate, template_other _ last]
  exact insertAscii_legal _ valid legal

theorem template_illegal (m : MetadataMap t) {template : List (String × String)}
    {key value : String} (separate : Separate t template) (member : (key, value) ∈ template)
    (illegal : (bytes value).all t.headerByte = false) :
    (applyMetadataTemplate m template).values key = m.values key := by
  obtain ⟨front, back, rfl, first, last⟩ := separate.around member
  rw [template_append, applyMetadataTemplate, insertAscii_illegal _ illegal,
    template_other _ last, template_other _ first]

end

/-! ## What is drawn is legal -/

def PlainChar (c : Char) : Prop := c.utf8Size = 1 ∧ visibleByte c.val.toUInt8 = true

instance (c : Char) : Decidable (PlainChar c) := inferInstanceAs (Decidable (_ ∧ _))

theorem plain_visible {s : String} (plain : ∀ c ∈ s.toList, PlainChar c) :
    (bytes s).all visibleByte = true := by
  rw [← @String.ofList_toList s, bytes_of_ascii fun c member => (plain c member).1, List.all_map,
    List.all_eq_true]
  intro c member
  exact (plain c member).2

theorem plain_of_all {s : String} (all : s.toList.all (decide <| PlainChar ·) = true) :
    ∀ c ∈ s.toList, PlainChar c :=
  fun c member => of_decide_eq_true (List.all_eq_true.mp all c member)

theorem digit_plain : ∀ d < 16, PlainChar (Hex.digit d) := by decide

theorem fixed_plain {width n : Nat} {c : Char} (member : c ∈ Hex.fixed width n) : PlainChar c := by
  obtain ⟨d, small, rfl⟩ := Hex.fixed_digits member
  exact digit_plain d small

theorem hex_plain {c : Char} (hex : lowerHexDigit c = true) : PlainChar c := by
  obtain ⟨single, plain⟩ := lowerHexDigit_char hex
  have range := identifierByte_range plain
  refine ⟨single, ?_⟩
  simp only [visibleByte, Bool.or_eq_true, Bool.and_eq_true, decide_eq_true_eq,
    UInt8.le_iff_toNat_le, UInt8.lt_iff_toNat_lt, UInt8.reduceToNat]
  omega

theorem hyphenated_plain (u : Uuid) : ∀ c ∈ u.hyphenated.toList, PlainChar c := by
  intro c member
  have digit := List.all_eq_true.mp u.digits c member
  rcases Bool.or_eq_true _ _ ▸ digit with hex | hyphen
  · exact hex_plain hex
  · rw [beq_iff_eq.mp hyphen]
    decide

theorem traceparent_plain (draws : Draws) :
    ∀ c ∈ (buildTraceparent draws).toList, PlainChar c := by
  intro c member
  simp only [buildTraceparent, String.toList_append, String.toList_ofList,
    List.mem_append] at member
  rcases member with (((start | trace) | middle) | parent) | tail
  · exact plain_of_all (by decide) c start
  · exact hex_plain (draws.traceId.uuid.hex c trace)
  · exact plain_of_all (by decide) c middle
  · exact fixed_plain parent
  · exact plain_of_all (by decide) c tail

/-! ## The headers of a registry call -/

def registryKeys (names : MetadataNames) : List String :=
  ["x-sdkwork-subject-id", "x-sdkwork-registry-permissions", names.requestId, names.traceparent]

/- The part of HTTP a registry call relies on: visible characters are legal in a value, and
the four names are keys as they stand and all different. -/
structure RegistryRules (t : Tonic) (names : MetadataNames) : Prop where
  visible : ∀ b, visibleByte b = true → t.headerByte b = true
  keys : ∀ key ∈ registryKeys names, t.metadataKey key = some key
  distinct : (registryKeys names).Nodup

theorem http_registryRules : RegistryRules http standardNames :=
  ⟨http_headerRules.visible, by decide, by decide⟩

theorem RegistryRules.legal {t : Tonic} {names : MetadataNames} (rules : RegistryRules t names)
    {s : String} (shown : (bytes s).all visibleByte = true) :
    (bytes s).all t.headerByte = true := by
  rw [List.all_eq_true] at shown ⊢
  exact fun b member => rules.visible b (shown b member)

section

variable {t : Tonic} {names : MetadataNames} {provider : SubjectTokenProvider}
  {permission : String} {draws : Draws}

theorem registry_separate (rules : RegistryRules t names) :
    Separate t (registryMetadata names provider permission draws) :=
  ⟨rules.keys, rules.distinct⟩

theorem registry_identifiers (rules : RegistryRules t names) (initial : MetadataMap t) :
    HoldsExactly (applyMetadataTemplate initial (registryMetadata names provider permission draws))
        names.requestId draws.requestId.hyphenated ∧
      HoldsExactly (applyMetadataTemplate initial
        (registryMetadata names provider permission draws)) names.traceparent
        (buildTraceparent draws) :=
  ⟨template_legal initial (registry_separate rules) (by simp [registryMetadata])
      (rules.legal (plain_visible (hyphenated_plain _))),
    template_legal initial (registry_separate rules) (by simp [registryMetadata])
      (rules.legal (plain_visible (traceparent_plain draws)))⟩

end

/-- Whatever the metadata held, after the template the permission, the request identifier and
the trace stand under their keys alone, and the trace header is one that a reader of the W3C
format takes apart into the very identifiers drawn. The subject stands under its key exactly
when its token is legal in a header; an illegal one is not sent, and nothing says so. -/
theorem registry_headers_exact (t : Tonic) (names : MetadataNames) (rules : RegistryRules t names)
    (provider : SubjectTokenProvider) (permission : String)
    (granted : permission = "read" ∨ permission = "write") (draws : Draws)
    (initial sent : MetadataMap t)
    (applied : sent = applyMetadataTemplate initial
      (registryMetadata names provider permission draws)) :
    HoldsExactly sent "x-sdkwork-registry-permissions" permission ∧
    HoldsExactly sent names.requestId draws.requestId.hyphenated ∧
    (∃ header traceId, HoldsExactly sent names.traceparent header ∧
      Hex.read draws.traceId.simple.toList = some traceId ∧
      parseTraceparent header = some ⟨traceId, (draws.parentId ||| 1).toNat, 1⟩) ∧
    ((bytes provider.subjectToken).all t.headerByte = true →
      HoldsExactly sent "x-sdkwork-subject-id" provider.subjectToken) ∧
    ((bytes provider.subjectToken).all t.headerByte = false →
      sent.values "x-sdkwork-subject-id" = initial.values "x-sdkwork-subject-id") ∧
    ∀ other ∉ registryKeys names, sent.values other = initial.values other := by
  have separate := @registry_separate t names provider permission draws rules
  have shown : (bytes permission).all visibleByte = true := by
    rcases granted with rfl | rfl
    · decide
    · decide
  subst applied
  obtain ⟨request, trace⟩ := registry_identifiers rules initial
  obtain ⟨traceId, read, parsed⟩ := traceparent_round_trip draws
  refine ⟨?_, request, ⟨_, traceId, trace, read, parsed⟩, ?_, ?_, ?_⟩
  · exact template_legal initial separate (by simp [registryMetadata]) (rules.legal shown)
  · exact template_legal initial separate (by simp [registryMetadata])
  · exact template_illegal initial separate (by simp [registryMetadata])
  · intro other unnamed
    apply template_other
    intro entry member same
    have named : entry.1 ∈ registryKeys names := List.mem_map_of_mem member
    rw [rules.keys _ named] at same
    cases same
    exact unnamed named

def sampleUuid : Uuid :=
  ⟨"67e55044-10b1-426f-9247-bb680e5fe0c8", orderNonce, rfl, orderNonce_uuid, rfl⟩

def sampleDraws : Draws := ⟨sampleUuid, sampleUuid, 0⟩

theorem registry_headers_lost_subject : ∃ sent : MetadataMap http,
    sent = applyMetadataTemplate (emptyMap http)
      (unsignedRegistryWriteMetadata standardNames "svc\n1" sampleDraws) ∧
    sent.values "x-sdkwork-subject-id" = [] ∧
    HoldsExactly sent "x-sdkwork-registry-permissions" "write" :=
  have headers := registry_headers_exact http standardNames http_registryRules ⟨"svc\n1"⟩ "write"
    (.inr rfl) sampleDraws (emptyMap http) _ rfl
  ⟨_, rfl, headers.2.2.2.2.1 (by decide), headers.1⟩

end SdkworkRpc.Discovery
