import Mathlib.Data.List.Basic
import Mathlib.Data.List.TakeWhile

/-! Text as the language's strings have it: Unicode white space, UTF-8 bytes. -/
namespace Text

/- The code points with the White_Space property, which `char::is_whitespace` tests. -/
def isWhitespace (c : Char) : Bool :=
  let n := c.toNat
  (9 ≤ n && n ≤ 13) || n == 0x20 || n == 0x85 || n == 0xA0 || n == 0x1680 ||
    (0x2000 ≤ n && n ≤ 0x200A) || n == 0x2028 || n == 0x2029 || n == 0x202F || n == 0x205F ||
    n == 0x3000

/-- `str::trim`. -/
protected def trim (s : String) : String :=
  String.ofList ((s.toList.dropWhile isWhitespace).reverse.dropWhile isWhitespace).reverse

def startsWith (s start : String) : Bool := start.toList.isPrefixOf s.toList

def stripPrefix (s start : String) : Option String :=
  if startsWith s start then some (String.ofList (s.toList.drop start.toList.length)) else none

/-- The number that decimal digits write, most significant first. -/
def decimal (digits : List Char) : Nat :=
  digits.foldl (fun n c => 10 * n + (c.toNat - '0'.toNat)) 0

/-- `parse` of an unsigned type with the given largest value: digits only, at least
one, after at most one plus sign, and no overflow. -/
def parseUnsigned (top : Nat) (s : String) : Option Nat :=
  let digits := match s.toList with
    | '+' :: rest => rest
    | cs => cs
  if digits ≠ [] ∧ digits.all Char.isDigit = true ∧ decimal digits ≤ top then
    some (decimal digits)
  else none

def bytes (s : String) : List UInt8 := s.toUTF8.data.toList

theorem startsWith_self_append (start rest : String) : startsWith (start ++ rest) start = true := by
  unfold startsWith
  rw [String.toList_append, List.isPrefixOf_iff_prefix]
  exact List.prefix_append _ _

theorem startsWith_exclusive {s a b : String} (apart : startsWith a b = false)
    (apart' : startsWith b a = false) (found : startsWith s a = true) :
    startsWith s b = false := by
  apply Bool.eq_false_iff.mpr
  intro both
  unfold startsWith at apart apart' found both
  rw [List.isPrefixOf_iff_prefix] at found both
  rcases List.prefix_or_prefix_of_prefix found both with h | h
  · rw [List.isPrefixOf_iff_prefix.mpr h] at apart'
    cases apart'
  · rw [List.isPrefixOf_iff_prefix.mpr h] at apart
    cases apart

theorem startsWith_of_stripPrefix {s start rest : String}
    (stripped : stripPrefix s start = some rest) : startsWith s start = true := by
  unfold stripPrefix at stripped
  split at stripped
  · assumption
  · cases stripped

theorem not_startsWith_of_stripPrefix {s start : String} (kept : stripPrefix s start = none) :
    startsWith s start = false := by
  unfold stripPrefix at kept
  split at kept
  · cases kept
  · exact Bool.eq_false_iff.mpr ‹_›

theorem stripPrefix_none {s start : String} (other : startsWith s start = false) :
    stripPrefix s start = none := by
  rw [stripPrefix, if_neg (by simp [other])]

theorem stripPrefix_iff {s start rest : String} :
    stripPrefix s start = some rest ↔ s = start ++ rest := by
  constructor
  · intro stripped
    have begins := startsWith_of_stripPrefix stripped
    rw [stripPrefix, if_pos begins] at stripped
    cases Option.some.inj stripped
    apply String.toList_inj.mp
    rw [String.toList_append, String.toList_ofList]
    exact (List.prefix_iff_eq_append.mp (List.isPrefixOf_iff_prefix.mp begins)).symm
  · rintro rfl
    rw [stripPrefix, if_pos (startsWith_self_append start rest), String.toList_append,
      List.drop_left, String.ofList_toList]

theorem bytes_injective {s t : String} (same : bytes s = bytes t) : s = t := by
  obtain ⟨⟨a⟩, ha⟩ := s
  obtain ⟨⟨b⟩, hb⟩ := t
  have eq : a = b := Array.toList_inj.mp same
  subst eq
  rfl

theorem bytes_ofList (cs : List Char) :
    bytes (String.ofList cs) = cs.flatMap String.utf8EncodeChar := by
  unfold bytes
  rw [show (String.ofList cs).toUTF8 = (String.ofList cs).toByteArray from rfl,
    String.toByteArray_ofList, List.utf8Encode, List.data_toByteArray]

theorem bytes_of_ascii {cs : List Char} (ascii : ∀ c ∈ cs, c.utf8Size = 1) :
    bytes (String.ofList cs) = cs.map fun c => c.val.toUInt8 := by
  rw [bytes_ofList]
  induction cs with
  | nil => rfl
  | cons c rest ih =>
    rw [List.flatMap_cons, String.utf8EncodeChar_eq_singleton (ascii c List.mem_cons_self),
      ih fun c later => ascii c (List.mem_cons_of_mem _ later)]
    rfl

theorem ascii_char : ∀ n < 128,
    (Char.ofNat n).utf8Size = 1 ∧ (Char.ofNat n).val.toUInt8 = UInt8.ofNat n := by
  decide

theorem bytes_ofList_ascii {bs : List UInt8} (ascii : ∀ b ∈ bs, b.toNat < 128) :
    bytes (String.ofList (bs.map fun b => Char.ofNat b.toNat)) = bs := by
  rw [bytes_of_ascii]
  · rw [List.map_map]
    conv_rhs => rw [← List.map_id bs]
    apply List.map_congr_left
    intro b member
    exact (ascii_char _ (ascii b member)).2.trans UInt8.ofNat_toNat
  · intro c member
    obtain ⟨b, small, rfl⟩ := List.mem_map.mp member
    exact (ascii_char _ (ascii b small)).1

theorem ofList_bytes {s : String} (ascii : ∀ b ∈ bytes s, b.toNat < 128) :
    String.ofList ((bytes s).map fun b => Char.ofNat b.toNat) = s :=
  bytes_injective (bytes_ofList_ascii ascii)

theorem char_of_ascii {s : String} (ascii : ∀ b ∈ bytes s, b.toNat < 128) {c : Char}
    (member : c ∈ s.toList) : ∃ b ∈ bytes s, c = Char.ofNat b.toNat := by
  rw [← ofList_bytes ascii, String.toList_ofList] at member
  obtain ⟨b, listed, rfl⟩ := List.mem_map.mp member
  exact ⟨b, listed, rfl⟩

theorem dropWhile_fixed {cs : List Char}
    (first : ∀ c, cs.head? = some c → isWhitespace c = false) : cs.dropWhile isWhitespace = cs := by
  cases cs with
  | nil => rfl
  | cons c rest =>
    apply List.dropWhile_cons_of_neg
    rw [first c rfl]
    decide

/-- Only the two ends of a text decide whether trimming leaves it as it is. -/
theorem trim_fixed {s : String} (first : ∀ c, s.toList.head? = some c → isWhitespace c = false)
    (last : ∀ c, s.toList.getLast? = some c → isWhitespace c = false) : Text.trim s = s := by
  have backwards : ∀ c, s.toList.reverse.head? = some c → isWhitespace c = false := by
    rw [List.head?_reverse]
    exact last
  unfold Text.trim
  rw [dropWhile_fixed first, dropWhile_fixed backwards, List.reverse_reverse, String.ofList_toList]

theorem trim_solid {s : String} (solid : ∀ c ∈ s.toList, isWhitespace c = false) :
    Text.trim s = s := by
  apply trim_fixed
  · intro c found
    exact solid c (List.mem_of_head? found)
  · intro c found
    exact solid c (List.mem_of_getLast? found)

theorem dropWhile_first {cs : List Char} {c : Char}
    (found : (cs.dropWhile isWhitespace).head? = some c) : isWhitespace c = false := by
  have dropped := List.head?_dropWhile_not isWhitespace cs
  rw [found] at dropped
  simpa using dropped

theorem trim_last {s : String} {c : Char} (found : (Text.trim s).toList.getLast? = some c) :
    isWhitespace c = false := by
  unfold Text.trim at found
  rw [String.toList_ofList, List.getLast?_reverse] at found
  exact dropWhile_first found

theorem trim_first {s : String} {c : Char} (found : (Text.trim s).toList.head? = some c) :
    isWhitespace c = false := by
  -- What is left at the end is the beginning of what was left at the start.
  have begins : (Text.trim s).toList <+: s.toList.dropWhile isWhitespace := by
    unfold Text.trim
    rw [String.toList_ofList, ← List.reverse_suffix, List.reverse_reverse]
    exact List.dropWhile_suffix _
  obtain ⟨rest, split⟩ := begins
  apply @dropWhile_first s.toList c
  rw [← split, List.head?_append, found]
  rfl

protected theorem trim_trim (s : String) : Text.trim (Text.trim s) = Text.trim s :=
  trim_fixed (fun _ => trim_first) (fun _ => trim_last)

theorem trim_empty {s : String} : Text.trim s = "" ↔ s.toList.all isWhitespace = true := by
  constructor
  · intro empty
    have nothing := congrArg String.toList empty
    unfold Text.trim at nothing
    rw [String.toList_ofList, String.toList_empty, List.reverse_eq_nil_iff,
      List.dropWhile_eq_nil_iff] at nothing
    apply List.all_eq_true.mpr
    apply List.dropWhile_eq_nil_iff.mp
    cases left : s.toList.dropWhile isWhitespace with
    | nil => rfl
    | cons c rest =>
      have solid := @dropWhile_first s.toList c (by rw [left]; rfl)
      rw [nothing c (by rw [left]; simp)] at solid
      cases solid
  · intro blank
    have nothing : s.toList.dropWhile isWhitespace = [] :=
      List.dropWhile_eq_nil_iff.mpr (List.all_eq_true.mp blank)
    unfold Text.trim
    rw [nothing]
    rfl

theorem trim_append_solid {start : String} {c : Char} (begins : start.toList.head? = some c)
    (solid : isWhitespace c = false) (s : String) : Text.trim (start ++ s) ≠ "" := by
  rw [Ne, trim_empty]
  intro blank
  have member : c ∈ (start ++ s).toList := by
    rw [String.toList_append]
    exact List.mem_append_left _ (List.mem_of_head? begins)
  rw [List.all_eq_true.mp blank c member] at solid
  cases solid

protected theorem trim_append {start s : String} {c : Char} (begins : start.toList.head? = some c)
    (solid : isWhitespace c = false) (given : Text.trim s ≠ "") :
    Text.trim (start ++ Text.trim s) = start ++ Text.trim s := by
  apply trim_fixed
  · intro first found
    rw [String.toList_append, List.head?_append, begins] at found
    cases found
    exact solid
  · intro last found
    rw [String.toList_append, List.getLast?_append] at found
    cases ends : (Text.trim s).toList.getLast? with
    | none => exact absurd (String.toList_inj.mp (List.getLast?_eq_none_iff.mp ends)) given
    | some final =>
      rw [ends] at found
      cases found
      exact trim_last ends

theorem append_left_injective {start s t : String} (same : start ++ s = start ++ t) : s = t := by
  have lists := congrArg String.toList same
  rw [String.toList_append, String.toList_append] at lists
  exact String.toList_inj.mp (List.append_cancel_left lists)

theorem longer_differs {start s : String} (given : start ≠ "") : start ++ s ≠ s := by
  intro same
  have lengths := congrArg (fun text : String => text.toList.length) same
  simp only [String.toList_append, List.length_append] at lengths
  apply given
  apply String.toList_inj.mp
  apply List.length_eq_zero_iff.mp
  omega

end Text
