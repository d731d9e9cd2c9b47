import SdkworkRpc.Library.Text

/-! The utility package that the crates share. What it makes of texts is a parameter. -/
namespace SdkworkRpc

open Text

/- A trimmed text stays as it is; a text is blank if nothing is left of it. A start without white
space before it is never trimmed away, and keeps what was trimmed trimmed. -/
class SdkworkUtils where
  trim : String → String
  isBlank : Option String → Bool
  trim_trim : ∀ s, trim (trim s) = trim s
  isBlank_none : isBlank none = true
  isBlank_iff : ∀ {s}, isBlank (some s) = true ↔ trim s = ""
  isBlank_append : ∀ {start : String} {c}, start.toList.head? = some c → isWhitespace c = false →
    ∀ s, isBlank (some (start ++ s)) = false
  trim_append : ∀ {start s : String} {c}, start.toList.head? = some c → isWhitespace c = false →
    isBlank (some s) = false → trim (start ++ trim s) = start ++ trim s

theorem SdkworkUtils.isBlank_trim [SdkworkUtils] (s : String) :
    isBlank (some (trim s)) = isBlank (some s) := by
  rw [Bool.eq_iff_iff, isBlank_iff, isBlank_iff, trim_trim]

/-- White space is that of the language. -/
@[reducible] def languageUtils : SdkworkUtils where
  trim := Text.trim
  isBlank value := value.all fun s => (Text.trim s).isEmpty
  trim_trim := Text.trim_trim
  isBlank_none := rfl
  isBlank_iff := String.isEmpty_iff
  isBlank_append begins solid s :=
    String.isEmpty_eq_false_iff.mpr (trim_append_solid begins solid s)
  trim_append begins solid given :=
    Text.trim_append begins solid (String.isEmpty_eq_false_iff.mp given)

end SdkworkRpc
