import Catwalk.Catalog.Path
import Catwalk.Data.Percent
import Catwalk.Data.Regex

/-! The `Content-Disposition` header of the exports of `app.py`. -/

namespace Catwalk.Api

/-- `[A-Za-z0-9._-]` -/
def isFilenameChar (char : Char) : Bool :=
  let code := char.toNat
  (65 ≤ code ∧ code ≤ 90) ∨ (97 ≤ code ∧ code ≤ 122) ∨
    (48 ≤ code ∧ code ≤ 57) ∨ char = '.' ∨ char = '_' ∨ char = '-'

/-- `[^A-Za-z0-9._-]+` -/
def unsafeRun : Regex Char := .plus fun char => !isFilenameChar char

/-- `" " <= ch != "\x7f"` -/
def isKept (ch : Char) : Bool := 32 ≤ ch.toNat ∧ ch.toNat ≠ 127

/-- `text.strip("._")` -/
def stripDots (text : Text) : Text :=
  let isDot := fun char => char == '.' || char == '_'
  (text.dropWhile isDot).rdropWhile isDot

/-- The plain name next to the encoded one. -/
def fallbackName (filename : Text) : Text :=
  let fallback := stripDots (unsafeRun.replaceAll ['_'] filename)
  let fallback := if fallback = [] then "catwalk.csv".toList else fallback
  fallback.take 180

/-- `_safe_content_disposition` -/
def safeContentDisposition (filename : Text) : Text :=
  let filename := filename.filter isKept
  "attachment; filename=\"".toList ++ fallbackName filename ++
    "\"; filename*=UTF-8''".toList ++ Percent.quote filename

/-- The characters that a header must not carry on. -/
def isControl (char : Char) : Bool :=
  char.toNat ≤ 0x1f ∨ char.toNat = 0x7f

theorem isKept_eq (char : Char) : isKept char = !isControl char := by
  rw [isKept, isControl, ← decide_not]
  apply decide_eq_decide.mpr
  omega

theorem mem_stripDots {text : Text} {char : Char}
    (member : char ∈ stripDots text) : char ∈ text := by
  rw [stripDots] at member
  exact (List.dropWhile_suffix _).subset
    ((List.rdropWhile_prefix _ _).subset member)

theorem isFilenameChar_fallbackName {filename : Text} {char : Char}
    (member : char ∈ fallbackName filename) : isFilenameChar char = true := by
  have inName := List.mem_of_mem_take member
  split at inName
  · have default : ∀ char ∈ "catwalk.csv".toList,
        isFilenameChar char = true := List.all_eq_true.mp rfl
    exact default char inName
  · rcases Regex.mem_replaceAll_plus (mem_stripDots inName) with
      replaced | kept
    · rw [List.mem_singleton.mp replaced]
      rfl
    · simpa using kept.2

theorem fallbackName_ne_nil (filename : Text) : fallbackName filename ≠ [] := by
  intro empty
  rw [fallbackName] at empty
  rcases List.take_eq_nil_iff.mp empty with zero | nothing
  · cases zero
  · split at nothing
    · cases nothing
    · contradiction

theorem toNat_filenameChar {char : Char} (safe : isFilenameChar char = true) :
    45 ≤ char.toNat ∧ char.toNat ≤ 122 := by
  rw [isFilenameChar, decide_eq_true_eq] at safe
  rcases safe with upper | lower | decimal | rfl | rfl | rfl
  · omega
  · omega
  · omega
  · decide
  · decide
  · decide

/-- Two semicolons cut the header; neither name brings one along. -/
theorem splitOn_header {content encoded : Text} (inContent : ';' ∉ content)
    (inEncoded : ';' ∉ encoded) :
    ("attachment; filename=\"".toList ++ content ++
      "\"; filename*=UTF-8''".toList ++ encoded).splitOn ';' =
      ["attachment".toList, " filename=\"".toList ++ content ++ ['"'],
        " filename*=UTF-8''".toList ++ encoded] := by
  have whole : "attachment; filename=\"".toList ++ content ++
      "\"; filename*=UTF-8''".toList ++ encoded =
        "attachment".toList ++ ';' ::
          ((" filename=\"".toList ++ content ++ ['"']) ++ ';' ::
            (" filename*=UTF-8''".toList ++ encoded)) := by
    simp
  have second : ';' ∉ " filename=\"".toList ++ content ++ ['"'] := by
    simp [inContent]
  have third : ';' ∉ " filename*=UTF-8''".toList ++ encoded := by
    simp [inEncoded]
  rw [whole, List.splitOn_append_cons_self_of_not_mem (by decide),
    List.splitOn_append_cons_self_of_not_mem second,
    List.splitOn_eq_singleton third]

/-- The header is printable ASCII and falls into `attachment`, one quoted
name that nothing in it can end early, and the whole name percent-encoded. -/
theorem safeContentDisposition_shape (filename : Text) :
    ∃ content encoded,
      safeContentDisposition filename =
        "attachment; filename=\"".toList ++ content ++
          "\"; filename*=UTF-8''".toList ++ encoded ∧
      (safeContentDisposition filename).splitOn ';' =
        ["attachment".toList, " filename=\"".toList ++ content ++ ['"'],
          " filename*=UTF-8''".toList ++ encoded] ∧
      (∀ char ∈ safeContentDisposition filename,
        32 ≤ char.toNat ∧ char.toNat ≤ 126) ∧
      content ≠ [] ∧ content.length ≤ 180 ∧
      (∀ char ∈ content, isFilenameChar char = true) ∧
      Percent.decode encoded =
        some (filename.filter fun char => !isControl char) := by
  have same : filename.filter isKept =
      filename.filter fun char => !isControl char :=
    List.filter_congr fun char _ => isKept_eq char
  refine ⟨fallbackName (filename.filter isKept),
    Percent.quote (filename.filter isKept), rfl, ?_, ?_,
    fallbackName_ne_nil _, List.length_take_le _ _,
    fun char => isFilenameChar_fallbackName, ?_⟩
  · apply splitOn_header
    · intro member
      exact absurd (isFilenameChar_fallbackName member) (by decide)
    · intro member
      exact (Percent.mem_quote member).2.2 rfl
  · have fixed : ∀ char ∈ "attachment; filename=\"".toList ++
        "\"; filename*=UTF-8''".toList,
        32 ≤ char.toNat ∧ char.toNat ≤ 126 := by simp
    intro char member
    rcases List.mem_append.mp member with front | quoted
    · rcases List.mem_append.mp front with front | middle
      · rcases List.mem_append.mp front with opening | content
        · exact fixed char (List.mem_append_left _ opening)
        · have bounds :=
            toNat_filenameChar (isFilenameChar_fallbackName content)
          omega
      · exact fixed char (List.mem_append_right _ middle)
    · have bounds := Percent.mem_quote quoted
      omega
  · rw [Percent.decode_quote, same]

end Catwalk.Api
