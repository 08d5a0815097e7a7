import Catwalk.Catalog.Components
import Catwalk.Data.Regex

/-! The directory names of `static/app.js` are those of the catalog. -/

namespace Catwalk.Script

def slash (char : Char) : Bool := char == '/'

/-- `"/" + p.replace(/^\/+|\/+$/g, "")`, closed by a slash. -/
def normDir (p : Text) : Text :=
  let p := '/' :: (Regex.ends slash).replaceAll [] p
  if p = ['/'] then ['/'] else p ++ ['/']

theorem replaceAll_slashes (p : Text) :
    (Regex.ends slash).replaceAll [] p = stripSlashes p :=
  Regex.replaceAll_ends slash p

theorem normDir_eq_enclosed (p : Text) :
    normDir p = enclosed (stripSlashes p) := by
  rw [normDir, replaceAll_slashes]
  cases stripped : stripSlashes p with
  | nil => rfl
  | cons char rest => simp [enclosed]

theorem normDir_eq_normalizePrefix (p : Text) :
    normDir p = normalizePrefix p := by
  rw [normDir_eq_enclosed, normalizePrefix_eq_enclosed]

/-- A click on a child asks for the directory that was listed ahead of it. -/
theorem normalizePrefix_click {path name : Text} (nonempty : name ≠ [])
    (noSlash : '/' ∉ name) :
    normalizePrefix (normDir (normalizePrefix path ++ name ++ ['/'])) =
      normalizePrefix path ++ name ++ ['/'] := by
  rw [normDir_eq_normalizePrefix, normalizePrefix_idem]
  exact normalizePrefix_child (normalizePrefix_idem path) nonempty noSlash

/-- Both normalizers are one idempotent function, its image is closed under
`p + n + "/"`, and what the one side has normalized the other keeps. -/
theorem directory_names_agree :
    (∀ s : Text, normDir s = normalizePrefix s) ∧
      (∀ s : Text, normDir (normDir s) = normDir s) ∧
      (∀ s : Text,
        normalizePrefix (normalizePrefix s) = normalizePrefix s) ∧
      (∀ s : Text, normalizePrefix (normDir s) = normDir s) ∧
      ∀ p n : Text, normDir p = p → n ≠ [] → '/' ∉ n →
        normDir (p ++ n ++ ['/']) = p ++ n ++ ['/'] ∧
          normalizePrefix (p ++ n ++ ['/']) = p ++ n ++ ['/'] ∧
          normalizePrefix (normDir (normalizePrefix p ++ n ++ ['/'])) =
            p ++ n ++ ['/'] := by
  refine ⟨normDir_eq_normalizePrefix, ?_, normalizePrefix_idem, ?_, ?_⟩
  · intro s
    rw [normDir_eq_normalizePrefix, normDir_eq_normalizePrefix]
    exact normalizePrefix_idem s
  · intro s
    rw [normDir_eq_normalizePrefix]
    exact normalizePrefix_idem s
  · intro p n normalized nonempty noSlash
    rw [normDir_eq_normalizePrefix] at normalized
    have child := normalizePrefix_child normalized nonempty noSlash
    refine ⟨?_, child, ?_⟩
    · rw [normDir_eq_normalizePrefix]
      exact child
    · rw [normalizePrefix_click nonempty noSlash, normalized]

theorem directory_names_agree_child :
    normDir "/admin/home/".toList = "/admin/home/".toList ∧
      normalizePrefix "/admin/home/bob/".toList =
        "/admin/home/bob/".toList :=
  ⟨by decide, (directory_names_agree.2.2.2.2 "/admin/home/".toList
    "bob".toList (by decide) (by decide) (by decide)).2.1⟩

end Catwalk.Script
