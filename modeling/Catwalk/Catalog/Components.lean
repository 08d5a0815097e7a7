import Catwalk.Catalog.Path

/-! Paths as lists of names: what the texts of two paths say about them. -/

namespace Catwalk

/-- What may stand between two slashes. -/
def Names (names : List Text) : Prop :=
  ∀ name ∈ names, name ≠ [] ∧ '/' ∉ name

instance Names.decidable (names : List Text) : Decidable (Names names) :=
  inferInstanceAs (Decidable (∀ name ∈ names, name ≠ [] ∧ '/' ∉ name))

/-- `c1/…/cn/` -/
def slashed (names : List Text) : Text :=
  names.flatMap fun name => name ++ ['/']

/-- `/c1/…/cn/` -/
def rooted (names : List Text) : Text := '/' :: slashed names

/-- The components of a path, whatever slashes surround it. -/
def components (path : Text) : List Text :=
  (path.splitOn '/').filter (· ≠ [])

/-- Slashes stand next to each other only at the two ends of the path. -/
def NoEmptyInner (path : Text) : Prop :=
  ∀ before later, path.splitOn '/' = before ++ [] :: later →
    (∀ name ∈ before, name = []) ∨ ∀ name ∈ later, name = []

@[simp] theorem slashed_nil : slashed [] = [] := rfl

@[simp] theorem slashed_cons (name : Text) (rest : List Text) :
    slashed (name :: rest) = name ++ '/' :: slashed rest := by
  simp [slashed]

theorem slashed_append (names rest : List Text) :
    slashed (names ++ rest) = slashed names ++ slashed rest := by
  simp [slashed]

theorem rooted_append (names rest : List Text) :
    rooted (names ++ rest) = rooted names ++ slashed rest := by
  rw [rooted, slashed_append]
  rfl

theorem Names.cons {name : Text} {rest : List Text}
    (names : Names (name :: rest)) :
    (name ≠ [] ∧ '/' ∉ name) ∧ Names rest :=
  ⟨names name List.mem_cons_self,
    fun other member => names other (List.mem_cons_of_mem _ member)⟩

theorem Names.right {first second : List Text}
    (names : Names (first ++ second)) : Names second :=
  fun name member => names name (List.mem_append_right _ member)

theorem splitOn_slashed {names : List Text} (valid : Names names) :
    (slashed names).splitOn '/' = names ++ [[]] := by
  induction names with
  | nil => rfl
  | cons name rest ih =>
      obtain ⟨⟨_, noSlash⟩, valid⟩ := valid.cons
      rw [slashed_cons, List.splitOn_append_cons_self_of_not_mem noSlash,
        ih valid]
      rfl

theorem filter_names {names : List Text} (valid : Names names) :
    names.filter (· ≠ []) = names := by
  apply List.filter_eq_self.mpr
  intro name member
  exact decide_eq_true (valid name member).1

theorem components_slashed {names : List Text} (valid : Names names) :
    components (slashed names) = names := by
  rw [components, splitOn_slashed valid, List.filter_append,
    filter_names valid]
  simp

theorem name_inj {first second rest rest' : Text} (noSlash : '/' ∉ first)
    (noSlash' : '/' ∉ second)
    (same : first ++ '/' :: rest = second ++ '/' :: rest') :
    first = second ∧ rest = rest' := by
  have parts := congrArg (List.splitOn '/') same
  rw [List.splitOn_append_cons_self_of_not_mem noSlash,
    List.splitOn_append_cons_self_of_not_mem noSlash'] at parts
  have names : first = second := (List.cons.inj parts).1
  refine ⟨names, ?_⟩
  rw [names] at same
  exact (List.cons.inj (List.append_cancel_left same)).2

theorem isPrefix_slashed {names other : List Text} (valid : Names names)
    (valid' : Names other) :
    slashed names <+: slashed other ↔ names <+: other := by
  induction names generalizing other with
  | nil => exact iff_of_true List.nil_prefix List.nil_prefix
  | cons name rest ih =>
      cases other with
      | nil =>
          apply iff_of_false
          · intro isPrefix
            have empty := List.prefix_nil.mp isPrefix
            simp at empty
          · intro isPrefix
            have empty := List.prefix_nil.mp isPrefix
            simp at empty
      | cons name' rest' =>
          obtain ⟨⟨_, noSlash⟩, valid⟩ := valid.cons
          obtain ⟨⟨_, noSlash'⟩, valid'⟩ := valid'.cons
          simp only [List.cons_prefix_cons, ← ih valid valid', slashed_cons]
          constructor
          · intro isPrefix
            obtain ⟨tail, same⟩ := isPrefix
            rw [List.append_assoc, List.cons_append] at same
            obtain ⟨names, rests⟩ := name_inj noSlash noSlash' same
            exact ⟨names, tail, rests⟩
          · intro both
            obtain ⟨names, tail, rests⟩ := both
            refine ⟨tail, ?_⟩
            rw [List.append_assoc, List.cons_append, names, rests]

theorem isPrefix_rooted {names other : List Text} (valid : Names names)
    (valid' : Names other) :
    rooted names <+: rooted other ↔ names <+: other := by
  rw [rooted, rooted, List.cons_prefix_cons, and_iff_right rfl,
    isPrefix_slashed valid valid']

theorem groupKey_rooted {names rest : List Text} (valid : Names rest)
    (depth : Nat) :
    groupKey (rooted (names ++ rest)) (rooted names) depth =
      if rest = [] then ['.'] else ['/'].intercalate (rest.take depth) := by
  have parts := components_slashed valid
  rw [components] at parts
  rw [groupKey, rooted_append, List.drop_left]
  simp only [parts]
  by_cases empty : rest = []
  · rw [if_pos empty, empty]
    rfl
  · rw [if_neg empty, if_pos empty]

/-! Slashes at the ends. -/

theorem splitOn_slash_cons (path : Text) :
    List.splitOn '/' ('/' :: path) = [] :: path.splitOn '/' :=
  List.splitOn_append_cons_self [] path

theorem splitOn_concat_slash (path : Text) :
    (path ++ ['/']).splitOn '/' = path.splitOn '/' ++ [[]] :=
  List.splitOn_append_cons_self path []

theorem components_slash_cons (path : Text) :
    components ('/' :: path) = components path := by
  rw [components, splitOn_slash_cons]
  rfl

theorem components_concat_slash (path : Text) :
    components (path ++ ['/']) = components path := by
  rw [components, splitOn_concat_slash, List.filter_append]
  exact List.append_nil _

theorem components_rooted {names : List Text} (valid : Names names) :
    components (rooted names) = names := by
  rw [rooted, components_slash_cons, components_slashed valid]

theorem NoEmptyInner.of_slash_cons {path : Text}
    (inner : NoEmptyInner ('/' :: path)) : NoEmptyInner path := by
  intro before later split
  have whole : List.splitOn '/' ('/' :: path) =
      ([] :: before) ++ [] :: later := by
    rw [splitOn_slash_cons, split]
    rfl
  rcases inner _ _ whole with empty | empty
  · exact .inl fun name member => empty name (List.mem_cons_of_mem _ member)
  · exact .inr empty

theorem NoEmptyInner.of_concat_slash {path : Text}
    (inner : NoEmptyInner (path ++ ['/'])) : NoEmptyInner path := by
  intro before later split
  have whole : (path ++ ['/']).splitOn '/' =
      before ++ [] :: (later ++ [[]]) := by
    rw [splitOn_concat_slash, split, List.append_assoc]
    rfl
  rcases inner _ _ whole with empty | empty
  · exact .inl empty
  · exact .inr fun name member => empty name (List.mem_append_left _ member)

/-- `path.strip("/")` -/
def stripSlashes (path : Text) : Text :=
  (path.dropWhile (· == '/')).rdropWhile (· == '/')

theorem strip_induction {motive : Text → Prop}
    (left : ∀ path, motive ('/' :: path) → motive path)
    (right : ∀ path, motive (path ++ ['/']) → motive path) {path : Text}
    (holds : motive path) : motive (stripSlashes path) := by
  have dropped : motive (path.dropWhile (· == '/')) := by
    induction path with
    | nil => exact holds
    | cons char rest ih =>
        rcases eq_or_ne char '/' with rfl | differs
        · exact ih (left rest holds)
        · rw [List.dropWhile_cons_of_neg (by simpa using differs)]
          exact holds
  rw [stripSlashes]
  generalize path.dropWhile (· == '/') = text at dropped ⊢
  induction text using List.reverseRecOn with
  | nil => exact dropped
  | append_singleton rest char ih =>
      rcases eq_or_ne char '/' with rfl | differs
      · rw [List.rdropWhile_concat_pos _ _ _ rfl]
        exact ih (right rest dropped)
      · rw [List.rdropWhile_concat_neg _ _ _ (by simpa using differs)]
        exact dropped

theorem components_stripSlashes (path : Text) :
    components (stripSlashes path) = components path := by
  apply strip_induction
    (motive := fun text => components text = components path)
  · intro rest same
    rw [← same, components_slash_cons]
  · intro rest same
    rw [← same, components_concat_slash]
  · rfl

theorem NoEmptyInner.stripSlashes {path : Text} (inner : NoEmptyInner path) :
    NoEmptyInner (stripSlashes path) :=
  strip_induction (fun _ => NoEmptyInner.of_slash_cons)
    (fun _ => NoEmptyInner.of_concat_slash) inner

theorem head_stripSlashes (path rest : Text) :
    stripSlashes path ≠ '/' :: rest := by
  intro starts
  obtain ⟨tail, whole⟩ : stripSlashes path <+: path.dropWhile (· == '/') :=
    List.rdropWhile_prefix _ _
  have first := List.head?_dropWhile_not (· == '/') path
  rw [← whole, starts] at first
  simp at first

theorem last_stripSlashes (path rest : Text) :
    stripSlashes path ≠ rest ++ ['/'] := by
  intro ends
  have nonempty : stripSlashes path ≠ [] := by simp [ends]
  have last := List.rdropWhile_last_not (· == '/')
    (path.dropWhile (· == '/')) nonempty
  apply last
  have same : (path.dropWhile (· == '/')).rdropWhile (· == '/') =
      rest ++ ['/'] := ends
  simp [same]

theorem slash_not_mem_of_mem_splitOn {path name : Text}
    (member : name ∈ path.splitOn '/') : '/' ∉ name := by
  induction path generalizing name with
  | nil =>
      rw [List.mem_singleton.mp member]
      exact List.not_mem_nil
  | cons char rest ih =>
      rw [List.splitOn_cons_eq_if_modifyHead] at member
      split at member
      · rcases List.mem_cons.mp member with rfl | later
        · exact List.not_mem_nil
        · exact ih later
      next differ =>
        obtain ⟨first, others, parts⟩ :=
          List.exists_cons_of_ne_nil (List.splitOn_ne_nil '/' rest)
        rw [parts] at ih member
        rcases List.mem_cons.mp member with rfl | later
        · intro slash
          rcases List.mem_cons.mp slash with same | inside
          · simp [← same] at differ
          · exact ih List.mem_cons_self inside
        · exact ih (List.mem_cons_of_mem _ later)

theorem slashed_eq_intercalate {names : List Text} (some : names ≠ []) :
    slashed names = ['/'].intercalate names ++ ['/'] := by
  induction names with
  | nil => exact absurd rfl some
  | cons name rest ih =>
      cases rest with
      | nil => simp
      | cons next rest =>
          rw [slashed_cons, ih (List.cons_ne_nil _ _)]
          simp [List.intercalate]

/-- Nothing but names is left between the slashes of a stripped path. -/
theorem names_splitOn {path : Text} (inner : NoEmptyInner path)
    (nonempty : path ≠ []) (starts : ∀ rest, path ≠ '/' :: rest)
    (ends : ∀ rest, path ≠ rest ++ ['/']) : Names (path.splitOn '/') := by
  have whole : ['/'].intercalate (path.splitOn '/') = path :=
    List.intercalate_splitOn '/'
  have noHead : ∀ later, path.splitOn '/' ≠ [] :: later := by
    intro later split
    rw [split] at whole
    cases later with
    | nil => exact nonempty whole.symm
    | cons next later => exact starts _ whole.symm
  have noLast : ∀ before, path.splitOn '/' ≠ before ++ [[]] := by
    intro before split
    rw [split] at whole
    have some : before ++ [[]] ≠ ([] : List Text) := by simp
    have same := slashed_eq_intercalate some
    rw [whole, slashed_append] at same
    have same : slashed before = path :=
      (List.append_inj' same rfl).1
    rcases List.eq_nil_or_concat before with rfl | ⟨before, last, rfl⟩
    · exact nonempty same.symm
    · apply ends (slashed before ++ last)
      rw [← same]
      simp [slashed]
  intro name member
  constructor
  · intro empty
    rw [empty] at member
    obtain ⟨before, later, split⟩ := List.append_of_mem member
    rcases inner before later split with allEmpty | allEmpty
    · cases before with
      | nil => exact noHead later split
      | cons first before =>
          rw [allEmpty first List.mem_cons_self] at split
          exact noHead _ split
    · rcases List.eq_nil_or_concat later with rfl | ⟨later, last, rfl⟩
      · exact noLast before split
      · rw [List.concat_eq_append] at allEmpty split
        rw [allEmpty last (List.mem_append_right _
          (List.mem_singleton_self _))] at split
        apply noLast (before ++ [] :: later)
        rw [split, List.append_assoc]
        rfl
  · exact slash_not_mem_of_mem_splitOn member

theorem normalizePrefix_eq {path : Text} (inner : NoEmptyInner path) :
    normalizePrefix path = rooted (components path) := by
  rw [← components_stripSlashes]
  change (if '/' :: stripSlashes path = ['/'] then '/' :: stripSlashes path
    else '/' :: stripSlashes path ++ ['/']) = _
  by_cases nothing : stripSlashes path = []
  · rw [nothing]
    rfl
  · have names := names_splitOn inner.stripSlashes nothing
      (head_stripSlashes path) (last_stripSlashes path)
    rw [if_neg (by simpa using nothing), components, filter_names names,
      rooted, slashed_eq_intercalate (List.splitOn_ne_nil _ _),
      List.intercalate_splitOn]
    rfl

theorem noEmptyInner_rooted {names : List Text} (valid : Names names) :
    NoEmptyInner (rooted names) := by
  intro before later split
  rw [rooted, splitOn_slash_cons, splitOn_slashed valid] at split
  cases before with
  | nil => exact .inl fun name member => absurd member List.not_mem_nil
  | cons first before =>
      have split : names ++ [[]] = before ++ [] :: later :=
        (List.cons.inj split).2
      rcases List.eq_nil_or_concat later with rfl | ⟨later, last, rfl⟩
      · exact .inr fun name member => absurd member List.not_mem_nil
      · rw [List.concat_eq_append, ← List.cons_append, ← List.append_assoc]
          at split
        have inside : names = before ++ [] :: later :=
          (List.append_inj' split rfl).1
        have member : [] ∈ names := by
          rw [inside]
          exact List.mem_append_right _ List.mem_cons_self
        exact absurd rfl (valid [] member).1

theorem normalizePrefix_rooted {names : List Text} (valid : Names names) :
    normalizePrefix (rooted names) = rooted names := by
  rw [normalizePrefix_eq (noEmptyInner_rooted valid), components_rooted valid]

theorem names_components (path : Text) : Names (components path) := by
  intro name member
  obtain ⟨part, nonempty⟩ := List.mem_filter.mp member
  exact ⟨of_decide_eq_true nonempty, slash_not_mem_of_mem_splitOn part⟩

/-- No slash at either end. -/
def Stripped (text : Text) : Prop :=
  (∀ rest, text ≠ '/' :: rest) ∧ ∀ rest, text ≠ rest ++ ['/']

def enclosed (text : Text) : Text :=
  '/' :: if text = [] then [] else text ++ ['/']

theorem normalizePrefix_eq_enclosed (path : Text) :
    normalizePrefix path = enclosed (stripSlashes path) := by
  change (if '/' :: stripSlashes path = ['/'] then '/' :: stripSlashes path
    else '/' :: stripSlashes path ++ ['/']) = _
  unfold enclosed
  by_cases nothing : stripSlashes path = []
  · simp [nothing]
  · simp [nothing]

theorem stripped_stripSlashes (path : Text) : Stripped (stripSlashes path) :=
  ⟨head_stripSlashes path, last_stripSlashes path⟩

theorem stripSlashes_enclosed {text : Text} (stripped : Stripped text) :
    stripSlashes (enclosed text) = text := by
  obtain ⟨head, last⟩ := stripped
  unfold enclosed stripSlashes
  rw [List.dropWhile_cons_of_pos (by rfl)]
  cases text with
  | nil => rfl
  | cons char rest =>
      have starts : ¬ char = '/' := by
        intro slash
        exact head rest (by rw [slash])
      rw [if_neg (by simp), List.cons_append,
        List.dropWhile_cons_of_neg (by simpa using starts), ← List.cons_append,
        List.rdropWhile_concat_pos _ _ _ rfl, List.rdropWhile_eq_self_iff]
      intro nonempty slash
      apply last (List.dropLast (char :: rest))
      rw [beq_iff_eq] at slash
      rw [← slash, List.dropLast_append_getLast]

/-- The paths that `normalize_prefix` leaves alone. -/
theorem normalizePrefix_enclosed {text : Text} (stripped : Stripped text) :
    normalizePrefix (enclosed text) = enclosed text := by
  rw [normalizePrefix_eq_enclosed, stripSlashes_enclosed stripped]

theorem normalizePrefix_idem (path : Text) :
    normalizePrefix (normalizePrefix path) = normalizePrefix path := by
  rw [normalizePrefix_eq_enclosed path]
  exact normalizePrefix_enclosed (stripped_stripSlashes path)

theorem normalizePrefix_child {path name : Text}
    (normalized : normalizePrefix path = path) (nonempty : name ≠ [])
    (noSlash : '/' ∉ name) :
    normalizePrefix (path ++ name ++ ['/']) = path ++ name ++ ['/'] := by
  obtain ⟨head, last⟩ := stripped_stripSlashes path
  rw [normalizePrefix_eq_enclosed] at normalized
  generalize stripSlashes path = text at head last normalized
  have inName : ∀ rest, name ≠ '/' :: rest ∧ name ≠ rest ++ ['/'] := by
    intro rest
    constructor
    · intro same
      exact noSlash (by simp [same])
    · intro same
      exact noSlash (by simp [same])
  by_cases nothing : text = []
  · have whole : path ++ name ++ ['/'] = enclosed name := by
      rw [← normalized, enclosed, enclosed, if_pos nothing, if_neg nonempty]
      rfl
    rw [whole]
    exact normalizePrefix_enclosed
      ⟨fun rest => (inName rest).1, fun rest => (inName rest).2⟩
  · have whole : path ++ name ++ ['/'] = enclosed (text ++ '/' :: name) := by
      rw [← normalized, enclosed, enclosed, if_neg nothing, if_neg (by simp)]
      simp
    rw [whole]
    apply normalizePrefix_enclosed
    constructor
    · intro rest same
      cases text with
      | nil => exact nothing rfl
      | cons char tail =>
          rw [List.cons_append, List.cons.injEq] at same
          exact head tail (by rw [same.1])
    · intro rest same
      rw [← List.dropLast_append_getLast nonempty, ← List.cons_append,
        ← List.append_assoc] at same
      have slash := List.append_inj_right' same rfl
      apply noSlash
      rw [List.cons.injEq] at slash
      rw [← slash.1]
      exact List.getLast_mem nonempty

end Catwalk
