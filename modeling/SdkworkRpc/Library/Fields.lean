import Mathlib.Data.List.Basic

/-! Fields joined by a separator, followed by a marker and one more field: which texts of this
form can be taken apart in one way only. -/
namespace Fields

variable {α : Type*}

/-- The marker's first symbol does not come back in the rest of it. -/
def Marker (marker : List α) : Prop := ∃ first rest, marker = first :: rest ∧ first ∉ rest

theorem Marker.apart {marker text before after : List α} (mark : Marker marker)
    (twice : marker ++ text = before ++ (marker ++ after)) (later : before ≠ []) :
    ∃ between, before = marker ++ between ∧ text = between ++ (marker ++ after) := by
  obtain ⟨first, rest, rfl, once⟩ := mark
  rcases List.append_eq_append_iff.mp twice with ⟨between, left, right⟩ | ⟨overlap, left, right⟩
  · exact ⟨between, left, right⟩
  obtain ⟨head, tail, rfl⟩ := List.exists_cons_of_ne_nil later
  -- The second occurrence would begin inside the first one.
  cases overlap with
  | nil =>
    rw [List.append_nil] at left
    exact ⟨[], by rw [List.append_nil, left], by simpa using right.symm⟩
  | cons symbol overlap =>
    obtain ⟨rfl, -⟩ := List.cons.inj right
    rw [List.cons_append] at left
    obtain ⟨-, inside⟩ := List.cons.inj left
    exact absurd (inside ▸ List.mem_append_right _ List.mem_cons_self) once

section Join

variable (sep : α)

theorem intercalate_cons (field : List α) {fields : List (List α)} (some : fields ≠ []) :
    [sep].intercalate (field :: fields) = field ++ sep :: [sep].intercalate fields := by
  obtain ⟨next, rest, rfl⟩ := List.exists_cons_of_ne_nil some
  rw [List.intercalate_cons_cons, List.append_assoc, List.singleton_append]

theorem intercalate_append_head (start field : List α) (fields : List (List α)) :
    [sep].intercalate ((start ++ field) :: fields) =
      start ++ [sep].intercalate (field :: fields) := by
  cases fields with
  | nil => simp only [List.intercalate_singleton]
  | cons next rest =>
    rw [intercalate_cons sep _ (List.cons_ne_nil next rest),
      intercalate_cons sep _ (List.cons_ne_nil next rest), List.append_assoc]

theorem append_cons_ne (start rest : List α) : start ≠ start ++ sep :: rest := by
  intro same
  have lengths := congrArg List.length same
  simp only [List.length_append, List.length_cons] at lengths
  omega

theorem Marker.ne_append {marker : List α} (mark : Marker marker) (start rest : List α) :
    start ≠ start ++ (marker ++ rest) := by
  obtain ⟨first, others, rfl, -⟩ := mark
  exact append_cons_ne first start (others ++ rest)

theorem intercalate_append_last (init : List (List α)) (last ending : List α) :
    [sep].intercalate (init ++ [last ++ ending]) =
      [sep].intercalate (init ++ [last]) ++ ending := by
  induction init with
  | nil => simp only [List.nil_append, List.intercalate_singleton]
  | cons field init ih =>
    rw [List.cons_append, List.cons_append, intercalate_cons sep field (by simp),
      intercalate_cons sep field (by simp), ih, List.append_assoc, List.cons_append]

variable {sep}

theorem suffix_last {init : List (List α)} {last before ending : List α} (free : sep ∉ ending)
    (text : [sep].intercalate (init ++ [last]) = before ++ ending) : ending <:+ last := by
  induction init generalizing before with
  | nil => exact ⟨before, by simpa using text.symm⟩
  | cons field init ih =>
    rw [List.cons_append, intercalate_cons sep field (by simp)] at text
    rcases List.append_eq_append_iff.mp text with ⟨more, -, rest⟩ | ⟨more, -, rest⟩
    · cases more with
      | nil =>
        rw [List.nil_append] at rest
        exact absurd (rest ▸ List.mem_cons_self) free
      | cons symbol more => exact ih (List.cons.inj rest).2
    · exact absurd (rest ▸ List.mem_append_right more List.mem_cons_self) free

/-- A separator inside one of at least two fields can also be read as one between fields. -/
theorem intercalate_shift {fields : List (List α)} (two : 2 ≤ fields.length)
    {field : List α} (member : field ∈ fields) (inside : sep ∈ field) :
    ∃ others, others.length = fields.length ∧ others ≠ fields ∧
      [sep].intercalate others = [sep].intercalate fields := by
  induction fields with
  | nil => exact absurd member List.not_mem_nil
  | cons first fields ih =>
    obtain ⟨next, rest, rfl⟩ := List.exists_cons_of_length_pos (Nat.lt_of_succ_lt_succ two)
    obtain ⟨start, ending, rfl⟩ := List.append_of_mem inside
    rcases List.mem_cons.mp member with rfl | later
    · refine ⟨start :: (ending ++ [sep] ++ next) :: rest, rfl, ?_, ?_⟩
      · intro same
        exact append_cons_ne sep start ending (List.cons.inj same).1
      · rw [intercalate_cons sep _ (List.cons_ne_nil _ _), intercalate_append_head,
          intercalate_cons sep _ (List.cons_ne_nil _ _)]
        simp only [List.append_assoc, List.cons_append, List.nil_append]
    cases rest with
    | nil =>
      -- The last field can only give its separator to the one before it.
      cases List.mem_singleton.mp later
      refine ⟨[first ++ sep :: start, ending], rfl, ?_, ?_⟩
      · intro same
        exact append_cons_ne sep first start (List.cons.inj same).1.symm
      · simp only [intercalate_cons sep _ (List.cons_ne_nil _ _), List.intercalate_singleton,
          List.append_assoc, List.cons_append]
    | cons another rest =>
      obtain ⟨others, length, apart, same⟩ := ih (by simp) later
      have some : others ≠ [] := by
        rintro rfl
        cases length
      refine ⟨first :: others, congrArg (· + 1) length, ?_, ?_⟩
      · intro equal
        exact apart (List.cons.inj equal).2
      · rw [intercalate_cons sep _ some, intercalate_cons sep _ (List.cons_ne_nil _ _), same]

variable [DecidableEq α]

section Counts

variable (sep)

/-- A text has a separator between any two fields, and no more exactly if no field has one. -/
theorem count_intercalate {fields : List (List α)} (some : fields ≠ []) :
    fields.length ≤ ([sep].intercalate fields).count sep + 1 ∧
      (([sep].intercalate fields).count sep + 1 = fields.length ↔
        ∀ field ∈ fields, sep ∉ field) := by
  induction fields with
  | nil => exact absurd rfl some
  | cons field fields ih =>
    cases fields with
    | nil => simp [List.count_eq_zero]
    | cons next rest =>
      obtain ⟨least, exactly⟩ := ih (List.cons_ne_nil next rest)
      rw [intercalate_cons sep field (List.cons_ne_nil next rest), List.count_append,
        List.count_cons_self, List.forall_mem_cons, ← exactly, ← List.count_eq_zero,
        List.length_cons]
      omega

end Counts

theorem intercalate_unique {fields others : List (List α)} (some : fields ≠ [])
    (free : ∀ field ∈ fields, sep ∉ field) (length : others.length = fields.length)
    (same : [sep].intercalate others = [sep].intercalate fields) : others = fields := by
  have also : others ≠ [] := by
    rintro rfl
    exact some (List.eq_nil_of_length_eq_zero length.symm)
  have otherwise : ∀ field ∈ others, sep ∉ field := by
    rw [← (count_intercalate sep also).2, same, length]
    exact (count_intercalate sep some).2.mpr free
  calc others = List.splitOn sep ([sep].intercalate others) :=
        (List.splitOn_intercalate sep otherwise also).symm
    _ = List.splitOn sep ([sep].intercalate fields) := congrArg _ same
    _ = fields := List.splitOn_intercalate sep free some

section Marked

variable {init : List (List α)} {last text marker : List α}

theorem marked_unique (mark : Marker marker) (free : ∀ field ∈ init ++ [last], sep ∉ field)
    (unmarked : ¬ marker <:+: last) (after : ¬ marker <:+: text) {fields : List (List α)}
    {rest : List α} (length : fields.length = (init ++ [last]).length)
    (same : [sep].intercalate fields ++ (marker ++ rest) =
      [sep].intercalate (init ++ [last]) ++ (marker ++ text)) :
    fields = init ++ [last] ∧ rest = text := by
  have some : init ++ [last] ≠ [] := by simp
  rcases List.append_eq_append_iff.mp same with ⟨more, path, tail⟩ | ⟨more, path, tail⟩
  · by_cases none : more = []
    · subst none
      rw [List.append_nil] at path
      rw [List.nil_append] at tail
      exact ⟨intercalate_unique some free length path.symm, List.append_cancel_left tail⟩
    -- All separators come before the first marker, so that it would stand in the last field.
    obtain ⟨between, rfl, -⟩ := mark.apart tail none
    have clear : sep ∉ marker ++ between := by
      have also : fields ≠ [] := by
        rintro rfl
        simp at length
      have whole := (count_intercalate sep some).2.mpr free
      have part := (count_intercalate sep also).1
      rw [path, List.count_append] at whole
      rw [← List.count_eq_zero]
      omega
    obtain ⟨before, ends⟩ := suffix_last clear path
    exact absurd ⟨before, between, by rw [List.append_assoc]; exact ends⟩ unmarked
  · by_cases none : more = []
    · subst none
      rw [List.append_nil] at path
      rw [List.nil_append] at tail
      exact ⟨intercalate_unique some free length path, (List.append_cancel_left tail).symm⟩
    obtain ⟨between, -, again⟩ := mark.apart tail none
    exact absurd ⟨between, rest, by rw [List.append_assoc]; exact again.symm⟩ after

/-- The text is taken apart in one way only if and only if no field has the separator in it,
and neither the last of them nor what follows the marker has the marker in it. -/
theorem unique_iff (mark : Marker marker) (several : init ≠ []) :
    (∀ fields rest, fields.length = (init ++ [last]).length →
      [sep].intercalate fields ++ (marker ++ rest) =
        [sep].intercalate (init ++ [last]) ++ (marker ++ text) →
      fields = init ++ [last] ∧ rest = text) ↔
    (∀ field ∈ init ++ [last], sep ∉ field) ∧ ¬ marker <:+: last ∧ ¬ marker <:+: text := by
  constructor
  · intro unique
    refine ⟨?_, ?_, ?_⟩
    · intro field member inside
      have two : 2 ≤ (init ++ [last]).length := by
        have positive := List.length_pos_of_ne_nil several
        simp only [List.length_append, List.length_singleton]
        omega
      obtain ⟨others, length, apart, same⟩ := intercalate_shift two member inside
      exact apart (unique others text length (congrArg (· ++ _) same)).1
    · rintro ⟨before, between, rfl⟩
      have split := unique (init ++ [before]) (between ++ (marker ++ text)) (by simp) (by
        rw [List.append_assoc before, intercalate_append_last]
        simp only [List.append_assoc])
      have fields := List.singleton_inj.mp (List.append_cancel_left split.1)
      rw [List.append_assoc] at fields
      exact mark.ne_append before between fields
    · rintro ⟨between, after, rfl⟩
      have split := unique (init ++ [last ++ (marker ++ between)]) after (by simp) (by
        rw [intercalate_append_last]
        simp only [List.append_assoc])
      have fields := List.singleton_inj.mp (List.append_cancel_left split.1)
      exact mark.ne_append last between fields.symm
  · rintro ⟨free, unmarked, after⟩ fields rest length same
    exact marked_unique mark free unmarked after length same

end Marked

end Join

end Fields
