import ClusterCaps.Text.Scan

set_option autoImplicit false

namespace ClusterCaps.Text

theorem drop_prefix_iff (beginning text : List Char) :
    (dropPrefix? beginning text).isSome = true ↔ beginning <+: text := by
  rw [Option.isSome_iff_exists]
  constructor
  · rintro ⟨rest, dropped⟩
    exact ⟨rest, (eq_append_of_dropPrefix? _ _ _ dropped).symm⟩
  · rintro ⟨rest, whole⟩
    exact ⟨rest, by rw [← whole]; exact dropPrefix?_append _ _⟩

theorem starts_with_iff (beginning text : String) :
    startsWith beginning text = true ↔ beginning.toList <+: text.toList :=
  drop_prefix_iff beginning.toList text.toList

theorem after_iff (piece text : List Char) : (after? piece text).isSome = true ↔ piece <:+: text := by
  induction text with
  | nil =>
      rw [after?, drop_prefix_iff]
      exact ⟨List.IsPrefix.isInfix, fun inside => List.infix_nil.mp inside ▸ List.prefix_rfl⟩
  | cons c rest ih =>
      rw [after?, List.infix_cons_iff, ← drop_prefix_iff, ← ih]
      cases dropPrefix? piece (c :: rest) with
      | none => simp
      | some tail => simp

theorem after_parts (piece text tail : List Char) (found : after? piece text = some tail) :
    ∃ before, text = before ++ piece ++ tail := by
  induction text with
  | nil =>
      rw [after?] at found
      exact ⟨[], eq_append_of_dropPrefix? _ _ _ found⟩
  | cons c rest ih =>
      rw [after?] at found
      cases here : dropPrefix? piece (c :: rest) with
      | some beyond =>
          rw [here] at found
          cases found
          exact ⟨[], eq_append_of_dropPrefix? _ _ _ here⟩
      | none =>
          rw [here] at found
          obtain ⟨before, whole⟩ := ih found
          exact ⟨c :: before, congrArg (c :: ·) whole⟩

theorem up_to_stop (stop : Char) (text rest : List Char) (clean : stop ∉ text) :
    upTo? stop (text ++ stop :: rest) = some text := by
  induction text with
  | nil => exact if_pos rfl
  | cons c text ih =>
      have differs := List.ne_of_not_mem_cons clean
      rw [List.cons_append, upTo?, if_neg (Ne.symm differs), ih (List.not_mem_of_not_mem_cons clean),
        Option.map_some]

theorem stop_unique (stop : Char) (one other rest more : List Char) (clean : stop ∉ one)
    (alsoClean : stop ∉ other) (same : one ++ stop :: rest = other ++ stop :: more) : one = other := by
  have cut := congrArg (upTo? stop) same
  rw [up_to_stop _ _ _ clean, up_to_stop _ _ _ alsoClean] at cut
  exact Option.some.inj cut

theorem up_to_parts (stop : Char) (text found : List Char) (upTo : upTo? stop text = some found) :
    ∃ rest, text = found ++ stop :: rest := by
  induction text generalizing found with
  | nil => cases upTo
  | cons c text ih =>
      rw [upTo?] at upTo
      split at upTo
      · next same =>
          cases same
          cases upTo
          exact ⟨text, rfl⟩
      · obtain ⟨later, below, rfl⟩ := Option.map_eq_some_iff.mp upTo
        obtain ⟨rest, rfl⟩ := ih later below
        exact ⟨rest, rfl⟩

theorem contains_iff (piece text : String) : contains piece text = true ↔ piece.toList <:+: text.toList :=
  after_iff piece.toList text.toList

theorem split_on_first (separator : Char) (text : List Char) :
    (splitOn separator text).head? = some (text.takeWhile (· ≠ separator)) := by
  induction text with
  | nil => rfl
  | cons c rest ih =>
      by_cases stop : c = separator
      · simp [splitOn, stop]
      · rw [splitOn, if_neg stop, List.takeWhile_cons_of_pos (by simpa using stop)]
        cases pieces : splitOn separator rest with
        | nil => exact absurd pieces (splitOn_ne_nil separator rest)
        | cons piece later =>
            rw [pieces] at ih
            simpa using ih

end ClusterCaps.Text
