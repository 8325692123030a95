import Unreferenced.Source.Code

/-! Dropping delimited spans and escapes, step by step. At its first character a text either starts a
span, and then dropping goes on behind it, or it does not, and then the character stays. What is dropped
is always a whole span with its marks. -/

namespace Unreferenced.Text

theorem cutAt_append_self (separator after : List Char) :
    cutAt separator (separator ++ after) = some ([], after) := by
  cases htext : separator ++ after with
  | nil =>
      obtain ⟨rfl, rfl⟩ := List.append_eq_nil_iff.mp htext
      rfl
  | cons c rest =>
      have hstart : separator.isPrefixOf (c :: rest) = true :=
        List.isPrefixOf_iff_prefix.mpr ⟨after, htext⟩
      rw [cutAt, if_pos hstart, ← htext, List.drop_left]

theorem cutAt_cons {separator rest : List Char} {c : Char} (h : ¬ separator <+: c :: rest) :
    cutAt separator (c :: rest) =
      (cutAt separator rest).map fun (before, after) => (c :: before, after) := by
  rw [cutAt, if_neg fun hstart => h (List.isPrefixOf_iff_prefix.mp hstart)]

theorem cutAt_eq_none_iff {separator text : List Char} :
    cutAt separator text = none ↔ ¬ separator <:+: text := by
  induction text with
  | nil => rw [cutAt]; simp
  | cons c rest ih =>
      rw [List.infix_cons_iff, not_or, ← ih]
      by_cases hstart : separator <+: c :: rest
      · obtain ⟨after, hafter⟩ := hstart
        rw [← hafter, cutAt_append_self]
        exact iff_of_false (Option.some_ne_none _) fun h => h.1 (List.prefix_append separator after)
      · rw [cutAt_cons hstart, Option.map_eq_none_iff]
        exact (and_iff_right hstart).symm

/-- A text is cut at a separator if none starts earlier. One that did would end earlier, too, so it would
not need the last character. -/
theorem cutAt_first {separator front back : List Char}
    (h : ¬ separator <:+: front ++ separator.dropLast) :
    cutAt separator (front ++ (separator ++ back)) = some (front, back) := by
  induction front with
  | nil => exact cutAt_append_self separator back
  | cons c front ih =>
      have hpart : c :: (front ++ separator.dropLast) <+: c :: (front ++ (separator ++ back)) := by
        rw [List.cons_prefix_cons, List.prefix_append_right_inj]
        exact ⟨rfl, (List.dropLast_prefix separator).trans (List.prefix_append separator back)⟩
      have hstart : ¬ separator <+: c :: (front ++ (separator ++ back)) := by
        intro hstart
        apply h
        apply (List.prefix_of_prefix_length_le hstart hpart ?_).isInfix
        rw [List.length_cons, List.length_append, List.length_dropLast]
        omega
      have hfront : ¬ separator <:+: front ++ separator.dropLast :=
        fun hfront => h (hfront.trans (List.suffix_cons c _).isInfix)
      rw [List.cons_append, cutAt_cons hstart, ih hfront]
      rfl

/-- A part that starts two texts one after the other starts the first, if none of its characters starts
the second. -/
theorem prefix_of_prefix_append {part front back : List Char} (hback : ∀ c ∈ back.head?, c ∉ part)
    (h : part <+: front ++ back) : part <+: front := by
  rcases List.prefix_or_prefix_of_prefix h (List.prefix_append front back) with hfront | ⟨tail, rfl⟩
  · exact hfront
  · rw [List.prefix_append_right_inj] at h
    cases tail with
    | nil => simp
    | cons c tail =>
        obtain ⟨rest, rfl⟩ := h
        exact absurd (List.mem_append_right front List.mem_cons_self) (hback c rfl)

/-- A text is cut behind its front if the separator does not occur there and none of its characters
comes next. -/
theorem cutAt_append {separator front back : List Char} (hback : ∀ c ∈ back.head?, c ∉ separator)
    (h : ¬ separator <:+: front) :
    cutAt separator (front ++ back) =
      (cutAt separator back).map fun (before, after) => (front ++ before, after) := by
  induction front with
  | nil => simp
  | cons c front ih =>
      have hstart : ¬ separator <+: c :: (front ++ back) := fun hstart =>
        h (prefix_of_prefix_append hback hstart).isInfix
      rw [List.cons_append, cutAt_cons hstart,
        ih fun hfront => h (hfront.trans (List.suffix_cons c front).isInfix), Option.map_map]
      rfl

/-- What is added behind a text does not move the cut. -/
theorem cutAt_append_right {separator text before after : List Char}
    (h : cutAt separator text = some (before, after)) (back : List Char) :
    cutAt separator (text ++ back) = some (before, after ++ back) := by
  induction text generalizing before with
  | nil =>
      obtain ⟨hbefore, hafter⟩ := List.append_eq_nil_iff.mp (eq_of_cutAt h).symm
      obtain ⟨rfl, rfl⟩ := List.append_eq_nil_iff.mp hbefore
      rw [hafter]
      exact cutAt_append_self [] back
  | cons c rest ih =>
      by_cases hstart : separator <+: c :: rest
      · obtain ⟨tail, htail⟩ := hstart
        rw [← htail, cutAt_append_self] at h
        obtain ⟨rfl, rfl⟩ := Prod.mk.inj (Option.some.inj h)
        rw [← htail, List.append_assoc, cutAt_append_self]
      · rw [cutAt_cons hstart] at h
        obtain ⟨⟨front, left⟩, hcut, heq⟩ := Option.map_eq_some_iff.mp h
        obtain ⟨rfl, rfl⟩ := Prod.mk.inj heq
        have hlength : separator.length ≤ (c :: rest).length := by
          rw [eq_of_cutAt hcut]
          simp only [List.length_cons, List.length_append]
          omega
        have hstart' : ¬ separator <+: c :: (rest ++ back) := fun h' =>
          hstart (List.prefix_of_prefix_length_le h' (List.prefix_append (c :: rest) back) hlength)
        rw [List.cons_append, cutAt_cons hstart', ih hcut]
        rfl

end Unreferenced.Text

namespace Unreferenced.Source.Delimiter

variable {d : Delimiter}

/-- At a character in front of a text a span starts: the opening mark is there, and somewhere behind it
a closing one. -/
def Opens (d : Delimiter) (c : Char) (rest : List Char) : Prop :=
  ∃ body, c = d.outer ∧ rest = d.inner :: body ∧ [d.inner, d.outer] <:+: body

/-- Somewhere a span starts. -/
def Encloses (d : Delimiter) : List Char → Prop
  | [] => False
  | c :: rest => d.Opens c rest ∨ d.Encloses rest

@[simp]
theorem dropSpans_nil : d.dropSpans [] = [] := by
  rw [dropSpans, replaceSpans, segments]
  rfl

theorem dropSpans_span {rest inside after : List Char}
    (h : Text.cutAt [d.inner, d.outer] rest = some (inside, after)) :
    d.dropSpans (d.outer :: d.inner :: rest) = d.dropSpans after := by
  rw [dropSpans, replaceSpans, segments, if_pos ⟨rfl, rfl⟩]
  split
  · rename_i _ _ hcut
    obtain ⟨rfl, rfl⟩ := Prod.mk.inj (Option.some.inj (hcut.symm.trans h))
    rfl
  · rename_i hcut
    cases hcut.symm.trans h

theorem dropSpans_char {c : Char} {rest : List Char} (h : ¬ d.Opens c rest) :
    d.dropSpans (c :: rest) = c :: d.dropSpans rest := by
  cases rest with
  | nil =>
      rw [dropSpans_nil, dropSpans, replaceSpans, segments]
      rfl
  | cons next body =>
      rw [dropSpans, replaceSpans, segments]
      split
      · rename_i hopen
        obtain ⟨rfl, rfl⟩ := hopen
        split
        · rename_i hcut
          refine absurd ⟨body, rfl, rfl, ?_⟩ h
          rw [← Decidable.not_not (p := _ <:+: _), ← Text.cutAt_eq_none_iff, hcut]
          exact Option.some_ne_none _
        · rfl
      · rfl

theorem span_induct {motive : List Char → Prop} (nil : motive [])
    (char : ∀ c rest, ¬ d.Opens c rest → motive rest → motive (c :: rest))
    (span : ∀ inside after,
      Text.cutAt [d.inner, d.outer] (inside ++ d.inner :: d.outer :: after) = some (inside, after) →
      motive after → motive (d.outer :: d.inner :: (inside ++ d.inner :: d.outer :: after)))
    (text : List Char) : motive text := by
  induction hlength : text.length using Nat.strongRecOn generalizing text with
  | ind length ih =>
      cases text with
      | nil => exact nil
      | cons c rest =>
          by_cases hopens : d.Opens c rest
          · obtain ⟨body, rfl, rfl, hinfix⟩ := hopens
            have hcut := mt Text.cutAt_eq_none_iff.mp (not_not_intro hinfix)
            obtain ⟨⟨inside, after⟩, hcut⟩ := Option.ne_none_iff_exists'.mp hcut
            have hbody := Text.eq_of_cutAt hcut
            rw [List.append_assoc] at hbody
            subst hbody
            refine span inside after hcut (ih _ ?_ after rfl)
            rw [← hlength]
            simp only [List.length_append, List.length_cons]
            omega
          · exact char c rest hopens (ih _ (by simp [← hlength]) rest rfl)

theorem dropSpans_sublist (text : List Char) : (d.dropSpans text).Sublist text := by
  induction text using d.span_induct with
  | nil => simp
  | char c rest hopens ih =>
      rw [dropSpans_char hopens]
      exact ih.cons_cons c
  | span inside after hcut ih =>
      rw [dropSpans_span hcut]
      have hclose := (ih.cons d.outer).cons d.inner
      exact ((hclose.trans (List.sublist_append_right inside _)).cons d.inner).cons d.outer

end Unreferenced.Source.Delimiter

namespace Unreferenced.Source

theorem withoutEscapes_cons {c : Char} {rest : List Char}
    (h : ¬ (c = '\\' ∧ (['\\'] <+: rest ∨ ['"'] <+: rest))) :
    withoutEscapes (c :: rest) = c :: withoutEscapes rest := by
  cases rest with
  | nil => rfl
  | cons next rest =>
      rw [withoutEscapes, if_neg]
      simpa [List.cons_prefix_cons, eq_comm] using h

theorem withoutEscapes_append {front : List Char} (h : '\\' ∉ front) (back : List Char) :
    withoutEscapes (front ++ back) = front ++ withoutEscapes back := by
  induction front with
  | nil => rfl
  | cons c front ih =>
      rw [List.mem_cons, not_or] at h
      rw [List.cons_append, withoutEscapes_cons fun hescape => h.1 hescape.1.symm, ih h.2]
      rfl

end Unreferenced.Source
