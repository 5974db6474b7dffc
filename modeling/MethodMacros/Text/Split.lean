/-!
# Cutting texts

A text is cut at each occurrence of a character.  There is one part more than there are cuts, so
parts can be empty.  Joined by the character again the parts give the text, and none of them holds
it.
-/

namespace MethodMacros.Text

/-- Cuts a text at a character; `part` holds the start of the current part in reverse. -/
def splitFrom (sep : Char) (part : List Char) : List Char → List (List Char)
  | [] => [part.reverse]
  | c :: rest =>
      if c = sep then part.reverse :: splitFrom sep [] rest
      else splitFrom sep (c :: part) rest

/-- Cuts a text at each occurrence of a character. -/
def splitAt (sep : Char) (s : List Char) : List (List Char) :=
  splitFrom sep [] s

/-- There is at least one part. -/
theorem splitFrom_ne_nil (sep : Char) (part s : List Char) : splitFrom sep part s ≠ [] := by
  induction s generalizing part with
  | nil => simp [splitFrom]
  | cons c rest ih =>
      rw [splitFrom]
      split
      · simp
      · exact ih _

theorem intercalate_cons_of_ne_nil {α : Type} (sep x : List α) {xs : List (List α)} (h : xs ≠ []) :
    sep.intercalate (x :: xs) = x ++ sep ++ sep.intercalate xs := by
  cases xs with
  | nil => exact absurd rfl h
  | cons y ys => simp [List.intercalate]

/-- Joined again, the parts give the text. -/
theorem intercalate_splitFrom (sep : Char) (part s : List Char) :
    [sep].intercalate (splitFrom sep part s) = part.reverse ++ s := by
  induction s generalizing part with
  | nil => simp [splitFrom, List.intercalate]
  | cons c rest ih =>
      rw [splitFrom]
      split
      · next h =>
          rw [intercalate_cons_of_ne_nil _ _ (splitFrom_ne_nil _ _ _), ih]
          simp [h]
      · rw [ih]
        simp

/-- Cutting a text and joining the parts gives the text. -/
theorem intercalate_splitAt (sep : Char) (s : List Char) :
    [sep].intercalate (splitAt sep s) = s := by
  rw [splitAt, intercalate_splitFrom]
  simp

/-- No part holds the character. -/
theorem not_mem_of_mem_splitFrom {sep : Char} {part s p : List Char} (h : sep ∉ part)
    (hp : p ∈ splitFrom sep part s) : sep ∉ p := by
  induction s generalizing part with
  | nil =>
      simp only [splitFrom, List.mem_singleton] at hp
      simpa [hp] using h
  | cons c rest ih =>
      rw [splitFrom] at hp
      split at hp
      · next hc =>
          rcases List.mem_cons.1 hp with hp | hp
          · simpa [hp] using h
          · exact ih (by simp) hp
      · next hc => exact ih (by simp [h, Ne.symm hc]) hp

/-- A part has no other characters than the text. -/
theorem mem_of_mem_splitFrom {sep c : Char} {part s p : List Char}
    (hp : p ∈ splitFrom sep part s) (hc : c ∈ p) : c ∈ part ∨ c ∈ s := by
  induction s generalizing part with
  | nil =>
      simp only [splitFrom, List.mem_singleton] at hp
      exact .inl (by simpa [hp] using hc)
  | cons d rest ih =>
      rw [splitFrom] at hp
      split at hp
      · rcases List.mem_cons.1 hp with hp | hp
        · exact .inl (by simpa [hp] using hc)
        · have hrest := (ih hp).resolve_left List.not_mem_nil
          exact .inr (List.mem_cons_of_mem d hrest)
      · rcases ih hp with hpart | hrest
        · rcases List.mem_cons.1 hpart with rfl | hpart
          · exact .inr List.mem_cons_self
          · exact .inl hpart
        · exact .inr (List.mem_cons_of_mem d hrest)

theorem mem_of_mem_splitAt {sep c : Char} {s p : List Char} (hp : p ∈ splitAt sep s)
    (hc : c ∈ p) : c ∈ s :=
  (mem_of_mem_splitFrom hp hc).resolve_left List.not_mem_nil

/-- The first part begins with what was read before. -/
theorem exists_splitFrom_eq (sep : Char) (part s : List Char) :
    ∃ more parts, splitFrom sep part s = (part.reverse ++ more) :: parts := by
  induction s generalizing part with
  | nil => exact ⟨[], [], by simp [splitFrom]⟩
  | cons c rest ih =>
      rw [splitFrom]
      split
      · exact ⟨[], splitFrom sep [] rest, by simp⟩
      · obtain ⟨more, parts, hparts⟩ := ih (c :: part)
        exact ⟨c :: more, parts, by rw [hparts]; simp⟩

/-- What does not hold the character is taken over up to the next cut. -/
theorem splitFrom_append {sep : Char} {s : List Char} (h : sep ∉ s) (part rest : List Char) :
    splitFrom sep part (s ++ sep :: rest) = (part.reverse ++ s) :: splitAt sep rest := by
  induction s generalizing part with
  | nil => simp [splitFrom, splitAt]
  | cons c s ih =>
      have hc : c ≠ sep := fun he => h (he ▸ List.mem_cons_self)
      rw [List.cons_append, splitFrom, if_neg hc, ih fun hs => h (List.mem_cons_of_mem c hs)]
      simp

/-- Parts that are each ended by the character are cut apart again, and so is what follows them. -/
theorem splitAt_flatMap_append {sep : Char} {parts : List (List Char)} (h : ∀ s ∈ parts, sep ∉ s)
    (rest : List Char) :
    splitAt sep (parts.flatMap (· ++ [sep]) ++ rest) = parts ++ splitAt sep rest := by
  induction parts with
  | nil => rfl
  | cons s parts ih =>
      rw [List.flatMap_cons, List.append_assoc, List.append_assoc, List.singleton_append, splitAt,
        splitFrom_append (h s List.mem_cons_self), ih fun t ht => h t (List.mem_cons_of_mem s ht)]
      rfl

/-- There is nothing after the last of them. -/
theorem splitAt_flatMap {sep : Char} {parts : List (List Char)} (h : ∀ s ∈ parts, sep ∉ s) :
    splitAt sep (parts.flatMap (· ++ [sep])) = parts ++ [[]] := by
  rw [← List.append_nil (parts.flatMap _), splitAt_flatMap_append h]
  rfl

/-- What stands before a cut and what stands after it are cut on their own. -/
theorem splitFrom_append_cons (sep : Char) (part s rest : List Char) :
    splitFrom sep part (s ++ sep :: rest) = splitFrom sep part s ++ splitAt sep rest := by
  induction s generalizing part with
  | nil => simp [splitFrom, splitAt]
  | cons c s ih =>
      rw [List.cons_append, splitFrom, splitFrom]
      split
      · rw [ih, List.cons_append]
      · rw [ih]

/-- A text without the character is one part. -/
theorem splitFrom_of_not_mem {sep : Char} {s : List Char} (h : sep ∉ s) (part : List Char) :
    splitFrom sep part s = [part.reverse ++ s] := by
  induction s generalizing part with
  | nil => simp [splitFrom]
  | cons c s ih =>
      have hc : c ≠ sep := fun he => h (he ▸ List.mem_cons_self)
      rw [splitFrom, if_neg hc, ih fun hs => h (List.mem_cons_of_mem c hs)]
      simp

/-- Parts that are joined by the character are cut apart again. -/
theorem splitAt_intercalate {sep : Char} {parts : List (List Char)} (h : ∀ s ∈ parts, sep ∉ s)
    (hne : parts ≠ []) : splitAt sep ([sep].intercalate parts) = parts := by
  induction parts with
  | nil => exact absurd rfl hne
  | cons s parts ih =>
      have hs := h s List.mem_cons_self
      by_cases hnil : parts = []
      · subst hnil
        rw [splitAt, List.intercalate_singleton, splitFrom_of_not_mem hs]
        rfl
      · rw [intercalate_cons_of_ne_nil _ _ hnil, List.append_assoc, List.singleton_append, splitAt,
          splitFrom_append hs, ih (fun t ht => h t (List.mem_cons_of_mem s ht)) hnil]
        rfl

/-- There is one part more than there are cuts. -/
theorem length_splitFrom (sep : Char) (part s : List Char) :
    (splitFrom sep part s).length = s.count sep + 1 := by
  induction s generalizing part with
  | nil => rfl
  | cons c rest ih =>
      rw [splitFrom]
      split
      · next h => rw [List.length_cons, ih, h, List.count_cons_self]
      · next h => rw [ih, List.count_cons_of_ne h]

theorem length_splitAt (sep : Char) (s : List Char) : (splitAt sep s).length = s.count sep + 1 :=
  length_splitFrom sep [] s

/-- Parts that are joined by the character are cut into at least as many, and into more if one of
them holds it. -/
theorem length_splitAt_intercalate (sep : Char) {parts : List (List Char)} (hne : parts ≠ []) :
    parts.length ≤ (splitAt sep ([sep].intercalate parts)).length ∧
      ((splitAt sep ([sep].intercalate parts)).length = parts.length →
        ∀ s ∈ parts, sep ∉ s) := by
  induction parts with
  | nil => exact absurd rfl hne
  | cons s parts ih =>
      have hs (hzero : s.count sep = 0) : sep ∉ s := List.count_eq_zero.mp hzero
      by_cases hnil : parts = []
      · subst hnil
        rw [List.intercalate_singleton, length_splitAt]
        exact ⟨by simp, fun h => by simpa using hs (by simpa using h)⟩
      · obtain ⟨hle, hnone⟩ := ih hnil
        rw [length_splitAt] at hle hnone
        rw [intercalate_cons_of_ne_nil _ _ hnil, length_splitAt, List.count_append,
          List.count_append, List.count_singleton_self, List.length_cons]
        refine ⟨by omega, fun h => List.forall_mem_cons.mpr ⟨hs (by omega), hnone (by omega)⟩⟩

end MethodMacros.Text
