import MethodMacros.Proofs.Naming
import Mathlib.Data.List.Basic

/-!
# The words of a name

A stem is made in one pass over a name, with a flag that says whether the next upper-case letter
begins a word.  Which letters begin a word can be told without the pass, by looking back from each of
them: over digits, as many as there are, to a character that upper case changes.  The flag is the
answer to that question (`stemFrom_eq`), so a stem is put together position by position, from an
underscore where a word begins and the upper-case form of the character (`macroStem_eq_marked`).

Upper case settles, so in a stem no character is left that a word could begin after.  Hence a stem is
its own stem; and a name is its own stem exactly when it is its own upper-case form
(`macroStem_settled`).
-/

namespace MethodMacros.Naming

open Text

/-! ## Looking back -/

/-- In front of a position stands a character with a property, and between the two only characters
with another one. -/
def LooksBackOn (p between : Char → Bool) (name : List Char) (i : Nat) : Prop :=
  ∃ j < i, name[j]?.any p ∧ ∀ k < i, j < k → name[k]?.any between

/-- A word begins at a position: an upper-case letter that looks back, over digits, on a character
that upper case changes. -/
def BeginsWord (name : List Char) (i : Nat) : Prop :=
  name[i]?.any isUpper ∧ LooksBackOn changesInUpper isDigit name i

instance (p between : Char → Bool) (name : List Char) (i : Nat) :
    Decidable (LooksBackOn p between name i) :=
  inferInstanceAs (Decidable (∃ j < i, _ ∧ ∀ k < i, _))

instance (name : List Char) (i : Nat) : Decidable (BeginsWord name i) :=
  inferInstanceAs (Decidable (_ ∧ _))

section LookingBack

variable {p between : Char → Bool} {name : List Char}

theorem not_looksBackOn_zero : ¬ LooksBackOn p between name 0 := by
  rintro ⟨j, hj, -⟩
  exact Nat.not_lt_zero j hj

/-- What a position looks back on is the character in front of it, or what that one looks back on
if it may stand between. -/
theorem looksBackOn_succ {i : Nat} {c : Char} (hc : name[i]? = some c) :
    LooksBackOn p between name (i + 1) ↔ p c ∨ (between c ∧ LooksBackOn p between name i) := by
  constructor
  · rintro ⟨j, hj, hp, hbetween⟩
    rcases Nat.lt_succ_iff_lt_or_eq.mp hj with hlt | rfl
    · have hlast := hbetween i (Nat.lt_succ_self i) hlt
      rw [hc, Option.any_some] at hlast
      exact .inr ⟨hlast, j, hlt, hp, fun k hk => hbetween k (Nat.lt_succ_of_lt hk)⟩
    · rw [hc, Option.any_some] at hp
      exact .inl hp
  · rintro (hp | ⟨hlast, j, hj, hp, hbetween⟩)
    · refine ⟨i, Nat.lt_succ_self i, by rwa [hc, Option.any_some], fun k hk hik => ?_⟩
      omega
    · refine ⟨j, Nat.lt_succ_of_lt hj, hp, fun k hk hjk => ?_⟩
      rcases Nat.lt_succ_iff_lt_or_eq.mp hk with hlt | rfl
      · exact hbetween k hlt hjk
      · rwa [hc, Option.any_some]

end LookingBack

/-- The flag of the pass goes on saying what a position looks back on. -/
theorem stillAfterLower_iff {name : List Char} {i : Nat} {c : Char} {afterLower : Bool}
    (hc : name[i]? = some c)
    (hflag : afterLower = true ↔ LooksBackOn changesInUpper isDigit name i) :
    stillAfterLower afterLower c = true ↔ LooksBackOn changesInUpper isDigit name (i + 1) := by
  rw [looksBackOn_succ hc, stillAfterLower, Bool.or_eq_true, Bool.and_eq_true, hflag]

/-! ## Marks -/

/-- What a stem has in front of a character: an underscore where a word begins. -/
def wordMark (name : List Char) (i : Nat) : List Char :=
  if BeginsWord name i then ['_'] else []

/-- The pass from a position on, with the right flag, marks the words from there on. -/
theorem stemFrom_eq {name rest : List Char} {i : Nat} {afterLower : Bool}
    (hrest : name.drop i = rest)
    (hflag : afterLower = true ↔ LooksBackOn changesInUpper isDigit name i) :
    stemFrom afterLower rest =
      (rest.zipIdx i).flatMap fun (c, k) => wordMark name k ++ upper c := by
  induction rest generalizing i afterLower with
  | nil => rfl
  | cons c rest ih =>
    have hc : name[i]? = some c := by
      rw [← List.head?_drop, hrest, List.head?_cons]
    have htail : name.drop (i + 1) = rest := by
      rw [← List.tail_drop, hrest, List.tail_cons]
    have hmark : (if isUpper c && afterLower then '_' :: upper c else upper c) =
        wordMark name i ++ upper c := by
      have hbegins : (isUpper c && afterLower) = true ↔ BeginsWord name i := by
        rw [Bool.and_eq_true, hflag, BeginsWord, hc, Option.any_some]
      by_cases hword : BeginsWord name i
      · rw [if_pos (hbegins.mpr hword), wordMark, if_pos hword, List.singleton_append]
      · rw [if_neg (mt hbegins.mp hword), wordMark, if_neg hword, List.nil_append]
    rw [stemFrom, hmark, ih htail (stillAfterLower_iff hc hflag), List.zipIdx_cons,
      List.flatMap_cons]

/-- A stem is put together position by position. -/
theorem toList_macroStem (name : String) :
    (macroStem name).toList =
      name.toList.zipIdx.flatMap fun (c, i) => wordMark name.toList i ++ upper c := by
  rw [macroStem, String.toList_ofList]
  exact stemFrom_eq (List.drop_zero ..) (by simp [not_looksBackOn_zero])

/-- The underscores are those of the characters and the marks. -/
theorem count_underscore_marked (name : List Char) (places : List (Char × Nat)) :
    (places.flatMap fun (c, i) => wordMark name i ++ upper c).count '_' =
      (places.map Prod.fst).count '_' + (places.map Prod.snd).countP (BeginsWord name ·) := by
  induction places with
  | nil => rfl
  | cons place places ih =>
    obtain ⟨c, i⟩ := place
    have hmark : (wordMark name i).count '_' = if BeginsWord name i then 1 else 0 := by
      unfold wordMark
      split <;> rfl
    simp only [List.flatMap_cons, List.count_append, ih, hmark, count_underscore_upper,
      List.map_cons, List.count_cons, List.countP_cons, beq_iff_eq, decide_eq_true_eq]
    omega

/-- **Words of a name.**  In a stem each character stands in upper case, with an underscore in front
of it if a word begins there.  So besides the underscores of the name there is one for each word
that begins, and no character is lost. -/
theorem macroStem_eq_marked (name : String) :
    (macroStem name).toList =
        (name.toList.zipIdx.flatMap fun (c, i) =>
          (if BeginsWord name.toList i then ['_'] else []) ++ upper c) ∧
      (macroStem name).toList.count '_' =
        name.toList.count '_' +
          (List.range name.toList.length).countP (BeginsWord name.toList ·) ∧
      ∀ c ∈ name.toList, upper c ≠ [] := by
  refine ⟨toList_macroStem name, ?_, fun c _ => upper_ne_nil c⟩
  rw [toList_macroStem, count_underscore_marked, List.zipIdx_map_fst, List.zipIdx_map_snd,
    List.range_eq_range']

example : macroStem "get_Value2X" = "GET_VALUE2_X" := by decide +kernel

/-! ## Stems of stems -/

/-- No character of a stem is changed by upper case. -/
theorem upper_of_mem_macroStem {name : String} {d : Char} (h : d ∈ (macroStem name).toList) :
    upper d = [d] := by
  rcases mem_macroStem h with rfl | ⟨c, -, hd⟩
  · decide
  · exact upper_of_mem_upper hd

/-- A word begins nowhere if upper case changes nothing. -/
theorem stemFrom_of_forall_upper {cs : List Char} (h : ∀ c ∈ cs, upper c = [c]) :
    stemFrom false cs = cs := by
  induction cs with
  | nil => rfl
  | cons c cs ih =>
    have hc : upper c = [c] := h c List.mem_cons_self
    have hflag : stillAfterLower false c = false := by
      simp [stillAfterLower, changesInUpper, hc]
    rw [stemFrom, hflag, ih fun d hd => h d (List.mem_cons_of_mem c hd), Bool.and_false, hc]
    rfl

theorem macroStem_of_forall_upper {name : String} (h : ∀ c ∈ name.toList, upper c = [c]) :
    macroStem name = name := by
  rw [macroStem, stemFrom_of_forall_upper h, String.ofList_toList]

/-- Upper case changes a text exactly if it changes one of its characters. -/
theorem upperText_eq_self_iff {s : String} :
    upperText s = s ↔ ∀ c ∈ s.toList, upper c = [c] := by
  constructor
  · intro h c hc
    rw [← h, upperText, String.toList_ofList] at hc
    obtain ⟨b, -, hb⟩ := List.mem_flatMap.mp hc
    exact upper_of_mem_upper hb
  · intro h
    rw [upperText, List.flatMap_congr h, List.flatMap_singleton', String.ofList_toList]

/-- **Stems settle.**  A stem is its own stem, for upper case changes nothing in it.  The stems are
the names that are their own stems, and these are the names that upper case does not change. -/
theorem macroStem_settled (name : String) :
    macroStem (macroStem name) = macroStem name ∧
      (∀ c ∈ (macroStem name).toList, changesInUpper c = false) ∧
      ((∃ other, macroStem other = name) ↔ macroStem name = name) ∧
      (macroStem name = name ↔ upperText name = name) := by
  have hstem : ∀ other, ∀ c ∈ (macroStem other).toList, upper c = [c] :=
    fun other c hc => upper_of_mem_macroStem hc
  have hsettled : ∀ other, macroStem (macroStem other) = macroStem other :=
    fun other => macroStem_of_forall_upper (hstem other)
  refine ⟨hsettled name, fun c hc => by simp [changesInUpper, hstem name c hc], ⟨?_, ?_⟩, ⟨?_, ?_⟩⟩
  · rintro ⟨other, rfl⟩
    exact hsettled other
  · exact fun h => ⟨name, h⟩
  · intro h
    exact upperText_eq_self_iff.mpr (h ▸ hstem name)
  · intro h
    exact macroStem_of_forall_upper (upperText_eq_self_iff.mp h)

end MethodMacros.Naming
