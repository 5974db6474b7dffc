import MethodMacros.Proofs.Naming.Words
import Mathlib.Data.Set.Function

/-!
# Names that can be read from their stems

A stem does not tell the name that it was made from: doURL and doUrl have the same one.  Among the
names in lower camel case it does.  These start with a small letter, and no capital letter follows
another with only digits between.  So every capital letter looks back on a small one, over the digits
in front of it: the letter that it looks back on is there, since the name starts with one, and it is
no capital letter.  A word begins at each capital letter and nowhere else (`beginsWord_iff_isUpper`),
and the underscores of the stem say which letters were capital.
-/

namespace MethodMacros.Naming

open Text

/-! ## Letters and digits of the Latin alphabet -/

theorem toNat_lt_of_isAlphanum {c : Char} (hc : c.isAlphanum) : c.toNat < 128 := by
  have hlast : ∀ {last : Char}, c.val ≤ last.val → last.toNat < 128 → c.toNat < 128 :=
    fun hle hlt => Nat.lt_of_le_of_lt (UInt32.le_iff_toNat_le.mp hle) hlt
  rcases Bool.or_eq_true_iff.mp hc with hletter | hdigit
  · rcases Bool.or_eq_true_iff.mp hletter with hcapital | hsmall
    · exact @hlast 'Z' (of_decide_eq_true hcapital).2 (by decide)
    · exact @hlast 'z' (of_decide_eq_true (Bool.and_eq_true_iff.mp hsmall).2) (by decide)
  · exact @hlast '9' (of_decide_eq_true (Bool.and_eq_true_iff.mp hdigit).2) (by decide)

/-- What the first 128 characters have, the letters and digits of the Latin alphabet have. -/
theorem forall_isAlphanum {p : Char → Prop} (h : ∀ n < 128, p (Char.ofNat n)) {c : Char}
    (hc : c.isAlphanum) : p c := by
  have hcode := h c.toNat (toNat_lt_of_isAlphanum hc)
  rwa [Char.ofNat_toNat] at hcode

section Alphanumeric

variable {c : Char} (hc : c.isAlphanum)
include hc

theorem isUpper_eq : isUpper c = c.isUpper :=
  forall_isAlphanum (p := fun c => isUpper c = c.isUpper) (by decide +kernel) hc

theorem isDigit_eq : isDigit c = c.isDigit :=
  forall_isAlphanum (p := fun c => isDigit c = c.isDigit) (by decide +kernel) hc

theorem upper_eq : upper c = [c.toUpper] :=
  forall_isAlphanum (p := fun c => upper c = [c.toUpper]) (by decide +kernel) hc

theorem changesInUpper_eq : changesInUpper c = c.isLower := by
  rw [changesInUpper, upper_eq hc]
  exact forall_isAlphanum (p := fun c => ([c.toUpper] != [c]) = c.isLower) (by decide +kernel) hc

theorem toUpper_ne_underscore : c.toUpper ≠ '_' :=
  forall_isAlphanum (p := fun c => c.isAlphanum → c.toUpper ≠ '_') (by decide +kernel) hc hc

theorem not_isLower_of_isUpper (hcapital : c.isUpper) : ¬ c.isLower :=
  forall_isAlphanum (p := fun c => c.isUpper → ¬ c.isLower) (by decide +kernel) hc hcapital

theorem toUpper_of_isUpper (hcapital : c.isUpper) : c.toUpper = c :=
  forall_isAlphanum (p := fun c => c.isUpper → c.toUpper = c) (by decide +kernel) hc hcapital

theorem toLower_toUpper (hcapital : ¬ c.isUpper) : c.toUpper.toLower = c :=
  forall_isAlphanum (p := fun c => ¬ c.isUpper → c.toUpper.toLower = c) (by decide +kernel) hc
    hcapital

end Alphanumeric

/-! ## Lower camel case -/

/-- A name in lower camel case: letters and digits, of which the first is a small letter, and no
capital letter follows another one with only digits between. -/
structure IsLowerCamel (name : List Char) : Prop where
  alphanumeric : ∀ c ∈ name, c.isAlphanum
  startsSmall : name.head?.any Char.isLower
  apart : ∀ i < name.length, name[i]?.any Char.isUpper →
    ¬ LooksBackOn Char.isUpper Char.isDigit name i

instance (name : List Char) : Decidable (IsLowerCamel name) :=
  decidable_of_iff
    (name.all Char.isAlphanum ∧ name.head?.any Char.isLower ∧
      ∀ i < name.length, name[i]?.any Char.isUpper →
        ¬ LooksBackOn Char.isUpper Char.isDigit name i)
    ⟨fun h => ⟨List.all_eq_true.mp h.1, h.2.1, h.2.2⟩,
      fun h => ⟨List.all_eq_true.mpr h.alphanumeric, h.startsSmall, h.apart⟩⟩

/-- What a position looks back on depends on the characters of the name only. -/
theorem looksBackOn_congr {p p' between between' : Char → Bool} {name : List Char}
    (hp : ∀ c ∈ name, p c = p' c) (hbetween : ∀ c ∈ name, between c = between' c) (i : Nat) :
    LooksBackOn p between name i ↔ LooksBackOn p' between' name i := by
  have hany : ∀ {q q' : Char → Bool}, (∀ c ∈ name, q c = q' c) →
      ∀ k : Nat, name[k]?.any q = name[k]?.any q' := by
    intro q q' h k
    cases hc : name[k]? with
    | none => rfl
    | some c => exact h c (List.mem_of_getElem? hc)
  simp only [LooksBackOn, hany hp, hany hbetween]

/-- After a small letter and letters and digits, each position looks back on a small letter or on a
capital letter. -/
theorem looksBackOn_or {name : List Char} (halphanum : ∀ c ∈ name, c.isAlphanum)
    (hstart : name.head?.any Char.isLower) {i : Nat} (hi : i < name.length) :
    LooksBackOn Char.isLower Char.isDigit name (i + 1) ∨
      LooksBackOn Char.isUpper Char.isDigit name (i + 1) := by
  induction i with
  | zero =>
    have hc := List.getElem?_eq_getElem hi
    rw [List.head?_eq_getElem?, hc, Option.any_some] at hstart
    exact .inl ((looksBackOn_succ hc).mpr (.inl hstart))
  | succ i ih =>
    have hc := List.getElem?_eq_getElem hi
    rw [looksBackOn_succ hc, looksBackOn_succ hc]
    rcases Bool.or_eq_true_iff.mp (halphanum _ (List.getElem_mem hi)) with hletter | hdigit
    · rcases Bool.or_eq_true_iff.mp hletter with hcapital | hsmall
      · exact .inr (.inl hcapital)
      · exact .inl (.inl hsmall)
    · exact (ih (by omega)).imp (fun h => .inr ⟨hdigit, h⟩) fun h => .inr ⟨hdigit, h⟩

/-- In a name in lower camel case a word begins exactly at each capital letter. -/
theorem beginsWord_iff_isUpper {name : List Char} (h : IsLowerCamel name) {i : Nat} {c : Char}
    (hc : name[i]? = some c) : BeginsWord name i ↔ c.isUpper := by
  obtain ⟨hi, -⟩ := List.getElem?_eq_some_iff.mp hc
  have halphanum : c.isAlphanum := h.alphanumeric c (List.mem_of_getElem? hc)
  rw [BeginsWord, hc, Option.any_some, isUpper_eq halphanum,
    looksBackOn_congr (fun c hc => changesInUpper_eq (h.alphanumeric c hc))
      (fun c hc => isDigit_eq (h.alphanumeric c hc)) i]
  refine ⟨And.left, fun hcapital => ⟨hcapital, ?_⟩⟩
  have hapart := h.apart i hi (by rwa [hc, Option.any_some])
  cases i with
  | zero =>
    have hstart := h.startsSmall
    rw [List.head?_eq_getElem?, hc, Option.any_some] at hstart
    exact absurd hstart (not_isLower_of_isUpper halphanum hcapital)
  | succ i => exact (looksBackOn_or h.alphanumeric h.startsSmall (by omega)).resolve_right hapart

/-- What a stem has for a character of a name in lower camel case. -/
def marked (c : Char) : List Char :=
  if c.isUpper then ['_', c] else [c.toUpper]

/-- The stem of a name in lower camel case marks each capital letter. -/
theorem toList_macroStem_of_isLowerCamel {name : String} (h : IsLowerCamel name.toList) :
    (macroStem name).toList = name.toList.flatMap marked := by
  have hplace : ∀ place ∈ name.toList.zipIdx,
      wordMark name.toList place.2 ++ upper place.1 = marked place.1 := by
    intro place hmem
    obtain ⟨c, i⟩ := place
    have hc : name.toList[i]? = some c := List.mem_zipIdx_iff_getElem?.mp hmem
    have halphanum : c.isAlphanum := h.alphanumeric c (List.mem_of_getElem? hc)
    rw [upper_eq halphanum]
    by_cases hcapital : c.isUpper
    · have hbegins := (beginsWord_iff_isUpper h hc).mpr hcapital
      rw [wordMark, if_pos hbegins, marked, if_pos hcapital,
        toUpper_of_isUpper halphanum hcapital]
      rfl
    · have hwithin := mt (beginsWord_iff_isUpper h hc).mp hcapital
      rw [wordMark, if_neg hwithin, marked, if_neg hcapital, List.nil_append]
  calc (macroStem name).toList
      = name.toList.zipIdx.flatMap fun place => marked place.1 := by
        rw [toList_macroStem]
        exact List.flatMap_congr hplace
    _ = (name.toList.zipIdx.map Prod.fst).flatMap marked := (List.flatMap_map ..).symm
    _ = name.toList.flatMap marked := by rw [List.zipIdx_map_fst]

/-! ## Reading a stem -/

/-- The name that a stem stands for, from a place on: letters are made small, but for those after an
underscore, and underscores are dropped.  The flag says whether an underscore stands in front. -/
def camelFrom : Bool → List Char → List Char
  | _, [] => []
  | afterMark, c :: rest =>
      if c = '_' then camelFrom true rest
      else (if afterMark then c else c.toLower) :: camelFrom false rest

/-- The name in lower camel case that a stem stands for. -/
def camelName (stem : String) : String :=
  String.ofList (camelFrom false stem.toList)

/-- A marked name is read back letter by letter. -/
theorem camelFrom_flatMap_marked {name : List Char} (h : ∀ c ∈ name, c.isAlphanum) :
    camelFrom false (name.flatMap marked) = name := by
  induction name with
  | nil => rfl
  | cons c name ih =>
    have hc : c.isAlphanum := h c List.mem_cons_self
    have hrest := ih fun d hd => h d (List.mem_cons_of_mem c hd)
    rw [List.flatMap_cons, marked]
    by_cases hcapital : c.isUpper
    · have hne : c ≠ '_' := by
        rintro rfl
        exact absurd hc (by decide)
      rw [if_pos hcapital]
      simp only [List.cons_append, List.nil_append, camelFrom, if_pos, if_neg hne, hrest]
    · have hne : c.toUpper ≠ '_' := toUpper_ne_underscore hc
      rw [if_neg hcapital, List.cons_append, List.nil_append, camelFrom, if_neg hne, hrest,
        toLower_toUpper hc hcapital]
      rfl

/-- **Names from stems.**  Names in lower camel case are read from their stems, so distinct ones
have distinct stems. -/
theorem macroStem_injOn :
    Set.LeftInvOn camelName macroStem {name | IsLowerCamel name.toList} ∧
      Set.InjOn macroStem {name | IsLowerCamel name.toList} := by
  have hread : Set.LeftInvOn camelName macroStem {name | IsLowerCamel name.toList} := by
    intro name hname
    rw [camelName, toList_macroStem_of_isLowerCamel hname,
      camelFrom_flatMap_marked hname.alphanumeric, String.ofList_toList]
  exact ⟨hread, hread.injOn⟩

/-- A name with digits in front of a capital letter. -/
theorem macroStem_injOn_value2X :
    IsLowerCamel "value2X".toList ∧ IsLowerCamel "value2x".toList ∧
      camelName (macroStem "value2X") = "value2X" ∧
      (macroStem "value2X" = macroStem "value2x" → "value2X" = "value2x") := by
  have hcapital : IsLowerCamel "value2X".toList := by decide
  have hsmall : IsLowerCamel "value2x".toList := by decide
  exact ⟨hcapital, hsmall, macroStem_injOn.1 hcapital, macroStem_injOn.2 hcapital hsmall⟩

/-- With capital letters next to each other, names cannot be told apart. -/
example : macroStem "doURL" = macroStem "doUrl" := by decide +kernel

end MethodMacros.Naming
