import MethodMacros.Proofs.Naming.CamelCase

/-!
# Plain names

Java and C agree on which names are identifiers, as far as names of plain characters go: letters and
digits of the Latin alphabet, underscores and, for C by custom, dollar signs, with no digit in
front.  What is made of plain names is plain again.  The stem of a plain name is one, since upper
case takes each plain character to a single one and makes no digit of anything else
(`isPlainName_macroStem`); and a class name of plain parts gives a guard token of plain characters,
since the dots between the parts become underscores (`isPlainChar_of_mem_guardToken`).

There are fewer than 128 plain characters, so what holds of each of them is checked on their codes
(`forall_isPlainChar`).
-/

namespace MethodMacros.Naming

open Text

/-- A character that may stand in a plain name. -/
def isPlainChar (c : Char) : Bool :=
  c.isAlphanum || c == '_' || c == '$'

/-- A name of plain characters that does not begin with a digit. -/
structure IsPlainName (name : String) : Prop where
  plain : ∀ c ∈ name.toList, isPlainChar c
  head : name.toList.head?.any fun c => !c.isDigit

instance (name : String) : Decidable (IsPlainName name) :=
  decidable_of_iff
    (name.toList.all isPlainChar ∧ name.toList.head?.any fun c => !c.isDigit)
    ⟨fun h => ⟨List.all_eq_true.mp h.1, h.2⟩, fun h => ⟨List.all_eq_true.mpr h.plain, h.head⟩⟩

/-- A class name with its packages: plain names with dots between them. -/
def IsPlainClass (className : String) : Prop :=
  ∃ parts, parts ≠ [] ∧ (∀ part ∈ parts, IsPlainName part) ∧ className = ".".intercalate parts

/-! ## Plain characters -/

theorem toNat_lt_of_isPlainChar {c : Char} (hc : isPlainChar c) : c.toNat < 128 := by
  simp only [isPlainChar, Bool.or_eq_true, beq_iff_eq] at hc
  rcases hc with (halphanum | rfl) | rfl
  · exact toNat_lt_of_isAlphanum halphanum
  · decide
  · decide

/-- What the first 128 characters have, plain characters have. -/
theorem forall_isPlainChar {p : Char → Prop} (h : ∀ n < 128, p (Char.ofNat n)) {c : Char}
    (hc : isPlainChar c) : p c := by
  have hcode := h c.toNat (toNat_lt_of_isPlainChar hc)
  rwa [Char.ofNat_toNat] at hcode

section PlainCharacters

variable {c : Char} (hc : isPlainChar c)
include hc

theorem upper_of_isPlainChar : upper c = [c.toUpper] :=
  forall_isPlainChar (p := fun c => upper c = [c.toUpper]) (by decide +kernel) hc

theorem isPlainChar_toUpper : isPlainChar c.toUpper :=
  forall_isPlainChar (p := fun c => isPlainChar c → isPlainChar c.toUpper) (by decide +kernel) hc hc

theorem isDigit_toUpper : c.toUpper.isDigit = c.isDigit :=
  forall_isPlainChar (p := fun c => c.toUpper.isDigit = c.isDigit) (by decide +kernel) hc

end PlainCharacters

/-! ## Plain names -/

variable {name ending className : String}

/-- What follows a plain name does not change how it begins. -/
theorem IsPlainName.append (h : IsPlainName name) (hending : ∀ c ∈ ending.toList, isPlainChar c) :
    IsPlainName (name ++ ending) where
  plain c hc := by
    rw [String.toList_append, List.mem_append] at hc
    rcases hc with hc | hc
    · exact h.plain c hc
    · exact hending c hc
  head := by
    have hhead := h.head
    cases hname : name.toList with
    | nil => simp [hname] at hhead
    | cons c rest =>
      rw [hname, List.head?_cons, Option.any_some] at hhead
      rw [String.toList_append, hname, List.cons_append, List.head?_cons, Option.any_some]
      exact hhead

/-- The stem of a plain name is plain. -/
theorem isPlainName_macroStem (h : IsPlainName name) : IsPlainName (macroStem name) where
  plain d hd := by
    rcases mem_macroStem hd with rfl | ⟨c, hc, hd⟩
    · decide
    · have hplain := h.plain c hc
      rw [upper_of_isPlainChar hplain, List.mem_singleton] at hd
      rw [hd]
      exact isPlainChar_toUpper hplain
  head := by
    have hhead := h.head
    rw [macroStem, String.toList_ofList]
    cases hname : name.toList with
    | nil => simp [hname] at hhead
    | cons c rest =>
      have hplain : isPlainChar c := h.plain c (by rw [hname]; exact List.mem_cons_self)
      rw [hname, List.head?_cons, Option.any_some] at hhead
      have hstem : stemFrom false (c :: rest) =
          c.toUpper :: stemFrom (stillAfterLower false c) rest := by
        rw [stemFrom, Bool.and_false, if_neg Bool.false_ne_true, upper_of_isPlainChar hplain,
          List.singleton_append]
      rw [hstem, List.head?_cons, Option.any_some, isDigit_toUpper hplain]
      exact hhead

/-- Names with dots between them have plain characters and dots. -/
theorem isPlainChar_of_mem_intercalate {parts : List String}
    (hparts : ∀ part ∈ parts, IsPlainName part) {c : Char}
    (hc : c ∈ (".".intercalate parts).toList) (hdot : c ≠ '.') : isPlainChar c := by
  induction parts with
  | nil => simp at hc
  | cons part rest ih =>
    have hpart : IsPlainName part := hparts part List.mem_cons_self
    cases rest with
    | nil =>
      rw [String.intercalate_singleton] at hc
      exact hpart.plain c hc
    | cons next rest =>
      rw [String.intercalate_cons_cons, String.toList_append, String.toList_append,
        List.mem_append, List.mem_append] at hc
      rcases hc with (hc | hc) | hc
      · exact hpart.plain c hc
      · exact absurd (List.mem_singleton.mp hc) hdot
      · exact ih (fun part hmem => hparts part (List.mem_cons_of_mem _ hmem)) hc

/-- The guard token of a class has plain characters. -/
theorem isPlainChar_of_mem_guardToken (h : IsPlainClass className) {d : Char}
    (hd : d ∈ (guardToken className).toList) : isPlainChar d := by
  obtain ⟨parts, -, hparts, rfl⟩ := h
  rw [guardToken, String.toList_ofList] at hd
  obtain ⟨c, hc, rfl⟩ := List.mem_map.mp hd
  by_cases hdot : c = '.'
  · rw [if_pos hdot]
    decide
  · rw [if_neg hdot]
    exact isPlainChar_of_mem_intercalate hparts hc hdot

end MethodMacros.Naming
