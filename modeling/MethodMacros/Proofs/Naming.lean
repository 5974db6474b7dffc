import MethodMacros.Naming
import MethodMacros.Proofs.Text.UpperCase

/-!
# What stems and guard tokens are made of

A stem has the upper-case forms of the characters of a name, and underscores (`mem_macroStem`).  So
a character that upper case does not make is in a stem only if it is in the name
(`mem_of_mem_macroStem`), and a small letter is in no stem at all (`not_mem_macroStem_of_small`).  A
guard token has the characters of a class name, with underscores for dots (`mem_of_mem_guardToken`).
-/

namespace MethodMacros.Naming

open Text

theorem mem_stemFrom {d : Char} {afterLower : Bool} {cs : List Char}
    (h : d ∈ stemFrom afterLower cs) : d = '_' ∨ ∃ c ∈ cs, d ∈ upper c := by
  induction cs generalizing afterLower with
  | nil => cases h
  | cons c cs ih =>
    rw [stemFrom, List.mem_append] at h
    rcases h with h | h
    · have hupper : d = '_' ∨ d ∈ upper c := by
        split at h
        · exact List.mem_cons.mp h
        · exact .inr h
      exact hupper.imp_right fun hd => ⟨c, List.mem_cons_self, hd⟩
    · rcases ih h with hd | ⟨c', hc', hd⟩
      · exact .inl hd
      · exact .inr ⟨c', List.mem_cons_of_mem _ hc', hd⟩

/-- A stem has underscores and upper-case forms of the characters of the name. -/
theorem mem_macroStem {d : Char} {name : String} (h : d ∈ (macroStem name).toList) :
    d = '_' ∨ ∃ c ∈ name.toList, d ∈ upper c := by
  rw [macroStem, String.toList_ofList] at h
  exact mem_stemFrom h

/-- A character in front of the letters is in a stem only if it is in the name. -/
theorem mem_of_mem_macroStem {d : Char} {name : String} (h : d ∈ (macroStem name).toList)
    (hpos : 0 < d.toNat) (hle : d.toNat ≤ 64) : d ∈ name.toList := by
  rcases mem_macroStem h with rfl | ⟨c, hc, hd⟩
  · exact absurd hle (by decide)
  · rwa [eq_of_mem_upper_of_le hd hpos hle]

/-- A stem has no small letter of the Latin alphabet. -/
theorem not_mem_macroStem_of_small {d : Char} {name : String} (hlo : 97 ≤ d.toNat)
    (hhi : d.toNat ≤ 122) : d ∉ (macroStem name).toList := by
  intro h
  rcases mem_macroStem h with rfl | ⟨c, -, hd⟩
  · exact absurd hlo (by decide)
  · exact not_mem_upper_of_small hlo hhi hd

/-- A character of a guard token that is no underscore is one of the class name. -/
theorem mem_of_mem_guardToken {d : Char} {className : String}
    (h : d ∈ (guardToken className).toList) (hd : d ≠ '_') : d ∈ className.toList := by
  rw [guardToken, String.toList_ofList] at h
  obtain ⟨c, hc, rfl⟩ := List.mem_map.mp h
  split at hd
  · exact absurd rfl hd
  · rename_i hdot
    rwa [if_neg hdot]

end MethodMacros.Naming
