import MethodMacros.Text.UpperCase

/-!
# What upper case gives

The tables of upper-case forms leave out whole intervals of code points: nothing is mapped into
them.  A character of such an interval is in an upper-case form only if it stands for itself there,
and not even then if the tables map it away.  So upper case makes no blank and no line feed out of
anything else (`eq_of_mem_upper_of_le`), and it leaves no small letter of the Latin alphabet
(`not_mem_upper_of_small`).

What the tables do map to, they map no further (`upper_of_mem_upper`).  This is not so for every
table of this kind, and not by the order of the code points either: capital and small letters
alternate in many scripts, and the form of a small letter of one script may lie amid the pairs of
another.  So each run of small letters is held against all others (`upperSettles`).
-/

namespace MethodMacros.Text

/-- What the runs give lies in the image of one of them. -/
theorem exists_run_of_imageInRuns {runs : List (Nat × Nat × Nat × Nat)} {n m : Nat}
    (h : imageInRuns runs n = some m) :
    ∃ first last step image, (first, last, step, image) ∈ runs ∧ image ≤ m ∧
      m ≤ image + (last - first) ∧ (m - image) % step = 0 := by
  induction runs with
  | nil => cases h
  | cons run runs ih =>
    obtain ⟨first, last, step, image⟩ := run
    rw [imageInRuns] at h
    split at h
    · cases h
    · split at h
      · rename_i hlast
        obtain rfl := Option.some.inj h
        refine ⟨first, last, step, image, List.mem_cons_self, by omega, by omega, ?_⟩
        rw [Nat.add_sub_cancel_left]
        exact hlast.2
      · obtain ⟨first, last, step, image, hmem, hm⟩ := ih h
        exact ⟨first, last, step, image, List.mem_cons_of_mem _ hmem, hm⟩

/-- Nothing is mapped into an interval. -/
def upperAvoids (lo hi : Nat) : Bool :=
  upperRuns.all (fun (first, last, _, image) => hi < image || image + (last - first) < lo) &&
    upperExpansions.all fun (_, codes) => codes.all fun m => hi < m || m < lo

/-- What is found under a key is an entry of the list. -/
theorem mem_of_lookup_eq_some {α β : Type} [BEq α] [LawfulBEq α] {l : List (α × β)} {a : α} {b : β}
    (h : l.lookup a = some b) : (a, b) ∈ l := by
  obtain ⟨before, after, rfl, -⟩ := List.lookup_eq_some_iff.mp h
  exact List.mem_append_right _ List.mem_cons_self

/-- A code point of an upper-case form lies in the image of a run or in an expansion, or it is the
code point itself, which the tables do not have. -/
theorem mem_upperCode {n m : Nat} (hm : m ∈ upperCode n) :
    (∃ first last step image, (first, last, step, image) ∈ upperRuns ∧ image ≤ m ∧
        m ≤ image + (last - first) ∧ (m - image) % step = 0) ∨
      (∃ codes, (n, codes) ∈ upperExpansions ∧ m ∈ codes) ∨
      (m = n ∧ imageInRuns upperRuns n = none ∧ upperExpansions.lookup n = none) := by
  unfold upperCode at hm
  cases himage : imageInRuns upperRuns n with
  | some image =>
    rw [himage] at hm
    obtain rfl := List.mem_singleton.mp hm
    exact .inl (exists_run_of_imageInRuns himage)
  | none =>
    rw [himage] at hm
    cases hexpansion : upperExpansions.lookup n with
    | some codes =>
      rw [hexpansion] at hm
      exact .inr (.inl ⟨codes, mem_of_lookup_eq_some hexpansion, hm⟩)
    | none =>
      rw [hexpansion] at hm
      exact .inr (.inr ⟨List.mem_singleton.mp hm, rfl, rfl⟩)

/-- In an interval that nothing is mapped into, only what is not mapped at all comes up. -/
theorem eq_of_mem_upperCode {lo hi n m : Nat} (havoids : upperAvoids lo hi = true)
    (hm : m ∈ upperCode n) (hlo : lo ≤ m) (hhi : m ≤ hi) :
    m = n ∧ imageInRuns upperRuns n = none := by
  obtain ⟨hruns, hexpansions⟩ := Bool.and_eq_true_iff.mp havoids
  rcases mem_upperCode hm with ⟨first, last, step, image, hmem, hle, hge, -⟩ | ⟨codes, hmem, hcode⟩ |
    ⟨hself, hnone, -⟩
  · have hrun := List.all_eq_true.mp hruns _ hmem
    simp only [Bool.or_eq_true, decide_eq_true_eq] at hrun
    omega
  · have hcodes := List.all_eq_true.mp (List.all_eq_true.mp hexpansions _ hmem) m hcode
    simp only [Bool.or_eq_true, decide_eq_true_eq] at hcodes
    omega
  · exact ⟨hself, hnone⟩

/-- The character of a code point has that code point, or there is none. -/
theorem toNat_ofNat (n : Nat) : (Char.ofNat n).toNat = n ∨ Char.ofNat n = '\x00' := by
  by_cases hn : n.isValidChar
  · have hvalid : Char.ofNat n = Char.ofNatAux n hn := dif_pos hn
    exact .inl (hvalid ▸ rfl)
  · exact .inr (dif_neg hn)

theorem eq_of_mem_upper {lo hi : Nat} (havoids : upperAvoids lo hi = true) (hpos : 0 < lo)
    {c d : Char} (hd : d ∈ upper c) (hlo : lo ≤ d.toNat) (hhi : d.toNat ≤ hi) :
    d = c ∧ imageInRuns upperRuns c.toNat = none := by
  obtain ⟨m, hm, rfl⟩ := List.mem_map.mp hd
  rcases toNat_ofNat m with hcode | hnull
  · rw [hcode] at hlo hhi
    obtain ⟨rfl, hnone⟩ := eq_of_mem_upperCode havoids hm hlo hhi
    exact ⟨Char.ofNat_toNat c, hnone⟩
  · rw [hnull] at hlo
    exact absurd hlo (Nat.not_le_of_lt hpos)

/-- Upper case makes none of the characters in front of the letters. -/
theorem eq_of_mem_upper_of_le {c d : Char} (hd : d ∈ upper c) (hpos : 0 < d.toNat)
    (hle : d.toNat ≤ 64) : d = c := by
  have havoids : upperAvoids 1 64 = true := by decide +kernel
  exact (eq_of_mem_upper havoids Nat.one_pos hd hpos hle).1

/-- Upper case leaves no small letter of the Latin alphabet. -/
theorem not_mem_upper_of_small {c d : Char} (hlo : 97 ≤ d.toNat) (hhi : d.toNat ≤ 122) :
    d ∉ upper c := by
  intro hd
  have havoids : upperAvoids 97 122 = true := by decide +kernel
  obtain ⟨rfl, hnone⟩ := eq_of_mem_upper havoids (by decide) hd hlo hhi
  have himage : imageInRuns upperRuns d.toNat = some (65 + (d.toNat - 97)) := by
    rw [upperRuns, imageInRuns, if_neg (by omega), if_pos ⟨hhi, Nat.mod_one _⟩]
  cases hnone.symm.trans himage

/-! ## Upper case of upper case -/

/-- The upper-case form of a text. -/
def upperText (s : String) : String :=
  String.ofList (s.toList.flatMap upper)

/-- A progression from `lo` to `hi` has no member in the runs: it ends in front of a run, starts
behind it, or passes it between the members. -/
def missesRuns (lo hi step : Nat) : List (Nat × Nat × Nat × Nat) → Bool
  | [] => true
  | (first, last, step', _) :: rest =>
      Nat.blt last lo && missesRuns lo hi step rest || Nat.blt hi first ||
        (Nat.beq step' 2 && (Nat.beq step 2 || Nat.beq lo hi) && Nat.beq ((lo + first) % 2) 1) &&
          missesRuns lo hi step rest

theorem imageInRuns_of_missesRuns {runs : List (Nat × Nat × Nat × Nat)} {lo hi step m : Nat}
    (h : missesRuns lo hi step runs = true) (hlo : lo ≤ m) (hhi : m ≤ hi)
    (hstep : (m - lo) % step = 0) : imageInRuns runs m = none := by
  induction runs with
  | nil => rfl
  | cons run runs ih =>
    obtain ⟨first, last, step', image⟩ := run
    simp only [missesRuns, Bool.or_eq_true, Bool.and_eq_true, Nat.blt_eq, Nat.beq_eq] at h
    rw [imageInRuns]
    rcases h with (⟨hbehind, hrest⟩ | hfront) | ⟨⟨⟨rfl, hpoint⟩, hparity⟩, hrest⟩
    · rw [if_neg (show ¬ (m ≤ last ∧ (m - first) % step' = 0) by omega), ih hrest, ite_self]
    · rw [if_pos (by omega)]
    · by_cases hfirst : m < first
      · rw [if_pos hfirst]
      · have hbetween : ¬ (m ≤ last ∧ (m - first) % 2 = 0) := by
          rcases hpoint with rfl | rfl <;> omega
        rw [if_neg hfirst, if_neg hbetween, ih hrest]

/-- Whatever the tables map a code point to, they map no further. -/
def upperSettles : Bool :=
  (upperRuns.all fun (first, last, step, image) =>
      missesRuns image (image + (last - first)) step upperRuns &&
        upperExpansions.all fun (n, _) => Nat.blt (image + (last - first)) n || Nat.blt n image) &&
    upperExpansions.all fun (_, codes) => codes.all fun m => upperCode m == [m]

theorem upperSettles_eq_true : upperSettles = true := by decide +kernel

/-- Each code point of an upper-case form is its own upper-case form. -/
theorem upperCode_of_mem_upperCode {n m : Nat} (hm : m ∈ upperCode n) : upperCode m = [m] := by
  obtain ⟨hruns, hexpansions⟩ := Bool.and_eq_true_iff.mp upperSettles_eq_true
  rcases mem_upperCode hm with ⟨first, last, step, image, hmem, hle, hge, hstep⟩ |
    ⟨codes, hmem, hcode⟩ | ⟨rfl, hnone, hexpansion⟩
  · obtain ⟨hmisses, hkeys⟩ := Bool.and_eq_true_iff.mp (List.all_eq_true.mp hruns _ hmem)
    have hexpansion : upperExpansions.lookup m = none := by
      refine List.lookup_eq_none_iff.mpr fun entry hentry => ?_
      have hkey := List.all_eq_true.mp hkeys entry hentry
      simp only [Bool.or_eq_true, Nat.blt_eq] at hkey
      simp only [bne_iff_ne, ne_eq]
      omega
    rw [upperCode, imageInRuns_of_missesRuns hmisses hle hge hstep, hexpansion, Option.getD_none]
  · simpa using List.all_eq_true.mp (List.all_eq_true.mp hexpansions _ hmem) m hcode
  · rw [upperCode, hnone, hexpansion, Option.getD_none]

/-- **Upper case settles.**  Each character of an upper-case form stands for itself in upper
case. -/
theorem upper_of_mem_upper {c d : Char} (hd : d ∈ upper c) : upper d = [d] := by
  obtain ⟨m, hm, rfl⟩ := List.mem_map.mp hd
  rcases toNat_ofNat m with hcode | hnull
  · rw [upper, hcode, upperCode_of_mem_upperCode hm, List.map_singleton]
  · rw [hnull]
    decide

/-- Upper case loses no character. -/
theorem upper_ne_nil (c : Char) : upper c ≠ [] := by
  have hexpansions : upperExpansions.all (fun (_, codes) => !codes.isEmpty) = true := by decide
  intro hnil
  have hcode : upperCode c.toNat = [] := List.map_eq_nil_iff.mp hnil
  unfold upperCode at hcode
  split at hcode
  · cases hcode
  · cases hexpansion : upperExpansions.lookup c.toNat with
    | some codes =>
      have hcodes := List.all_eq_true.mp hexpansions _ (mem_of_lookup_eq_some hexpansion)
      rw [hexpansion, Option.getD_some] at hcode
      simp [hcode] at hcodes
    | none =>
      rw [hexpansion] at hcode
      cases hcode

/-- Upper case keeps an underscore, and makes none out of anything else. -/
theorem count_underscore_upper (c : Char) : (upper c).count '_' = if c = '_' then 1 else 0 := by
  split
  · rename_i hc
    rw [hc]
    decide
  · rename_i hc
    have havoids : upperAvoids 95 95 = true := by decide +kernel
    refine List.count_eq_zero.mpr fun hmem => hc ?_
    exact (eq_of_mem_upper havoids (by decide) hmem (by decide) (by decide)).1.symm

end MethodMacros.Text
