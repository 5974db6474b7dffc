import MethodMacros.Proofs.Header.Directives

/-!
# Headers that are included together

A header is read once: its guard is a macro that it defines itself, and where this macro is defined
the rest is passed over.  So two headers can be included together only if their guards differ.  A
guard is made from the name of a class, in which dots become underscores.  An underscore is a
character of a name as well, so that the classes `a.b` and `a_b` have one guard, and whichever header
comes second is lost.

Nothing else makes guards meet.  A dot in the place of an underscore is the only difference between
names that a guard does not show, so the names of classes without underscores can be told from their
guards.

## What including a header does

It is not enough that guards differ.  The second header would also be lost if a macro of some method
in the first header were its guard.  `including?` carries out the directives of a text, from the macros
that are defined before to those that are defined afterwards, and with `directives?_render` it can be
computed for headers: each macro of the first header is its own guard or has no small letters.
-/

namespace MethodMacros

namespace Naming

/-- Two names are the same, but for dots in one of them where the other has underscores. -/
def AgreeButDots (className other : String) : Prop :=
  List.Forall₂ (fun c d => c = d ∨ c = '.' ∧ d = '_' ∨ c = '_' ∧ d = '.')
    className.toList other.toList

variable {className other : String}

/-- Guard tokens tell names apart up to dots and underscores. -/
theorem guardToken_eq_iff :
    guardToken className = guardToken other ↔ AgreeButDots className other := by
  have hchar (c d : Char) : (if c = '.' then '_' else c) = (if d = '.' then '_' else d) ↔
      c = d ∨ c = '.' ∧ d = '_' ∨ c = '_' ∧ d = '.' := by
    by_cases hc : c = '.' <;> by_cases hd : d = '.' <;> simp [hc, hd, eq_comm]
  rw [guardToken, guardToken, String.ofList_inj, ← List.forall₂_eq_eq_eq,
    List.forall₂_map_left_iff, List.forall₂_map_right_iff]
  simp only [hchar]
  rfl

/-- Without underscores such names are the same. -/
theorem AgreeButDots.eq_of_not_mem (h : AgreeButDots className other)
    (hclass : '_' ∉ className.toList) (hother : '_' ∉ other.toList) : className = other := by
  rw [← String.toList_inj]
  unfold AgreeButDots at h
  generalize className.toList = chars at *
  generalize other.toList = chars' at *
  induction h with
  | nil => rfl
  | @cons c d cs ds hchar _ ih =>
    rw [List.mem_cons, not_or] at hclass hother
    rw [ih hclass.2 hother.2]
    rcases hchar with rfl | ⟨-, rfl⟩ | ⟨rfl, -⟩
    · rfl
    · exact absurd rfl hother.1
    · exact absurd rfl hclass.1

end Naming

namespace Header

open Naming (AgreeButDots IsPlainClass)
open Report (MethodRecord textOrNone)
open Text (splitAt splitAt_flatMap_append)

variable {className other : String} {records : List MethodRecord}

theorem guardMacro_eq_iff :
    guardMacro className = guardMacro other ↔ AgreeButDots className other := by
  rw [guardMacro, guardMacro, String.append_right_inj, Naming.guardToken_eq_iff]

instance (className other : String) : Decidable (AgreeButDots className other) :=
  decidable_of_iff (guardMacro className = guardMacro other) guardMacro_eq_iff

/-! ## The guard in a text -/

/-- The macro that the first condition of a text asks for. -/
def guardOf? (text : String) : Option String :=
  (splitAt '\n' text.toList).findSome? fun line =>
    (List.isPrefixOf? "#ifndef ".toList line).map String.ofList

/-- The first condition of a header is its guard, whatever its records are. -/
theorem guardOf?_render (hclass : '\n' ∉ className.toList) (records : List MethodRecord) :
    guardOf? (render className records) = some (guardMacro className) := by
  have hclean : ∀ s ∈ (opening className).map String.toList, '\n' ∉ s := by
    intro s hs
    obtain ⟨line, hline, rfl⟩ := List.mem_map.mp hs
    exact opening_clean hclass line hline
  have hcut : splitAt '\n' (render className records).toList =
      (opening className).map String.toList ++ splitAt '\n'
        (((records.flatMap methodBlock ++ [closing className]).map String.toList).flatMap
          (· ++ ['\n'])) := by
    rw [toList_render, lines, List.append_assoc, List.map_append, List.flatMap_append,
      splitAt_flatMap_append hclean]
  rw [guardOf?, hcut, opening]
  simp [List.findSome?_cons, List.isPrefixOf?]

/-! ## Including a text -/

/-- What a preprocessor knows between two directives: the macros with what they stand for, the
latest first, and for each open condition, the innermost first, whether it is met. -/
structure Progress where
  macros : List (String × Option String)
  conditions : List Bool
  deriving DecidableEq, Repr

/-- Directives are carried out where all conditions are met. -/
def Progress.isReading (p : Progress) : Bool := p.conditions.all id

/-- Carries out a directive.  There is nothing to be ended without an open condition. -/
def carryOut (p : Progress) : Directive → Option Progress
  | .unlessDefined name =>
      some { p with conditions := decide (name ∉ p.macros.map Prod.fst) :: p.conditions }
  | .define name text =>
      some (if p.isReading then { p with macros := (name, text) :: p.macros } else p)
  | .endif =>
      match p.conditions with
      | [] => none
      | _ :: outer => some { p with conditions := outer }

/-- The macros after a text has been included, from those before. -/
def including? (macros : List (String × Option String)) (text : String) :
    Option (List (String × Option String)) := do
  let progress ← (← directives? text).foldlM carryOut ⟨macros, []⟩
  if progress.conditions = [] then some progress.macros else none

/-- The macros that a record defines, with what they stand for. -/
def recordDefinitions (r : MethodRecord) : List (String × Option String) :=
  [(nameMacro r.macroStem, some r.name),
    (signatureMacro r.macroStem, some (textOrNone r.signature))]

/-- The macros that a header defines, the latest first. -/
def headerMacros (className : String) (records : List MethodRecord) :
    List (String × Option String) :=
  ((guardMacro className, none) :: records.flatMap recordDefinitions).reverse

/-- Definitions are all carried out or all passed over. -/
theorem foldlM_define (definitions : List (String × Option String)) (p : Progress) :
    (definitions.map fun d => Directive.define d.1 d.2).foldlM carryOut p =
      some (if p.isReading then { p with macros := definitions.reverse ++ p.macros } else p) := by
  induction definitions generalizing p with
  | nil => simp
  | cons d definitions ih =>
    have hsame : ({ p with macros := d :: p.macros } : Progress).isReading = p.isReading := rfl
    rw [List.map_cons, List.foldlM_cons, carryOut, Option.bind_eq_bind, Option.bind_some, ih]
    cases hreading : p.isReading with
    | true => simp [hsame, hreading]
    | false => simp [hreading]

theorem flatMap_recordDirectives (records : List MethodRecord) :
    records.flatMap recordDirectives =
      (records.flatMap recordDefinitions).map fun d => Directive.define d.1 d.2 := by
  rw [List.map_flatMap]
  rfl

/-- A header is read as a whole or passed over as a whole. -/
theorem including?_render (macros : List (String × Option String)) (hclass : IsPlainClass className)
    (hrecords : ∀ r ∈ records, IsPrintable r) :
    including? macros (render className records) = some
      (if guardMacro className ∈ macros.map Prod.fst then macros
      else headerMacros className records ++ macros) := by
  have hdirectives : directives? (render className records) = some
      (.unlessDefined (guardMacro className) ::
        (((guardMacro className, none) :: records.flatMap recordDefinitions).map fun d =>
          Directive.define d.1 d.2) ++ [.endif]) := by
    rw [directives?_render hclass hrecords, flatMap_recordDirectives]
    rfl
  rw [including?, hdirectives, Option.bind_eq_bind, Option.bind_some, List.cons_append]
  simp only [List.foldlM_cons, List.foldlM_append, List.foldlM_nil, carryOut, Option.bind_eq_bind,
    Option.bind_some, foldlM_define]
  by_cases hdefined : guardMacro className ∈ macros.map Prod.fst
  · simp [hdefined, Progress.isReading]
  · simp [hdefined, Progress.isReading, headerMacros]

/-- The guard of a class is defined by a header only if it is the guard of that header. -/
theorem guardMacro_mem_headerMacros (hrecords : ∀ r ∈ records, IsPrintable r) :
    guardMacro other ∈ (headerMacros className records).map Prod.fst ↔
      guardMacro className = guardMacro other := by
  -- A guard has small letters, and a macro of a record has none.
  have hrecord : guardMacro other ∉ (records.flatMap recordDefinitions).map Prod.fst := by
    intro hmem
    obtain ⟨d, hd, hguard⟩ := List.mem_map.mp hmem
    obtain ⟨r, hr, hd⟩ := List.mem_flatMap.mp hd
    have hmacro : guardMacro other ∈ recordMacros r := by
      rw [← hguard]
      exact List.mem_map_of_mem (f := Prod.fst) hd
    exact small_not_mem_of_mem_recordMacros (hrecords r hr) hmacro (small_mem_guardMacro other)
  rw [headerMacros, List.map_reverse, List.mem_reverse, List.map_cons, List.mem_cons]
  simp [hrecord, eq_comm]

variable {records' : List MethodRecord}

/-- After one header another one is read, unless their guards agree. -/
theorem exists_including?_render (hclass : IsPlainClass className) (hother : IsPlainClass other)
    (hrecords : ∀ r ∈ records, IsPrintable r) (hrecords' : ∀ r ∈ records', IsPrintable r)
    {macros : List (String × Option String)} (hfresh : guardMacro other ∉ macros.map Prod.fst) :
    ∃ between, including? macros (render className records) = some between ∧
      including? between (render other records') = some
        (if AgreeButDots className other then between
        else headerMacros other records' ++ between) := by
  refine ⟨_, including?_render macros hclass hrecords, ?_⟩
  rw [including?_render _ hother hrecords']
  refine congrArg some (if_congr (Iff.trans ?_ guardMacro_eq_iff) rfl rfl)
  -- Where the first header was passed over, its guard had been defined, so it is not the second one.
  by_cases hdefined : guardMacro className ∈ macros.map Prod.fst
  · rw [if_pos hdefined]
    exact ⟨fun hmem => absurd hmem hfresh, fun hguards => absurd (hguards ▸ hdefined) hfresh⟩
  · rw [if_neg hdefined, List.map_append, List.mem_append, guardMacro_mem_headerMacros hrecords]
    exact or_iff_left hfresh

/-- **Guards.**  The guards of two headers are the same exactly if their classes have the same names
but for dots in the place of underscores, whatever their records are.  Of two headers that are
included together, the second is lost in this case and in no other. -/
theorem guards_eq_iff (hclass : '\n' ∉ className.toList) (hother : '\n' ∉ other.toList)
    (records records' : List MethodRecord) :
    guardOf? (render className records) = some (guardMacro className) ∧
      guardOf? (render other records') = some (guardMacro other) ∧
      (guardMacro className = guardMacro other ↔ AgreeButDots className other) ∧
      (className ≠ other → '_' ∉ className.toList → '_' ∉ other.toList →
        guardMacro className ≠ guardMacro other) ∧
      (IsPlainClass className → IsPlainClass other → (∀ r ∈ records, IsPrintable r) →
        (∀ r ∈ records', IsPrintable r) → ∀ macros, guardMacro other ∉ macros.map Prod.fst →
        ∃ between, including? macros (render className records) = some between ∧
          including? between (render other records') = some
            (if AgreeButDots className other then between
            else headerMacros other records' ++ between)) := by
  refine ⟨guardOf?_render hclass records, guardOf?_render hother records', guardMacro_eq_iff,
    fun hne hplain hplain' hguards => ?_, fun hclass hother hrecords hrecords' macros hfresh =>
    exists_including?_render hclass hother hrecords hrecords' hfresh⟩
  exact hne ((guardMacro_eq_iff.mp hguards).eq_of_not_mem hplain hplain')

/-- A record of a method without parameters, whose macros have a given stem. -/
def recordWith (name stem : String) : MethodRecord where
  declarationLine := "void " ++ name ++ "();"
  name := name
  macroStem := stem
  signature := some "()V"
  signatureLine := some "Signature: ()V"

/-- Two classes of one package, with a nested class in the second. -/
theorem guards_eq_iff_nested :
    let first := [recordWith "stop" "STOP"]
    let second := [recordWith "run" "RUN"]
    ('\n' ∉ "p_q.A".toList ∧ '\n' ∉ "p_q.A$B".toList) ∧
      (IsPlainClass "p_q.A" ∧ IsPlainClass "p_q.A$B") ∧
      ((∀ r ∈ first, IsPrintable r) ∧ ∀ r ∈ second, IsPrintable r) ∧
      guardOf? (render "p_q.A" first) ≠ guardOf? (render "p_q.A$B" second) ∧
      ∃ between, including? [] (render "p_q.A" first) = some between ∧
        including? between (render "p_q.A$B" second) = some
          ([("RUN_SIGNATURE", some "()V"), ("RUN_NAME", some "run"),
            ("_Callbacks_p_q_A$B", none)] ++ between) := by
  intro first second
  have hclass : IsPlainClass "p_q.A" := ⟨["p_q", "A"], by decide, by decide, by decide⟩
  have hother : IsPlainClass "p_q.A$B" := ⟨["p_q", "A$B"], by decide, by decide, by decide⟩
  have hfirst : ∀ r ∈ first, IsPrintable r := by decide +kernel
  have hsecond : ∀ r ∈ second, IsPrintable r := by decide +kernel
  have hclean : '\n' ∉ "p_q.A".toList := by decide
  have hclean' : '\n' ∉ "p_q.A$B".toList := by decide
  obtain ⟨hguard, hguard', hiff, -, hincluding⟩ := guards_eq_iff hclean hclean' first second
  have hdiffer : ¬ AgreeButDots "p_q.A" "p_q.A$B" := by decide +kernel
  refine ⟨⟨hclean, hclean'⟩, ⟨hclass, hother⟩, ⟨hfirst, hsecond⟩, ?_, ?_⟩
  · rw [hguard, hguard']
    exact fun hsame => hdiffer (hiff.mp (Option.some.inj hsame))
  · obtain ⟨between, hbetween, hlast⟩ := hincluding hclass hother hfirst hsecond [] (by simp)
    rw [if_neg hdiffer] at hlast
    exact ⟨between, hbetween, hlast⟩

/-- A dot and an underscore make one guard, so that the macros of the second header are lost.  And a
macro that has not the stem of its method can be the guard of another class. -/
theorem guards_eq_dot_underscore :
    (IsPlainClass "a.b" ∧ IsPlainClass "a_b" ∧ "a.b" ≠ "a_b") ∧
      guardOf? (render "a.b" []) = guardOf? (render "a_b" [recordWith "run" "RUN"]) ∧
      (including? [] (render "a.b" []) >>= fun between =>
        including? between (render "a_b" [recordWith "run" "RUN"])) =
          some [("_Callbacks_a_b", none)] ∧
      guardMacro "b_NAME" ≠ guardMacro "a" ∧
      guardMacro "b_NAME" ∈ recordMacros (recordWith "run" "_Callbacks_b") := by
  have hclass : IsPlainClass "a.b" := ⟨["a", "b"], by decide, by decide, by decide⟩
  have hother : IsPlainClass "a_b" := ⟨["a_b"], by decide, by decide, by decide⟩
  have hrecords : ∀ r ∈ [recordWith "run" "RUN"], IsPrintable r := by decide +kernel
  refine ⟨⟨hclass, hother, by decide⟩, ?_, ?_, by decide +kernel⟩
  · rw [guardOf?_render (by decide), guardOf?_render (by decide)]
    decide +kernel
  · rw [including?_render [] hclass (by simp), Option.bind_eq_bind, Option.bind_some,
      including?_render _ hother hrecords]
    decide +kernel

end Header

end MethodMacros
