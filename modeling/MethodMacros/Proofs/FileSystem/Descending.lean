import MethodMacros.Proofs.FileSystem.Effects
import MethodMacros.Proofs.Path

/-!
# Paths that go on

What a path leads to depends on what its beginning leads to.  Where this is a directory the walk
goes on from there, so a path leads to what its directory holds by its last name.  Where the
beginning leads to a free place, the path leads nowhere.

* `Stop.goOn`, `Reached.goOn`: how a walk goes on from where it has come to.
* `walk_append`, `reach_eq_goOn`: a walk along more names is a walk that goes on.
* `reach_of_parent`: a path by the directory that holds its last name.
* `isChild_of_reach`: a path that leads to a free place names it with its last name.
* `view`, `view_congr`: what is seen at a path, and that it is told by where the directory of the
  path is and by what is there.
-/

namespace MethodMacros.FileSystem

variable {fs : FileSystem} {cwd l k d : Location} {e : Entry} {followLast : Bool} {n mode : Nat}
variable {path target : String} {names rest more : List String} {r : Reached} {stop : Stop}

/-! ## Walks along more names -/

/-- How a walk goes on along more names after it has stopped. -/
def Stop.goOn (fs : FileSystem) (followLast : Bool) (more : List String) : Stop → Stop
  | .reached (.found d _) => fs.steps followLast d more
  | .reached (.vacant _) => .failed .noEntry
  | .failed e => .failed e
  | .link d target rest => .link d target (rest ++ more)

/-- How a walk goes on along more names after it has arrived.  From a free place no name leads
on. -/
def Reached.goOn (fs : FileSystem) (followLast : Bool) (n : Nat) (more : List String) :
    Reached → Except Errno Reached
  | .found d _ => fs.walk followLast n d more
  | .vacant _ => .error .noEntry

theorem steps_append (followLast : Bool) (hmore : more ≠ []) :
    fs.steps followLast l (names ++ more) = (fs.steps true l names).goOn fs followLast more := by
  have hgo : more.isEmpty = false := List.isEmpty_eq_false_iff.mpr hmore
  fun_induction steps fs true l names with
  | case1 l e hget => rfl
  | case2 l hget =>
    obtain ⟨name, rest, rfl⟩ := List.exists_cons_of_ne_nil hmore
    simp only [List.nil_append, steps, hget, Stop.goOn]
  | case10 l name rest mode hl hdot hdots hlong e he hget ih =>
    simp only [List.cons_append, steps, hl, hdot, hdots, hlong, hget, ↓reduceIte]
    cases e with
    | link target => exact absurd rfl (he target)
    | directory mode => exact ih
    | file node => exact ih
  | _ => simp_all [steps, Stop.goOn]

theorem Stops.walk_append (followLast : Bool) (hmore : more ≠ [])
    (h : Stops fs true l names (.reached r)) (n : Nat) :
    fs.walk followLast n l (names ++ more) = r.goOn fs followLast n more := by
  unfold walk
  rw [steps_append followLast hmore, h.steps_eq]
  cases r with
  | found d e =>
    rw [Stop.goOn, Reached.goOn]
    conv => rhs; unfold walk
  | vacant k => rfl

/-- A walk that arrives goes on along more names, with the links that it may still follow. -/
theorem walk_append (followLast : Bool) (hmore : more ≠ []) (h : fs.walk true n l names = .ok r) :
    ∃ m, fs.walk followLast n l (names ++ more) = r.goOn fs followLast m more := by
  induction n generalizing l names with
  | zero =>
    rcases walk_eq_ok h with hstops | ⟨m, _, _, _, hm, -, -⟩
    · exact ⟨0, hstops.walk_append followLast hmore 0⟩
    · cases hm
  | succ n ih =>
    rcases walk_eq_ok h with hstops | ⟨m, directory, target, rest, hm, hstops, hwalk⟩
    · exact ⟨n + 1, hstops.walk_append followLast hmore (n + 1)⟩
    · obtain rfl := Nat.succ.inj hm
      obtain ⟨m, hm⟩ := ih hwalk
      refine ⟨m, ?_⟩
      rw [← hm, List.append_assoc]
      conv => lhs; unfold walk
      rw [steps_append followLast hmore, hstops.steps_eq, Stop.goOn]

/-! ## Names of free places -/

/-- The names after a link that is followed are the last names. -/
theorem Stops.getLast?_of_link (h : Stops fs false l names stop)
    (hstop : stop = .link d target rest) : rest ≠ [] ∧ names.getLast? = rest.getLast? := by
  have hcons {name : String} {names : List String}
      (h : rest ≠ [] ∧ names.getLast? = rest.getLast?) :
      rest ≠ [] ∧ (name :: names).getLast? = rest.getLast? := by
    obtain ⟨hrest, hlast⟩ := h
    refine ⟨hrest, ?_⟩
    rw [List.getLast?_cons, hlast, List.getLast?_eq_some_getLast hrest, Option.getD_some]
  induction h with
  | here => cases hstop
  | stay _ _ ih => exact hcons (ih hstop)
  | up _ _ ih => exact hcons (ih hstop)
  | vacant => cases hstop
  | lastLink => cases hstop
  | link _ _ _ hrest =>
    cases hstop
    rcases hrest with hrest | hlast
    · exact hcons ⟨hrest, rfl⟩
    · cases hlast
  | enter _ _ _ _ _ ih => exact hcons (ih hstop)

/-- The name of a free place is the last of the path if no last link is followed. -/
theorem isChild_of_walk (h : fs.walk false n l names = .ok (.vacant k)) : IsChild fs names k := by
  induction n generalizing l names with
  | zero =>
    rcases walk_eq_ok h with hstops | ⟨m, _, _, _, hm, -, -⟩
    · exact hstops.isChild rfl
    · cases hm
  | succ n ih =>
    rcases walk_eq_ok h with hstops | ⟨m, directory, target, rest, hm, hstops, hwalk⟩
    · exact hstops.isChild rfl
    · obtain rfl := Nat.succ.inj hm
      obtain ⟨hrest, hlast⟩ := hstops.getLast?_of_link rfl
      obtain ⟨d, name, mode, hk, hd, hname⟩ := ih hwalk
      rw [List.getLast?_append_of_ne_nil _ hrest] at hname
      exact ⟨d, name, mode, hk, hd, hlast.trans hname⟩

theorem isChild_of_reach (h : fs.reach cwd path false = .ok (.vacant k)) :
    IsChild fs (namesOf path) k :=
  isChild_of_walk (reach_eq_ok h)

/-! ## Paths by their components -/

section Paths

variable {p q : Path}

/-- A path with components is followed along these. -/
theorem reach_eq_walk (hp : p.IsNormal) (hne : p.parts ≠ []) :
    fs.reach cwd (toString p) followLast =
      if pathLimit ≤ (toString p).utf8ByteSize then .error .nameTooLong
      else fs.walk followLast linkLimit (startOf cwd (toString p)) p.parts := by
  have htext : toString p ≠ "" := by
    intro hempty
    have hnames := Path.namesOf_toString hne hp
    rw [hempty] at hnames
    exact hne hnames.symm
  rw [reach, if_neg htext, Path.namesOf_toString hne hp]

/-- A dot leads nowhere else. -/
theorem Stops.of_dot (h : Stops fs followLast l ("." :: rest) stop) :
    Stops fs followLast l rest stop := by
  generalize hnames : "." :: rest = names at h
  cases h with
  | here => cases hnames
  | stay _ h =>
    obtain ⟨-, rfl⟩ := List.cons.inj hnames
    exact h
  | up => exact absurd (List.cons.inj hnames).1 (by decide)
  | vacant _ hname => exact absurd (List.cons.inj hnames).1.symm hname.1
  | lastLink _ hname => exact absurd (List.cons.inj hnames).1.symm hname.1
  | link _ hname => exact absurd (List.cons.inj hnames).1.symm hname.1
  | enter _ hname => exact absurd (List.cons.inj hnames).1.symm hname.1

theorem walk_of_reach (hp : p.IsNormal) (h : fs.reach cwd (toString p) true = .ok r) :
    fs.walk true linkLimit (startOf cwd (toString p)) p.parts = .ok r := by
  have hwalk := reach_eq_ok h
  by_cases hnil : p.parts = []
  · rw [hnil]
    rcases Path.namesOf_of_parts_nil hnil with hnames | hnames
    · rw [hnames] at hwalk
      rcases walk_eq_ok hwalk with hstops | ⟨_, _, _, _, -, hstops, -⟩
      · exact hstops.of_dot.walk_eq linkLimit
      · cases hstops.of_dot
    · rwa [hnames] at hwalk
  · rwa [Path.namesOf_toString hnil hp] at hwalk

/-- A path goes on from what its beginning leads to. -/
theorem reach_eq_goOn (followLast : Bool) (hp : p.IsNormal) (hq : q.IsNormal)
    (hroot : p.root = q.root) (hparts : p.parts = q.parts ++ more) (hmore : more ≠ [])
    (h : fs.reach cwd (toString q) true = .ok r) :
    ∃ m, fs.reach cwd (toString p) followLast =
      if pathLimit ≤ (toString p).utf8ByteSize then .error .nameTooLong
      else r.goOn fs followLast m more := by
  have hne : p.parts ≠ [] := by
    rw [hparts]
    exact List.append_ne_nil_of_right_ne_nil _ hmore
  obtain ⟨m, hm⟩ := walk_append followLast hmore (walk_of_reach hq h)
  refine ⟨m, ?_⟩
  rw [reach_eq_walk hp hne, Path.startOf_toString hp hq hroot, hparts, hm]

/-- A path whose directory is there leads to what it holds by the last name of the path, unless the
path or the name is too long. -/
theorem reach_of_parent (hp : p.IsNormal) (hne : p.parts ≠ []) (hdots : p.name ≠ "..")
    (hparent : fs.reach cwd (toString p.parent) true = .ok (.found d (.directory mode))) :
    fs.reach cwd (toString p) false =
      if pathLimit ≤ (toString p).utf8ByteSize ∨ nameLimit < p.name.utf8ByteSize then
        .error .nameTooLong
      else .ok (fs.reachedAt (d ++ [p.name])) := by
  have hname : p.name = p.parts.getLast hne := by
    rw [Path.name, List.getLast?_eq_some_getLast hne, Option.getD_some]
  have hparts : p.parts = p.parent.parts ++ [p.name] := by
    rw [hname, Path.parent, List.dropLast_concat_getLast]
  have hdot : p.name ≠ "." := by
    rw [hname]
    exact (hp _ (List.getLast_mem hne)).ne_dot
  obtain ⟨m, hm⟩ := reach_eq_goOn false hp hp.parent rfl hparts (by simp) hparent
  have hd := get?_of_reach_found hparent
  rw [hm, Reached.goOn]
  by_cases hlong : pathLimit ≤ (toString p).utf8ByteSize
  · rw [if_pos hlong, if_pos (.inl hlong)]
  · rw [if_neg hlong]
    unfold walk
    by_cases hlongName : nameLimit < p.name.utf8ByteSize
    · rw [if_pos (.inr hlongName)]
      simp only [steps, hd, hdot, hdots, hlongName, ↓reduceIte]
    · rw [if_neg (by simp only [hlong, hlongName, or_self, not_false_eq_true])]
      cases hget : fs.get? (d ++ [p.name]) with
      | none =>
        rw [reachedAt_of_none hget]
        simp only [steps, hd, hdot, hdots, hlongName, hget, ↓reduceIte, List.isEmpty_nil]
      | some e =>
        rw [reachedAt_of_some hget]
        cases e <;>
          simp only [steps, hd, hdot, hdots, hlongName, hget, ↓reduceIte, List.isEmpty_nil,
            Bool.not_false, Bool.and_self]

end Paths

/-! ## Paths without the name of an entry -/

/-- Where no name is that of an entry, there is no last link to follow or not. -/
theorem Stops.of_not_isEntryName (h : Stops fs followLast l names stop)
    (hnames : ∀ name ∈ names, ¬ IsEntryName name) (followLast' : Bool) :
    Stops fs followLast' l names stop := by
  induction h with
  | here h => exact .here h
  | stay hl _ ih => exact .stay hl (ih fun name hname => hnames name (List.mem_cons_of_mem _ hname))
  | up hl _ ih => exact .up hl (ih fun name hname => hnames name (List.mem_cons_of_mem _ hname))
  | vacant _ hname => exact absurd hname (hnames _ List.mem_cons_self)
  | lastLink _ hname => exact absurd hname (hnames _ List.mem_cons_self)
  | link _ hname => exact absurd hname (hnames _ List.mem_cons_self)
  | enter _ hname => exact absurd hname (hnames _ List.mem_cons_self)

theorem reach_of_parts_nil {p : Path} (hnil : p.parts = []) (followLast' : Bool)
    (h : fs.reach cwd (toString p) followLast = .ok r) :
    fs.reach cwd (toString p) followLast' = .ok r := by
  have hnames : ∀ name ∈ namesOf (toString p), ¬ IsEntryName name := by
    rintro name hmem ⟨hdot, -⟩
    rcases Path.namesOf_of_parts_nil hnil with hnames | hnames
    · rw [hnames, List.mem_singleton] at hmem
      exact hdot hmem
    · rw [hnames] at hmem
      cases hmem
  rcases walk_eq_ok (reach_eq_ok h) with hstops | ⟨_, _, _, _, -, hstops, -⟩
  · exact reach_of_walk h ((hstops.of_not_isEntryName hnames followLast').walk_eq linkLimit)
  · obtain ⟨k, e, hfound⟩ := hstops.found_of_not_isEntryName hnames
    cases hfound

/-! ## The entry of a path -/

/-- The entry that a path leads to, which may be a link. -/
def view (fs : FileSystem) (cwd : Location) (path : String) : Option Entry :=
  match fs.reach cwd path false with
  | .ok (.found _ e) => some e
  | _ => none

theorem view_of_found (h : fs.reach cwd path false = .ok (.found k e)) :
    fs.view cwd path = some e := by
  rw [view, h]

theorem view_of_error {errno : Errno} (h : fs.reach cwd path false = .error errno) :
    fs.view cwd path = none := by
  rw [view, h]

theorem view_of_reachedAt (h : fs.reach cwd path false = .ok (fs.reachedAt k)) :
    fs.view cwd path = fs.get? k := by
  rw [view, h]
  cases hget : fs.get? k with
  | none => rw [reachedAt_of_none hget]
  | some e => rw [reachedAt_of_some hget]

/-- Entries that a path leads to are the same where its directory is found and holds the same. -/
theorem view_congr {fs' : FileSystem} {p : Path} (hp : p.IsNormal) (hdots : p.name ≠ "..")
    (hparent : fs.reach cwd (toString p.parent) true = .ok (.found d (.directory mode)))
    (hparent' : fs'.reach cwd (toString p.parent) true = .ok (.found d (.directory mode)))
    (hget : fs'.get? (d ++ [p.name]) = fs.get? (d ++ [p.name])) :
    fs'.view cwd (toString p) = fs.view cwd (toString p) := by
  by_cases hnil : p.parts = []
  · have hsame : p.parent = p := by
      rw [Path.parent, hnil]
      exact congrArg (Path.mk p.root) hnil.symm
    rw [hsame] at hparent hparent'
    rw [view_of_found (reach_of_parts_nil hnil false hparent),
      view_of_found (reach_of_parts_nil hnil false hparent')]
  · have hreach := reach_of_parent hp hnil hdots hparent
    have hreach' := reach_of_parent hp hnil hdots hparent'
    split at hreach
    · rename_i hlong
      rw [if_pos hlong] at hreach'
      rw [view_of_error hreach, view_of_error hreach']
    · rename_i hlong
      rw [if_neg hlong] at hreach'
      rw [view_of_reachedAt hreach, view_of_reachedAt hreach', hget]

end MethodMacros.FileSystem
