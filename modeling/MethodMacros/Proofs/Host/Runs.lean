import MethodMacros.Proofs.Host.Requests

/-!
# Runs with other answers

A program can be run with other answers than those of a host: with tools of another kind, or with
operations that fail where the host would carry them out.  What is proved about such runs holds
however these answers are chosen.  Where a program asks for nothing that is answered differently, it
runs as it does on the host.

* `Answering`, `Program.runIn`, `Program.passedIn`: the end of such a run, and the hosts on its way.
* `Action.EnsuresIn`: what holds at the end; `Action.Throughout`: what holds at the end, and
  whenever something is asked for.
* `throughout_pure`, `throughout_throw`, `throughout_request`, `Throughout.bind`,
  `Throughout.outcome`: one rule for each way to build an action.
* `Asks.throughout_of_keeps`: a part whose requests are answered as the host answers them need not
  be looked at again.  What it ensures on the host is enough.
* `runIn_perform`, `passedIn_perform`, `statesIn_perform`, `ensuresIn_perform`: a host's own answers
  are a way to answer, and give the run that the host has.

## Why on the way and at the end

That something holds on the way is proved request by request, and for the later requests it matters
what the earlier ones have left.  So the two statements are not proved one after the other.  A rule
for two actions takes what holds at the end of the first as what the second begins with, and
`Throughout.bind` adds up what holds on the way.
-/

namespace MethodMacros

/-- A way to answer requests. -/
abbrev Answering := Host → (r : Request) → r.Answer × Host

namespace Program

variable {α β : Type} (answering : Answering)

/-- Runs a program with given answers. -/
def runIn : Program α → Host → α × Host
  | .done a, h => (a, h)
  | .ask r next, h => (next (answering h r).1).runIn (answering h r).2

/-- The hosts in which something is asked for while a program runs with given answers. -/
def passedIn : Program α → Host → List Host
  | .done _, _ => []
  | .ask r next, h => h :: (next (answering h r).1).passedIn (answering h r).2

/-- The second of two programs runs on the host that the first has left. -/
theorem runIn_bind (p : Program α) (f : α → Program β) (h : Host) :
    (p.bind f).runIn answering h =
      (f (p.runIn answering h).1).runIn answering (p.runIn answering h).2 := by
  induction p generalizing h with
  | done a => rfl
  | ask r next ih => exact ih _ _

theorem runIn_map (f : α → β) (p : Program α) (h : Host) :
    (f <$> p).runIn answering h = (f (p.runIn answering h).1, (p.runIn answering h).2) :=
  runIn_bind answering p (fun a => .done (f a)) h

/-- Two programs in a row pass what the first passes and then what the second passes. -/
theorem passedIn_bind (p : Program α) (f : α → Program β) (h : Host) :
    (p.bind f).passedIn answering h = p.passedIn answering h ++
      (f (p.runIn answering h).1).passedIn answering (p.runIn answering h).2 := by
  induction p generalizing h with
  | done a => rfl
  | ask r next ih => exact congrArg (h :: ·) (ih _ _)

/-- With the answers of hosts a program runs as it does on a host. -/
theorem runIn_perform (p : Program α) (h : Host) : p.runIn Host.perform h = p.run h := by
  induction p generalizing h with
  | done a => rfl
  | ask r next ih => exact ih _ _

/-- The states on the way, with the one at the end, are all the states of a run. -/
theorem passedIn_perform (p : Program α) (h : Host) :
    p.passedIn Host.perform h ++ [(p.run h).2] = p.states h := by
  induction p generalizing h with
  | done a => rfl
  | ask r next ih => exact congrArg (h :: ·) (ih _ _)

/-- Where nothing is answered differently, a program runs in the same way. -/
theorem Asks.runIn_eq {kind : Request → Bool} {answering : Answering} {p : Program α}
    (hp : p.Asks kind) (hsame : ∀ h r, kind r = true → answering h r = h.perform r) (h : Host) :
    p.runIn answering h = p.run h := by
  induction p generalizing h with
  | done a => rfl
  | ask r next ih => rw [runIn, hsame h r hp.1, run_ask, ih _ (hp.2 _)]

/-- What each request keeps holds whenever something is asked for. -/
theorem Asks.forall_passedIn {kind : Request → Bool} {answering : Answering} {p : Program α}
    {during : Host → Prop} (hp : p.Asks kind)
    (hkeeps : ∀ h r, kind r = true → during h → during (answering h r).2) {h : Host}
    (hduring : during h) : ∀ cur ∈ p.passedIn answering h, during cur := by
  induction p generalizing h with
  | done a =>
    rintro cur ⟨⟩
  | ask r next ih =>
    intro cur hcur
    rcases List.mem_cons.mp hcur with rfl | hcur
    · exact hduring
    · exact ih _ (hp.2 _) (hkeeps _ r hp.1 hduring) cur hcur

end Program

namespace Action

variable {ε ε' α β : Type} (answering : Answering)

/-- What an action gives with given answers, and the host that is left. -/
def onIn (a : Action ε α) (h : Host) : Except ε α × Host := a.run.runIn answering h

/-- The hosts from the beginning to the end of an action with given answers. -/
def statesIn (a : Action ε α) (h : Host) : List Host :=
  a.run.passedIn answering h ++ [(a.onIn answering h).2]

/-- Two actions in a row end as the second does, or with the error of the first. -/
theorem onIn_bind (a : Action ε α) (f : α → Action ε β) (h : Host) :
    (a >>= f).onIn answering h = match a.onIn answering h with
      | (.ok x, after) => (f x).onIn answering after
      | (.error e, after) => (.error e, after) := by
  have hrun := Program.runIn_bind answering a.run (ExceptT.bindCont f) h
  have hleft : (a >>= f).onIn answering h =
      (a.run.bind (ExceptT.bindCont f)).runIn answering h := rfl
  rw [hleft, hrun]
  unfold onIn
  rcases a.run.runIn answering h with ⟨_ | _, after⟩ <;> rfl

theorem onIn_outcome (a : Action ε α) (h : Host) :
    (a.outcome : Action ε' (Except ε α)).onIn answering h =
      (.ok (a.onIn answering h).1, (a.onIn answering h).2) :=
  Program.runIn_map answering Except.ok a.run h

theorem onIn_perform (a : Action ε α) (h : Host) : a.onIn Host.perform h = a.on h :=
  Program.runIn_perform a.run h

/-- With the answers of hosts the states of an action are those of its program. -/
theorem statesIn_perform (a : Action ε α) (h : Host) :
    a.statesIn Host.perform h = a.run.states h := by
  rw [statesIn, onIn_perform]
  exact Program.passedIn_perform a.run h

/-- Where nothing is answered differently, an action ends in the same way. -/
theorem Asks.onIn_eq {kind : Request → Bool} {answering : Answering} {a : Action ε α}
    (ha : a.Asks kind) (hsame : ∀ h r, kind r = true → answering h r = h.perform r) (h : Host) :
    a.onIn answering h = a.on h :=
  Program.Asks.runIn_eq ha hsame h

/-! ## On the way and at the end -/

section Throughout

variable {answering} {h : Host} {during : Host → Prop}
variable {ok : α → Host → Prop} {failed : ε → Host → Prop}

/-- With given answers, an action ends in one of two ways: with a value, or with an error. -/
def EnsuresIn (answering : Answering) (a : Action ε α) (h : Host) (ok : α → Host → Prop)
    (failed : ε → Host → Prop) : Prop :=
  match a.onIn answering h with
  | (.ok x, after) => ok x after
  | (.error e, after) => failed e after

/-- With the answers of hosts both ways to say how an action ends are the same. -/
theorem ensuresIn_perform {a : Action ε α} :
    a.EnsuresIn Host.perform h ok failed ↔ a.Ensures h ok failed := by
  rcases hon : a.on h with ⟨_ | _, after⟩ <;>
    simp only [EnsuresIn, Ensures, onIn_perform, hon]

/-- What is ensured holds of the value that an action ends with. -/
theorem EnsuresIn.of_ok {a : Action ε α} {x : α} {after : Host}
    (ha : a.EnsuresIn answering h ok failed) (hon : a.onIn answering h = (.ok x, after)) :
    ok x after := by
  rw [EnsuresIn, hon] at ha
  exact ha

/-- What is ensured holds of the error that an action ends with. -/
theorem EnsuresIn.of_error {a : Action ε α} {e : ε} {after : Host}
    (ha : a.EnsuresIn answering h ok failed) (hon : a.onIn answering h = (.error e, after)) :
    failed e after := by
  rw [EnsuresIn, hon] at ha
  exact ha

/-- What is ensured may be weakened. -/
theorem EnsuresIn.imp {a : Action ε α} {ok' : α → Host → Prop} {failed' : ε → Host → Prop}
    (ha : a.EnsuresIn answering h ok failed) (hok : ∀ x after, ok x after → ok' x after)
    (hfailed : ∀ e after, failed e after → failed' e after) :
    a.EnsuresIn answering h ok' failed' := by
  unfold EnsuresIn
  rcases hon : a.onIn answering h with ⟨e | x, after⟩
  · exact hfailed e after (ha.of_error hon)
  · exact hok x after (ha.of_ok hon)

/-- With given answers, something holds whenever an action asks for anything, and the action ends in
one of two ways. -/
def Throughout (answering : Answering) (during : Host → Prop) (a : Action ε α) (h : Host)
    (ok : α → Host → Prop) (failed : ε → Host → Prop) : Prop :=
  (∀ cur ∈ a.run.passedIn answering h, during cur) ∧ a.EnsuresIn answering h ok failed

theorem Throughout.imp {a : Action ε α} {ok' : α → Host → Prop} {failed' : ε → Host → Prop}
    (ha : a.Throughout answering during h ok failed) (hok : ∀ x after, ok x after → ok' x after)
    (hfailed : ∀ e after, failed e after → failed' e after) :
    a.Throughout answering during h ok' failed' :=
  ⟨ha.1, ha.2.imp hok hfailed⟩

theorem throughout_pure {x : α} (hx : ok x h) :
    (pure x : Action ε α).Throughout answering during h ok failed :=
  ⟨by rintro _ ⟨⟩, hx⟩

theorem throughout_throw {e : ε} (he : failed e h) :
    (throw e : Action ε α).Throughout answering during h ok failed :=
  ⟨by rintro _ ⟨⟩, he⟩

/-- A request is asked in the host at hand, and then there is nothing to come. -/
theorem throughout_request {r : Request} {ok : r.Answer → Host → Prop} (hduring : during h)
    (hok : ok (answering h r).1 (answering h r).2) :
    (request r : Action ε r.Answer).Throughout answering during h ok failed := by
  refine ⟨?_, hok⟩
  intro cur hcur
  obtain rfl := List.mem_singleton.mp hcur
  exact hduring

theorem passedIn_bind (a : Action ε α) (f : α → Action ε β) (h : Host) :
    (a >>= f).run.passedIn answering h = a.run.passedIn answering h ++
      match a.onIn answering h with
      | (.ok x, after) => (f x).run.passedIn answering after
      | (.error _, _) => [] := by
  have hpassed := Program.passedIn_bind answering a.run (ExceptT.bindCont f) h
  have hleft : (a >>= f).run.passedIn answering h =
      (a.run.bind (ExceptT.bindCont f)).passedIn answering h := rfl
  rw [hleft, hpassed]
  unfold onIn
  rcases a.run.runIn answering h with ⟨_ | _, after⟩ <;> rfl

/-- The first of two actions has to end so that the second can be carried out from there. -/
theorem Throughout.bind {a : Action ε α} {f : α → Action ε β} {ok : β → Host → Prop}
    (ha : a.Throughout answering during h
      (fun x after => (f x).Throughout answering during after ok failed) failed) :
    (a >>= f).Throughout answering during h ok failed := by
  obtain ⟨hduring, hend⟩ := ha
  unfold Throughout EnsuresIn
  rw [passedIn_bind, onIn_bind]
  rcases hon : a.onIn answering h with ⟨e | x, after⟩
  · exact ⟨by simpa using hduring, hend.of_error hon⟩
  · obtain ⟨hlater, hlast⟩ := hend.of_ok hon
    refine ⟨?_, hlast⟩
    intro cur hcur
    rcases List.mem_append.mp hcur with hcur | hcur
    · exact hduring cur hcur
    · exact hlater cur hcur

/-- If an action is tried, either of its ends is a value of the attempt. -/
theorem Throughout.outcome {a : Action ε α} {ok : Except ε α → Host → Prop}
    {failed : ε' → Host → Prop}
    (ha : a.Throughout answering during h (fun x => ok (.ok x)) fun e => ok (.error e)) :
    (a.outcome : Action ε' (Except ε α)).Throughout answering during h ok failed := by
  obtain ⟨hduring, hend⟩ := ha
  have hpassed : (a.outcome : Action ε' (Except ε α)).run.passedIn answering h =
      a.run.passedIn answering h := by
    have hmap := Program.passedIn_bind answering a.run
      (fun x => .done (.ok x : Except ε' (Except ε α))) h
    exact hmap.trans (List.append_nil _)
  refine ⟨hpassed ▸ hduring, ?_⟩
  rw [EnsuresIn, onIn_outcome]
  rcases hon : a.onIn answering h with ⟨e | x, after⟩
  · exact hend.of_error hon
  · exact hend.of_ok hon

/-- What holds whenever an action asks for anything may be weakened. -/
theorem Throughout.during_imp {a : Action ε α} {during' : Host → Prop}
    (ha : a.Throughout answering during h ok failed)
    (hduring : ∀ cur, during cur → during' cur) : a.Throughout answering during' h ok failed :=
  ⟨fun cur hcur => hduring cur (ha.1 cur hcur), ha.2⟩

/-- Where nothing is answered differently, and what holds is kept by the requests, an action ends as
it does on the host. -/
theorem Asks.throughout_of_keeps {kind : Request → Bool} {a : Action ε α} (ha : a.Asks kind)
    (hsame : ∀ h r, kind r = true → answering h r = h.perform r)
    (hkeeps : ∀ h r, kind r = true → during h → during (h.perform r).2) (hduring : during h)
    (hend : a.Ensures h ok failed) : a.Throughout answering during h ok failed := by
  refine ⟨Program.Asks.forall_passedIn ha ?_ hduring, ?_⟩
  · intro h r hr hcur
    rw [hsame h r hr]
    exact hkeeps h r hr hcur
  · rw [EnsuresIn, ha.onIn_eq hsame]
    exact hend

/-- Where nothing is to hold on the way, the requests need not keep anything. -/
theorem Asks.throughout {kind : Request → Bool} {a : Action ε α} (ha : a.Asks kind)
    (hsame : ∀ h r, kind r = true → answering h r = h.perform r) (hend : a.Ensures h ok failed) :
    a.Throughout answering (fun _ => True) h ok failed :=
  ha.throughout_of_keeps hsame (fun _ _ _ => id) trivial hend

/-- What an action ends with is what it gives. -/
theorem Throughout.with_onIn {a : Action ε α} (ha : a.Throughout answering during h ok failed) :
    a.Throughout answering during h (fun x after => ok x after ∧ a.onIn answering h = (.ok x, after))
      fun e after => failed e after ∧ a.onIn answering h = (.error e, after) := by
  obtain ⟨hduring, hend⟩ := ha
  refine ⟨hduring, ?_⟩
  unfold EnsuresIn
  rcases hon : a.onIn answering h with ⟨e | x, after⟩
  · exact ⟨hend.of_error hon, rfl⟩
  · exact ⟨hend.of_ok hon, rfl⟩

end Throughout

end Action

end MethodMacros
