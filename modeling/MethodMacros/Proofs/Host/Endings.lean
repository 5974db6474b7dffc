import MethodMacros.Proofs.Host.Requests

/-!
# How programs can end

On a given host a program has one end.  Here less is known: how long anything takes, and what a tool
does that is started.  `Program.Ends` relates a program to all the ends that it can have then, with
what it asked for on the way.  Of the clock it is only known that it does not go back; it need not
go on either.

What a program ends with on the host itself is one of these ends (`ends_run`), so there is always
one.

* `Host.Answers`: how a request can be answered.  `Answers.eq`, `Answers.clock_le`,
  `Answers.folder_eq` and `Answers.files_eq` are all that is known of an answer.
* `Ends.of_bind`: an end of two programs in a row is an end of the second, on a host on which the
  first has ended.  Every other rule about longer programs comes from this one.
* `Ends.clock_le`, `Ends.folder_eq`, `Ends.files_eq`, `Ends.of_asks`: what holds of each answer
  holds of each end, by induction on the end.
* `Ends.of_isQuestion`: questions have one result only, that of a host.

## Two statements about actions

`Action.Yields` says what holds if an action ends with a value, and nothing if it ends with an
error.  `Action.StartsOnly` says what holds of whatever is started on the way, however the action
ends.  Both have a rule for questions that come first (`Finds.yields`, `Finds.startsOnly_bind`):
what these have found out is known when the rest begins.
-/

namespace MethodMacros

/-- A request can be answered in a certain way and leave a certain host.  A tool that is started may
end in any way and leave any files.  All else is answered by the host. -/
def Host.Answers (h : Host) (r : Request) (x : r.Answer) (after : Host) : Prop :=
  ∃ clock, h.clock ≤ clock ∧
    (r.isToolless = true ∧ x = (h.answer r).1 ∧ after = { (h.answer r).2 with clock := clock } ∨
      r.isToolless = false ∧ ∃ files, after = { h with files := files, clock := clock })

/-- A program can end on a host with a value, after it has asked for certain things, and leave a
certain host. -/
inductive Program.Ends {α : Type} : Program α → Host → List Request → α → Host → Prop where
  | done (a : α) (h : Host) : Ends (.done a) h [] a h
  | ask {r : Request} {next : r.Answer → Program α} {h after last : Host} {x : r.Answer}
      {asked : List Request} {a : α} (hanswer : h.Answers r x after)
      (hnext : Ends (next x) after asked a last) : Ends (.ask r next) h (r :: asked) a last

namespace Host

variable {h after : Host} {r : Request} {x : r.Answer}

/-- What a host answers is one of the answers that are possible on it, also if it starts a tool. -/
theorem answers_perform (h : Host) (r : Request) :
    h.Answers r (h.perform r).1 (h.perform r).2 := by
  refine ⟨h.clock + tick, Int.le_add_of_nonneg_right (by decide), ?_⟩
  rw [perform_eq]
  cases htoolless : r.isToolless with
  | true =>
    obtain ⟨files, umask, messages, hanswer⟩ := answer_eq h r
    refine .inl ⟨rfl, rfl, ?_⟩
    rw [later, hanswer]
  | false =>
    cases r with
    | start command folder =>
      obtain ⟨files, hfiles⟩ := start_eq h command folder
      refine .inr ⟨rfl, files, ?_⟩
      rw [answer, hfiles]
      rfl
    | _ => cases htoolless

/-- A host answers what it is asked without a tool, at some later time. -/
theorem Answers.eq (hanswer : h.Answers r x after) (hr : r.isToolless = true) :
    x = (h.answer r).1 ∧ ∃ clock, after = { (h.answer r).2 with clock := clock } := by
  obtain ⟨clock, -, ⟨-, hx, hafter⟩ | ⟨hfalse, -⟩⟩ := hanswer
  · exact ⟨hx, clock, hafter⟩
  · cases hr.symm.trans hfalse

theorem Answers.clock_le (hanswer : h.Answers r x after) : h.clock ≤ after.clock := by
  obtain ⟨clock, hclock, ⟨-, -, rfl⟩ | ⟨-, files, rfl⟩⟩ := hanswer
  · exact hclock
  · exact hclock

theorem Answers.folder_eq (hanswer : h.Answers r x after) : after.folder = h.folder := by
  obtain ⟨clock, -, ⟨-, -, rfl⟩ | ⟨-, files, rfl⟩⟩ := hanswer
  · obtain ⟨files, umask, messages, hanswer⟩ := answer_eq h r
    rw [hanswer]
  · rfl

/-- A request that leaves the files as they are does so however long it takes. -/
theorem Answers.files_eq (hanswer : h.Answers r x after) (hr : r.leavesFiles = true) :
    after.files = h.files := by
  obtain ⟨-, clock, rfl⟩ := hanswer.eq (r.isToolless_of_leavesFiles hr)
  exact (h.files_perform_of_leavesFiles r hr).1

/-- A question is answered as the host answers it at any time. -/
theorem Answers.of_isQuestion {cur : Host} (hanswer : cur.Answers r x after)
    (hr : r.isQuestion = true) (hagrees : h.Agrees cur) :
    x = (h.answer r).1 ∧ h.Agrees after := by
  have htoolless : r.isToolless = true := by
    cases r with
    | start command folder => cases hr
    | _ => rfl
  obtain ⟨rfl, clock, rfl⟩ := hanswer.eq htoolless
  obtain ⟨hsame, _, messages, hafter⟩ := hagrees.perform hr
  refine ⟨hsame, clock, messages, ?_⟩
  have hfields := congrArg (fun host : Host => { host with clock := clock }) hafter
  exact hfields

end Host

namespace Program

variable {α β : Type} {h last : Host} {asked : List Request}

/-- What a program asks a host for. -/
def requests : Program α → Host → List Request
  | .done _, _ => []
  | .ask r next, h => r :: (next (h.perform r).1).requests (h.perform r).2

/-- What a program ends with on a host is among its ends. -/
theorem ends_run (p : Program α) (h : Host) : p.Ends h (p.requests h) (p.run h).1 (p.run h).2 := by
  induction p generalizing h with
  | done a => exact .done a h
  | ask r next ih => exact .ask (h.answers_perform r) (ih _ _)

/-- Two programs in a row end as the second does where the first ended. -/
theorem Ends.of_bind {p : Program α} {f : α → Program β} {b : β}
    (hends : (p.bind f).Ends h asked b last) : ∃ first rest a mid, asked = first ++ rest ∧
      p.Ends h first a mid ∧ (f a).Ends mid rest b last := by
  induction p generalizing h asked with
  | done a => exact ⟨[], asked, a, h, rfl, .done a h, hends⟩
  | ask r next ih =>
    rw [ask_bind] at hends
    cases hends with
    | ask hanswer hnext =>
      obtain ⟨first, rest, a, mid, rfl, hfirst, hrest⟩ := ih _ hnext
      exact ⟨r :: first, rest, a, mid, rfl, .ask hanswer hfirst, hrest⟩

/-- The clock does not go back in any of the ends, by induction on the end. -/
theorem Ends.clock_le {p : Program α} {a : α} (hends : p.Ends h asked a last) :
    h.clock ≤ last.clock := by
  induction hends with
  | done => exact Int.le_refl _
  | ask hanswer _ ih => exact Int.le_trans hanswer.clock_le ih

theorem Ends.folder_eq {p : Program α} {a : α} (hends : p.Ends h asked a last) :
    last.folder = h.folder := by
  induction hends with
  | done => rfl
  | ask hanswer _ ih => exact ih.trans hanswer.folder_eq

theorem Ends.files_eq {p : Program α} {a : α} (hends : p.Ends h asked a last)
    (hp : p.Asks Request.leavesFiles) : last.files = h.files := by
  induction hends with
  | done => rfl
  | ask hanswer _ ih => exact (ih (hp.2 _)).trans (hanswer.files_eq hp.1)

/-- What is asked for on the way to any end is in the tree of the program. -/
theorem Ends.of_asks {p : Program α} {a : α} {kind : Request → Bool}
    (hends : p.Ends h asked a last) (hp : p.Asks kind) : ∀ r ∈ asked, kind r = true := by
  induction hends with
  | done => simp
  | ask _ _ ih => exact List.forall_mem_cons.mpr ⟨hp.1, ih (hp.2 _)⟩

/-- A program that only asks questions ends as it does at any other time. -/
theorem Ends.of_isQuestion {p : Program α} {a : α} {cur start : Host} {kind : Request → Bool}
    (hends : p.Ends cur asked a last) (hp : p.Asks kind)
    (hkind : ∀ r, kind r = true → r.isQuestion = true) (hcur : h.Agrees cur)
    (hstart : h.Agrees start) :
    a = (p.run start).1 ∧ h.Agrees last ∧ ∀ r ∈ asked, kind r = true := by
  induction hends generalizing start with
  | done a cur => exact ⟨rfl, hcur, by simp⟩
  | @ask r next cur after last x asked a hanswer _ ih =>
    obtain ⟨hx, hafter⟩ := hanswer.of_isQuestion (hkind r hp.1) hcur
    obtain ⟨hsame, hmid⟩ := hstart.perform (hkind r hp.1)
    obtain ⟨ha, hlast, hasked⟩ := ih (hp.2 x) hafter hmid
    rw [run_ask, hsame, ← hx]
    exact ⟨ha, hlast, List.forall_mem_cons.mpr ⟨hp.1, hasked⟩⟩

end Program

namespace Action

variable {ε ε' α β : Type} {h : Host}

/-- If an action ends with a value, something holds of it and of the host that is left. -/
def Yields (a : Action ε α) (h : Host) (ok : α → Host → Prop) : Prop :=
  ∀ asked x after, a.run.Ends h asked (.ok x) after → ok x after

variable {ok : α → Host → Prop}

theorem Yields.imp {a : Action ε α} {ok' : α → Host → Prop} (ha : a.Yields h ok)
    (hok : ∀ x after, ok x after → ok' x after) : a.Yields h ok' :=
  fun asked x after hends => hok x after (ha asked x after hends)

/-- The clock does not go back, and the working directory stays the same. -/
theorem Yields.later {a : Action ε α} (ha : a.Yields h ok) :
    a.Yields h fun x after => ok x after ∧ h.clock ≤ after.clock ∧ after.folder = h.folder :=
  fun asked x after hends => ⟨ha asked x after hends, hends.clock_le, hends.folder_eq⟩

/-- All that is known of an action about which nothing is known. -/
theorem yields_trivial (a : Action ε α) (h : Host) :
    a.Yields h fun _ after => h.clock ≤ after.clock ∧ after.folder = h.folder :=
  fun _ _ _ hends => ⟨hends.clock_le, hends.folder_eq⟩

theorem yields_pure {x : α} (hx : ok x h) : (pure x : Action ε α).Yields h ok := by
  rintro asked y after hends
  cases hends
  exact hx

theorem yields_throw (e : ε) : (throw e : Action ε α).Yields h ok := by
  rintro asked y after hends
  cases hends

/-- A request has to be looked at with all answers that are possible. -/
theorem yields_request {r : Request} {ok : r.Answer → Host → Prop}
    (hok : ∀ x after, h.Answers r x after → ok x after) :
    (request r : Action ε r.Answer).Yields h ok := by
  rintro asked x after hends
  cases hends with
  | ask hanswer hnext =>
    cases hnext
    exact hok _ _ hanswer

/-- A question is answered as the host answers it, and changes nothing. -/
theorem yields_question {r : Request} (hr : r.isQuestion = true) :
    (request r : Action ε r.Answer).Yields h fun x after =>
      x = (h.answer r).1 ∧ h.Agrees after :=
  yields_request fun _ _ hanswer => hanswer.of_isQuestion hr (.refl h)

/-- The second of two actions is looked at on each host on which the first can end with a value. -/
theorem Yields.bind {a : Action ε α} {f : α → Action ε β} {ok : β → Host → Prop}
    (ha : a.Yields h fun x mid => (f x).Yields mid ok) : (a >>= f).Yields h ok := by
  intro asked y last hends
  obtain ⟨first, rest, result, mid, -, hfirst, hrest⟩ := Program.Ends.of_bind hends
  cases result with
  | error e => cases hrest
  | ok x => exact ha first x mid hfirst rest y last hrest

theorem Yields.mapError {a : Action ε α} {f : ε → ε'} (ha : a.Yields h ok) :
    (a.mapError f).Yields h ok := by
  intro asked x last hends
  obtain ⟨first, rest, result, mid, -, hfirst, hrest⟩ := Program.Ends.of_bind hends
  cases result with
  | error e => cases hrest
  | ok y =>
    cases hrest
    exact ha first x last hfirst

/-- What is done after the outcome of an action starts where the action ended. -/
theorem ends_of_outcome_bind {a : Action ε α} {f : Except ε α → Action ε' β} {y : Except ε' β}
    {last : Host} {asked : List Request} (hends : (a.outcome >>= f : Action ε' β).run.Ends h asked
      y last) : ∃ first rest x mid, asked = first ++ rest ∧ a.run.Ends h first x mid ∧
      (f x).run.Ends mid rest y last := by
  obtain ⟨first, rest, outcome, mid, rfl, hfirst, hrest⟩ := Program.Ends.of_bind hends
  obtain ⟨asked, none, x, ended, rfl, hasked, hnone⟩ := Program.Ends.of_bind hfirst
  cases hnone
  exact ⟨asked, rest, x, mid, by rw [List.append_nil], hasked, hrest⟩

/-- If an action is tried, what comes after it is looked at for a value and for each error. -/
theorem Yields.outcome_bind {a : Action ε α} {f : Except ε α → Action ε' β} {ok : β → Host → Prop}
    (ha : a.Yields h fun x mid => (f (.ok x)).Yields mid ok)
    (hfailed : ∀ e mid, (f (.error e)).Yields mid ok) :
    (a.outcome >>= f : Action ε' β).Yields h ok := by
  intro asked y last hends
  obtain ⟨first, rest, x, mid, -, hfirst, hrest⟩ := ends_of_outcome_bind hends
  cases x with
  | error e => exact hfailed e mid rest y last hrest
  | ok x => exact ha first x mid hfirst rest y last hrest

/-- What ends with an error has no value. -/
theorem yields_bind_throw (a : Action ε α) (e : α → ε) {ok : β → Host → Prop} :
    (a >>= fun x => (throw (e x) : Action ε β)).Yields h ok :=
  .bind fun _ x _ _ => yields_throw (e x)

/-- An action whose requests leave the files as they are leaves them as they are. -/
theorem Asks.yields_files {a : Action ε α} (ha : a.Asks Request.leavesFiles) (h : Host) :
    a.Yields h fun _ after => after.files = h.files ∧ after.folder = h.folder :=
  fun _ _ _ hends => ⟨hends.files_eq ha, hends.folder_eq⟩

/-- What is found out from questions. -/
theorem Finds.yields {a : Action ε α} {result : Except ε α} (ha : a.Finds h result)
    (hasks : a.Asks Request.isQuestion) :
    a.Yields h fun x after => result = .ok x ∧ h.Agrees after := by
  intro asked x after hends
  obtain ⟨hx, hafter, -⟩ := hends.of_isQuestion hasks (fun _ hr => hr) (.refl h) (.refl h)
  exact ⟨((ha h (.refl h)).1.symm.trans hx.symm), hafter⟩

/-- Questions whose answers can be found out are asked first, and nothing else is asked up to
there. -/
theorem Finds.ends_bind {a : Action ε α} {f : α → Action ε β} {x : α} {y : Except ε β}
    {cur last : Host} {asked : List Request} {kind : Request → Bool} (ha : a.Finds h (.ok x))
    (hkind : ∀ r, kind r = true → r.isQuestion = true) (hasks : a.Asks kind) (hcur : h.Agrees cur)
    (hends : (a >>= f).run.Ends cur asked y last) : ∃ first rest mid, asked = first ++ rest ∧
      (∀ r ∈ first, kind r = true) ∧ h.Agrees mid ∧ (f x).run.Ends mid rest y last := by
  obtain ⟨first, rest, result, mid, hasked, hfirst, hrest⟩ := Program.Ends.of_bind hends
  obtain ⟨hresult, hmid, hquestions⟩ := hfirst.of_isQuestion hasks hkind hcur hcur
  have hx : result = .ok x := hresult.trans (ha cur hcur).1
  subst hx
  exact ⟨first, rest, mid, hasked, hquestions, hmid, hrest⟩

/-! ## What is started -/

/-- Whatever is started while an action is carried out, something holds of its command line and of
the directory that it is started in. -/
def StartsOnly (a : Action ε α) (h : Host) (P : List String → Option String → Prop) : Prop :=
  ∀ asked x after, a.run.Ends h asked x after →
    ∀ line folder, .start line folder ∈ asked → P line folder

variable {P : List String → Option String → Prop}

theorem StartsOnly.imp {a : Action ε α} {Q : List String → Option String → Prop}
    (ha : a.StartsOnly h P) (hP : ∀ line folder, P line folder → Q line folder) :
    a.StartsOnly h Q :=
  fun asked x after hends line folder hstart =>
    hP line folder (ha asked x after hends line folder hstart)

theorem Asks.startsOnly {a : Action ε α} {kind : Request → Bool} (ha : a.Asks kind)
    (hkind : ∀ line folder, kind (.start line folder) = true → P line folder) (h : Host) :
    a.StartsOnly h P :=
  fun _ _ _ hends line folder hstart => hkind line folder (hends.of_asks ha _ hstart)

theorem Asks.startsOnly_of_toolless {a : Action ε α} (ha : a.Asks Request.isToolless) (h : Host) :
    a.StartsOnly h P :=
  ha.startsOnly (fun _ _ hstart => by cases hstart) h

/-- What two actions start is what the first starts, and what the second starts on each host on
which the first can end. -/
theorem StartsOnly.bind {a : Action ε α} {f : α → Action ε β} (ha : a.StartsOnly h P)
    (hf : ∀ x asked mid, a.run.Ends h asked (.ok x) mid → (f x).StartsOnly mid P) :
    (a >>= f).StartsOnly h P := by
  intro asked y last hends line folder hstart
  obtain ⟨first, rest, result, mid, rfl, hfirst, hrest⟩ := Program.Ends.of_bind hends
  rcases List.mem_append.mp hstart with hstart | hstart
  · exact ha first result mid hfirst line folder hstart
  · cases result with
    | error e =>
      cases hrest
      cases hstart
    | ok x => exact hf x first mid hfirst rest y last hrest line folder hstart

theorem StartsOnly.outcome_bind {a : Action ε α} {f : Except ε α → Action ε' β}
    (ha : a.StartsOnly h P) (hf : ∀ x mid, (f x).StartsOnly mid P) :
    (a.outcome >>= f : Action ε' β).StartsOnly h P := by
  intro asked y last hends line folder hstart
  obtain ⟨first, rest, x, mid, rfl, hfirst, hrest⟩ := ends_of_outcome_bind hends
  rcases List.mem_append.mp hstart with hstart | hstart
  · exact ha first x mid hfirst line folder hstart
  · exact hf x mid rest y last hrest line folder hstart

/-- What is started after questions whose answers can be found out. -/
theorem Finds.startsOnly_bind {a : Action ε α} {f : α → Action ε β} {result : Except ε α}
    {cur : Host} (ha : a.Finds h result) (hasks : a.Asks Request.isQuestion)
    (hcur : h.Agrees cur)
    (hf : ∀ x mid, result = .ok x → h.Agrees mid → (f x).StartsOnly mid P) :
    (a >>= f).StartsOnly cur P := by
  refine .bind (hasks.startsOnly (fun _ _ hstart => by cases hstart) cur) fun x asked mid hends => ?_
  obtain ⟨hx, hmid, -⟩ := hends.of_isQuestion hasks (fun _ hr => hr) hcur hcur
  exact hf x mid ((ha cur hcur).1.symm.trans hx.symm) hmid

end Action

end MethodMacros
