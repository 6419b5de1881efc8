import LiveConfig.Proofs.Store.Journal
/-!
The calls of a tick, in order.

Every job of the tick leaves one entry, and one more if it failed: the report of its error, to the
handler that is in force when the job is done. So the entries of a tick are those of its jobs, one
after the other, up to the first panic.
-/

set_option autoImplicit false

namespace LiveConfig

variable {V : Vocabulary} {σ : Type}

/-- Who is told of an error: the handler in force, or the log if there is none. -/
def World.reporting (w : World V σ) (e : StoreError) : Asked V :=
  match w.store.registry.handler with
  | some k => .handle k e
  | none => .note (.reloadFailed w.store.path e.message)

/-- The report that a call asks for: an updater that failed is reported under its name. -/
def Host.due? (h : Host V σ) (c : HostCall V σ) : Option (Asked V) :=
  match c.asked, c.ended with
  | .run (.update u), .error reason =>
      some (c.left.reporting (.update (h.nameOf u c.left) reason))
  | _, _ => none

/-- The result of a tick that only had to report. -/
def Outcome.counted (ended : Outcome String Unit) (n : Nat) : Except Panic Nat :=
  match ended with
  | .panic message => .error ⟨message⟩
  | .ok _ | .error _ => .ok n

/-- The calls of jobs and how they ended. Every failure is reported at once. If nothing panics all
jobs run and the failures are counted, and otherwise the panic is the end of it. -/
structure Host.Ticked (h : Host V σ) (jobs : List (TickJob V)) (calls : List (HostCall V σ))
    (result : Except Panic Nat) : Prop where
  reported : calls.map HostCall.asked =
    (calls.filter (·.job?.isSome)).flatMap fun c => c.asked :: (h.due? c).toList
  complete : ∀ n, result = .ok n → calls.filterMap HostCall.job? = jobs ∧
    (∀ c ∈ calls, c.panic? = none) ∧ n = calls.countP HostCall.failed
  cut : ∀ p, result = .error p → calls.filterMap HostCall.job? <+: jobs ∧
    ∃ before last, calls = before ++ [last] ∧ last.panic? = some p ∧
      ∀ c ∈ before, c.panic? = none

/-- The calls of one job and how it ended. -/
inductive Host.Did (h : Host V σ) (job : TickJob V) :
    List (HostCall V σ) → Except Panic Bool → Prop
  | passed (left : World V σ) : Did h job [⟨.run job, .ok (), left⟩] (.ok false)
  | panicked (message : String) (left : World V σ) :
      Did h job [⟨.run job, .panic message, left⟩] (.error ⟨message⟩)
  | reported {u : V.Updater} (reason : String) (left last : World V σ) : job = .update u →
      Did h job [⟨.run job, .error reason, left⟩,
        ⟨left.reporting (.update (h.nameOf u left) reason), .ok (), last⟩] (.ok true)
  | lost {u : V.Updater} (reason message : String) (left last : World V σ) : job = .update u →
      Did h job [⟨.run job, .error reason, left⟩,
        ⟨left.reporting (.update (h.nameOf u left) reason), .panic message, last⟩]
        (.error ⟨message⟩)

namespace Host

variable {h : Host V σ} {job : TickJob V} {jobs : List (TickJob V)}
  {calls later : List (HostCall V σ)}

theorem job?_reporting (w last : World V σ) (e : StoreError) (ended : Outcome String Unit) :
    (⟨w.reporting e, ended, last⟩ : HostCall V σ).job? = none := by
  cases hhandler : w.store.registry.handler <;> simp [HostCall.job?, World.reporting, hhandler]

namespace Did

theorem asked {result : Except Panic Bool} (hd : Did h job calls result) :
    calls.map HostCall.asked =
      (calls.filter (·.job?.isSome)).flatMap fun c => c.asked :: (h.due? c).toList := by
  cases hd with
  | passed left | panicked message left => cases job <;> rfl
  | @reported u reason left last hu | @lost u reason message left last hu =>
      subst hu
      rw [List.filter_cons_of_pos (by rfl), List.filter_cons_of_neg (by simp [job?_reporting])]
      rfl

theorem ran {result : Except Panic Bool} (hd : Did h job calls result) :
    calls.filterMap HostCall.job? = [job] := by
  cases hd with
  | passed left => rfl
  | panicked message left => rfl
  | reported reason left last hu | lost reason message left last hu =>
      rw [List.filterMap_cons_some (by rfl), List.filterMap_cons_none (job?_reporting ..)]
      rfl

theorem finished {failed : Bool} (hd : Did h job calls (.ok failed)) :
    (∀ c ∈ calls, c.panic? = none) ∧ failed.toNat = calls.countP HostCall.failed := by
  cases hd with
  | passed left => simp [HostCall.panic?, HostCall.failed]
  | reported reason left last hu =>
      subst hu
      refine ⟨by simp [HostCall.panic?], ?_⟩
      rw [List.countP_cons_of_pos (by rfl), List.countP_cons_of_neg (by simp [HostCall.failed])]
      rfl

theorem ended {p : Panic} (hd : Did h job calls (.error p)) :
    ∃ before last, calls = before ++ [last] ∧ last.panic? = some p ∧
      ∀ c ∈ before, c.panic? = none := by
  cases hd with
  | panicked message left => exact ⟨[], _, rfl, rfl, by simp⟩
  | lost reason message left last hu =>
      exact ⟨[⟨.run job, .error reason, left⟩], _, rfl, rfl, by simp [HostCall.panic?]⟩

end Did

namespace Ticked

theorem nil : Ticked h [] [] (.ok 0) where
  reported := rfl
  complete := by
    intro n hn
    exact ⟨rfl, by simp, (Except.ok.inj hn).symm⟩
  cut := by
    intro p hp
    exact absurd hp nofun

theorem stop {p : Panic} (hd : Did h job calls (.error p)) (rest : List (TickJob V)) :
    Ticked h (job :: rest) calls (.error p) where
  reported := hd.asked
  complete := nofun
  cut := by
    intro q hq
    obtain rfl := Except.error.inj hq
    rw [hd.ran]
    exact ⟨⟨rest, rfl⟩, hd.ended⟩

theorem next {failed : Bool} {result : Except Panic Nat} (hd : Did h job calls (.ok failed))
    (ht : Ticked h jobs later result) :
    Ticked h (job :: jobs) (calls ++ later) (result.map (· + failed.toNat)) where
  reported := by
    rw [List.map_append, List.filter_append, List.flatMap_append, hd.asked, ht.reported]
  complete := by
    intro n hn
    cases result with
    | error p => exact absurd hn nofun
    | ok count =>
        obtain ⟨hjobs, hcalm, hcount⟩ := ht.complete count rfl
        obtain ⟨hfirst, hfailed⟩ := hd.finished
        have hsum : count + failed.toNat = n := Except.ok.inj hn
        refine ⟨?_, ?_, ?_⟩
        · rw [List.filterMap_append, hd.ran, hjobs]
          rfl
        · intro c hc
          exact (List.mem_append.mp hc).elim (hfirst c) (hcalm c)
        · rw [List.countP_append]
          omega
  cut := by
    intro p hp
    cases result with
    | ok count => exact absurd hp nofun
    | error q =>
        obtain rfl : q = p := Except.error.inj hp
        obtain ⟨hjobs, before, last, hlater, hpanic, hcalm⟩ := ht.cut q rfl
        refine ⟨?_, calls ++ before, last, ?_, hpanic, ?_⟩
        · rw [List.filterMap_append, hd.ran]
          exact (List.prefix_append_right_inj [job]).mpr hjobs
        · rw [hlater, List.append_assoc]
        · intro c hc
          exact (List.mem_append.mp hc).elim (hd.finished.1 c) (hcalm c)

end Ticked

variable (h) (w : World V (Journal V σ))

theorem journaled_report (e : StoreError) : ∃ ended left,
    (h.journaled.report e w).2.calls = w.calls ++ [⟨w.plain.reporting e, ended, left⟩] ∧
      (ended = .ok () ∧ (h.journaled.report e w).1 = .ok () ∨
        ∃ p, ended = .panic p.message ∧ (h.journaled.report e w).1 = .error p) := by
  cases hhandler : w.store.registry.handler with
  | none =>
      have hasked : w.plain.reporting e = .note (.reloadFailed w.store.path e.message) := by
        simp [World.reporting, World.plain, hhandler]
      have hreport : h.journaled.report e w =
          (.ok (), h.journaled.note (.reloadFailed w.store.path e.message) w) := by
        simp [report, hhandler]
      rw [hreport, hasked]
      exact ⟨_, _, rfl, .inl ⟨rfl, rfl⟩⟩
  | some k =>
      have hasked : w.plain.reporting e = .handle k e := by
        simp [World.reporting, World.plain, hhandler]
      rcases hhandle : h.handle k e w.plain with ⟨result, left⟩
      have hreport : h.journaled.report e w =
          (result, w.entered (.handle k e) (.ofPanic result) left) := by
        simp [report, hhandler, journaled, hhandle]
      rw [hreport, hasked]
      cases result with
      | ok _ => exact ⟨_, _, rfl, .inl ⟨rfl, rfl⟩⟩
      | error p => exact ⟨_, _, rfl, .inr ⟨p, rfl, rfl⟩⟩

theorem journaled_runJob (job : TickJob V) : ∃ calls,
    (h.journaled.runJob job w).2.calls = w.calls ++ calls ∧
      Did h job calls (h.journaled.runJob job w).1 := by
  cases job with
  | hook k =>
      rcases hk : h.hook k w.plain with ⟨ended, left⟩
      simp only [runJob, journaled, hk]
      cases ended with
      | ok _ => exact ⟨_, rfl, .passed left⟩
      | error p => exact ⟨_, rfl, .panicked p.message left⟩
  | update u =>
      rcases hu : h.update u w.plain with ⟨ended, left⟩
      have hj : h.journaled.update u w = (ended, w.entered (.run (.update u)) ended left) := by
        simp [journaled, hu]
      cases ended with
      | ok _ =>
          simp only [runJob, runUpdater, hj]
          exact ⟨_, rfl, .passed left⟩
      | panic message =>
          simp only [runJob, runUpdater, hj]
          exact ⟨_, rfl, .panicked message left⟩
      | error reason =>
          obtain ⟨ended, last, hcalls, hended⟩ := h.journaled_report
            (w.entered (.run (.update u)) (.error reason) left)
            (.update (h.nameOf u left) reason)
          simp only [runJob, runUpdater, hj]
          refine ⟨[⟨.run (.update u), .error reason, left⟩,
            ⟨left.reporting (.update (h.nameOf u left) reason), ended, last⟩], ?_, ?_⟩
          · refine hcalls.trans ?_
            simp [World.entered, World.calls, World.plain]
          · change Did h (.update u) _ ((h.journaled.report (.update (h.nameOf u left) reason)
              (w.entered (.run (.update u)) (.error reason) left)).1.map fun _ => true)
            rcases hended with ⟨rfl, hresult⟩ | ⟨p, rfl, hresult⟩
            · rw [hresult]
              exact .reported reason left last rfl
            · rw [hresult]
              exact .lost reason p.message left last rfl

theorem journaled_runJobs (jobs : List (TickJob V)) : ∃ calls,
    (h.journaled.runJobs jobs w).2.calls = w.calls ++ calls ∧
      Ticked h jobs calls (h.journaled.runJobs jobs w).1 := by
  induction jobs generalizing w with
  | nil => exact ⟨[], (List.append_nil _).symm, .nil⟩
  | cons job rest ih =>
      obtain ⟨first, hfirst, hdid⟩ := h.journaled_runJob w job
      rcases hrun : h.journaled.runJob job w with ⟨ended, w₁⟩
      rw [hrun] at hfirst hdid
      cases ended with
      | error p =>
          simp only [runJobs, hrun]
          exact ⟨first, hfirst, .stop hdid rest⟩
      | ok failed =>
          obtain ⟨later, hlater, hticked⟩ := ih w₁
          simp only [runJobs, hrun]
          refine ⟨first ++ later, ?_, .next hdid hticked⟩
          rw [hlater, hfirst, List.append_assoc]

/-- The calls of a tick, by how its load ends. -/
theorem journaled_reload : ∃ calls, (h.journaled.reload w).2.calls = w.calls ++ calls ∧
    (∀ m, (h.journaled.load w).1 = .panic m →
      calls = [] ∧ (h.journaled.reload w).1 = .error ⟨m⟩) ∧
    (∀ e, (h.journaled.load w).1 = .error e → ∃ ended left,
      calls = [⟨(h.journaled.load w).2.plain.reporting (.load e), ended, left⟩] ∧
        (h.journaled.reload w).1 = ended.counted 1) ∧
    ((h.journaled.load w).1 = .ok () →
      h.Ticked (h.journaled.load w).2.store.registry.jobs calls (h.journaled.reload w).1) := by
  have hcalls := h.calls_load w
  rcases hload : h.journaled.load w with ⟨loaded, w₁⟩
  rw [hload] at hcalls
  cases loaded with
  | panic m =>
      have hreload : h.journaled.reload w = (.error ⟨m⟩, w₁) := by simp [reload, hload]
      rw [hreload]
      refine ⟨[], ?_, ?_, fun _ he => ?_, fun hok => ?_⟩
      · rw [List.append_nil]
        exact hcalls
      · intro m' hm
        obtain rfl := Outcome.panic.inj hm
        exact ⟨rfl, rfl⟩
      · cases he
      · cases hok
  | error e =>
      obtain ⟨ended, left, hreport, hended⟩ := h.journaled_report w₁ (.load e)
      have hreload : h.journaled.reload w = ((h.journaled.report (.load e) w₁).1.map fun _ => 1,
          (h.journaled.report (.load e) w₁).2) := by
        simp [reload, hload]
      rw [hreload]
      refine ⟨_, hreport.trans (by rw [hcalls]), fun _ hm => ?_, fun e' he => ?_, fun hok => ?_⟩
      · cases hm
      · obtain rfl := Outcome.error.inj he
        refine ⟨ended, left, rfl, ?_⟩
        rcases hended with ⟨rfl, hresult⟩ | ⟨p, rfl, hresult⟩
        · rw [hresult]
          rfl
        · rw [hresult]
          rfl
      · cases hok
  | ok _ =>
      have hreload : h.journaled.reload w = h.journaled.runJobs w₁.store.registry.jobs w₁ := by
        simp [reload, hload, runRegistered_eq]
      obtain ⟨calls, hjobs, hran⟩ := h.journaled_runJobs w₁ w₁.store.registry.jobs
      rw [hreload]
      refine ⟨calls, hjobs.trans (by rw [hcalls]), fun _ hm => ?_, fun _ he => ?_, fun _ => hran⟩
      · cases hm
      · cases he

end Host

end LiveConfig
