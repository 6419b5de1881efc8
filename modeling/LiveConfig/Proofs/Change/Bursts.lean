import LiveConfig.Proofs.Change.Settling
import Mathlib.Data.List.Induction
/-!
Bursts, from the inputs of a debouncer alone.

What the inputs tell of the file falls into bursts. A burst is over with the first tick that finds
its latest occurrence old enough, and what it comes to is read off its occurrences: the path of the
first and the last kind that is not writing. Main statement: this is all that a debouncer ever
sends, but for the failures that it passes on.
-/

set_option autoImplicit false

namespace LiveConfig

/-- A change of the watched file, and the time at which it was told. -/
structure Occurrence where
  time : Nat
  change : Change
deriving DecidableEq, Repr

namespace WatchInput

def changes (name : String) : WatchInput → List Change
  | raw e => e.changes name
  | failure _ | tick => []

/-- Whether an input is a raw event that tells nothing of the file of a name. -/
def isIdle (name : String) : WatchInput → Bool
  | raw e => (e.changes name).isEmpty
  | failure _ | tick => false

def failure? : WatchInput → Option String
  | failure message => some message
  | raw _ | tick => none

end WatchInput

def WatchOutput.failed? : WatchOutput → Option String
  | failed message => some message
  | changed _ => none

/-- What inputs tell of the file of a name, in order. -/
def occurrences (name : String) (inputs : List (Nat × WatchInput)) : List Occurrence :=
  inputs.flatMap fun i => (i.2.changes name).map (⟨i.1, ·⟩)

/-- The last kind that is not writing; without one, all is writing. -/
def ChangeKind.lasting (kinds : List ChangeKind) : ChangeKind :=
  (kinds.filter (· ≠ .modify)).getLast?.getD .modify

def coalesced? (burst : List Occurrence) : Option Change :=
  burst.head?.map fun first =>
    ⟨first.change.path, ChangeKind.lasting (burst.map (·.change.kind))⟩

namespace Debounce

variable {d : Debounce} {name : String} {now : Nat} {p : Option Pending}
  {burst : List Occurrence} {inputs since earlier : List (Nat × WatchInput)}

/-- Whether a tick ends a burst: its latest occurrence is old enough. -/
def ends (d : Debounce) (now : Nat) (burst : List Occurrence) : Bool :=
  burst.getLast?.any fun latest => decide (latest.time + d.quiet ≤ now)

/-- No tick among the inputs ends the burst before it. -/
def Unflushed (d : Debounce) (name : String) (since : List (Nat × WatchInput)) : Prop :=
  ∀ k, (h : k < since.length) → since[k].2 = .tick →
    d.ends since[k].1 (occurrences name (since.take k)) = false

instance (d : Debounce) (name : String) (since : List (Nat × WatchInput)) :
    Decidable (d.Unflushed name since) :=
  inferInstanceAs (Decidable (∀ k, (h : k < since.length) → _))

/-- Nothing at all, or bursts one after the other, each with the tick that ends it. -/
inductive Flushed (d : Debounce) (name : String) : List (Nat × WatchInput) → Prop
  | start : Flushed d name []
  | flush {earlier since : List (Nat × WatchInput)} {now : Nat} :
      Flushed d name earlier → d.Unflushed name since →
      d.ends now (occurrences name since) = true →
      Flushed d name (earlier ++ since ++ [(now, .tick)])

def sends (d : Debounce) (name : String) :
    Option Pending → List (Nat × WatchInput) → List (Nat × WatchOutput)
  | _, [] => []
  | p, (now, input) :: rest =>
      (d.step name p now input).2.map (now, ·) ++ d.sends name (d.step name p now input).1 rest

/-! ### What is pending, from the burst -/

/-- What is pending after the occurrences of a burst. -/
def pendingOf (burst : List Occurrence) : Option Pending :=
  (coalesced? burst).bind fun change =>
    burst.getLast?.map fun latest => ⟨change, latest.time⟩

theorem lasting_concat (kinds : List ChangeKind) (kind : ChangeKind) :
    ChangeKind.lasting (kinds ++ [kind]) = (ChangeKind.lasting kinds).followedBy kind := by
  by_cases hkind : kind = .modify
  · have hsame : ChangeKind.lasting (kinds ++ [kind]) = ChangeKind.lasting kinds := by
      simp [ChangeKind.lasting, hkind]
    rw [hsame, hkind]
    cases ChangeKind.lasting kinds <;> rfl
  · have hlast : ChangeKind.lasting (kinds ++ [kind]) = kind := by
      simp [ChangeKind.lasting, hkind]
    have hjoin : some ((ChangeKind.lasting kinds).followedBy kind) = some kind :=
      ChangeKind.join_of_ne_modify hkind (some (ChangeKind.lasting kinds))
    rw [hlast, Option.some.inj hjoin]

theorem coalesced?_concat (first o : Occurrence) (rest : List Occurrence) :
    coalesced? (first :: rest ++ [o]) =
      some ⟨first.change.path,
        (ChangeKind.lasting ((first :: rest).map (·.change.kind))).followedBy o.change.kind⟩ := by
  rw [← lasting_concat]
  simp [coalesced?]

theorem record_pendingOf (now : Nat) (burst : List Occurrence) (c : Change) :
    record now (pendingOf burst) c = pendingOf (burst ++ [⟨now, c⟩]) := by
  cases burst with
  | nil =>
      have hkind : ChangeKind.lasting [c.kind] = c.kind := by
        cases h : c.kind <;> rfl
      simp [pendingOf, coalesced?, record, hkind]
  | cons first rest =>
      have hlast : (first :: rest).getLast? = some (rest.getLast?.getD first) :=
        List.getLast?_cons
      simp only [pendingOf, coalesced?_concat, hlast, List.getLast?_concat]
      rfl

theorem absorb_pendingOf (name : String) (now : Nat) (burst : List Occurrence) (e : RawEvent) :
    absorb name now (pendingOf burst) e =
      pendingOf (burst ++ (e.changes name).map (⟨now, ·⟩)) := by
  rw [absorb]
  induction e.changes name generalizing burst with
  | nil => simp
  | cons c rest ih =>
      rw [List.foldl_cons, record_pendingOf, ih, List.map_cons, List.append_assoc]
      rfl

def told? (d : Debounce) (now : Nat) (burst : List Occurrence) : Option Change :=
  (coalesced? burst).filter fun c => d.ends now burst && decide (c.kind ∈ d.listen)

theorem flush_pendingOf (d : Debounce) (now : Nat) (burst : List Occurrence) :
    d.flush now (pendingOf burst) =
      (if d.ends now burst then none else pendingOf burst,
        (d.told? now burst).toList.map .changed) := by
  cases burst with
  | nil => rfl
  | cons first rest =>
      have hlast : (first :: rest).getLast? = some (rest.getLast?.getD first) :=
        List.getLast?_cons
      have hready : ∀ change, d.isReady now ⟨change, (rest.getLast?.getD first).time⟩ =
          d.ends now (first :: rest) := by
        intro change
        simp [isReady, ends, hlast]
      have hpending : pendingOf (first :: rest) = some
          ⟨⟨first.change.path, ChangeKind.lasting ((first :: rest).map (·.change.kind))⟩,
            (rest.getLast?.getD first).time⟩ := by
        simp [pendingOf, coalesced?, hlast]
      simp only [hpending, flush, hready]
      cases hends : d.ends now (first :: rest) with
      | false => simp [told?, hends]
      | true =>
          simp only [told?, coalesced?, hends, List.head?_cons, Option.map_some, if_true,
            Bool.true_and, Option.filter]
          split <;> simp_all

/-! ### Histories -/

theorem occurrences_append (name : String) (a b : List (Nat × WatchInput)) :
    occurrences name (a ++ b) = occurrences name a ++ occurrences name b :=
  List.flatMap_append

theorem run_append (d : Debounce) (name : String) (p : Option Pending)
    (a b : List (Nat × WatchInput)) :
    (d.run name p (a ++ b)).1 = (d.run name (d.run name p a).1 b).1 := by
  induction a generalizing p with
  | nil => rfl
  | cons i rest ih => exact ih _

theorem sends_append (d : Debounce) (name : String) (p : Option Pending)
    (a b : List (Nat × WatchInput)) :
    d.sends name p (a ++ b) = d.sends name p a ++ d.sends name (d.run name p a).1 b := by
  induction a generalizing p with
  | nil => rfl
  | cons i rest ih =>
      rw [List.cons_append, sends, sends, ih, List.append_assoc]
      rfl

theorem map_snd_sends (d : Debounce) (name : String) (p : Option Pending)
    (inputs : List (Nat × WatchInput)) :
    (d.sends name p inputs).map Prod.snd = (d.run name p inputs).2 := by
  induction inputs generalizing p with
  | nil => rfl
  | cons i rest ih =>
      rw [sends, List.map_append, ih, List.map_map]
      simp [run, Function.comp_def]

theorem Unflushed.of_append {a b : List (Nat × WatchInput)} (h : d.Unflushed name (a ++ b)) :
    d.Unflushed name a := by
  intro k hk htick
  have hk' : k < (a ++ b).length := by
    rw [List.length_append]
    omega
  have hkept := h k hk'
  rw [List.getElem_append_left hk, List.take_append_of_le_length (Nat.le_of_lt hk)] at hkept
  exact hkept htick

theorem Unflushed.concat (h : d.Unflushed name since) {i : Nat × WatchInput}
    (hlast : i.2 = .tick → d.ends i.1 (occurrences name since) = false) :
    d.Unflushed name (since ++ [i]) := by
  intro k hk htick
  rw [List.length_append, List.length_singleton] at hk
  rcases Nat.lt_succ_iff_lt_or_eq.mp hk with hearlier | rfl
  · rw [List.getElem_append_left hearlier] at htick ⊢
    rw [List.take_append_of_le_length (Nat.le_of_lt hearlier)]
    exact h k hearlier htick
  · rw [List.getElem_concat_length rfl] at htick ⊢
    rw [List.take_left]
    exact hlast htick

theorem run_of_unflushed (h : d.Unflushed name since) :
    (d.run name none since).1 = pendingOf (occurrences name since) := by
  induction since using List.reverseRecOn with
  | nil => rfl
  | append_singleton since i ih =>
      obtain ⟨now, input⟩ := i
      rw [run_append, ih h.of_append, occurrences_append]
      cases input with
      | raw e =>
          change absorb name now _ e = _
          rw [absorb_pendingOf]
          simp [occurrences, WatchInput.changes]
      | failure message => simp [run, step, occurrences, WatchInput.changes]
      | tick =>
          have hends : d.ends now (occurrences name since) = false := by
            simpa using h since.length (by simp)
          change (d.flush now _).1 = _
          rw [flush_pendingOf, hends]
          simp [occurrences, WatchInput.changes]

theorem run_of_flushed (h : d.Flushed name earlier) : (d.run name none earlier).1 = none := by
  induction h with
  | start => rfl
  | flush _ hsince hends ih =>
      rw [run_append, run_append, ih, run_of_unflushed hsince]
      change (d.flush _ _).1 = _
      rw [flush_pendingOf, hends]
      rfl

theorem Unflushed.nil (d : Debounce) (name : String) : d.Unflushed name [] := nofun

theorem exists_flushed (d : Debounce) (name : String) (history : List (Nat × WatchInput)) :
    ∃ earlier since, history = earlier ++ since ∧ d.Flushed name earlier ∧
      d.Unflushed name since := by
  induction history using List.reverseRecOn with
  | nil => exact ⟨[], [], rfl, .start, .nil d name⟩
  | append_singleton history i ih =>
      obtain ⟨earlier, since, rfl, hearlier, hsince⟩ := ih
      obtain ⟨now, input⟩ := i
      by_cases hflush : input = .tick ∧ d.ends now (occurrences name since) = true
      · obtain ⟨rfl, hends⟩ := hflush
        exact ⟨earlier ++ since ++ [(now, .tick)], [], (List.append_nil _).symm,
          .flush hearlier hsince hends, .nil d name⟩
      · refine ⟨earlier, since ++ [(now, input)], List.append_assoc .., hearlier,
          hsince.concat fun htick => ?_⟩
        simpa [show input = .tick from htick] using hflush

/-- What is pending after a history is the burst since its last flush. -/
theorem run_of_flushed_append (hearlier : d.Flushed name earlier)
    (hsince : d.Unflushed name since) :
    (d.run name none (earlier ++ since)).1 = pendingOf (occurrences name since) := by
  rw [run_append, run_of_flushed hearlier, run_of_unflushed hsince]

theorem told?_eq_some_iff {c : Change} : d.told? now burst = some c ↔
    (∃ latest, burst.getLast? = some latest ∧ latest.time + d.quiet ≤ now) ∧
      coalesced? burst = some c ∧ c.kind ∈ d.listen := by
  have hends : d.ends now burst = true ↔
      ∃ latest, burst.getLast? = some latest ∧ latest.time + d.quiet ≤ now := by
    simp [ends, Option.any_eq_true]
  rw [told?, Option.filter_eq_some_iff, Bool.and_eq_true, hends, decide_eq_true_iff]
  tauto

theorem sends_one (d : Debounce) (name : String) (p : Option Pending) (i : Nat × WatchInput) :
    d.sends name p [i] = (d.step name p i.1 i.2).2.map (i.1, ·) :=
  List.append_nil _

/-! ### Inputs that are no part of a burst -/

theorem sends_filter_isIdle (d : Debounce) (name : String) (p : Option Pending)
    (inputs : List (Nat × WatchInput)) :
    d.sends name p (inputs.filter fun i => !i.2.isIdle name) = d.sends name p inputs := by
  induction inputs generalizing p with
  | nil => rfl
  | cons i rest ih =>
      obtain ⟨now, input⟩ := i
      cases hidle : input.isIdle name with
      | false =>
          rw [List.filter_cons_of_pos (by simp [hidle]), sends, sends, ih]
      | true =>
          cases input with
          | raw e =>
              have hnone : e.changes name = [] := List.isEmpty_iff.mp hidle
              have hstep : d.step name p now (.raw e) = (p, []) := by
                simp [step, absorb, hnone]
              rw [List.filter_cons_of_neg (by simp [hidle]), ih, sends, hstep]
              rfl
          | failure message | tick => exact absurd hidle Bool.false_ne_true

theorem failed?_of_flush {o : WatchOutput} (h : o ∈ (d.flush now p).2) : o.failed? = none := by
  rcases d.flush_cases now p with hstay | ⟨pending, -, hsent | ⟨hdropped, -⟩⟩
  · rw [hstay] at h
    cases h
  · rw [hsent] at h
    obtain rfl := List.mem_singleton.mp h
    rfl
  · rw [hdropped] at h
    cases h

theorem filterMap_failed?_sends (d : Debounce) (name : String) (p : Option Pending)
    (inputs : List (Nat × WatchInput)) :
    (d.sends name p inputs).filterMap (fun o => o.2.failed?.map (o.1, ·)) =
      inputs.filterMap fun i => i.2.failure?.map (i.1, ·) := by
  induction inputs generalizing p with
  | nil => rfl
  | cons i rest ih =>
      obtain ⟨now, input⟩ := i
      rw [sends, List.filterMap_append, ih]
      cases input with
      | raw e => rfl
      | failure message => rfl
      | tick =>
          have hnone : ((d.flush now p).2.map (now, ·)).filterMap
              (fun o => o.2.failed?.map (o.1, ·)) = [] := by
            refine List.filterMap_eq_nil_iff.mpr fun o ho => ?_
            obtain ⟨output, hmem, rfl⟩ := List.mem_map.mp ho
            simp [failed?_of_flush hmem]
          change ((d.flush now p).2.map (now, ·)).filterMap _ ++ _ = _
          rw [hnone]
          rfl

theorem sends_filter_failure? (d : Debounce) (name : String) (p : Option Pending)
    (inputs : List (Nat × WatchInput)) :
    d.sends name p (inputs.filter fun i => i.2.failure?.isNone) =
      (d.sends name p inputs).filter fun o => o.2.failed?.isNone := by
  induction inputs generalizing p with
  | nil => rfl
  | cons i rest ih =>
      obtain ⟨now, input⟩ := i
      rw [sends, List.filter_append, ← ih]
      cases input with
      | raw e => rfl
      | failure message => rfl
      | tick =>
          have hall : ((d.flush now p).2.map (now, ·)).filter (fun o => o.2.failed?.isNone) =
              (d.flush now p).2.map (now, ·) := by
            refine List.filter_eq_self.mpr fun o ho => ?_
            obtain ⟨output, hmem, rfl⟩ := List.mem_map.mp ho
            simp [failed?_of_flush hmem]
          change _ = ((d.flush now p).2.map (now, ·)).filter _ ++ _
          rw [hall]
          rfl

theorem mem_changes_iff {e : RawEvent} {c : Change} : c ∈ e.changes name ↔
    ∃ index, e.paths[index]? = some c.path ∧ Path.fileName? c.path = some name ∧
      e.kind.changeAt index = some c.kind := by
  obtain ⟨path, kind⟩ := c
  rw [RawEvent.changes, List.mem_filterMap]
  constructor
  · rintro ⟨⟨path', index⟩, hmem, hchange⟩
    rw [RawEvent.changeOf?] at hchange
    split_ifs at hchange with hname
    obtain ⟨kind', hkind, heq⟩ := Option.map_eq_some_iff.mp hchange
    obtain ⟨rfl, rfl⟩ := Change.mk.inj heq
    exact ⟨index, List.mem_zipIdx_iff_getElem?.mp hmem, hname, hkind⟩
  · rintro ⟨index, hpath, hname, hkind⟩
    refine ⟨(path, index), List.mem_zipIdx_iff_getElem?.mpr hpath, ?_⟩
    simp [RawEvent.changeOf?, hname, hkind]

/-- A debouncer sends what its bursts come to. With every history goes the burst since its last
flush, and a tick sends a change just when there is one and its latest occurrence is old enough: the
change that the burst comes to, if its kind is listened to. Whether it is or not, that tick is the
next flush. Nothing else sends changes; events that tell nothing of the file might as well be left
out; and failures are passed on one by one and are no matter of the bursts. -/
theorem sends_coalesced_bursts (d : Debounce) (name : String)
    (history : List (Nat × WatchInput)) :
    let sent := d.sends name none
    ((sent history).map Prod.snd = (d.run name none history).2 ∧
      (∀ (e : RawEvent) (c : Change), c ∈ e.changes name ↔
        ∃ index, e.paths[index]? = some c.path ∧ Path.fileName? c.path = some name ∧
          e.kind.changeAt index = some c.kind) ∧
      ∀ index, RawKind.changeAt (.rename .source) index = some .remove ∧
        RawKind.changeAt (.rename .target) index = some .create ∧
        RawKind.changeAt (.rename .both) index = some (if index = 0 then .remove else .create) ∧
        RawKind.changeAt .metadata index = none ∧ RawKind.changeAt .access index = none) ∧
    (∃ earlier since, history = earlier ++ since ∧ d.Flushed name earlier ∧
      d.Unflushed name since) ∧
    (∀ earlier since, history = earlier ++ since → d.Flushed name earlier →
      d.Unflushed name since →
      (∀ now, ∃ told : Option Change,
        sent (history ++ [(now, .tick)]) =
          sent history ++ told.toList.map (fun c => (now, .changed c)) ∧
        (∀ c, told = some c ↔
          (∃ latest, (occurrences name since).getLast? = some latest ∧
            latest.time + d.quiet ≤ now) ∧
          coalesced? (occurrences name since) = some c ∧ c.kind ∈ d.listen) ∧
        (d.ends now (occurrences name since) = true →
          (d.run name none (history ++ [(now, .tick)])).1 = none)) ∧
      (∀ now e, sent (history ++ [(now, .raw e)]) = sent history) ∧
      ∀ now message, sent (history ++ [(now, .failure message)]) =
        sent history ++ [(now, .failed message)]) ∧
    sent (history.filter fun i => !i.2.isIdle name) = sent history ∧
    (sent history).filterMap (fun o => o.2.failed?.map (o.1, ·)) =
      history.filterMap (fun i => i.2.failure?.map (i.1, ·)) ∧
    sent (history.filter fun i => i.2.failure?.isNone) =
      (sent history).filter fun o => o.2.failed?.isNone := by
  intro sent
  refine ⟨⟨map_snd_sends d name none history, fun e c => mem_changes_iff,
      fun index => ⟨rfl, rfl, rfl, rfl, rfl⟩⟩,
    exists_flushed d name history, ?_, sends_filter_isIdle d name none history,
    filterMap_failed?_sends d name none history, sends_filter_failure? d name none history⟩
  rintro earlier since rfl hearlier hsince
  have hpending := run_of_flushed_append hearlier hsince
  have hnext : ∀ i, sent (earlier ++ since ++ [i]) = sent (earlier ++ since) ++
      (d.step name (pendingOf (occurrences name since)) i.1 i.2).2.map (i.1, ·) := by
    intro i
    rw [← hpending, ← sends_one]
    exact sends_append d name none (earlier ++ since) [i]
  refine ⟨fun now => ⟨d.told? now (occurrences name since), ?_, fun c => told?_eq_some_iff, ?_⟩,
    ?_, fun now message => hnext (now, .failure message)⟩
  · rw [hnext, step, flush_pendingOf, List.map_map]
    rfl
  · intro hends
    exact run_of_flushed (.flush hearlier hsince hends)
  · intro now e
    rw [hnext]
    exact List.append_nil _

/-- The file is renamed away, created anew and written, and a source of events fails in between. -/
private def renamedAndWritten : List (Nat × WatchInput) :=
  [(0, .raw ⟨.rename .both, ["/work/app.env", "/work/old.env"]⟩),
    (5, .raw ⟨.create, ["/work/other.env", "/work/./app.env"]⟩), (10, .failure "lost"),
    (40, .raw ⟨.content, ["/work/app.env"]⟩), (120, .tick),
    (130, .raw ⟨.metadata, ["/work/app.env"]⟩)]

theorem sends_coalesced_bursts_renamed :
    ({} : Debounce).sends "app.env" none (renamedAndWritten ++ [(140, .tick)]) =
      [(10, .failed "lost"), (140, .changed ⟨"/work/app.env", .create⟩)] := by
  have unflushed : ({} : Debounce).Unflushed "app.env" renamedAndWritten := by decide
  obtain ⟨told, hsent, htold, -⟩ :=
    ((sends_coalesced_bursts {} "app.env" renamedAndWritten).2.2.1 [] _ rfl .start unflushed).1 140
  have hcreate : told = some ⟨"/work/app.env", .create⟩ :=
    (htold _).mpr ⟨⟨⟨40, "/work/app.env", .modify⟩, by decide⟩, by decide⟩
  rw [hsent, hcreate]
  decide

end Debounce

end LiveConfig
