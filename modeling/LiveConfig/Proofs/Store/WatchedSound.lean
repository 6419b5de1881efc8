import LiveConfig.Proofs.Store.Watched
import Mathlib.Data.List.Perm.Basic
/-!
What holds of a watched store at all times.

Nothing is left of a watch that is not in force, and the parts of the watch in force are all alive,
whatever was started, refused and closed before. Every change that was sent waits for the dispatcher
of the watch in force, was overtaken by a close, or is answered by a tick of the watch that sent it,
and it is only in one of these places and only once.
-/

set_option autoImplicit false

namespace LiveConfig

variable {V : Vocabulary}

/-- Nothing of the watch is alive, and nothing waits for it. -/
structure WatchTasks.Over (t : WatchTasks) : Prop where
  hearing : t.hearing = false
  working : t.working = false
  serving : t.serving = false
  inbox : t.inbox = []

/-- The parts of the watch are alive, and the store holds the watch as its worker has it. -/
structure WatchTasks.Alive (t : WatchTasks) (store : Store V) : Prop where
  working : t.working = true
  serving : t.serving = true
  watch : store.watch = some t.watch

theorem WatchTasks.over_release (t : WatchTasks) : t.release.Over := ⟨rfl, rfl, rfl, rfl⟩

theorem WatchTasks.Over.hear_eq {t : WatchTasks} (h : t.Over) (events : List DirectoryEvent) :
    t.hear events = t := by
  simp [hear, h.hearing]

theorem standing_started (calls : List WatchCall) : Standing (calls ++ [.started]) :=
  ⟨calls, [], rfl, List.not_mem_nil⟩

theorem not_standing_closed (calls : List WatchCall) : ¬ Standing (calls ++ [.closed]) := by
  rintro ⟨before, after, heq, hopen⟩
  rcases List.eq_nil_or_concat after with rfl | ⟨rest, last, rfl⟩
  · have hlast := congrArg List.getLast? heq
    simp at hlast
  · have hlast : (.closed : WatchCall) = last := by
      rw [List.concat_eq_append, ← List.cons_append, ← List.append_assoc] at heq
      exact List.singleton_inj.mp (List.append_inj' heq rfl).2
    exact hopen (by simp [hlast])

theorem standing_failed (calls : List WatchCall) (e : StoreError) :
    Standing (calls ++ [.failed e]) ↔ Standing calls := by
  constructor
  · rintro ⟨before, after, heq, hopen⟩
    rcases List.eq_nil_or_concat after with rfl | ⟨rest, last, rfl⟩
    · have hlast := congrArg List.getLast? heq
      simp at hlast
    · rw [List.concat_eq_append, ← List.cons_append, ← List.append_assoc] at heq
      exact ⟨before, rest, (List.append_inj' heq rfl).1, fun h => hopen (by simp [h])⟩
  · rintro ⟨before, after, rfl, hopen⟩
    exact ⟨before, after ++ [.failed e], by simp, by simpa using hopen⟩

namespace WatchedStore

variable {s : WatchedStore V} {k : Nat} {t : WatchTasks}

/-- What holds of a watched store at all times. -/
structure Sound (s : WatchedStore V) : Prop where
  ended : ∀ k t, s.tasks[k]? = some t → s.inForce ≠ some k → t.Over
  alive : ∀ k, s.inForce = some k → ∃ t, s.tasks[k]? = some t ∧ t.Alive s.store
  idle : s.inForce = none → s.store.watch = none
  /-- Every change that was sent is in one place, once. -/
  accounted : (List.range s.sent.length).Perm
    (s.waiting ++ s.ticks.flatMap (·.changes) ++ s.overtaken)
  /-- What waits for a dispatcher was sent by the worker of its watch. -/
  own : ∀ k, ∀ n ∈ s.inbox k, s.sent[n]?.map (·.watch) = some k
  answered : ∀ tick ∈ s.ticks,
    tick.changes ≠ [] ∧ ∀ n ∈ tick.changes, s.sent[n]?.map (·.watch) = some tick.watch

/-! ### Reading a sound store -/

theorem inbox_of (htask : s.tasks[k]? = some t) : s.inbox k = t.inbox := by simp [inbox, htask]

theorem waiting_of (hforce : s.inForce = some k) : s.waiting = s.inbox k := by
  simp [waiting, hforce]

theorem waiting_of_none (hforce : s.inForce = none) : s.waiting = [] := by
  simp [waiting, hforce]

namespace Sound

theorem isWatching (h : Sound s) : s.store.isWatching = s.inForce.isSome := by
  cases hforce : s.inForce with
  | none => simp [Store.isWatching, h.idle hforce]
  | some k =>
      obtain ⟨t, -, halive⟩ := h.alive k hforce
      simp [Store.isWatching, halive.watch]

theorem inForce_of (h : Sound s) (htask : s.tasks[k]? = some t) (hover : ¬ t.Over) :
    s.inForce = some k :=
  not_not.mp fun hne => hover (h.ended k t htask hne)

theorem alive_of (h : Sound s) (htask : s.tasks[k]? = some t) (hforce : s.inForce = some k) :
    t.Alive s.store := by
  obtain ⟨t', htask', halive⟩ := h.alive k hforce
  rwa [Option.some.inj (htask.symm.trans htask')]

end Sound

theorem Sound.record (h : Sound s) (calls : List WatchCall) : Sound { s with calls } :=
  ⟨h.ended, h.alive, h.idle, h.accounted, h.own, h.answered⟩

/-! ### Starting and ending a watch -/

def opened (s : WatchedStore V) (w : Watch) : WatchedStore V :=
  { s with
    store := { s.store with watch := some w }
    inForce := some s.tasks.length
    tasks := s.tasks ++ [{ watch := w, serving := true }] }

/-- Whether a call starts a watch: none is in force, the file can be watched, and the system lets
its directory be watched. -/
def Starts (s : WatchedStore V) (a : WatchAttempt) (w : Watch) : Prop :=
  s.store.isWatching = false ∧ a.refusal = none ∧
    Watch.start a.hasRuntime s.files s.store.path a.debounce = .ok w

theorem watch_cases (s : WatchedStore V) (a : WatchAttempt) :
    (∃ e, s.watch a = (.error e, s)) ∨ ∃ w, s.Starts a w ∧ s.watch a = (.ok (), s.opened w) := by
  cases hwatching : s.store.isWatching with
  | true => exact .inl ⟨.alreadyWatching, by simp [watch, hwatching]⟩
  | false =>
      rcases hstart : Watch.start a.hasRuntime s.files s.store.path a.debounce with e | w
      · exact .inl ⟨.watch e, by simp [watch, hwatching, hstart]⟩
      · cases hrefusal : a.refusal with
        | some message =>
            exact .inl ⟨.watch (.source message), by simp [watch, hwatching, hstart, hrefusal]⟩
        | none =>
            refine .inr ⟨w, ⟨hwatching, hrefusal, hstart⟩, ?_⟩
            simp [watch, hwatching, hstart, hrefusal, hold, spawnDispatcher, spawnWorker,
              List.modify_eq_set_getElem?, opened]

theorem tasks_opened {w : Watch} (htask : (s.opened w).tasks[k]? = some t) :
    s.tasks[k]? = some t ∨ k = s.tasks.length ∧ t = { watch := w, serving := true } := by
  rcases Nat.lt_trichotomy k s.tasks.length with hlt | rfl | hgt
  · exact .inl (by rwa [opened, List.getElem?_append_left hlt] at htask)
  · exact .inr ⟨rfl, by simpa [opened, eq_comm] using htask⟩
  · rw [List.getElem?_eq_none (by simp only [opened, List.length_append]; exact hgt)] at htask
    cases htask

theorem Sound.inbox_opened (h : Sound s) (hforce : s.inForce = none) (w : Watch) (k : Nat) :
    (s.opened w).inbox k = [] := by
  cases htask : (s.opened w).tasks[k]? with
  | none => simp [inbox, htask]
  | some t =>
      rw [inbox_of htask]
      rcases tasks_opened htask with hold | ⟨-, rfl⟩
      · exact (h.ended k t hold (by simp [hforce])).inbox
      · rfl

theorem Sound.opened (h : Sound s) (hforce : s.inForce = none) (w : Watch) :
    Sound (s.opened w) where
  ended k t htask hne := by
    rcases tasks_opened htask with hold | ⟨rfl, -⟩
    · exact h.ended k t hold (by simp [hforce])
    · exact absurd rfl hne
  alive k hk := by
    obtain rfl : s.tasks.length = k := Option.some.inj hk
    exact ⟨{ watch := w, serving := true }, by simp [WatchedStore.opened], rfl, rfl, rfl⟩
  idle hnone := by cases hnone
  accounted := by
    have hwaiting : (s.opened w).waiting = s.waiting := by
      rw [waiting_of_none hforce, waiting_of (k := s.tasks.length) rfl, h.inbox_opened hforce]
    rw [hwaiting]
    exact h.accounted
  own k n hn := by
    rw [h.inbox_opened hforce] at hn
    cases hn
  answered := h.answered

theorem stop_of_none (hforce : s.inForce = none) : s.stop = s := by simp [stop, hforce]

theorem inForce_stop (s : WatchedStore V) : s.stop.inForce = none := by
  cases hforce : s.inForce with
  | none => rw [stop_of_none hforce, hforce]
  | some k => simp [stop, hforce]

theorem overtaken_stop (s : WatchedStore V) : s.stop.overtaken = s.overtaken ++ s.waiting := by
  cases hforce : s.inForce with
  | none => rw [stop_of_none hforce, waiting_of_none hforce, List.append_nil]
  | some k => simp [stop, hforce, waiting_of hforce]

theorem sent_stop (s : WatchedStore V) : s.stop.sent = s.sent := by
  unfold stop
  split <;> rfl

theorem ticks_stop (s : WatchedStore V) : s.stop.ticks = s.ticks := by
  unfold stop
  split <;> rfl

theorem Sound.over_stop (h : Sound s) (htask : s.stop.tasks[k]? = some t) : t.Over := by
  cases hforce : s.inForce with
  | none =>
      rw [stop_of_none hforce] at htask
      exact h.ended k t htask (by simp [hforce])
  | some j =>
      simp only [WatchedStore.stop, hforce, List.getElem?_modify, Option.map_eq_map,
        Option.map_eq_some_iff] at htask
      obtain ⟨t', htask', rfl⟩ := htask
      split
      · exact t'.over_release
      · exact h.ended k t' htask' (by simpa [hforce] using ‹_›)

theorem Sound.store_stop (h : Sound s) : s.stop.store = s.store.stopWatching := by
  cases hforce : s.inForce with
  | none => simp [stop_of_none hforce, Store.stopWatching, ← h.idle hforce]
  | some k => simp [WatchedStore.stop, hforce]

theorem Sound.stop (h : Sound s) : Sound s.stop where
  ended _ _ htask _ := h.over_stop htask
  alive k hforce := by
    rw [inForce_stop] at hforce
    cases hforce
  idle _ := by
    rw [h.store_stop]
    rfl
  accounted := by
    rw [sent_stop, ticks_stop, overtaken_stop, waiting_of_none (inForce_stop s), List.nil_append]
    refine h.accounted.trans ?_
    rw [List.append_assoc, ← List.append_assoc (s.ticks.flatMap _)]
    exact List.perm_append_comm
  own k n hn := by
    cases htask : s.stop.tasks[k]? with
    | none => simp [inbox, htask] at hn
    | some t =>
        rw [inbox_of htask, (h.over_stop htask).inbox] at hn
        cases hn
  answered := by
    rw [ticks_stop, sent_stop]
    exact h.answered

/-! ### Others act on files -/

/-- The directory changes only what the worker was told. -/
theorem hear_eq (t : WatchTasks) (events : List DirectoryEvent) :
    ∃ inputs, t.hear events = { t with inputs } := by
  unfold WatchTasks.hear
  split
  · exact ⟨_, rfl⟩
  · exact ⟨t.inputs, rfl⟩

theorem act_cases (s : WatchedStore V) (a : FileAction) : ∃ files events,
    s.act a = { s with files, tasks := s.tasks.map (·.hear events) } := by
  unfold act
  split
  · refine ⟨s.files, [], ?_⟩
    have hsame : ∀ t ∈ s.tasks, t.hear [] = id t := by
      intro t _
      simp [WatchTasks.hear]
    rw [List.map_congr_left hsame, List.map_id]
  · exact ⟨_, _, rfl⟩

theorem getElem?_hear {events : List DirectoryEvent}
    (htask : (s.tasks.map (·.hear events))[k]? = some t) :
    ∃ t' inputs, s.tasks[k]? = some t' ∧ t = { t' with inputs } := by
  obtain ⟨t', htask', rfl⟩ := Option.map_eq_some_iff.mp (List.getElem?_map ▸ htask)
  obtain ⟨inputs, heq⟩ := hear_eq t' events
  exact ⟨t', inputs, htask', heq⟩

theorem inbox_hear (s : WatchedStore V) (files : FileTree) (events : List DirectoryEvent) :
    inbox { s with files, tasks := s.tasks.map (·.hear events) } = s.inbox := by
  funext k
  simp only [inbox, List.getElem?_map]
  cases s.tasks[k]? with
  | none => rfl
  | some t =>
      obtain ⟨inputs, heq⟩ := hear_eq t events
      simp [heq]

theorem Sound.hear (h : Sound s) (files : FileTree) (events : List DirectoryEvent) :
    Sound { s with files, tasks := s.tasks.map (·.hear events) } where
  ended k t htask hne := by
    obtain ⟨t', inputs, htask', rfl⟩ := getElem?_hear htask
    obtain ⟨hhearing, hworking, hserving, hinbox⟩ := h.ended k t' htask' hne
    exact ⟨hhearing, hworking, hserving, hinbox⟩
  alive k hforce := by
    obtain ⟨t, htask, hworking, hserving, hwatch⟩ := h.alive k hforce
    obtain ⟨inputs, heq⟩ := hear_eq t events
    refine ⟨{ t with inputs }, ?_, hworking, hserving, hwatch⟩
    rw [List.getElem?_map, htask, Option.map_some, heq]
  idle := h.idle
  accounted := by
    rw [waiting, inbox_hear]
    exact h.accounted
  own := by
    rw [inbox_hear]
    exact h.own
  answered := h.answered

/-! ### One watch at work -/

theorem inbox_put (htask : s.tasks[k]? = some t) (t' : WatchTasks) (j : Nat) :
    (s.put k t').inbox j = if j = k then t'.inbox else s.inbox j := by
  have hlt : k < s.tasks.length := (List.getElem?_eq_some_iff.mp htask).1
  split
  · rename_i heq
    simp [inbox, put, heq, List.getElem?_set_self hlt]
  · rename_i hne
    simp [inbox, put, List.getElem?_set_ne (Ne.symm hne)]

theorem Sound.over_put (h : Sound s) {t' : WatchTasks} (hover : s.inForce ≠ some k → t'.Over)
    {j : Nat} {u : WatchTasks} (hu : (s.put k t').tasks[j]? = some u) (hne : s.inForce ≠ some j) :
    u.Over := by
  rw [put, List.getElem?_set] at hu
  split at hu
  · rename_i heq
    split at hu
    · obtain rfl := Option.some.inj hu
      exact hover (heq ▸ hne)
    · cases hu
  · exact h.ended j u hu hne

/-- A dispatcher that goes on neither ends nor revives a part. -/
theorem Sound.alive_put (h : Sound s) (htask : s.tasks[k]? = some t) (inbox : List Nat)
    (busy : Bool) {j : Nat} (hforce : s.inForce = some j) :
    ∃ u, (s.put k { t with inbox, busy }).tasks[j]? = some u ∧ u.Alive s.store := by
  by_cases hj : j = k
  · subst hj
    obtain ⟨hworking, hserving, hwatch⟩ := h.alive_of htask hforce
    exact ⟨_, List.getElem?_set_self (List.getElem?_eq_some_iff.mp htask).1,
      hworking, hserving, hwatch⟩
  · obtain ⟨u, hu, halive⟩ := h.alive j hforce
    exact ⟨u, (List.getElem?_set_ne (Ne.symm hj)).trans hu, halive⟩

/-! #### The worker -/

theorem sent_append {more : List SentChange} {n : Nat}
    (hsent : s.sent[n]?.map (·.watch) = some k) :
    (s.sent ++ more)[n]?.map (·.watch) = some k := by
  obtain ⟨change, hn, rfl⟩ := Option.map_eq_some_iff.mp hsent
  obtain ⟨hlt, -⟩ := List.getElem?_eq_some_iff.mp hn
  rw [List.getElem?_append_left hlt, hn, Option.map_some]

theorem range_work (s : WatchedStore V) (k : Nat) (t : WatchTasks) (input : WatchInput) :
    List.range (s.work k t input).sent.length =
      List.range s.sent.length ++ s.numbers (t.watch.sends s.now input) := by
  have hlength : (s.work k t input).sent.length =
      s.sent.length + (t.watch.sends s.now input).length := by
    simp [work]
  rw [hlength, List.range_eq_range', List.range_eq_range', numbers,
    ← List.range'_append_1 (s := 0), Nat.zero_add]

theorem sent_work {input : WatchInput} {n : Nat}
    (hn : n ∈ s.numbers (t.watch.sends s.now input)) :
    (s.work k t input).sent[n]?.map (·.watch) = some k := by
  obtain ⟨hle, hlt⟩ := List.mem_range'_1.mp hn
  have hin : n - s.sent.length < (t.watch.sends s.now input).length := by omega
  simp [work, List.getElem?_append_right hle, List.getElem?_eq_getElem hin]

theorem inbox_work (htask : s.tasks[k]? = some t) (hserving : t.serving = true)
    (inputs : List RawEvent) (input : WatchInput) (j : Nat) :
    (s.work k { t with inputs } input).inbox j =
      s.inbox j ++ if j = k then s.numbers (t.watch.sends s.now input) else [] := by
  change (s.put k _).inbox j = _
  rw [inbox_put htask]
  by_cases hj : j = k
  · rw [if_pos hj, if_pos hj, hj, inbox_of htask]
    exact if_pos hserving
  · rw [if_neg hj, if_neg hj, List.append_nil]

private theorem perm_last_second (first second third last : List Nat) :
    (first ++ second ++ third ++ last).Perm (first ++ last ++ second ++ third) := by
  simp only [List.append_assoc]
  rw [← List.append_assoc second]
  exact List.perm_append_comm.append_left first

theorem Sound.work (h : Sound s) (htask : s.tasks[k]? = some t) (hforce : s.inForce = some k)
    (inputs : List RawEvent) (input : WatchInput) :
    Sound (s.work k { t with inputs } input) := by
  have hlive := h.alive_of htask hforce
  have hinbox := inbox_work htask hlive.serving inputs input
  refine
    { ended := fun j u hu hne => h.over_put (fun hother => absurd hforce hother) hu hne
      alive := fun j hj => ?_
      idle := fun hnone => by cases hforce.symm.trans hnone
      accounted := ?_
      own := fun j n hn => ?_
      answered := fun tick htick => ?_ }
  · obtain rfl : k = j := Option.some.inj (hforce.symm.trans hj)
    exact ⟨_, List.getElem?_set_self (List.getElem?_eq_some_iff.mp htask).1,
      hlive.working, hlive.serving, by simp [WatchedStore.work, hforce]⟩
  · have hbooks := h.accounted.append_right (s.numbers (t.watch.sends s.now input))
    rw [waiting_of hforce] at hbooks
    rw [waiting_of (s := s.work k _ input) hforce, hinbox, if_pos rfl, range_work]
    exact hbooks.trans (perm_last_second _ _ _ _)
  · rw [hinbox] at hn
    rcases List.mem_append.mp hn with hold | hnew
    · exact sent_append (h.own j n hold)
    · split at hnew
      · rename_i heq
        subst heq
        exact sent_work (t := { t with inputs }) hnew
      · cases hnew
  · obtain ⟨hne, hown⟩ := h.answered tick htick
    exact ⟨hne, fun n hn => sent_append (hown n hn)⟩

theorem Sound.inForce_of_working (h : Sound s) (htask : s.tasks[k]? = some t)
    (hworking : t.working = true) : s.inForce = some k :=
  h.inForce_of htask fun hover => Bool.noConfusion (hover.working.symm.trans hworking)

/-! #### The dispatcher -/

theorem due_pos (s : WatchedStore V) (inbox : List Nat) : 0 < s.due inbox := by
  unfold due
  omega

theorem Sound.finish (h : Sound s) (htask : s.tasks[k]? = some t) :
    Sound (s.put k { t with busy := false }) := by
  have hinbox : (s.put k { t with busy := false }).inbox = s.inbox := by
    funext j
    rw [inbox_put htask]
    split
    · rename_i heq
      rw [heq, inbox_of htask]
    · rfl
  refine
    { ended := fun j u hu hne => h.over_put (fun hother => ?_) hu hne
      alive := fun j hforce => h.alive_put htask t.inbox false hforce
      idle := h.idle
      accounted := ?_
      own := hinbox ▸ h.own
      answered := h.answered }
  · obtain ⟨hhearing, hworking, hserving, hempty⟩ := h.ended k t htask hother
    exact ⟨hhearing, hworking, hserving, hempty⟩
  · rw [waiting, hinbox]
    exact h.accounted

private theorem perm_first_third (front back second third : List Nat) :
    (front ++ back ++ second ++ third).Perm (back ++ (second ++ front) ++ third) := by
  refine List.Perm.append_right third ?_
  rw [List.append_assoc, ← List.append_assoc back]
  exact List.perm_append_comm

theorem Sound.receive (h : Sound s) (htask : s.tasks[k]? = some t) (hforce : s.inForce = some k)
    (hne : t.inbox ≠ []) :
    Sound { s.put k { t with inbox := t.inbox.drop (s.due t.inbox), busy := true } with
      ticks := s.ticks ++ [⟨k, t.inbox.take (s.due t.inbox)⟩] } := by
  have hown := h.own k
  rw [inbox_of htask] at hown
  refine
    { ended := fun j u hu hother => h.over_put (fun hover => absurd hforce hover) hu hother
      alive := fun j hj => h.alive_put htask _ true hj
      idle := h.idle
      accounted := ?_
      own := fun j n hn => ?_
      answered := fun tick htick => ?_ }
  · have hbooks := h.accounted
    rw [waiting_of hforce, inbox_of htask, ← List.take_append_drop (s.due t.inbox) t.inbox]
      at hbooks
    have hwaiting : WatchedStore.waiting
        (s.put k { t with inbox := t.inbox.drop (s.due t.inbox), busy := true }) =
        t.inbox.drop (s.due t.inbox) := by
      rw [waiting_of (s := s.put k _) hforce, inbox_put htask, if_pos rfl]
    change (List.range s.sent.length).Perm (WatchedStore.waiting (s.put k _) ++ _ ++ s.overtaken)
    rw [hwaiting, List.flatMap_append, List.flatMap_singleton]
    exact hbooks.trans (perm_first_third _ _ _ _)
  · change n ∈ (s.put k _).inbox j at hn
    rw [inbox_put htask] at hn
    split at hn
    · rename_i heq
      subst heq
      exact hown n (List.mem_of_mem_drop hn)
    · exact h.own j n hn
  · rcases List.mem_append.mp htick with hold | hnew
    · exact h.answered tick hold
    · obtain rfl := List.mem_singleton.mp hnew
      refine ⟨?_, fun n hn => hown n (List.mem_of_mem_take hn)⟩
      have hpos := s.due_pos t.inbox
      simp only [ne_eq, List.take_eq_nil_iff, hne, or_false]
      omega

/-! ### Any moves -/

/-- What a move can do to a sound store. -/
inductive Step (s : WatchedStore V) : WatchMove → WatchedStore V → Prop
  | failed (a : WatchAttempt) (e : StoreError) : (s.watch a).1 = .error e →
      Step s (.watch a) { s with calls := s.calls ++ [.failed e] }
  | started (a : WatchAttempt) (w : Watch) : s.Starts a w →
      Step s (.watch a) { s.opened w with calls := s.calls ++ [.started] }
  | closed (m : WatchMove) : m.closes = true →
      Step s m { s.stop with calls := s.calls ++ [.closed] }
  | acted (a : FileAction) (files : FileTree) (events : List DirectoryEvent) :
      Step s (.act a) { s with files, tasks := s.tasks.map (·.hear events) }
  | waited (time : Nat) : Step s (.wait time) { s with now := s.now + time }
  /-- The worker of the watch in force takes an input. -/
  | worked (m : WatchMove) (k : Nat) (t : WatchTasks) (inputs : List RawEvent)
      (input : WatchInput) : (∃ e, m = .take k ∧ input = .raw e) ∨ m = .ring k ∧ input = .tick →
      s.tasks[k]? = some t → s.inForce = some k → Step s m (s.work k { t with inputs } input)
  /-- A tick is over. -/
  | finished (k : Nat) (t : WatchTasks) : s.tasks[k]? = some t → t.busy = true →
      Step s (.serve k) (s.put k { t with busy := false })
  /-- The dispatcher of the watch in force receives, and a tick starts. -/
  | received (k : Nat) (t : WatchTasks) : s.tasks[k]? = some t → t.busy = false →
      s.inForce = some k → t.inbox ≠ [] →
      Step s (.serve k)
        { s.put k { t with inbox := t.inbox.drop (s.due t.inbox), busy := true } with
          ticks := s.ticks ++ [⟨k, t.inbox.take (s.due t.inbox)⟩] }
  | idle (m : WatchMove) : m.closes = false →
      (∀ k, m.serves k = true → s.busy k = false ∧ (s.inForce = some k → s.waiting = [])) →
      Step s m s

theorem Sound.step_take (h : Sound s) (k : Nat) : Step s (.take k) (s.take k) := by
  unfold WatchedStore.take
  cases htask : s.tasks[k]? with
  | none => exact .idle _ rfl (fun _ hk => by cases hk)
  | some t =>
      simp only
      split
      · rename_i e rest hworking hinputs
        exact .worked _ k t rest (.raw e) (.inl ⟨e, rfl, rfl⟩) htask
          (h.inForce_of_working htask hworking)
      · exact .idle _ rfl (fun _ hk => by cases hk)

theorem Sound.step_ring (h : Sound s) (k : Nat) : Step s (.ring k) (s.ring k) := by
  unfold WatchedStore.ring
  cases htask : s.tasks[k]? with
  | none => exact .idle _ rfl (fun _ hk => by cases hk)
  | some t =>
      simp only
      split
      · exact .worked _ k t t.inputs .tick (.inr ⟨rfl, rfl⟩) htask
          (h.inForce_of_working htask ‹_›)
      · exact .idle _ rfl (fun _ hk => by cases hk)

theorem Sound.step_serve (h : Sound s) (k : Nat) : Step s (.serve k) (s.serve k) := by
  unfold WatchedStore.serve
  cases htask : s.tasks[k]? with
  | none =>
      refine .idle _ rfl fun j hj => ?_
      obtain rfl : k = j := by simpa [WatchMove.serves] using hj
      refine ⟨by simp [busy, htask], fun hforce => ?_⟩
      simp [waiting_of hforce, inbox, htask]
  | some t =>
      simp only
      split
      · exact .finished k t htask ‹_›
      · split
        · rename_i hbusy hdue
          have hforce := h.inForce_of htask fun hover =>
            Bool.noConfusion (hover.serving.symm.trans hdue.1)
          exact .received k t htask (by simpa using hbusy) hforce hdue.2
        · rename_i hbusy hdue
          refine .idle _ rfl fun j hj => ?_
          obtain rfl : k = j := by simpa [WatchMove.serves] using hj
          refine ⟨by simpa [busy, htask] using hbusy, fun hforce => ?_⟩
          rw [waiting_of hforce, inbox_of htask]
          exact not_not.mp fun hne => hdue ⟨(h.alive_of htask hforce).serving, hne⟩

theorem Sound.step (h : Sound s) (m : WatchMove) : Step s m (s.move m) := by
  cases m with
  | watch a =>
      rcases s.watch_cases a with ⟨e, heq⟩ | ⟨w, hstarts, heq⟩
      · simp only [WatchedStore.move, heq]
        exact .failed a e (by rw [heq])
      · simp only [WatchedStore.move, heq]
        exact .started a w hstarts
  | closeWatch | close => exact .closed _ rfl
  | act a =>
      obtain ⟨files, events, heq⟩ := s.act_cases a
      simp only [WatchedStore.move, heq]
      exact .acted a files events
  | wait time => exact .waited time
  | take k => exact h.step_take k
  | ring k => exact h.step_ring k
  | serve k => exact h.step_serve k

theorem Sound.of_step (h : Sound s) {m : WatchMove} {s' : WatchedStore V} (hstep : Step s m s') :
    Sound s' := by
  cases hstep with
  | failed a e hfails => exact h.record _
  | started a w hstarts =>
      have hforce : s.inForce = none := by simpa [h.isWatching] using hstarts.1
      exact (h.opened hforce w).record _
  | closed m hcloses => exact h.stop.record _
  | acted a files events => exact h.hear files events
  | waited time => exact ⟨h.ended, h.alive, h.idle, h.accounted, h.own, h.answered⟩
  | worked m k t inputs input hworks htask hforce => exact h.work htask hforce inputs input
  | finished k t htask hbusy => exact h.finish htask
  | received k t htask hbusy hforce hne => exact h.receive htask hforce hne
  | idle m hcloses hserves => exact h

theorem Sound.start (store : Store V) (files : FileTree) (room : Nat) :
    Sound (start store files room) where
  ended k t htask _ := by cases htask
  alive k hforce := by cases hforce
  idle _ := rfl
  accounted := .nil
  own k n hn := by cases hn
  answered tick htick := by cases htick

theorem Sound.induction {P : WatchedStore V → Prop} (h : Sound s)
    (keeps : ∀ s m s', Sound s → Step s m s' → P s → P s') (first : P s)
    (moves : List WatchMove) : P (s.after moves) :=
  (after_induction (P := fun s => Sound s ∧ P s)
    (fun s m hs => ⟨hs.1.of_step (hs.1.step m), keeps s m _ hs.1 (hs.1.step m) hs.2⟩)
    ⟨h, first⟩ moves).2

theorem Sound.after (h : Sound s) (moves : List WatchMove) : Sound (s.after moves) :=
  after_induction (fun _ m hs => hs.of_step (hs.step m)) h moves

end WatchedStore

end LiveConfig
