import LiveConfig.Proofs.Store.Following
import LiveConfig.Proofs.Store.WatchedSound
import Mathlib.Data.List.Induction
/-!
At most one watch of a store is alive, and every change that it sends is answered once.

What is alive follows from what holds of a watched store at all times, and where changes and ticks
come from follows from what a move can do. What waits for a dispatcher is a queue that only the
dispatcher shortens, so its moves bound how long a change waits.
-/

set_option autoImplicit false

namespace LiveConfig

theorem Watch.sends_raw (w : Watch) (now : Nat) (e : RawEvent) : w.sends now (.raw e) = [] := rfl

theorem Watch.receive_tick (w : Watch) (now : Nat) :
    (w.receive [(now, .tick)]).2 = [] ∨ ∃ c, (w.receive [(now, .tick)]).2 = [.changed c] := by
  simp only [Watch.receive, Debounce.run, Debounce.step, List.append_nil]
  unfold Debounce.flush
  split
  · exact .inl rfl
  · split
    · split
      · exact .inr ⟨_, rfl⟩
      · exact .inl rfl
    · exact .inl rfl

namespace WatchedStore

variable {V : Vocabulary} {σ : Type} {s s' : WatchedStore V} {k : Nat} {m : WatchMove}

/-! ### What is alive -/

theorem countP_eq_one {α : Type} {p : α → Bool} {l : List α} {x : α} (hx : l[k]? = some x)
    (hp : p x = true) (hothers : ∀ j y, l[j]? = some y → j ≠ k → p y = false) :
    l.countP p = 1 := by
  obtain ⟨hlt, rfl⟩ := List.getElem?_eq_some_iff.mp hx
  have hbefore : (l.take k).countP p = 0 := by
    rw [List.countP_eq_zero]
    intro y hy
    obtain ⟨j, hj, rfl⟩ := List.mem_take_iff_getElem.mp hy
    rw [hothers j _ (List.getElem?_eq_getElem (by omega)) (by omega)]
    exact Bool.false_ne_true
  have hafter : (l.drop (k + 1)).countP p = 0 := by
    rw [List.countP_eq_zero]
    intro y hy
    obtain ⟨j, hj, rfl⟩ := List.mem_drop_iff_getElem.mp hy
    rw [hothers (k + 1 + j) _ (List.getElem?_eq_getElem (by omega)) (by omega)]
    exact Bool.false_ne_true
  rw [← List.take_append_drop k l, List.drop_eq_getElem_cons hlt, List.countP_append, hbefore,
    List.countP_cons, hafter, hp, if_pos rfl]

theorem Sound.countP_eq (h : Sound s) {p : WatchTasks → Bool} (hover : ∀ t, t.Over → p t = false)
    (halive : ∀ t, t.Alive s.store → p t = true) :
    s.tasks.countP p = if s.store.isWatching then 1 else 0 := by
  rw [h.isWatching]
  cases hforce : s.inForce with
  | none =>
      refine List.countP_eq_zero.mpr fun t ht => ?_
      obtain ⟨j, htask⟩ := List.getElem?_of_mem ht
      rw [hover t (h.ended j t htask (by simp [hforce]))]
      exact Bool.false_ne_true
  | some k =>
      obtain ⟨t, htask, hlive⟩ := h.alive k hforce
      refine countP_eq_one htask (halive t hlive) fun j u hu hne => ?_
      exact hover u (h.ended j u hu (by simpa [hforce] using Ne.symm hne))

theorem Sound.dispatchers_eq (h : Sound s) :
    s.dispatchers = if s.store.isWatching then 1 else 0 :=
  h.countP_eq (fun _ hover => hover.serving) fun _ halive => halive.serving

theorem Sound.workers_eq (h : Sound s) : s.workers = if s.store.isWatching then 1 else 0 :=
  h.countP_eq (fun _ hover => hover.working) fun _ halive => halive.working

theorem Step.standing (hstep : Step s m s') (h : s.inForce.isSome ↔ Standing s.calls) :
    s'.inForce.isSome ↔ Standing s'.calls := by
  cases hstep with
  | failed a e hfails =>
      rw [standing_failed]
      exact h
  | started a w hstarts => exact iff_of_true rfl (standing_started s.calls)
  | closed m hcloses =>
      refine iff_of_false ?_ (not_standing_closed s.calls)
      simp [inForce_stop]
  | acted | waited | worked | finished | received | idle => exact h

theorem isWatching_iff_standing (store : Store V) (files : FileTree) (room : Nat)
    (moves : List WatchMove) :
    ((start store files room).after moves).store.isWatching = true ↔
      Standing ((start store files room).after moves).calls := by
  have hsound : Sound ((start store files room).after moves) :=
    (Sound.start store files room).after moves
  rw [hsound.isWatching]
  refine (Sound.start store files room).induction
    (P := fun s => s.inForce.isSome ↔ Standing s.calls)
    (fun _ _ _ _ hstep => hstep.standing) ?_ moves
  refine iff_of_false Bool.false_ne_true ?_
  rintro ⟨before, after, heq, -⟩
  simp [start] at heq

/-! ### Calls -/

theorem watch_ok_iff (s : WatchedStore V) (a : WatchAttempt) :
    (s.watch a).1 = .ok () ↔ ∃ w, s.Starts a w := by
  constructor
  · intro hok
    rcases s.watch_cases a with ⟨e, heq⟩ | ⟨w, hstarts, -⟩
    · rw [heq] at hok
      cases hok
    · exact ⟨w, hstarts⟩
  · rintro ⟨w, hwatching, hrefusal, hstart⟩
    simp [watch, hwatching, hrefusal, hstart]

theorem watch_of_error {a : WatchAttempt} {e : StoreError} (hfails : (s.watch a).1 = .error e) :
    (s.watch a).2 = s := by
  rcases s.watch_cases a with ⟨e', heq⟩ | ⟨w, -, heq⟩
  · rw [heq]
  · rw [heq] at hfails
    cases hfails

theorem watch_error_alreadyWatching (s : WatchedStore V) (a : WatchAttempt) :
    (s.watch a).1 = .error .alreadyWatching ↔ s.store.isWatching = true := by
  cases hwatching : s.store.isWatching with
  | true => simp [watch, hwatching]
  | false =>
      simp only [watch, hwatching, Bool.false_eq_true, if_false, iff_false]
      split <;> simp

theorem watch_fst (s : WatchedStore V) (a : WatchAttempt) :
    (s.watch a).1 =
      (s.store.startWatching a.hasRuntime s.files a.debounce).bind fun _ => a.answer := by
  cases hwatching : s.store.isWatching with
  | true => simp [Store.startWatching, watch, hwatching, Except.bind]
  | false =>
      cases hstart : Watch.start a.hasRuntime s.files s.store.path a.debounce with
      | error e => simp [Store.startWatching, watch, hwatching, hstart, Except.bind]
      | ok w =>
          cases hrefusal : a.refusal <;>
            simp [Store.startWatching, watch, hwatching, hstart, hrefusal, Except.bind,
              WatchAttempt.answer]

theorem startWatching_of_ok {a : WatchAttempt} (hok : (s.watch a).1 = .ok ()) :
    s.store.startWatching a.hasRuntime s.files a.debounce = .ok (s.watch a).2.store := by
  rcases s.watch_cases a with ⟨e, heq⟩ | ⟨w, ⟨hwatching, -, hstart⟩, heq⟩
  · rw [heq] at hok
    cases hok
  · simp [heq, opened, Store.startWatching, hwatching, hstart]

theorem Sound.watch_stop_ok (h : Sound s) (a : WatchAttempt) :
    (s.stop.watch a).1 = .ok () ↔ a.refusal = none ∧
      ∃ w, Watch.start a.hasRuntime s.files s.store.path a.debounce = .ok w := by
  have hfiles : s.stop.files = s.files := by
    unfold WatchedStore.stop
    split <;> rfl
  rw [watch_ok_iff]
  simp only [Starts, h.store_stop, hfiles]
  constructor
  · rintro ⟨w, -, hrefusal, hstart⟩
    exact ⟨hrefusal, w, hstart⟩
  · rintro ⟨hrefusal, w, hstart⟩
    exact ⟨w, rfl, hrefusal, hstart⟩

/-! ### Changes -/

theorem countP_mem_eq_count {ticks : List StartedTick}
    (hnodup : (ticks.flatMap (·.changes)).Nodup) (n : Nat) :
    ticks.countP (n ∈ ·.changes) = (ticks.flatMap (·.changes)).count n := by
  induction ticks with
  | nil => rfl
  | cons tick rest ih =>
      rw [List.flatMap_cons] at hnodup ⊢
      obtain ⟨hfirst, hrest, -⟩ := List.nodup_append.mp hnodup
      rw [List.countP_cons, List.count_append, ih hrest, hfirst.count, Nat.add_comm]
      simp

/-- A change that was sent waits, was overtaken or is answered by a tick, and it is one of these
once. -/
theorem Sound.fate (h : Sound s) {n : Nat} (hn : n < s.sent.length) :
    s.waiting.count n + s.overtaken.count n + s.ticks.countP (n ∈ ·.changes) = 1 := by
  have hnodup := h.accounted.nodup_iff.mp List.nodup_range
  have hticks : (s.ticks.flatMap (·.changes)).Nodup :=
    (List.nodup_append.mp (List.nodup_append.mp hnodup).1).2.1
  have hcount := h.accounted.count_eq n
  rw [List.count_range, if_pos hn, List.count_append, List.count_append,
    ← countP_mem_eq_count hticks] at hcount
  omega

theorem Step.ticks (hstep : Step s m s') : s'.ticks = s.ticks ∨
    ∃ k, m = .serve k ∧ s.inForce = some k ∧ s.waiting ≠ [] ∧
      s'.ticks = s.ticks ++ [⟨k, s.waiting.take (max 1 (s.waiting.length - s.room))⟩] := by
  cases hstep with
  | closed m hcloses => exact .inl (ticks_stop s)
  | received k t htask hbusy hforce hne =>
      rw [waiting_of hforce, inbox_of htask]
      exact .inr ⟨k, rfl, hforce, hne, rfl⟩
  | failed | started | acted | waited | worked | finished | idle => exact .inl rfl

/-- Changes are sent only where the clock of the watch in force ticks, and they are those that the
store alone would be told of. -/
theorem Step.sent (h : Sound s) (hstep : Step s m s') : s'.sent = s.sent ∨
    ∃ k, m = .ring k ∧ s.inForce = some k ∧ ∀ (host : Host V σ) (outside : σ),
      s'.sent = s.sent ++ ((host.receive ⟨s.store, outside⟩ [(s.now, .tick)]).2.filterMap
        WatchOutput.change?).map (⟨k, ·⟩) := by
  cases hstep with
  | closed m hcloses => exact .inl (sent_stop s)
  | worked m k t inputs input hinput htask hforce =>
      rcases hinput with ⟨e, -, rfl⟩ | ⟨rfl, rfl⟩
      · exact .inl (by simp [work, Watch.sends_raw])
      · refine .inr ⟨k, rfl, hforce, fun host outside => ?_⟩
        simp only [work, Watch.sends, Host.receive, (h.alive_of htask hforce).watch]
  | failed | started | acted | waited | finished | received | idle => exact .inl rfl

/-- Only a close overtakes what waits. -/
theorem Step.overtaken (hstep : Step s m s') : s'.overtaken = s.overtaken ∨
    m.closes = true ∧ s'.overtaken = s.overtaken ++ s.waiting := by
  cases hstep with
  | closed m hcloses => exact .inr ⟨hcloses, overtaken_stop s⟩
  | failed | started | acted | waited | worked | finished | received | idle => exact .inl rfl

theorem Sound.act_of_closed (h : Sound s) (hclosed : s.store.isWatching = false)
    (a : FileAction) : ∃ files, s.act a = { s with files } := by
  obtain ⟨files, events, heq⟩ := s.act_cases a
  have hforce : s.inForce = none := by simpa [h.isWatching] using hclosed
  have hsame : ∀ t ∈ s.tasks, t.hear events = id t := by
    intro t ht
    obtain ⟨k, htask⟩ := List.getElem?_of_mem ht
    exact (h.ended k t htask (by simp [hforce])).hear_eq events
  exact ⟨files, by rw [heq, List.map_congr_left hsame, List.map_id]⟩

/-! ### Answers -/

theorem after_append (s : WatchedStore V) (before after : List WatchMove) :
    s.after (before ++ after) = (s.after before).after after := List.foldl_append

theorem Step.room (hstep : Step s m s') : s'.room = s.room := by
  cases hstep with
  | closed m hcloses =>
      change s.stop.room = s.room
      unfold stop
      split <;> rfl
  | failed | started | acted | waited | worked | finished | received | idle => rfl

theorem Sound.changes_length (h : Sound s) (hticks : s.ticks = []) (moves : List WatchMove)
    (hroom : ∀ before after, moves = before ++ after → (s.after before).waiting.length ≤ s.room) :
    ∀ tick ∈ (s.after moves).ticks, tick.changes.length = 1 := by
  induction moves using List.reverseRecOn with
  | nil => simp [WatchedStore.after, hticks]
  | append_singleton earlier m ih =>
      have hearlier := ih fun before after heq =>
        hroom before (after ++ [m]) (by rw [heq, List.append_assoc])
      have hlast := hroom earlier [m] rfl
      have hsame : (s.after earlier).room = s.room :=
        h.induction (P := fun u => u.room = s.room)
          (fun _ _ _ _ hstep hroom => hstep.room.trans hroom) rfl earlier
      rw [after_append]
      intro tick htick
      rcases ((h.after earlier).step m).ticks with heq | ⟨k, -, -, hne, heq⟩
      · exact hearlier tick (heq ▸ htick)
      · rw [show (s.after earlier).after [m] = (s.after earlier).move m from rfl, heq] at htick
        rcases List.mem_append.mp htick with hold | hnew
        · exact hearlier tick hold
        · obtain rfl := List.mem_singleton.mp hnew
          have hpos := List.length_pos_iff.mpr hne
          simp only [List.length_take]
          omega

theorem Step.inForce (h : Sound s) (hstep : Step s m s') (hforce : s.inForce = some k)
    (hopen : m.closes = false) : s'.inForce = some k := by
  cases hstep with
  | started a w hstarts =>
      have hnone : s.inForce = none := by simpa [h.isWatching] using hstarts.1
      cases hforce.symm.trans hnone
  | closed m hcloses => cases hcloses.symm.trans hopen
  | failed | acted | waited | worked | finished | received | idle => exact hforce

theorem busy_put {t : WatchTasks} (htask : s.tasks[k]? = some t) (t' : WatchTasks) (j : Nat) :
    (s.put k t').busy j = if j = k then t'.busy else s.busy j := by
  have hlt : k < s.tasks.length := (List.getElem?_eq_some_iff.mp htask).1
  by_cases hj : j = k
  · simp [busy, put, hj, List.getElem?_set_self hlt]
  · simp [busy, put, hj, List.getElem?_set_ne (Ne.symm hj)]

theorem busy_hear (s : WatchedStore V) (files : FileTree) (events : List DirectoryEvent) :
    busy { s with files, tasks := s.tasks.map (·.hear events) } = s.busy := by
  funext k
  simp only [busy, List.getElem?_map]
  cases s.tasks[k]? with
  | none => rfl
  | some t =>
      obtain ⟨inputs, heq⟩ := hear_eq t events
      simp [heq]

theorem Step.waiting_append (h : Sound s) (hstep : Step s m s') (hforce : s.inForce = some k)
    (hopen : m.closes = false) (hserves : m.serves k = false) :
    (∃ more, s'.waiting = s.waiting ++ more) ∧ s'.busy k = s.busy k := by
  have hunchanged : ∀ {u : WatchedStore V}, u.waiting = s.waiting →
      ∃ more, u.waiting = s.waiting ++ more := fun heq => ⟨[], by rw [heq, List.append_nil]⟩
  cases hstep with
  | failed | waited | idle => exact ⟨hunchanged rfl, rfl⟩
  | started a w hstarts =>
      have hnone : s.inForce = none := by simpa [h.isWatching] using hstarts.1
      cases hforce.symm.trans hnone
  | closed m hcloses => cases hcloses.symm.trans hopen
  | acted a files events =>
      refine ⟨hunchanged ?_, congrFun (busy_hear s files events) k⟩
      rw [waiting, inbox_hear]
      rfl
  | worked m j t inputs input hinput htask hforce' =>
      obtain rfl : k = j := Option.some.inj (hforce.symm.trans hforce')
      have hserving := (h.alive_of htask hforce).serving
      refine ⟨⟨s.numbers (t.watch.sends s.now input), ?_⟩, ?_⟩
      · rw [waiting_of (s := s.work k _ input) hforce, waiting_of hforce,
          inbox_work htask hserving, if_pos rfl]
      · change (s.put k _).busy k = _
        rw [busy_put htask, if_pos rfl]
        simp [busy, htask]
  | finished j t htask hbusy =>
      have hne : k ≠ j := by
        rintro rfl
        simp [WatchMove.serves] at hserves
      refine ⟨hunchanged ?_, ?_⟩
      · rw [waiting_of (s := s.put j _) hforce, waiting_of hforce, inbox_put htask, if_neg hne]
      · rw [busy_put htask, if_neg hne]
  | received j t htask hbusy hforce' hinbox =>
      obtain rfl : k = j := Option.some.inj (hforce.symm.trans hforce')
      simp [WatchMove.serves] at hserves

theorem Step.serving (hstep : Step s m s') (hforce : s.inForce = some k)
    (hserves : m.serves k = true) :
    (s.busy k = true → s'.busy k = false ∧ s'.waiting = s.waiting ∧ s'.ticks = s.ticks) ∧
      (s.busy k = false → s.waiting ≠ [] → s'.busy k = true ∧
        s'.waiting = s.waiting.drop (s.due s.waiting) ∧
        s'.ticks = s.ticks ++ [⟨k, s.waiting.take (s.due s.waiting)⟩]) ∧
      (s.busy k = false → s.waiting = [] → s' = s) := by
  cases hstep with
  | failed | started | acted | waited => cases hserves
  | closed m hcloses => cases m <;> simp [WatchMove.closes, WatchMove.serves] at hcloses hserves
  | worked m j t inputs input hinput =>
      rcases hinput with ⟨e, rfl, -⟩ | ⟨rfl, -⟩ <;> cases hserves
  | finished j t htask hbusy =>
      obtain rfl : j = k := by simpa [WatchMove.serves] using hserves
      have hbusy' : s.busy j = true := by simp [busy, htask, hbusy]
      have hwaiting : (s.put j { t with busy := false }).waiting = s.waiting := by
        rw [waiting_of (s := s.put j _) hforce, waiting_of hforce, inbox_put htask, if_pos rfl,
          inbox_of htask]
      refine ⟨fun _ => ⟨by rw [busy_put htask, if_pos rfl], hwaiting, rfl⟩, ?_, ?_⟩ <;>
        exact fun hfree => Bool.noConfusion (hbusy'.symm.trans hfree)
  | received j t htask hbusy hforce' hinbox =>
      obtain rfl : j = k := by simpa [WatchMove.serves] using hserves
      have hfree : s.busy j = false := by simp [busy, htask, hbusy]
      rw [waiting_of hforce, inbox_of htask]
      refine ⟨fun hbusy' => Bool.noConfusion (hfree.symm.trans hbusy'), fun _ _ => ⟨?_, ?_, rfl⟩,
        fun _ hnil => absurd hnil hinbox⟩
      · change (s.put j _).busy j = true
        rw [busy_put htask, if_pos rfl]
      · change WatchedStore.waiting (s.put j _) = _
        rw [waiting_of (s := s.put j _) hforce, inbox_put htask, if_pos rfl]
  | idle m hopen hidle =>
      obtain ⟨hfree, hnil⟩ := hidle k hserves
      exact ⟨fun hbusy => Bool.noConfusion (hfree.symm.trans hbusy),
        fun _ hne => absurd (hnil hforce) hne, fun _ _ => rfl⟩

theorem Sound.mem_ticks_after (h : Sound s) (moves : List WatchMove) {tick : StartedTick}
    (htick : tick ∈ s.ticks) : tick ∈ (s.after moves).ticks := by
  refine h.induction (P := fun u => tick ∈ u.ticks) (fun u m u' _ hstep hin => ?_) htick moves
  rcases hstep.ticks with heq | ⟨k, -, -, -, heq⟩
  · exact heq ▸ hin
  · exact heq ▸ List.mem_append_left _ hin

/-- Of the first changes that wait, the dispatcher answers one with every second of its moves at
least, whatever is done in between: others only add behind them. -/
theorem Sound.answers (h : Sound s) (hforce : s.inForce = some k) {moves : List WatchMove}
    (hopen : ∀ m ∈ moves, m.closes = false) (first rest : List Nat)
    (hwaiting : s.waiting = first ++ rest)
    (hturns : 2 * first.length + (s.busy k).toNat ≤ moves.countP (·.serves k)) :
    ∀ n ∈ first, ∃ tick ∈ (s.after moves).ticks, n ∈ tick.changes := by
  induction moves generalizing s first rest with
  | nil =>
      rw [List.countP_nil] at hturns
      obtain rfl : first = [] := List.length_eq_zero_iff.mp (by omega)
      exact List.forall_mem_nil _
  | cons m later ih =>
      intro n hn
      have hstep := h.step m
      obtain ⟨hm, hlater⟩ := List.forall_mem_cons.mp hopen
      have hnext := h.of_step hstep
      have hkept := hstep.inForce h hforce hm
      rw [List.countP_cons] at hturns
      cases hserves : m.serves k with
      | false =>
          obtain ⟨⟨more, hmore⟩, hbusy⟩ := hstep.waiting_append h hforce hm hserves
          refine ih hnext hkept hlater first (rest ++ more) ?_ ?_ n hn
          · rw [hmore, hwaiting, List.append_assoc]
          · simpa [hserves, hbusy] using hturns
      | true =>
          rw [hserves, if_pos rfl] at hturns
          obtain ⟨hends, hstarts, -⟩ := hstep.serving hforce hserves
          cases hbusy : s.busy k with
          | true =>
              obtain ⟨hdone, hsame, -⟩ := hends hbusy
              refine ih hnext hkept hlater first rest (hsame.trans hwaiting) ?_ n hn
              simp only [hbusy, hdone, Bool.toNat_true, Bool.toNat_false] at hturns ⊢
              omega
          | false =>
              have hne : s.waiting ≠ [] := by
                rw [hwaiting]
                exact List.append_ne_nil_of_left_ne_nil (List.ne_nil_of_mem hn) rest
              obtain ⟨hdone, hdrop, hticks⟩ := hstarts hbusy hne
              have hpos := s.due_pos s.waiting
              have hlength := List.length_pos_of_mem hn
              rw [hwaiting, List.drop_append] at hdrop
              rw [hwaiting, List.take_append] at hticks
              rw [hwaiting] at hpos
              rw [← List.take_append_drop (s.due (first ++ rest)) first] at hn
              rcases List.mem_append.mp hn with hnow | hthen
              · exact ⟨_, hnext.mem_ticks_after later (hticks ▸ List.mem_concat_self),
                  List.mem_append_left _ hnow⟩
              · refine ih hnext hkept hlater _ _ hdrop ?_ n hthen
                simp only [hbusy, hdone, List.length_drop, Bool.toNat_true, Bool.toNat_false]
                  at hturns ⊢
                omega

/-! ### A watch that nobody interrupts -/

/-- On a tick of the clock, and with no other moves in between, a watch sends what the store alone
is told, and starts a tick for each reload that the store alone takes. -/
def AsAlone (s : WatchedStore V) (k : Nat) (host : Host V σ) (outside : σ) : Prop :=
  let s' := s.after [.ring k, .serve k, .serve k]
  let w := host.receive ⟨s.store, outside⟩ [(s.now, .tick)]
  s'.waiting = [] ∧ s'.busy k = false ∧
    (w = (⟨s'.store, outside⟩, []) ∧ s'.ticks = s.ticks ∨
      ∃ c, w = (host.endTick (host.reload ⟨s'.store, outside⟩), [.changed c]) ∧
        s'.ticks = s.ticks ++ [⟨k, [s.sent.length]⟩])

theorem ring_eq {t : WatchTasks} (htask : s.tasks[k]? = some t) (hworking : t.working = true) :
    s.ring k = s.work k t .tick := by
  simp [ring, htask, hworking]

theorem store_serve (s : WatchedStore V) (k : Nat) : (s.serve k).store = s.store := by
  unfold serve
  split
  · rfl
  · split
    · rfl
    · split <;> rfl

theorem Sound.serve_one (h : Sound s) (hforce : s.inForce = some k) (hfree : s.busy k = false)
    {n : Nat} (hwaiting : s.waiting = [n]) :
    ((s.serve k).serve k).waiting = [] ∧ ((s.serve k).serve k).busy k = false ∧
      ((s.serve k).serve k).ticks = s.ticks ++ [⟨k, [n]⟩] := by
  have hserves : (WatchMove.serve k).serves k = true := by simp [WatchMove.serves]
  have hnext : Sound (s.serve k) := h.of_step (h.step_serve k)
  have hkept : (s.serve k).inForce = some k := (h.step_serve k).inForce h hforce rfl
  have hdue : [n].length ≤ s.due [n] := s.due_pos [n]
  obtain ⟨hbusy, hdrop, hticks⟩ :=
    ((h.step_serve k).serving hforce hserves).2.1 hfree (by simp [hwaiting])
  obtain ⟨hdone, hsame, hkeeps⟩ := ((hnext.step_serve k).serving hkept hserves).1 hbusy
  rw [hwaiting, List.drop_of_length_le hdue] at hdrop
  rw [hwaiting, List.take_of_length_le hdue] at hticks
  exact ⟨hsame.trans hdrop, hdone, hkeeps.trans hticks⟩

theorem Sound.asAlone (h : Sound s) (hforce : s.inForce = some k) (hwaiting : s.waiting = [])
    (hfree : s.busy k = false) (host : Host V σ) (outside : σ) : s.AsAlone k host outside := by
  obtain ⟨t, htask, hlive⟩ := h.alive k hforce
  have hring := ring_eq htask hlive.working
  have hsound : Sound (s.ring k) := h.of_step (h.step_ring k)
  have hkept : (s.ring k).inForce = some k := (h.step_ring k).inForce h hforce rfl
  have hfree' : (s.ring k).busy k = false :=
    ((h.step_ring k).waiting_append h hforce rfl rfl).2.trans hfree
  have hsent : (s.ring k).waiting = s.numbers (t.watch.sends s.now .tick) := by
    rw [waiting_of hkept, hring]
    have hinbox := inbox_work htask hlive.serving t.inputs .tick k
    rwa [← waiting_of hforce, hwaiting, if_pos rfl, List.nil_append] at hinbox
  have hstore : (s.ring k).store =
      { s.store with watch := some (t.watch.receive [(s.now, .tick)]).1 } := by
    simp [hring, WatchedStore.work, hforce]
  have hticks : (s.ring k).ticks = s.ticks := by
    rw [hring]
    rfl
  have hafter : s.after [.ring k, .serve k, .serve k] = ((s.ring k).serve k).serve k := rfl
  rcases t.watch.receive_tick s.now with hnone | ⟨c, hone⟩
  · rw [Watch.sends, hnone] at hsent
    have hsame : (s.ring k).serve k = s.ring k :=
      ((hsound.step_serve k).serving hkept (by simp [WatchMove.serves])).2.2 hfree' hsent
    simp only [AsAlone, hafter, hsame]
    refine ⟨hsent, hfree', .inl ⟨?_, hticks⟩⟩
    simp only [Host.receive, hlive.watch, hnone, List.foldl_nil, hstore]
  · rw [Watch.sends, hone] at hsent
    obtain ⟨hempty, hdone, hanswer⟩ := hsound.serve_one hkept hfree' hsent
    rw [hticks] at hanswer
    simp only [AsAlone, hafter]
    refine ⟨hempty, hdone, .inr ⟨c, ?_, hanswer⟩⟩
    simp only [Host.receive, hlive.watch, hone, List.foldl_cons, List.foldl_nil, store_serve,
      hstore, Following.answer_changed]

/-- A store that is watched and closed again and again, after any moves. While it is watched, which
is so from a call that succeeded to the next close, one dispatcher and one worker are alive, and
none else. A call comes out as it does for the store alone, unless the system refuses, and one that
fails leaves everything as it is. To close again does nothing, and a watch can be started after it.
Every change that was sent waits, was overtaken by a close or is answered by one tick, which the
dispatcher of the watch that sent it started; while the channel holds all that waits, a tick answers
one change. Changes are sent by the watch in force, as the store alone would be told of them, ticks
start in the watch in force, and only a close overtakes. What is done to files while the store is
not watched is told to nobody. What waits is answered unless a close comes first: two moves of the
dispatcher for each change are enough, whatever is done in between. A watch that nobody interrupts
starts a tick for each reload that the store alone takes. -/
theorem one_watch_alive (store : Store V) (files : FileTree) (room : Nat)
    (moves : List WatchMove) :
    let s := (start store files room).after moves
    ((s.dispatchers = if s.store.isWatching then 1 else 0) ∧
      (s.workers = if s.store.isWatching then 1 else 0) ∧
      (s.store.isWatching = true ↔ Standing s.calls)) ∧
    (∀ a, (s.watch a).1 =
        (s.store.startWatching a.hasRuntime s.files a.debounce).bind (fun _ => a.answer) ∧
      ((s.watch a).1 = .error .alreadyWatching ↔ s.store.isWatching = true) ∧
      (∀ e, (s.watch a).1 = .error e → (s.watch a).2 = s) ∧
      ((s.watch a).1 = .ok () →
        s.store.startWatching a.hasRuntime s.files a.debounce = .ok (s.watch a).2.store)) ∧
    (s.stop.stop = s.stop ∧ s.stop.store = s.store.stopWatching ∧
      ∀ a, (s.stop.watch a).1 = .ok () ↔ a.refusal = none ∧
        ∃ w, Watch.start a.hasRuntime s.files s.store.path a.debounce = .ok w) ∧
    ((∀ n < s.sent.length,
        s.waiting.count n + s.overtaken.count n + s.ticks.countP (n ∈ ·.changes) = 1) ∧
      (∀ tick ∈ s.ticks, tick.changes ≠ [] ∧
        ∀ n ∈ tick.changes, s.sent[n]?.map (·.watch) = some tick.watch) ∧
      ((∀ before after, moves = before ++ after →
          ((start store files room).after before).waiting.length ≤ room) →
        ∀ tick ∈ s.ticks, tick.changes.length = 1)) ∧
    (∀ m, ((s.move m).ticks = s.ticks ∨ ∃ k, m = .serve k ∧ s.inForce = some k ∧ s.waiting ≠ [] ∧
        (s.move m).ticks =
          s.ticks ++ [⟨k, s.waiting.take (max 1 (s.waiting.length - s.room))⟩]) ∧
      ((s.move m).sent = s.sent ∨ ∃ k, m = .ring k ∧ s.inForce = some k ∧
        ∀ (host : Host V σ) (outside : σ), (s.move m).sent = s.sent ++
          ((host.receive ⟨s.store, outside⟩ [(s.now, .tick)]).2.filterMap
            WatchOutput.change?).map (⟨k, ·⟩)) ∧
      ((s.move m).overtaken = s.overtaken ∨
        m.closes = true ∧ (s.move m).overtaken = s.overtaken ++ s.waiting)) ∧
    (s.inForce.isSome = s.store.isWatching ∧
      (s.store.isWatching = false → ∀ a, ∃ files, s.act a = { s with files })) ∧
    ∀ k, s.inForce = some k →
      (∀ later, (∀ m ∈ later, m.closes = false) →
        2 * s.waiting.length + 1 ≤ later.countP (·.serves k) →
        ∀ n ∈ s.waiting, ∃ tick ∈ (s.after later).ticks, n ∈ tick.changes) ∧
      (s.waiting = [] → s.busy k = false → ∀ (host : Host V σ) outside,
        s.AsAlone k host outside) := by
  intro s
  have h : Sound s := (Sound.start store files room).after moves
  refine ⟨⟨h.dispatchers_eq, h.workers_eq, isWatching_iff_standing store files room moves⟩,
    fun a => ⟨s.watch_fst a, s.watch_error_alreadyWatching a, fun _ => watch_of_error,
      startWatching_of_ok⟩,
    ⟨stop_of_none (inForce_stop s), h.store_stop, h.watch_stop_ok⟩,
    ⟨fun _ => h.fate, h.answered, (Sound.start store files room).changes_length rfl moves⟩,
    fun m => ⟨(h.step m).ticks, (h.step m).sent h, (h.step m).overtaken⟩,
    ⟨h.isWatching.symm, h.act_of_closed⟩, fun k hforce => ⟨fun later hopen hturns => ?_,
      fun hwaiting hfree => h.asAlone hforce hwaiting hfree⟩⟩
  refine h.answers hforce hopen s.waiting [] (List.append_nil _).symm ?_
  have hbusy : (s.busy k).toNat ≤ 1 := Bool.toNat_le _
  omega

private def bare : Store ⟨Empty, Empty, Empty, Empty⟩ where
  path := "/work/app.env"

private def write (text : String) : WatchMove := .act (.write "/work/app.env" text.toUTF8)

/-- The first watch is closed before its dispatcher has received the change that was sent, the file
is written while the store is not watched, and another watch is started. -/
private def again : List WatchMove :=
  [.watch {}, .watch {}, write "mode=old", .take 0, .take 0, .take 0, .take 0, .wait 100, .ring 0,
    .close, .closeWatch, .serve 0, write "mode=new", .watch { hasRuntime := false }, .watch {},
    write "mode=newer", .ring 0, .take 1, .take 1, .take 1, .take 1, .wait 100, .ring 1, .serve 0,
    .serve 1, .serve 1, .serve 1]

theorem one_watch_alive_again :
    let s := (start bare (.start ["work"]) 100).after again
    s.calls = [.started, .failed .alreadyWatching, .closed, .closed,
        .failed (.watch .noRuntime), .started] ∧
      s.sent.map (·.watch) = [0, 1] ∧ s.overtaken = [0] ∧ s.ticks = [⟨1, [1]⟩] ∧
      s.tasks.length = 2 ∧ s.dispatchers = 1 := by
  intro s
  have hcalls : s.calls = [.started, .failed .alreadyWatching, .closed, .closed,
      .failed (.watch .noRuntime), .started] := by decide +kernel
  obtain ⟨hdispatchers, -, hwatching⟩ :=
    (one_watch_alive (σ := Unit) bare (.start ["work"]) 100 again).1
  have hstanding : Standing s.calls := by
    rw [hcalls]
    exact standing_started
      [.started, .failed .alreadyWatching, .closed, .closed, .failed (.watch .noRuntime)]
  rw [if_pos (hwatching.mpr hstanding)] at hdispatchers
  exact ⟨hcalls, by decide +kernel, by decide +kernel, by decide +kernel, by decide +kernel,
    hdispatchers⟩

end WatchedStore

end LiveConfig
