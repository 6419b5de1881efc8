import LiveConfig.Proofs.Container.Leases
import LiveConfig.Proofs.Container.Recording
/-!
The books of a container.

Beside a container they have the list of the generations that are leased, one entry for every
lease, and they tie the counters of the slots, the phase of the container and the number of closes
of every object to that list. Every operation keeps the books right. One that leaves an object
without leases makes its close due first, and then closes it, unless there is no thread to do so.
-/

set_option autoImplicit false

namespace LiveConfig

variable {R C σ : Type}

namespace Container

/-- An object is spent when nobody leases it and a thread was there to close it after it was
replaced, or when it was current as its container closed for good. -/
def Spent (c : Container R C) (held : List Nat) (n : Nat) : Prop :=
  (1 ≤ n ∧ n < c.generation ∧ n ∉ held ∧ n ∉ c.stranded) ∨
    (n = c.generation ∧ c.phase = .closed)

instance (c : Container R C) (held : List Nat) (n : Nat) : Decidable (c.Spent held n) :=
  inferInstanceAs (Decidable (_ ∨ _))

/-- The books are right. `held` has the generation of every lease that is out, and `due` is the
object whose close comes next. -/
structure Accounted (held : List Nat) (due : Option Nat) (c : Container (Numbered R) C)
    (w : Recorded C σ) : Prop where
  made : w.made = c.generation
  built : 1 ≤ c.generation
  numbered : ∀ slot ∈ c.slots, slot.object.number = slot.generation
  older : ∀ slot ∈ c.superseded, 1 ≤ slot.generation ∧ slot.generation < c.generation
  distinct : (c.superseded.map Slot.generation).Nodup
  waiting : ∀ slot ∈ c.superseded, slot.leases ≠ 0
  counted : ∀ slot ∈ c.slots, slot.leases = held.count slot.generation
  known : ∀ g ∈ held, ∃ slot ∈ c.slots, slot.generation = g
  drained : c.isClosed = true → (c.phase = .closed ↔ c.leases = 0)
  stranded : c.stranded = w.stranded
  behind : ∀ n ∈ c.stranded, 1 ≤ n ∧ n < c.generation
  closes : ∀ n, w.closes n + (if due = some n then 1 else 0) = if c.Spent held n then 1 else 0

namespace Accounted

variable {held : List Nat} {due : Option Nat} {c : Container (Numbered R) C} {w w' : Recorded C σ}

theorem leases_pos (h : Accounted held due c w) {slot : Slot (Numbered R) C}
    (hslot : slot ∈ c.slots) (hg : slot.generation ∈ held) : 0 < slot.leases := by
  rw [h.counted slot hslot]
  exact List.count_pos_iff.mpr hg

theorem current_counted (h : Accounted held due c w) : c.leases = held.count c.generation :=
  h.counted c.current List.mem_cons_self

theorem current_mem_iff (h : Accounted held due c w) : c.generation ∈ held ↔ c.leases ≠ 0 := by
  rw [h.current_counted, ← List.count_pos_iff]
  exact Nat.pos_iff_ne_zero

theorem superseded_of_mem (h : Accounted held due c w) {g : Nat} (hmem : g ∈ held)
    (hg : c.generation ≠ g) : ∃ slot ∈ c.superseded, slot.generation = g := by
  obtain ⟨slot, hslot, hgen⟩ := h.known g hmem
  rcases List.mem_cons.mp hslot with rfl | hslot
  · exact absurd hgen hg
  · exact ⟨slot, hslot, hgen⟩

theorem not_stranded (h : Accounted held due c w) : c.generation ∉ c.stranded := fun hmem =>
  Nat.lt_irrefl _ (h.behind _ hmem).2

theorem le_current (h : Accounted held due c w) {g : Nat} (hmem : g ∈ held) :
    g ≤ c.generation := by
  obtain ⟨slot, hslot, rfl⟩ := h.known g hmem
  rcases List.mem_cons.mp hslot with rfl | hslot
  · exact Nat.le_refl _
  · exact Nat.le_of_lt (h.older slot hslot).2

/-! ### Calls -/

theorem recorded (h : Accounted held due c w) (hidle : w.Idle w') : Accounted held due c w' :=
  { h with
    made := hidle.made.trans h.made
    stranded := h.stranded.trans hidle.stranded.symm
    closes := fun n => by rw [hidle.closes n, h.closes n] }

theorem closed {n : Nat} (h : Accounted held (some n) c w) (hmade : w'.made = w.made)
    (hstranded : w'.stranded = w.stranded)
    (hcloses : ∀ m, w'.closes m = w.closes m + (decide (n = m)).toNat) :
    Accounted held none c w' :=
  { h with
    made := hmade.trans h.made
    stranded := h.stranded.trans hstranded.symm
    closes := fun m => by
      rw [hcloses m, ← h.closes m]
      by_cases hm : n = m <;> simp [hm] }

theorem adjusted (h : Accounted held due c w) {o : Numbered R} (config : Snapshot C)
    (stamps : Nat) (ho : o.number = c.current.object.number) :
    Accounted held due
      { c with current := { c.current with object := o, config := config }, stamps := stamps } w :=
  { h with
    numbered := by
      intro slot hslot
      rcases List.mem_cons.mp hslot with rfl | hslot
      · exact ho.trans (h.numbered c.current List.mem_cons_self)
      · exact h.numbered slot (List.mem_cons_of_mem _ hslot)
    counted := by
      intro slot hslot
      rcases List.mem_cons.mp hslot with rfl | hslot
      · exact h.counted c.current List.mem_cons_self
      · exact h.counted slot (List.mem_cons_of_mem _ hslot)
    known := by
      intro g hg
      obtain ⟨slot, hslot, hgen⟩ := h.known g hg
      rcases List.mem_cons.mp hslot with rfl | hslot
      · exact ⟨_, List.mem_cons_self, hgen⟩
      · exact ⟨slot, List.mem_cons_of_mem _ hslot, hgen⟩ }

/-- Closes stay right when exactly the objects that become spent are due. -/
theorem closes_due (h : Accounted held none c w) {held' : List Nat} {due' : Option Nat}
    {c' : Container (Numbered R) C}
    (hspent : ∀ n, c'.Spent held' n ↔ c.Spent held n ∨ due' = some n)
    (hnew : ∀ n, due' = some n → ¬c.Spent held n) (n : Nat) :
    w.closes n + (if due' = some n then 1 else 0) = if c'.Spent held' n then 1 else 0 := by
  have hbefore := h.closes n
  rw [if_neg nofun, Nat.add_zero] at hbefore
  rw [hbefore, if_congr (hspent n) rfl rfl]
  by_cases hdue : due' = some n
  · simp [hdue, hnew n hdue]
  · simp [hdue]

/-- A container that is not closed for good has spent the replaced objects without leases. -/
theorem spent_iff {held' : List Nat} {c' : Container (Numbered R) C} (hphase : c'.phase ≠ .closed)
    (n : Nat) :
    c'.Spent held' n ↔ 1 ≤ n ∧ n < c'.generation ∧ n ∉ held' ∧ n ∉ c'.stranded := by
  simp [Spent, hphase]

/-- An object is left unclosed. Either its close was due or it is leased, so it was not closed
before. -/
theorem stranding {g : Nat} (h : Accounted held due c w) (hpos : 1 ≤ g) (hlt : g < c.generation)
    (hopen : due = some g ∨ due = none ∧ g ∈ held) (hmade : w'.made = w.made)
    (hstranded : w'.stranded = w.stranded ++ [g]) (hcloses : ∀ n, w'.closes n = w.closes n) :
    Accounted held none (c.strand g) w' :=
  { h with
    made := hmade.trans h.made
    stranded := by
      rw [hstranded, ← h.stranded]
      rfl
    behind := by
      intro n hn
      rcases List.mem_append.mp hn with hn | hn
      · exact h.behind n hn
      · obtain rfl := List.mem_singleton.mp hn
        exact ⟨hpos, hlt⟩
    closes := by
      intro n
      have hbefore := h.closes n
      have hmem : n ∈ (c.strand g).stranded ↔ n ∈ c.stranded ∨ n = g := by
        simp [strand, List.mem_append]
      have hspent : (c.strand g).Spent held n ↔ c.Spent held n ∧ n ≠ g := by
        have hgen : (c.strand g).generation = c.generation := rfl
        have hphase : (c.strand g).phase = c.phase := rfl
        simp only [Spent, hmem, hgen, hphase, not_or]
        constructor
        · rintro (⟨hfirst, hold, hfree, hthread, hne⟩ | ⟨rfl, hclosed⟩)
          · exact ⟨.inl ⟨hfirst, hold, hfree, hthread⟩, hne⟩
          · exact ⟨.inr ⟨rfl, hclosed⟩, Nat.ne_of_gt hlt⟩
        · rintro ⟨⟨hfirst, hold, hfree, hthread⟩ | hcurrent, hne⟩
          · exact .inl ⟨hfirst, hold, hfree, hthread, hne⟩
          · exact .inr hcurrent
      rw [hcloses, if_neg nofun, Nat.add_zero, if_congr hspent rfl rfl]
      rcases hopen with rfl | ⟨rfl, hheld⟩
      · by_cases hn : n = g
        · subst hn
          rw [if_pos rfl] at hbefore
          rw [if_neg fun hboth => hboth.2 rfl]
          split at hbefore <;> omega
        · have hother : ¬(some g = some n) := fun heq => hn (Option.some.inj heq).symm
          rw [if_neg hother, Nat.add_zero] at hbefore
          rw [hbefore]
          exact if_congr (iff_self_and.mpr fun _ => hn) rfl rfl
      · rw [if_neg nofun, Nat.add_zero] at hbefore
        rw [hbefore]
        refine if_congr (iff_self_and.mpr ?_) rfl rfl
        rintro (⟨-, -, hfree, -⟩ | ⟨rfl, -⟩) rfl
        · exact hfree hheld
        · exact absurd hlt (Nat.lt_irrefl _) }

/-! ### A new current object -/

theorem fresh {name : String} {o : Numbered R} {config : C} (ho : o.number = 1)
    (hmade : w.made = 1) (hstranded : w.stranded = []) (hcloses : ∀ n, w.closes n = 0) :
    Accounted [] none (Container.fresh name o config) w where
  made := hmade
  built := Nat.le_refl 1
  numbered := by
    intro slot hslot
    obtain rfl := List.mem_singleton.mp hslot
    exact ho
  older := nofun
  distinct := List.nodup_nil
  waiting := nofun
  counted := by
    intro slot hslot
    obtain rfl := List.mem_singleton.mp hslot
    rfl
  known := nofun
  drained := nofun
  stranded := hstranded.symm
  behind := nofun
  closes := by
    intro n
    have hgen : (Container.fresh name o config).generation = 1 := rfl
    rw [hcloses, if_neg nofun, if_neg]
    rintro (⟨hpos, hlt, -⟩ | ⟨-, hphase⟩)
    · omega
    · exact absurd hphase nofun

theorem superseding (h : Accounted held none c w) (hopen : c.isClosed = false)
    {o : Numbered R} (config : C) (kept : List (Slot (Numbered R) C))
    (ho : o.number = c.generation + 1) (hmade : w'.made = w.made + 1)
    (hstranded : w'.stranded = w.stranded) (hcloses : ∀ n, w'.closes n = w.closes n)
    (distinct : (kept.map Slot.generation).Nodup)
    (hkept : ∀ slot, slot ∈ kept ↔ slot ∈ c.superseded ∨ slot = c.current ∧ c.leases ≠ 0) :
    Accounted held (if c.leases = 0 then some c.generation else none)
      { c.supersede o config with superseded := kept } w' where
  made := by rw [hmade, h.made]; rfl
  built := Nat.le_add_left 1 _
  numbered := by
    intro slot hslot
    rcases List.mem_cons.mp hslot with rfl | hslot
    · exact ho
    · rcases (hkept slot).mp hslot with hslot | ⟨rfl, -⟩
      · exact h.numbered slot (List.mem_cons_of_mem _ hslot)
      · exact h.numbered c.current List.mem_cons_self
  older := by
    intro slot hslot
    rcases (hkept slot).mp hslot with hslot | ⟨rfl, -⟩
    · obtain ⟨hpos, hlt⟩ := h.older slot hslot
      exact ⟨hpos, Nat.lt_succ_of_lt hlt⟩
    · exact ⟨h.built, Nat.lt_succ_self _⟩
  distinct := distinct
  waiting := by
    intro slot hslot
    rcases (hkept slot).mp hslot with hslot | ⟨rfl, hleased⟩
    · exact h.waiting slot hslot
    · exact hleased
  counted := by
    intro slot hslot
    rcases List.mem_cons.mp hslot with rfl | hslot
    · have hnew : c.generation + 1 ∉ held := fun hmem => by
        have hle := h.le_current hmem
        omega
      exact (List.count_eq_zero.mpr hnew).symm
    · rcases (hkept slot).mp hslot with hslot | ⟨rfl, -⟩
      · exact h.counted slot (List.mem_cons_of_mem _ hslot)
      · exact h.counted c.current List.mem_cons_self
  known := by
    intro g hg
    by_cases hcurrent : c.generation = g
    · have hleased : c.leases ≠ 0 := h.current_mem_iff.mp (hcurrent ▸ hg)
      exact ⟨c.current, List.mem_cons_of_mem _ ((hkept _).mpr (.inr ⟨rfl, hleased⟩)), hcurrent⟩
    · obtain ⟨slot, hslot, hgen⟩ := h.superseded_of_mem hg hcurrent
      exact ⟨slot, List.mem_cons_of_mem _ ((hkept _).mpr (.inl hslot)), hgen⟩
  drained := by
    intro hclosed
    exact absurd (hopen.symm.trans hclosed) Bool.false_ne_true
  stranded := h.stranded.trans hstranded.symm
  behind := fun n hn => ⟨(h.behind n hn).1, Nat.lt_succ_of_lt (h.behind n hn).2⟩
  closes := by
    have hphase := phase_ne_closed hopen
    have hmem := h.current_mem_iff
    have hbuilt := h.built
    intro n
    rw [hcloses]
    refine h.closes_due (fun m => ?_) (fun m hdue => ?_) n
    · have hphase' : ({ c.supersede o config with superseded := kept } :
          Container (Numbered R) C).phase ≠ .closed := hphase
      have hafter : ({ c.supersede o config with superseded := kept } :
          Container (Numbered R) C).Spent held m ↔
            1 ≤ m ∧ m < c.generation + 1 ∧ m ∉ held ∧ m ∉ c.stranded := spent_iff hphase' m
      refine hafter.trans ?_
      rw [spent_iff hphase]
      by_cases hidle : c.leases = 0
      · rw [if_pos hidle, Option.some.injEq]
        have hfree : c.generation ∉ held := fun hin => hmem.mp hin hidle
        constructor
        · rintro ⟨hpos, hlt, hout⟩
          rcases Nat.lt_succ_iff_lt_or_eq.mp hlt with hlt | rfl
          · exact .inl ⟨hpos, hlt, hout⟩
          · exact .inr rfl
        · rintro (⟨hpos, hlt, hout⟩ | rfl)
          · exact ⟨hpos, Nat.lt_succ_of_lt hlt, hout⟩
          · exact ⟨hbuilt, Nat.lt_succ_self _, hfree, h.not_stranded⟩
      · rw [if_neg hidle]
        have hheld : c.generation ∈ held := hmem.mpr hidle
        constructor
        · rintro ⟨hpos, hlt, hout⟩
          rcases Nat.lt_succ_iff_lt_or_eq.mp hlt with hlt | rfl
          · exact .inl ⟨hpos, hlt, hout⟩
          · exact absurd hheld hout.1
        · rintro (⟨hpos, hlt, hout⟩ | hnone)
          · exact ⟨hpos, Nat.lt_succ_of_lt hlt, hout⟩
          · exact absurd hnone nofun
    · rw [spent_iff hphase]
      split at hdue
      · obtain rfl := Option.some.inj hdue
        omega
      · exact absurd hdue nofun

/-! ### Leases -/

theorem leasing (h : Accounted held none c w) (hopen : c.isClosed = false) :
    Accounted (c.generation :: held) none c.leased w :=
  { h with
    numbered := by
      intro slot hslot
      rcases List.mem_cons.mp hslot with rfl | hslot
      · exact h.numbered c.current List.mem_cons_self
      · exact h.numbered slot (List.mem_cons_of_mem _ hslot)
    counted := by
      intro slot hslot
      rcases List.mem_cons.mp hslot with rfl | hslot
      · have hcount := h.current_counted
        simp only [leases, generation] at hcount
        simp [leased, generation, hcount]
      · have hne : c.generation ≠ slot.generation := Nat.ne_of_gt (h.older slot hslot).2
        rw [List.count_cons_of_ne hne]
        exact h.counted slot (List.mem_cons_of_mem _ hslot)
    known := by
      intro g hg
      rcases List.mem_cons.mp hg with rfl | hg
      · exact ⟨c.leased.current, List.mem_cons_self, rfl⟩
      · obtain ⟨slot, hslot, hgen⟩ := h.known g hg
        rcases List.mem_cons.mp hslot with rfl | hslot
        · exact ⟨c.leased.current, List.mem_cons_self, hgen⟩
        · exact ⟨slot, List.mem_cons_of_mem _ hslot, hgen⟩
    drained := by
      intro hclosed
      exact absurd (hopen.symm.trans hclosed) Bool.false_ne_true
    closes := by
      intro n
      have hiff : c.leased.Spent (c.generation :: held) n ↔ c.Spent held n := by
        have hgen : c.leased.generation = c.generation := rfl
        have hphase : c.leased.phase = c.phase := rfl
        have hstranded : c.leased.stranded = c.stranded := rfl
        simp only [Spent, hgen, hphase, hstranded, List.mem_cons, not_or]
        constructor
        · rintro (⟨hpos, hlt, ⟨-, hout⟩, hthread⟩ | hcurrent)
          · exact .inl ⟨hpos, hlt, hout, hthread⟩
          · exact .inr hcurrent
        · rintro (⟨hpos, hlt, hout, hthread⟩ | hcurrent)
          · exact .inl ⟨hpos, hlt, ⟨Nat.ne_of_lt hlt, hout⟩, hthread⟩
          · exact .inr hcurrent
      rw [if_congr hiff rfl rfl]
      exact h.closes n }

theorem returning (h : Accounted held none c w) {held' : List Nat}
    (hp : held.Perm (c.generation :: held')) {phase : Phase} {due : Option Nat}
    (hend : c.phase = .draining ∧ c.unleased.leases = 0 →
      phase = .closed ∧ due = some c.generation)
    (hstay : ¬(c.phase = .draining ∧ c.unleased.leases = 0) → phase = c.phase ∧ due = none) :
    Accounted held' due { c.unleased with phase := phase } w := by
  have hmem : c.generation ∈ held := hp.mem_iff.mpr List.mem_cons_self
  have hleased : c.leases ≠ 0 := h.current_mem_iff.mp hmem
  have hcount : c.leases = held'.count c.generation + 1 := by
    rw [h.current_counted, hp.count_eq, List.count_cons_self]
  have hless : c.unleased.leases = held'.count c.generation := by
    change c.leases - 1 = _
    omega
  have hphase : c.phase ≠ .closed := fun hclosed =>
    hleased ((h.drained (by simp [isClosed, hclosed])).mp hclosed)
  refine
    { h with
      numbered := ?_, counted := ?_, known := ?_, drained := ?_, closes := ?_ }
  · intro slot hslot
    rcases List.mem_cons.mp hslot with rfl | hslot
    · exact h.numbered c.current List.mem_cons_self
    · exact h.numbered slot (List.mem_cons_of_mem _ hslot)
  · intro slot hslot
    rcases List.mem_cons.mp hslot with rfl | hslot
    · exact hless
    · have hne : c.generation ≠ slot.generation := Nat.ne_of_gt (h.older slot hslot).2
      rw [h.counted slot (List.mem_cons_of_mem _ hslot), hp.count_eq, List.count_cons_of_ne hne]
  · intro g hg
    obtain ⟨slot, hslot, hgen⟩ := h.known g (hp.mem_iff.mpr (List.mem_cons_of_mem _ hg))
    rcases List.mem_cons.mp hslot with rfl | hslot
    · exact ⟨_, List.mem_cons_self, hgen⟩
    · exact ⟨slot, List.mem_cons_of_mem _ hslot, hgen⟩
  · intro hclosed
    by_cases hlast : c.phase = .draining ∧ c.unleased.leases = 0
    · exact ⟨fun _ => hlast.2, fun _ => (hend hlast).1⟩
    · have hsame := (hstay hlast).1
      change phase = .closed ↔ c.unleased.leases = 0
      have hdraining : c.phase = .draining := by
        simp only [isClosed, hsame, ne_eq, decide_not, Bool.not_eq_eq_eq_not, Bool.not_true,
          decide_eq_false_iff_not] at hclosed
        cases hc : c.phase with
        | serving => exact absurd hc hclosed
        | draining => rfl
        | closed => exact absurd hc hphase
      rw [hsame]
      exact ⟨fun hc => absurd hc hphase, fun hzero => absurd ⟨hdraining, hzero⟩ hlast⟩
  · refine h.closes_due (fun n => ?_) (fun n hdue => ?_)
    · have hothers : n < c.generation → (n ∉ held ↔ n ∉ held') := by
        intro hn
        simp [hp.mem_iff, Nat.ne_of_lt hn]
      rw [spent_iff hphase]
      have hafter : ({ c.unleased with phase := phase } : Container (Numbered R) C).Spent held' n ↔
          (1 ≤ n ∧ n < c.generation ∧ n ∉ held' ∧ n ∉ c.stranded) ∨
            (n = c.generation ∧ phase = .closed) := Iff.rfl
      rw [hafter]
      have hpast : (1 ≤ n ∧ n < c.generation ∧ n ∉ held' ∧ n ∉ c.stranded) ↔
          (1 ≤ n ∧ n < c.generation ∧ n ∉ held ∧ n ∉ c.stranded) := by
        constructor
        · rintro ⟨hpos, hlt, hout, hthread⟩
          exact ⟨hpos, hlt, (hothers hlt).mpr hout, hthread⟩
        · rintro ⟨hpos, hlt, hout, hthread⟩
          exact ⟨hpos, hlt, (hothers hlt).mp hout, hthread⟩
      rw [hpast]
      by_cases hlast : c.phase = .draining ∧ c.unleased.leases = 0
      · obtain ⟨rfl, rfl⟩ := hend hlast
        simp [eq_comm]
      · obtain ⟨rfl, rfl⟩ := hstay hlast
        simp [hphase]
    · rw [spent_iff hphase]
      by_cases hlast : c.phase = .draining ∧ c.unleased.leases = 0
      · obtain ⟨-, rfl⟩ := hend hlast
        obtain rfl := Option.some.inj hdue
        omega
      · rw [(hstay hlast).2] at hdue
        cases hdue

theorem returning_superseded (h : Accounted held none c w) {held' : List Nat}
    {slot : Slot (Numbered R) C} (hmem : slot ∈ c.superseded)
    (hp : held.Perm (slot.generation :: held')) {kept : List (Slot (Numbered R) C)}
    (distinct : (kept.map Slot.generation).Nodup)
    (hkept : ∀ s, s ∈ kept ↔ (s ∈ c.superseded ∧ s.generation ≠ slot.generation) ∨
      (s = returned slot ∧ slot.leases ≠ 1)) :
    Accounted held'
      (if slot.leases = 1 ∧ slot.generation ∉ c.stranded then some slot.generation else none)
      { c with superseded := kept } w := by
  have hcurrent : c.generation ≠ slot.generation := Nat.ne_of_gt (h.older slot hmem).2
  have hin : slot ∈ c.slots := List.mem_cons_of_mem _ hmem
  have hcount : slot.leases = held'.count slot.generation + 1 := by
    rw [h.counted slot hin, hp.count_eq, List.count_cons_self]
  have hothers : ∀ g, g ≠ slot.generation → held.count g = held'.count g := by
    intro g hg
    rw [hp.count_eq, List.count_cons_of_ne (Ne.symm hg)]
  refine
    { h with
      numbered := ?_, older := ?_, distinct := distinct, waiting := ?_, counted := ?_, known := ?_
      closes := ?_ }
  · intro s hs
    rcases List.mem_cons.mp hs with rfl | hs
    · exact h.numbered c.current List.mem_cons_self
    · rcases (hkept s).mp hs with ⟨hs, -⟩ | ⟨rfl, -⟩
      · exact h.numbered s (List.mem_cons_of_mem _ hs)
      · exact h.numbered slot hin
  · intro s hs
    rcases (hkept s).mp hs with ⟨hs, -⟩ | ⟨rfl, -⟩
    · exact h.older s hs
    · exact h.older slot hmem
  · intro s hs
    rcases (hkept s).mp hs with ⟨hs, -⟩ | ⟨rfl, hmore⟩
    · exact h.waiting s hs
    · change slot.leases - 1 ≠ 0
      omega
  · intro s hs
    rcases List.mem_cons.mp hs with rfl | hs
    · exact (h.counted c.current List.mem_cons_self).trans (hothers _ hcurrent)
    · rcases (hkept s).mp hs with ⟨hs, hne⟩ | ⟨rfl, -⟩
      · exact (h.counted s (List.mem_cons_of_mem _ hs)).trans (hothers _ hne)
      · change slot.leases - 1 = held'.count slot.generation
        omega
  · intro g hg
    by_cases hsame : g = slot.generation
    · subst hsame
      have hpos : 0 < held'.count slot.generation := List.count_pos_iff.mpr hg
      exact ⟨returned slot,
        List.mem_cons_of_mem _ ((hkept _).mpr (.inr ⟨rfl, by omega⟩)), rfl⟩
    · obtain ⟨s, hs, hgen⟩ := h.known g (hp.mem_iff.mpr (List.mem_cons_of_mem _ hg))
      rcases List.mem_cons.mp hs with rfl | hs
      · exact ⟨c.current, List.mem_cons_self, hgen⟩
      · have hne : s.generation ≠ slot.generation := hgen ▸ hsame
        exact ⟨s, List.mem_cons_of_mem _ ((hkept _).mpr (.inl ⟨hs, hne⟩)), hgen⟩
  · obtain ⟨hpos, hlt⟩ := h.older slot hmem
    have hout : slot.generation ∈ held := hp.mem_iff.mpr List.mem_cons_self
    have hlast : slot.generation ∉ held' ↔ slot.leases = 1 := by
      rw [← List.count_eq_zero]
      omega
    refine h.closes_due (fun n => ?_) (fun n hdue => ?_)
    · change (1 ≤ n ∧ n < c.generation ∧ n ∉ held' ∧ n ∉ c.stranded) ∨
        (n = c.generation ∧ c.phase = .closed) ↔ _
      by_cases hn : n = slot.generation
      · subst hn
        simp [Spent, hpos, hlt, hout, hlast, Ne.symm hcurrent]
      · have hmem' : n ∈ held ↔ n ∈ held' := by simp [hp.mem_iff, hn]
        have hdue : ¬(if slot.leases = 1 ∧ slot.generation ∉ c.stranded then some slot.generation
            else none) = some n := by
          split
          · exact fun heq => hn (Option.some.inj heq).symm
          · exact nofun
        simp only [Spent, hmem', hdue, or_false]
    · split at hdue
      · obtain rfl := Option.some.inj hdue
        simp [Spent, hout, Ne.symm hcurrent]
      · exact absurd hdue nofun

theorem closing (h : Accounted held none c w) (hopen : c.isClosed = false) :
    Accounted held (if c.leases = 0 then some c.generation else none)
      { c with phase := if c.leases = 0 then .closed else .draining } w := by
  refine { h with drained := ?_, closes := ?_ }
  · intro _
    change (if c.leases = 0 then Phase.closed else .draining) = .closed ↔ c.leases = 0
    by_cases hidle : c.leases = 0 <;> simp [hidle]
  · have hphase := phase_ne_closed hopen
    refine h.closes_due (fun n => ?_) (fun n hdue => ?_)
    · rw [spent_iff hphase]
      change (1 ≤ n ∧ n < c.generation ∧ n ∉ held ∧ n ∉ c.stranded) ∨ (n = c.generation ∧
        (if c.leases = 0 then Phase.closed else .draining) = .closed) ↔ _
      by_cases hidle : c.leases = 0 <;> simp [hidle, eq_comm]
    · rw [spent_iff hphase]
      split at hdue
      · obtain rfl := Option.some.inj hdue
        omega
      · exact absurd hdue nofun

end Accounted

/-! ### The operations of a recorded container -/

variable {cb : Callbacks R C σ} {held : List Nat} {c : Container (Numbered R) C} {w : Recorded C σ}

theorem Decided.idle {new : C} {d : Decision} {w' : Recorded C σ}
    (h : Decided cb.recorded c w new d w') : w.Idle w' := by
  obtain ⟨-, compare, w₁, hcompare, hfetch, hcall⟩ := h
  obtain ⟨-, hw₁⟩ := Callbacks.recorded_fetch hfetch
  obtain ⟨-, -, -, hw'⟩ := Callbacks.recorded_compare hcompare hcall
  rw [hw', hw₁]
  exact ((Recorded.Idle.refl w).after rfl rfl _).after rfl rfl _

theorem Accounted.decided {due : Option Nat} (h : Accounted held due c w) {new : C} {d : Decision}
    {w' : Recorded C σ} (hd : Decided cb.recorded c w new d w') : Accounted held due c w' :=
  h.recorded hd.idle

private theorem accounted_keep (h : Accounted held none c w) (hopen : c.isClosed = false)
    {o : Numbered R} {config : C} {w' : Recorded C σ} (ho : o.number = c.generation + 1)
    (hmade : w'.made = w.made + 1) (hstranded : w'.stranded = w.stranded)
    (hcloses : ∀ n, w'.closes n = w.closes n) :
    Accounted held (if c.leases = 0 then some c.generation else none)
      ((c.supersede o config).keep c.current) w' := by
  by_cases hidle : c.leases = 0
  · rw [keep_idle hidle]
    exact h.superseding hopen config c.superseded ho hmade hstranded hcloses h.distinct
      (fun slot => by simp [hidle])
  · have hdistinct : ((c.superseded ++ [c.current]).map Slot.generation).Nodup := by
      rw [List.map_append, List.nodup_append]
      refine ⟨h.distinct, List.nodup_singleton _, ?_⟩
      intro a ha b hb heq
      obtain ⟨slot, hslot, rfl⟩ := List.mem_map.mp ha
      obtain rfl := List.mem_singleton.mp hb
      exact absurd heq (Nat.ne_of_lt (h.older slot hslot).2)
    rw [keep_leased hidle]
    exact h.superseding hopen config (c.superseded ++ [c.current]) ho hmade hstranded hcloses
      hdistinct (fun slot => by simp [hidle])

private theorem accounted_retire {old : Slot (Numbered R) C}
    (h : Accounted held (if old.leases = 0 then some old.generation else none) (c.keep old) w)
    (hnumber : old.object.number = old.generation) (hpos : 1 ≤ old.generation)
    (hlt : old.generation < c.generation) (hleased : old.leases ≠ 0 → old.generation ∈ held) :
    Accounted held none (retire cb.recorded old c w).1 (retire cb.recorded old c w).2.1 := by
  have hretired := retired cb.recorded old c w
  generalize retire cb.recorded old c w = s at hretired
  cases hretired with
  | @stranded e w₁ hspawn =>
      have hbefore : (c.keep old).generation = c.generation := by
        unfold keep
        split <;> rfl
      rw [(Callbacks.recorded_spawn hspawn).2]
      refine h.stranding hpos (hbefore ▸ hlt) ?_ ?_ ?_ (fun n => ?_)
      · by_cases hidle : old.leases = 0
        · exact .inl (if_pos hidle)
        · exact .inr ⟨if_neg hidle, hleased hidle⟩
      · simp [Call.makes]
      · simp [Call.stranded?, hnumber]
      · simp [Call.closes]
  | @closed w₁ hspawn hidle =>
      obtain ⟨-, hsame, hthreads, hclose⟩ := Callbacks.recorded_close cb w₁ old.object
      rw [hnumber] at hclose
      rw [keep_idle hidle, if_pos hidle] at h
      have hspawned : w.Idle w₁ := by
        rw [(Callbacks.recorded_spawn hspawn).2]
        exact .spawned w old.object.number w₁.world
      exact (h.recorded hspawned).closed hsame hthreads hclose
  | waiting hspawn hleased =>
      rw [if_neg hleased] at h
      rw [(Callbacks.recorded_spawn hspawn).2]
      exact h.recorded (.spawned w old.object.number _)

/-- An update keeps the books right, however it ends. -/
theorem accounted_update (cb : Callbacks R C σ) (h : Accounted held none c w) :
    Accounted held none (update cb.recorded c w).container (update cb.recorded c w).world := by
  have hexit := exit_update cb.recorded c w
  generalize update cb.recorded c w = s at hexit
  cases hexit with
  | closed => exact h
  | noCompare => exact h
  | notFetched _ _ hfetch =>
      rw [(Callbacks.recorded_fetch hfetch).2]
      exact h.recorded ((Recorded.Idle.refl w).after rfl rfl _)
  | notCompared _ hcompare hfetch hcall =>
      obtain ⟨-, -, -, hw⟩ := Callbacks.recorded_compare hcompare hcall
      rw [hw, (Callbacks.recorded_fetch hfetch).2]
      exact h.recorded (((Recorded.Idle.refl w).after rfl rfl _).after rfl rfl _)
  | kept hd => exact h.decided hd
  | noReset hd => exact h.decided hd
  | notReset hd hr hreset =>
      obtain ⟨-, -, -, hnumber, hw⟩ := Callbacks.recorded_reset hr hreset
      have hsame := (h.decided hd).adjusted c.current.config c.stamps hnumber
      rw [hw]
      exact hsame.recorded ((Recorded.Idle.refl _).after rfl rfl _)
  | @reset _ new _ _ _ hd hr hreset =>
      obtain ⟨-, -, -, hnumber, hw⟩ := Callbacks.recorded_reset hr hreset
      have hnext := (h.decided hd).adjusted ⟨c.stamps, new⟩ (c.stamps + 1) hnumber
      rw [hw]
      exact hnext.recorded ((Recorded.Idle.refl _).after rfl rfl _)
  | @notConstructed _ f _ _ hd hmake =>
      obtain ⟨-, hw, -⟩ := Callbacks.recorded_construct hmake
      rw [hw]
      exact (h.decided hd).recorded ((Recorded.Idle.refl _).after (by cases f <;> rfl) rfl _)
  | replaced hd hmake =>
      obtain ⟨-, hw, hnumber⟩ := Callbacks.recorded_construct hmake
      have ho := hnumber _ rfl
      rw [hd.idle.made, h.made] at ho
      refine accounted_retire (accounted_keep h hd.opened ho ?_ ?_ (fun n => ?_))
        (h.numbered c.current List.mem_cons_self) h.built (Nat.lt_succ_self _)
        h.current_mem_iff.mpr
      · rw [hw]
        simp [Call.makes, Outcome.map, hd.idle.made]
      · rw [hw]
        simp [Call.stranded?, hd.idle.stranded]
      · rw [hw]
        simp [Call.closes, hd.idle.closes]

private theorem accounted_finishClose (h : Accounted held (some c.generation)
    { c with phase := .closed } w) :
    Accounted held none (finishClose cb.recorded c w).container
      (finishClose cb.recorded c w).world := by
  obtain ⟨hnumber, hmade, hstranded, hcloses⟩ := Callbacks.recorded_close cb w c.current.object
  rw [show c.current.object.number = c.generation from h.numbered c.current List.mem_cons_self]
    at hcloses
  exact (h.adjusted c.current.config c.stamps hnumber).closed hmade hstranded hcloses

theorem accounted_close (cb : Callbacks R C σ) (h : Accounted held none c w) :
    Accounted held none (close cb.recorded c w).container (close cb.recorded c w).world := by
  cases hclosed : c.isClosed with
  | true =>
      rw [close_of_closed hclosed]
      exact h
  | false =>
      have hnext := h.closing hclosed
      by_cases hidle : c.leases = 0
      · rw [if_pos hidle, if_pos hidle] at hnext
        rw [close_of_idle hclosed hidle]
        exact accounted_finishClose hnext
      · rw [if_neg hidle, if_neg hidle] at hnext
        rw [close_of_leased hclosed hidle]
        exact hnext

theorem accounted_giveBack (cb : Callbacks R C σ) (h : Accounted held none c w)
    {held' : List Nat} {g : Nat} (hp : held.Perm (g :: held')) :
    Accounted held' none (giveBack cb.recorded c g w).container
      (giveBack cb.recorded c g w).world := by
  have hmem : g ∈ held := hp.mem_iff.mpr List.mem_cons_self
  by_cases hg : c.generation = g
  · subst hg
    by_cases hlast : c.phase = .draining ∧ c.unleased.leases = 0
    · rw [giveBack_last rfl hlast.1 hlast.2]
      exact accounted_finishClose
        (h.returning hp (fun _ => ⟨rfl, rfl⟩) (fun hstay => absurd hlast hstay))
    · rw [giveBack_current rfl hlast]
      exact h.returning hp (fun hend => absurd hend hlast) (fun _ => ⟨rfl, rfl⟩)
  · obtain ⟨slot, hslot, rfl⟩ := h.superseded_of_mem hmem hg
    by_cases hone : slot.leases = 1
    · have hdistinct :
          ((c.superseded.filter (·.generation ≠ slot.generation)).map Slot.generation).Nodup :=
        h.distinct.sublist (List.filter_sublist.map _)
      have hnext := h.returning_superseded hslot hp hdistinct (fun s => by simp [hone])
      by_cases hthread : slot.generation ∈ c.stranded
      · rw [if_neg fun hdue => hdue.2 hthread] at hnext
        rw [giveBack_stranded_last hg h.distinct hslot rfl hone hthread]
        exact hnext
      · rw [if_pos ⟨hone, hthread⟩] at hnext
        obtain ⟨-, hsame, hthreads, hclose⟩ := Callbacks.recorded_close cb w slot.object
        rw [h.numbered slot (List.mem_cons_of_mem _ hslot)] at hclose
        rw [giveBack_superseded_last hg h.distinct hslot rfl hone hthread]
        exact hnext.closed hsame hthreads hclose
    · have hmore : 1 < slot.leases := by
        have hpos := h.waiting slot hslot
        omega
      have hgens : ∀ l : List (Slot (Numbered R) C),
          (l.map fun s => if s.generation = slot.generation then returned s else s).map
            Slot.generation = l.map Slot.generation := by
        intro l
        rw [List.map_map]
        refine List.map_congr_left fun s _ => ?_
        by_cases hs : s.generation = slot.generation <;> simp [hs, returned]
      have hkept : ∀ s, s ∈ (c.superseded.map fun s =>
            if s.generation = slot.generation then returned s else s) ↔
          (s ∈ c.superseded ∧ s.generation ≠ slot.generation) ∨
            (s = returned slot ∧ slot.leases ≠ 1) := by
        intro s
        rw [List.mem_map]
        constructor
        · rintro ⟨s', hs', rfl⟩
          by_cases hsame : s'.generation = slot.generation
          · obtain rfl := List.inj_on_of_nodup_map h.distinct hs' hslot hsame
            rw [if_pos rfl]
            exact .inr ⟨rfl, hone⟩
          · rw [if_neg hsame]
            exact .inl ⟨hs', hsame⟩
        · rintro (⟨hs, hne⟩ | ⟨rfl, -⟩)
          · exact ⟨s, hs, if_neg hne⟩
          · exact ⟨slot, hslot, if_pos rfl⟩
      have hnext := h.returning_superseded hslot hp ((hgens _).symm ▸ h.distinct) hkept
      rw [if_neg fun hdue => hone hdue.1] at hnext
      rw [giveBack_superseded_more hg h.distinct hslot rfl hmore]
      exact hnext

end Container

end LiveConfig
