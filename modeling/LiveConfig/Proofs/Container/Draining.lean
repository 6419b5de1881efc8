import LiveConfig.Proofs.Container.Books
import LiveConfig.Proofs.Container.Run
/-!
Objects are closed when they are drained: once, and not before their last lease is back.

The books of the container are right when a session starts, and every request keeps them right. So
after any run an object has been closed once if it is out of service and nobody leases it, and not
at all otherwise. An object that no thread could be started for is not closed at all.
-/

set_option autoImplicit false

namespace LiveConfig

variable {R C σ : Type}

namespace Session

def leasesOn (s : Session (Numbered R) C σ) (n : Nat) : Nat :=
  s.held.countP fun lease => (s.container.slot? lease.2).any (·.object.number = n)

/-- The object of a number was made, and then replaced or its container closed. -/
def OutOfService (s : Session (Numbered R) C (Recorded C σ)) (n : Nat) : Prop :=
  (1 ≤ n ∧ n ≤ s.world.made) ∧
    (n ≠ s.container.current.object.number ∨ s.container.isClosed = true)

instance (s : Session (Numbered R) C (Recorded C σ)) (n : Nat) : Decidable (s.OutOfService n) :=
  inferInstanceAs (Decidable (_ ∧ _))

/-- Every owner has one lease at most, and the books are right when `extra` is leased besides. -/
structure Tenancy (cb : Callbacks R C σ) (extra : List Nat)
    (s : Session (Numbered R) C (Recorded C σ)) : Prop where
  callbacks : s.callbacks = cb.recorded
  owners : (s.held.map Prod.fst).Nodup
  books : Container.Accounted (extra ++ s.held.map Prod.snd) none s.container s.world

private theorem perm_of_lookup {l : List (String × Nat)} {owner : String} {g : Nat}
    (owners : (l.map Prod.fst).Nodup) (h : l.lookup owner = some g) :
    (l.map Prod.snd).Perm (g :: (l.filter (·.1 ≠ owner)).map Prod.snd) := by
  induction l with
  | nil => exact absurd h nofun
  | cons lease rest ih =>
      obtain ⟨name, generation⟩ := lease
      obtain ⟨hname, hrest⟩ := List.nodup_cons.mp (List.map_cons ▸ owners)
      by_cases hsame : owner = name
      · subst hsame
        have hgen : generation = g := by simpa [List.lookup_cons] using h
        have hkept : rest.filter (·.1 ≠ owner) = rest := by
          refine List.filter_eq_self.mpr fun other hother => ?_
          have hne : other.1 ≠ owner := fun heq => hname (List.mem_map.mpr ⟨other, hother, heq⟩)
          simpa using hne
        rw [List.filter_cons_of_neg (by simp), hkept, hgen, List.map_cons]
      · have hbeq : (owner == name) = false := by simpa using hsame
        rw [List.lookup_cons, hbeq] at h
        rw [List.filter_cons_of_pos (by simpa using Ne.symm hsame), List.map_cons, List.map_cons]
        exact ((ih hrest h).cons generation).trans (List.Perm.swap g generation _)

namespace Tenancy

variable {cb : Callbacks R C σ} {s : Session (Numbered R) C (Recorded C σ)} {extra : List Nat}

theorem release (h : Tenancy cb extra s) (owner : String) :
    Tenancy cb extra (s.release owner).2 := by
  cases hlookup : s.held.lookup owner with
  | none =>
      rw [release_of_none hlookup]
      exact h
  | some generation =>
      have hp : (extra ++ s.held.map Prod.snd).Perm
          (generation :: (extra ++ (s.held.filter (·.1 ≠ owner)).map Prod.snd)) :=
        ((perm_of_lookup h.owners hlookup).append_left extra).trans List.perm_middle
      have hback := Container.accounted_giveBack cb h.books hp
      rw [release_of_some hlookup, h.callbacks]
      exact
        { callbacks := rfl
          owners := h.owners.sublist (List.filter_sublist.map _)
          books := hback }

theorem not_mem_release (s : Session (Numbered R) C (Recorded C σ)) (owner : String) :
    owner ∉ (s.release owner).2.held.map Prod.fst := by
  cases hlookup : s.held.lookup owner with
  | none =>
      rw [release_of_none hlookup]
      intro hmem
      obtain ⟨lease, hlease, rfl⟩ := List.mem_map.mp hmem
      have hne := List.lookup_eq_none_iff.mp hlookup lease hlease
      simp at hne
  | some generation =>
      rw [release_of_some hlookup]
      intro hmem
      obtain ⟨lease, hlease, rfl⟩ := List.mem_map.mp hmem
      simpa using (List.mem_filter.mp hlease).2

theorem lease (h : Tenancy cb [] s) (owner : String) : Tenancy cb [] (s.lease owner).2 := by
  cases hclosed : s.container.isClosed with
  | true =>
      rw [lease_of_closed hclosed]
      exact h
  | false =>
      have htaken : Tenancy cb [s.container.generation]
          { s with container := s.container.leased } :=
        { callbacks := h.callbacks
          owners := h.owners
          books := h.books.leasing hclosed }
      have hreleased := htaken.release owner
      rw [lease_of_open hclosed]
      exact
        { callbacks := hreleased.callbacks
          owners := List.nodup_cons.mpr ⟨not_mem_release _ owner, hreleased.owners⟩
          books := hreleased.books }

theorem serve (h : Tenancy cb [] s) (r : Request) : Tenancy cb [] (s.serve r) := by
  cases r with
  | update =>
      have hbooks := Container.accounted_update cb h.books
      rw [← h.callbacks] at hbooks
      exact { callbacks := h.callbacks, owners := h.owners, books := hbooks }
  | lease owner => exact h.lease owner
  | giveBack owner => exact h.release owner
  | close =>
      have hbooks := Container.accounted_close cb h.books
      rw [← h.callbacks] at hbooks
      exact { callbacks := h.callbacks, owners := h.owners, books := hbooks }

theorem start {name : String} {w : σ} {w' : Recorded C σ}
    (h : Session.start name cb.recorded ⟨w, []⟩ = (.ok s, w')) : Tenancy cb [] s := by
  obtain ⟨c, hbuild, rfl⟩ := start_eq_ok_iff.mp h
  obtain ⟨config, object, w₁, hfetch, hmake, rfl⟩ := Container.build_eq_ok_iff.mp hbuild
  obtain ⟨-, hw', hnumber⟩ := Callbacks.recorded_construct hmake
  have hw₁ := (Callbacks.recorded_fetch hfetch).2
  have hmade : w₁.made = 0 := by
    rw [hw₁]
    rfl
  refine
    { callbacks := rfl
      owners := List.nodup_nil
      books := .fresh ?_ ?_ ?_ ?_ }
  · rw [hnumber object rfl, hmade]
  · change w'.made = 1
    rw [hw', Recorded.made_after, hmade]
    rfl
  · change w'.stranded = []
    rw [hw', Recorded.stranded_after, hw₁]
    rfl
  · intro n
    change w'.closes n = 0
    rw [hw', Recorded.closes_after, hw₁]
    rfl

theorem after {name : String} {w : σ} {w' : Recorded C σ}
    (h : Session.start name cb.recorded ⟨w, []⟩ = (.ok s, w')) (requests : List Request) :
    Tenancy cb [] (s.after requests) :=
  after_induction (fun _ r kept => kept.serve r) (start h) requests

theorem slot_of_held (h : Tenancy cb [] s) {lease : String × Nat} (hlease : lease ∈ s.held) :
    ∃ slot ∈ s.container.slots, s.container.slot? lease.2 = some slot ∧
      slot.generation = lease.2 ∧ slot.object.number = lease.2 ∧ 0 < slot.leases := by
  have hmem : lease.2 ∈ s.held.map Prod.snd := List.mem_map.mpr ⟨lease, hlease, rfl⟩
  have hfound : ∃ slot ∈ s.container.slots, s.container.slot? lease.2 = some slot ∧
      slot.generation = lease.2 := by
    by_cases hcurrent : s.container.generation = lease.2
    · exact ⟨s.container.current, List.mem_cons_self, if_pos hcurrent, hcurrent⟩
    · obtain ⟨slot, hslot, hgen⟩ := h.books.superseded_of_mem hmem hcurrent
      have hsome : (s.container.superseded.find? (·.generation = lease.2)).isSome :=
        List.find?_isSome.mpr ⟨slot, hslot, by simpa using hgen⟩
      obtain ⟨found, hfind⟩ := Option.isSome_iff_exists.mp hsome
      refine ⟨found, List.mem_cons_of_mem _ (List.mem_of_find?_eq_some hfind), ?_, ?_⟩
      · exact (if_neg hcurrent).trans hfind
      · simpa using List.find?_some hfind
  obtain ⟨slot, hslot, hfind, hgen⟩ := hfound
  exact ⟨slot, hslot, hfind, hgen, (h.books.numbered slot hslot).trans hgen,
    h.books.leases_pos hslot (hgen ▸ hmem)⟩

theorem leasesOn_eq (h : Tenancy cb [] s) (n : Nat) :
    s.leasesOn n = (s.held.map Prod.snd).count n := by
  rw [List.count, List.countP_map]
  refine List.countP_congr fun lease hlease => ?_
  obtain ⟨slot, -, hfind, -, hnumber, -⟩ := h.slot_of_held hlease
  simp [hfind, hnumber]

/-- An object is spent when it is out of service and nobody leases it, unless nobody waits to close
it. -/
theorem spent_iff (h : Tenancy cb [] s) (n : Nat) :
    s.container.Spent (s.held.map Prod.snd) n ↔
      (s.OutOfService n ∧ s.leasesOn n = 0) ∧ n ∉ s.world.stranded := by
  have hmade := h.books.made
  have hbuilt := h.books.built
  have hnumber : s.container.current.object.number = s.container.generation :=
    h.books.numbered s.container.current List.mem_cons_self
  have hleases := h.books.current_counted
  rw [leasesOn_eq h, List.count_eq_zero, ← h.books.stranded]
  simp only [OutOfService, hmade, hnumber, Container.Spent]
  constructor
  · rintro (⟨hpos, hlt, hfree, hthread⟩ | ⟨rfl, hphase⟩)
    · exact ⟨⟨⟨⟨hpos, Nat.le_of_lt hlt⟩, .inl (Nat.ne_of_lt hlt)⟩, hfree⟩, hthread⟩
    · have hclosed : s.container.isClosed = true := by simp [Container.isClosed, hphase]
      have hzero := (h.books.drained hclosed).mp hphase
      refine ⟨⟨⟨⟨hbuilt, Nat.le_refl _⟩, .inr hclosed⟩, ?_⟩, h.books.not_stranded⟩
      exact List.count_eq_zero.mp (hleases.symm.trans hzero)
  · rintro ⟨⟨⟨⟨hpos, hle⟩, hout⟩, hfree⟩, hthread⟩
    rcases Nat.lt_or_eq_of_le hle with hlt | rfl
    · exact .inl ⟨hpos, hlt, hfree, hthread⟩
    · have hclosed : s.container.isClosed = true := hout.resolve_left (fun hne => hne rfl)
      have hzero : s.container.leases = 0 := hleases.trans (List.count_eq_zero.mpr hfree)
      exact .inr ⟨rfl, (h.books.drained hclosed).mpr hzero⟩

end Tenancy

/-- An object is closed once when it is out of service and its last lease is back, and never
before. Only a replaced object that no thread could be started for is never closed. The counter of
every slot is the number of leases that are out on it. This is so after any requests to a session
and whatever its callbacks answer. -/
theorem closed_once_drained {cb : Callbacks R C σ} {name : String} {w : σ}
    {s : Session (Numbered R) C (Recorded C σ)} {w' : Recorded C σ}
    (built : start name cb.recorded ⟨w, []⟩ = (.ok s, w')) (requests : List Request) :
    let t := s.after requests
    (start name cb w = (.ok (s.plain cb), w'.world) ∧
      t.plain cb = (s.plain cb).after requests) ∧
    (∀ n, n ∉ t.world.stranded →
      t.world.closes n = if t.OutOfService n ∧ t.leasesOn n = 0 then 1 else 0) ∧
    (∀ n ∈ t.world.stranded, (1 ≤ n ∧ n < t.container.current.object.number) ∧
      t.world.closes n = 0) ∧
    (t.container.isClosed = false → t.world.closes t.container.current.object.number = 0) ∧
    (∀ slot ∈ t.container.slots,
      slot.leases = t.held.countP (·.2 = slot.generation) ∧
        slot.leases = t.leasesOn slot.object.number) ∧
    ∀ lease ∈ t.held, ∃ slot ∈ t.container.slots,
      t.container.slot? lease.2 = some slot ∧ slot.generation = lease.2 ∧ 0 < slot.leases ∧
        t.world.closes slot.object.number = 0 := by
  intro t
  have htenancy : Tenancy cb [] t := Tenancy.after built requests
  have hcloses : ∀ n, t.world.closes n =
      if (t.OutOfService n ∧ t.leasesOn n = 0) ∧ n ∉ t.world.stranded then 1 else 0 := by
    intro n
    rw [← if_congr (htenancy.spent_iff n) rfl rfl]
    simpa using htenancy.books.closes n
  have hcounted : ∀ slot ∈ t.container.slots,
      slot.leases = (t.held.map Prod.snd).count slot.generation := htenancy.books.counted
  refine ⟨⟨plain_start built, plain_after ?_ requests⟩, ?_, ?_, ?_, ?_, ?_⟩
  · exact (Tenancy.start built).callbacks
  · intro n hthread
    rw [hcloses]
    exact if_congr (and_iff_left hthread) rfl rfl
  · intro n hstranded
    have hbehind := htenancy.books.behind n (htenancy.books.stranded ▸ hstranded)
    rw [hcloses, if_neg fun hboth => hboth.2 hstranded]
    rw [htenancy.books.numbered t.container.current List.mem_cons_self]
    exact ⟨hbehind, rfl⟩
  · intro hopen
    rw [hcloses, if_neg]
    rintro ⟨⟨⟨-, hout⟩, -⟩, -⟩
    rcases hout with hne | hclosed
    · exact hne rfl
    · rw [hopen] at hclosed
      exact absurd hclosed nofun
  · intro slot hslot
    refine ⟨?_, ?_⟩
    · rw [hcounted slot hslot, List.count, List.countP_map]
      rfl
    · rw [hcounted slot hslot, htenancy.leasesOn_eq, htenancy.books.numbered slot hslot]
  · intro lease hlease
    obtain ⟨slot, hslot, hfind, hgen, hnumber, hpos⟩ := htenancy.slot_of_held hlease
    refine ⟨slot, hslot, hfind, hgen, hpos, ?_⟩
    rw [hcloses, if_neg]
    rintro ⟨⟨-, hfree⟩, -⟩
    rw [htenancy.leasesOn_eq, hnumber, ← hgen, ← hcounted slot hslot] at hfree
    omega

/-- Every other config that is fetched asks for a new object; no thread can be started for the
second one, and the third one does not close without a panic. -/
private def alternating : Callbacks Nat Nat Nat where
  fetch := fun _ n => (.ok n, n + 1)
  compare := some fun _ _ new n => (.ok (if new % 2 = 0 then .replace else .keep), n)
  construct := fun _ config n => (.ok config, n)
  reset := none
  close := fun object n => (if object = 4 then .panic "broken pipe" else .ok (), object, n)
  spawn := fun object n => (if object = 2 then .error "no threads left" else .ok (), n)

private def opened : Session (Numbered Nat) Nat (Recorded Nat Nat) where
  callbacks := alternating.recorded
  container := .fresh "pool" ⟨1, 0⟩ 0
  world := ⟨1, [.fetch none (.ok 0), .construct none 0 (.ok 1)]⟩

/-- A lease holds back the close of an object that was replaced, and that of the last one. The
second object is left unclosed, and the third one is closed though its close panics. -/
theorem closed_once_drained_alternating :
    start "pool" alternating.recorded ⟨0, []⟩ = (.ok opened, opened.world) ∧
      (opened.after [.lease "a", .update, .update]).world.closes 1 = 0 ∧
      (opened.after [.lease "a", .update, .update, .giveBack "a"]).world.closes 1 = 1 ∧
      (opened.after [.lease "b", .close]).world.closes 1 = 0 ∧
      (opened.after [.lease "b", .close, .giveBack "b"]).world.closes 1 = 1 ∧
      (opened.after (List.replicate 4 .update)).world.closes 2 = 0 ∧
      (opened.after (List.replicate 6 .update)).world.closes 3 = 1 := by
  have built : start "pool" alternating.recorded ⟨0, []⟩ = (.ok opened, opened.world) := rfl
  have closes := fun n requests => (closed_once_drained built requests).2.1 n
  have leaves := fun n requests => (closed_once_drained built requests).2.2.1 n
  refine ⟨built, ?_, ?_, ?_, ?_, ?_, ?_⟩
  · exact (closes 1 [.lease "a", .update, .update] (by decide)).trans (by decide)
  · exact (closes 1 [.lease "a", .update, .update, .giveBack "a"] (by decide)).trans (by decide)
  · exact (closes 1 [.lease "b", .close] (by decide)).trans (by decide)
  · exact (closes 1 [.lease "b", .close, .giveBack "b"] (by decide)).trans (by decide)
  · exact (leaves 2 (List.replicate 4 .update) (by decide)).2
  · exact (closes 3 (List.replicate 6 .update) (by decide)).trans (by decide)

end Session

end LiveConfig
