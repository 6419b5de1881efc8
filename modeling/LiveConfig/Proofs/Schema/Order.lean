import LiveConfig.Proofs.Schema.FirstFailure
import Mathlib.Data.List.Pairwise
import Mathlib.Logic.Function.Conjugate
/-!
The order in which independent fields are declared.

Fields are independent when their setters commute. Which fields fail depends on the settings alone,
so in every order decoding passes all fields or in none, and where it passes, the setters come to
the same target.
-/

set_option autoImplicit false

namespace LiveConfig

variable {T : Type} {m : Settings}

namespace Field

/-- The setters of two fields may change places, whatever they set. -/
def Commutes (f g : Field T) : Prop :=
  ∀ (v : f.type.Value) (w : g.type.Value), Function.Commute (f.set v) (g.set w)

theorem exists_of_setter? {f : Field T} {set : T → T} (h : f.setter? m = some set) :
    ∃ v, set = f.set v := by
  obtain ⟨raw, -, hset⟩ := Option.bind_eq_some_iff.mp h
  by_cases hblank : Text.trim raw = ""
  · rw [if_pos hblank] at hset
    cases hset
  · rw [if_neg hblank] at hset
    obtain ⟨v, -, rfl⟩ := Option.map_eq_some_iff.mp hset
    exact ⟨v, rfl⟩

end Field

/-- Decoding passes when no field fails, wherever the fields stand. -/
theorem decodeFields_passes_iff {fields : List (Field T)} (target : T) :
    (decodeFields m fields target).2 = none ↔ ∀ f ∈ fields, ¬f.Stops m := by
  constructor
  · intro hpass f hf hstops
    obtain ⟨before, g, after, e, rfl, hbefore, hfails⟩ := exists_first_failure ⟨f, hf, hstops⟩
    rw [decodeFields_of_passed hbefore, decodeFields, Field.decode_of_fails hfails] at hpass
    cases hpass
  · intro hpass
    have hall := decodeFields_of_passed hpass [] target
    rw [List.append_nil] at hall
    rw [hall]
    rfl

theorem decodeFields_of_passes {fields : List (Field T)} {target : T}
    (h : (decodeFields m fields target).2 = none) :
    decodeFields m fields target = (m.fill fields target, none) := by
  have hall := decodeFields_of_passed ((decodeFields_passes_iff target).mp h) [] target
  rwa [List.append_nil] at hall

theorem Settings.fill_perm {fields fields' : List (Field T)}
    (hcommutes : fields.Pairwise Field.Commutes) (hperm : fields.Perm fields') (target : T) :
    m.fill fields target = m.fill fields' target := by
  have hsetters : (fields.filterMap (·.setter? m)).Pairwise Function.Commute := by
    refine List.Pairwise.filterMap _ ?_ hcommutes
    intro f g hfg set hset set' hset'
    obtain ⟨v, rfl⟩ := Field.exists_of_setter? hset
    obtain ⟨w, rfl⟩ := Field.exists_of_setter? hset'
    exact hfg v w
  have hsymm : Std.Symm (@Function.Commute T) := ⟨fun _ _ h => h.symm⟩
  refine (hperm.filterMap _).foldl_eq' ?_ target
  intro set hset set' hset' target
  have hswap := hsetters.forall_of_forall (fun set _ => Function.Commute.refl set) hset' hset
  exact hswap target

theorem Schema.decoded_eq_ok_iff {s : Schema T} {target result : T} :
    s.decoded m target = .ok result ↔ s.decode m target = (result, none) := by
  rw [decoded]
  rcases s.decode m target with ⟨reached, _ | e⟩ <;> simp

/-- Fields whose setters commute may be declared in any order: decoding passes in each order or in
none, and where it passes, it leaves the same target. -/
theorem Schema.decode_perm {s s' : Schema T} (hcommutes : s.fields.Pairwise Field.Commutes)
    (hperm : s.fields.Perm s'.fields) (m : Settings) (target : T) :
    ((s'.decode m target).2 = none ↔ (s.decode m target).2 = none) ∧
      ((s.decode m target).2 = none → s'.decode m target = s.decode m target) ∧
      ∀ result, s'.decoded m target = .ok result ↔ s.decoded m target = .ok result := by
  have hpasses : (s'.decode m target).2 = none ↔ (s.decode m target).2 = none := by
    rw [decode, decode, decodeFields_passes_iff, decodeFields_passes_iff]
    exact forall_congr' fun f => by rw [hperm.mem_iff]
  have hsame : (s.decode m target).2 = none → s'.decode m target = s.decode m target := by
    intro hpass
    have hpass' : (s'.decode m target).2 = none := hpasses.mpr hpass
    rw [decode, decode, decodeFields_of_passes hpass, decodeFields_of_passes hpass',
      Settings.fill_perm hcommutes hperm]
  refine ⟨hpasses, hsame, fun result => ?_⟩
  rw [decoded_eq_ok_iff, decoded_eq_ok_iff]
  constructor
  · intro h'
    have hpass : (s.decode m target).2 = none := hpasses.mp (congrArg Prod.snd h')
    rw [← hsame hpass]
    exact h'
  · intro h
    rw [hsame (congrArg Prod.snd h)]
    exact h

private structure Tuning where
  port : Int := 0
  text : String := ""
  on : Bool := true
deriving DecidableEq

private def portField : Field Tuning :=
  ⟨"port", .int ⟨false, .w16⟩, true, fun v t => { t with port := v }⟩

private def textField : Field Tuning := ⟨"port", .text, false, fun v t => { t with text := v }⟩

private def onField : Field Tuning := ⟨"on", .bool, true, fun v t => { t with on := v }⟩

/-- Two fields share a key. Where decoding fails, it does so in both orders, but the orders differ in
the error and in what is set before. -/
theorem Schema.decode_perm_rotated :
    let s : Schema Tuning := ⟨[portField, textField, onField]⟩
    let s' : Schema Tuning := ⟨[textField, onField, portField]⟩
    let good : Settings := .ofList [("port", "\u00a0+080\n"), ("on", " FALSE")]
    let bad : Settings := .ofList [("port", "65536"), ("on", "\t")]
    s.fields.Pairwise Field.Commutes ∧ s.fields.Perm s'.fields ∧
      s'.decode good {} = (⟨80, "+080", false⟩, none) ∧
      s.decode bad {} = ({}, some (.invalid "port" "65536" (.int ⟨false, .w16⟩))) ∧
      s'.decode bad {} = ({ text := "65536" }, some (.missing "on")) ∧
      (s'.decode bad {}).2 ≠ none := by
  intro s s' good bad
  have hcommutes : s.fields.Pairwise Field.Commutes := by
    have hport : portField.Commutes textField := fun _ _ _ => rfl
    have hportOn : portField.Commutes onField := fun _ _ _ => rfl
    have htext : textField.Commutes onField := fun _ _ _ => rfl
    simp [s, hport, hportOn, htext]
  have hperm : s.fields.Perm s'.fields := (List.perm_append_comm : ([portField] ++ _).Perm _)
  obtain ⟨-, hsame, -⟩ := decode_perm hcommutes hperm good {}
  obtain ⟨hpasses, -, -⟩ := decode_perm hcommutes hperm bad {}
  have hfails : (s.decode bad {}).2 ≠ none := by decide
  exact ⟨hcommutes, hperm, (hsame (by decide)).trans (by decide), by decide, by decide,
    fun h => hfails (hpasses.mp h)⟩

end LiveConfig
