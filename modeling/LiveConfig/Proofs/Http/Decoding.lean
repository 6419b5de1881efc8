import LiveConfig.Http.Config
import LiveConfig.Proofs.Store.Edited
/-!
What the settings of a client are decoded to.

Each number of a config stands on its own: it is the number of its key, or the default if the key is
absent or its text blank. So settings with the same numbers are decoded alike, whatever was decoded
before.
-/

set_option autoImplicit false

namespace LiveConfig.Http

inductive Item where
  | dialTimeout | keepAlive | maxIdlePerHost | idleTimeout | requestTimeout
deriving DecidableEq

namespace Item

def all : List Item := [dialTimeout, keepAlive, maxIdlePerHost, idleTimeout, requestTimeout]

def suffix : Item → String
  | dialTimeout => "_HTTP_DIAL_TIMEOUT"
  | keepAlive => "_HTTP_KEEP_ALIVE"
  | maxIdlePerHost => "_HTTP_MAX_IDLE_PER_HOST"
  | idleTimeout => "_HTTP_IDLE_TIMEOUT"
  | requestTimeout => "_HTTP_TIMEOUT"

def key (keyPrefix : String) (item : Item) : String := keyPrefix ++ item.suffix

def type : Item → IntType
  | maxIdlePerHost => ⟨false, .size⟩
  | dialTimeout | keepAlive | idleTimeout | requestTimeout => ⟨false, .w64⟩

def get (c : Config) : Item → Nat
  | dialTimeout => c.dialTimeout
  | keepAlive => c.keepAlive
  | maxIdlePerHost => c.maxIdlePerHost
  | idleTimeout => c.idleTimeout
  | requestTimeout => c.requestTimeout

def set (n : Nat) (c : Config) : Item → Config
  | dialTimeout => { c with dialTimeout := n }
  | keepAlive => { c with keepAlive := n }
  | maxIdlePerHost => { c with maxIdlePerHost := n }
  | idleTimeout => { c with idleTimeout := n }
  | requestTimeout => { c with requestTimeout := n }

def field (keyPrefix : String) (item : Item) : Field Config :=
  ⟨item.key keyPrefix, .int item.type, item = dialTimeout, fun v c => item.set v.toNat c⟩

/-- What an item is decoded to, if it can be decoded. -/
def value? (keyPrefix : String) (m : Settings) (item : Item) : Option Nat :=
  match m.number? item.type (item.key keyPrefix) with
  | none => if item = dialTimeout then none else some (get {} item)
  | some number => number.map Int.toNat

theorem mem_all (item : Item) : item ∈ all := by
  cases item <;> decide

@[simp] theorem get_set_self (item : Item) (n : Nat) (c : Config) :
    get (set n c item) item = n := by
  cases item <;> rfl

theorem get_set_of_ne {item other : Item} (h : other ≠ item) (n : Nat) (c : Config) :
    get (set n c item) other = get c other := by
  cases item <;> cases other <;> first | rfl | exact absurd rfl h

theorem set_get (item : Item) (c : Config) : set (get c item) c item = c := by
  cases item <;> rfl

theorem set_eq_self {item : Item} {n : Nat} {c : Config} : set n c item = c ↔ get c item = n := by
  constructor
  · intro h
    rw [← h, get_set_self]
  · rintro rfl
    exact set_get item c

theorem eq_of_get {c c' : Config} (h : ∀ item, get c item = get c' item) : c = c' := by
  have hdial : c.dialTimeout = c'.dialTimeout := h dialTimeout
  have hkeep : c.keepAlive = c'.keepAlive := h keepAlive
  have hmax : c.maxIdlePerHost = c'.maxIdlePerHost := h maxIdlePerHost
  have hidle : c.idleTimeout = c'.idleTimeout := h idleTimeout
  have hrequest : c.requestTimeout = c'.requestTimeout := h requestTimeout
  cases c
  cases c'
  simp_all only

end Item

theorem fields_schema (keyPrefix : String) :
    (Config.schema keyPrefix).fields = Item.all.map (Item.field keyPrefix) := rfl

theorem Item.key_mem_keys (keyPrefix : String) (item : Item) :
    item.key keyPrefix ∈ (Config.schema keyPrefix).keys := by
  rw [Schema.keys, fields_schema, List.map_map]
  exact List.mem_map_of_mem item.mem_all

/-! ### Decoding -/

theorem toOption_decoded {T : Type} (fields : List (Field T)) (m : Settings) (target : T) :
    (Schema.decoded ⟨fields⟩ m target).toOption =
      fields.foldlM (fun t f => (f.decode m t).toOption) target := by
  induction fields generalizing target with
  | nil => rfl
  | cons f fields ih =>
      rw [List.foldlM_cons, Schema.decoded, Schema.decode, decodeFields]
      cases f.decode m target with
      | error e => rfl
      | ok next => exact ih next

section

variable {keyPrefix : String} {m m' : Settings} {config config' : Config}

theorem Item.decode_field {item : Item} (h : item.get config = item.get {}) :
    ((item.field keyPrefix).decode m config).toOption =
      (item.value? keyPrefix m).map (item.set · config) := by
  have hdefault : item.set (item.get {}) config = config := h ▸ item.set_get config
  simp only [Field.decode, field, value?, Settings.number?]
  cases m.present? (item.key keyPrefix) with
  | none => by_cases hdial : item = dialTimeout <;> simp [hdial, hdefault, Except.toOption]
  | some raw =>
      simp only [FieldType.read?, Option.map_some]
      cases Numeral.readInt? item.type raw <;> rfl

theorem Item.decode_all {items : List Item} (hitems : items.Nodup)
    (hdefault : ∀ item ∈ items, item.get config = item.get {}) :
    (items.map (field keyPrefix)).foldlM (fun c f => (f.decode m c).toOption) config =
        some config' ↔
      (∀ item ∈ items, item.value? keyPrefix m = some (item.get config')) ∧
        ∀ item ∉ items, item.get config' = item.get config := by
  induction items generalizing config with
  | nil =>
      constructor
      · intro h
        obtain rfl : config = config' := Option.some.inj h
        exact ⟨nofun, fun _ _ => rfl⟩
      · rintro ⟨-, hsame⟩
        exact congrArg some (eq_of_get fun item => (hsame item List.not_mem_nil).symm)
  | cons first rest ih =>
      obtain ⟨hfirst, hrest⟩ := List.nodup_cons.mp hitems
      rw [List.map_cons, List.foldlM_cons, decode_field (hdefault first List.mem_cons_self)]
      cases hvalue : first.value? keyPrefix m with
      | none => simp [hvalue]
      | some n =>
          have hnext : ∀ item ∈ rest, item.get (first.set n config) = item.get {} := by
            intro item hitem
            have hne : item ≠ first := fun heq => hfirst (heq ▸ hitem)
            rw [get_set_of_ne hne]
            exact hdefault item (List.mem_cons_of_mem first hitem)
          refine (ih hrest hnext).trans ?_
          constructor
          · rintro ⟨hvalues, hothers⟩
            have hn := hothers first hfirst
            rw [get_set_self] at hn
            refine ⟨List.forall_mem_cons.mpr ⟨hvalue.trans (hn ▸ rfl), hvalues⟩, ?_⟩
            intro item hitem
            have hne : item ≠ first := List.ne_of_not_mem_cons hitem
            rw [hothers item (List.not_mem_of_not_mem_cons hitem), get_set_of_ne hne]
          · rintro ⟨hvalues, hothers⟩
            obtain ⟨hn, hvalues⟩ := List.forall_mem_cons.mp hvalues
            refine ⟨hvalues, fun item hitem => ?_⟩
            by_cases hne : item = first
            · subst hne
              rw [get_set_self]
              exact (Option.some.inj (hvalue.symm.trans hn)).symm
            · rw [get_set_of_ne hne]
              exact hothers item (List.not_mem_cons_of_ne_of_not_mem hne hitem)

theorem decoded_eq_ok : (Config.schema keyPrefix).decoded m {} = .ok config ↔
    ∀ item, Item.value? keyPrefix m item = some (item.get config) := by
  have hall := toOption_decoded (Item.all.map (Item.field keyPrefix)) m {}
  have hitems := @Item.decode_all keyPrefix m {} config Item.all (by decide) fun _ _ => rfl
  rw [← hall] at hitems
  have hdecoded : (Config.schema keyPrefix).decoded m {} = .ok config ↔
      ((Config.schema keyPrefix).decoded m {}).toOption = some config := by
    cases (Config.schema keyPrefix).decoded m {} <;> simp [Except.toOption]
  refine hdecoded.trans (hitems.trans ?_)
  constructor
  · exact fun h item => h.1 item item.mem_all
  · exact fun h => ⟨fun item _ => h item, fun item hitem => absurd item.mem_all hitem⟩

theorem get_of_gone {item : Item} (hdecoded : (Config.schema keyPrefix).decoded m {} = .ok config)
    (hgone : m.number? item.type (item.key keyPrefix) = none) : item.get config = item.get {} := by
  have hvalue := decoded_eq_ok.mp hdecoded item
  rw [Item.value?, hgone] at hvalue
  by_cases hdial : item = .dialTimeout
  · simp [hdial] at hvalue
  · simp only [hdial, if_false, Option.some.injEq] at hvalue
    exact hvalue.symm

theorem decoded_congr (h : ∀ item, m.number? (Item.type item) (item.key keyPrefix) =
      m'.number? item.type (item.key keyPrefix)) :
    (Config.schema keyPrefix).decoded m {} = .ok config ↔
      (Config.schema keyPrefix).decoded m' {} = .ok config := by
  simp only [decoded_eq_ok, Item.value?, h]

/-- Without the key of an item that may be left out, the item is at its default, and the others are
as before. -/
theorem decoded_without {item : Item} (hdecoded : (Config.schema keyPrefix).decoded m {} = .ok config)
    (hdial : item ≠ .dialTimeout) (hgone : m'.number? item.type (item.key keyPrefix) = none)
    (hothers : ∀ other ≠ item, m'.number? (Item.type other) (other.key keyPrefix) =
      m.number? other.type (other.key keyPrefix)) :
    (Config.schema keyPrefix).decoded m' {} = .ok (item.set (item.get {}) config) := by
  rw [decoded_eq_ok] at hdecoded ⊢
  intro other
  by_cases hne : other = item
  · subst hne
    rw [Item.value?, hgone, Item.get_set_self]
    exact if_neg hdial
  · rw [Item.get_set_of_ne hne, ← hdecoded other, Item.value?, hothers other hne, Item.value?]

end

end LiveConfig.Http
