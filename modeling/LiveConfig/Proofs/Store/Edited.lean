import LiveConfig.Proofs.Store.Recovered
import Mathlib.Logic.Relation
/-!
Edits of documents that leave the numbers of some keys as they are.

Lines that assign none of the keys come and go, lines with different keys change places, and a value
is written in another way, has other blanks around it or is a number that is spelled in another way.
None of this shows in what a number is read from the text of a key.
-/

set_option autoImplicit false

namespace LiveConfig

variable {t : IntType} {key : String}

/-! ### Numbers of keys -/

/-- What a number is read from the text of a key, unless the text is blank. -/
def IntType.seen (t : IntType) (raw : String) : Option (Option Int) :=
  if Text.blank raw then none else some (Numeral.readInt? t (Text.trim raw))

/-- What a number is read from the text of a key, unless the key is absent or its text blank. -/
def Settings.number? (m : Settings) (t : IntType) (key : String) : Option (Option Int) :=
  (m.present? key).map (Numeral.readInt? t)

theorem Settings.number?_eq (m : Settings) :
    m.number? t key = ((m.get? key).map t.seen).join := by
  rw [number?, present?]
  cases m.get? key with
  | none => rfl
  | some raw =>
      change Option.map _ (if Text.blank raw then none else some (Text.trim raw)) = t.seen raw
      rw [IntType.seen]
      split <;> rfl

theorem Settings.number?_of_blank {m : Settings}
    (h : ∀ raw, m.get? key = some raw → Text.blank raw = true) : m.number? t key = none := by
  rw [number?_eq]
  cases hraw : m.get? key with
  | none => rfl
  | some raw =>
      rw [Option.map_some, IntType.seen, h raw hraw]
      rfl

theorem IntType.seen_padded {before after : List Char} (hbefore : before.all Text.isBlank = true)
    (hafter : after.all Text.isBlank = true) (raw : String) :
    t.seen (String.ofList (before ++ raw.toList ++ after)) = t.seen raw := by
  rw [seen, Text.blank_padded hbefore hafter, Text.trim_padded hbefore hafter, String.ofList_toList,
    seen]

theorem IntType.seen_spelled (plus : Bool) (zeros n : Nat) :
    t.seen (String.ofList (Numeral.spelled plus zeros n)) =
      some (if t.Holds n then some (n : Int) else none) := by
  have hvisible : ∀ c ∈ Numeral.spelled plus zeros n, Text.isBlank c = false := by
    intro c hc
    rcases Numeral.mem_spelled hc with rfl | hdigit
    · decide
    · exact Text.isBlank_of_isAlphanum (by simp [Char.isAlphanum, hdigit])
  have hne := Numeral.spelled_ne_nil plus zeros n
  rw [seen, Text.blank_visible hne hvisible, Text.trim_visible hvisible, Numeral.readInt?_spelled]
  rfl

namespace EnvText

/-! ### Values of documents -/

namespace Document

def value? (d : Document) (key : String) : Option String := d.settings.get? key

theorem value?_eq (d : Document) :
    d.value? key = ((d.filterMap Line.entry?).reverse.find? (·.1 = key)).map (·.2) :=
  Settings.get?_ofList _ key

theorem value?_append (d d' : Document) :
    Document.value? (d ++ d') key = (d'.value? key).or (d.value? key) := by
  rw [value?_eq, value?_eq, value?_eq, List.filterMap_append, List.reverse_append,
    List.find?_append, Option.map_or]

theorem value?_line (line : Line) :
    Document.value? [line] key = (line.entry?.filter (·.1 = key)).map (·.2) := by
  rw [value?_eq]
  cases hentry : line.entry? with
  | none => simp [hentry]
  | some e => by_cases hkey : e.1 = key <;> simp [hentry, hkey, Option.filter_some]

theorem value?_line_of_ne {line : Line} (h : ∀ e ∈ line.entry?, e.1 ≠ key) :
    Document.value? [line] key = none := by
  rw [value?_line]
  cases hentry : line.entry? with
  | none => rfl
  | some e => simp [h e hentry]

theorem value?_assignment (a : Assignment) :
    Document.value? [.assignment a] key = if a.key = key then some a.value else none := by
  rw [value?_line]
  by_cases hkey : a.key = key <;> simp [Line.entry?, hkey]

end Document

/-! ### Edits -/

/-- One edit that leaves the numbers of `keys` as they are. -/
inductive Edit (keys : List String) : Document → Document → Prop
  | inside {d d' : Document} (before after : Document) : Edit keys d d' →
      Edit keys (before ++ d ++ after) (before ++ d' ++ after)
  /-- A comment, a blank line or an assignment to another key is added. -/
  | unrelated {line : Line} : (∀ e ∈ line.entry?, e.1 ∉ keys) → Edit keys [] [line]
  /-- Two lines that do not assign the same key change places. -/
  | order {line line' : Line} : (∀ e ∈ line.entry?, ∀ e' ∈ line'.entry?, e.1 ≠ e'.1) →
      Edit keys [line, line'] [line', line]
  /-- The same is written with other quotes, spaces or remarks. -/
  | layout {line line' : Line} : line.entry? = line'.entry? → Edit keys [line] [line']
  /-- Blanks are added around a value. -/
  | blanks {a a' : Assignment} (before after : List Char) : a.key = a'.key →
      before.all Text.isBlank = true → after.all Text.isBlank = true →
      a'.value = String.ofList (before ++ a.value.toList ++ after) →
      Edit keys [.assignment a] [.assignment a']
  /-- A number has other zeros in front, or another sign. -/
  | spelling {a a' : Assignment} (plus plus' : Bool) (zeros zeros' n : Nat) : a.key = a'.key →
      a.value = String.ofList (Numeral.spelled plus zeros n) →
      a'.value = String.ofList (Numeral.spelled plus' zeros' n) →
      Edit keys [.assignment a] [.assignment a']

/-- Edits that are made and taken back, one after the other. -/
def Edited (keys : List String) : Document → Document → Prop := Relation.EqvGen (Edit keys)

variable {keys : List String} {d d' : Document}

theorem Edit.seen_eq (h : Edit keys d d') (hkey : key ∈ keys) :
    (d.value? key).map t.seen = (d'.value? key).map t.seen := by
  induction h with
  | inside before after _ ih =>
      simp only [Document.value?_append, Option.map_or, ih]
  | @unrelated line hother =>
      have hnone : Document.value? [line] key = none :=
        Document.value?_line_of_ne fun e he heq => hother e he (heq ▸ hkey)
      rw [hnone]
      rfl
  | @order line line' hdifferent =>
      have hfirst : Document.value? [line, line'] key =
          (Document.value? [line'] key).or (Document.value? [line] key) :=
        Document.value?_append [line] [line']
      have hsecond : Document.value? [line', line] key =
          (Document.value? [line] key).or (Document.value? [line'] key) :=
        Document.value?_append [line'] [line]
      -- At most one of the lines gives the key a value.
      have hnone : Document.value? [line] key = none ∨ Document.value? [line'] key = none := by
        by_cases hassigns : ∃ e ∈ line.entry?, e.1 = key
        · obtain ⟨e, he, hekey⟩ := hassigns
          refine .inr (Document.value?_line_of_ne fun e' he' heq => ?_)
          exact hdifferent e he e' he' (hekey.trans heq.symm)
        · exact .inl (Document.value?_line_of_ne fun e he heq => hassigns ⟨e, he, heq⟩)
      rw [hfirst, hsecond]
      rcases hnone with hnone | hnone
      · rw [hnone, Option.or_none, Option.none_or]
      · rw [hnone, Option.or_none, Option.none_or]
  | layout hentry => rw [Document.value?_line, Document.value?_line, hentry]
  | blanks before after hsame hbefore hafter hvalue =>
      rw [Document.value?_assignment, Document.value?_assignment, hsame, hvalue]
      split
      · exact congrArg some (IntType.seen_padded hbefore hafter _).symm
      · rfl
  | spelling plus plus' zeros zeros' n hsame hvalue hvalue' =>
      rw [Document.value?_assignment, Document.value?_assignment, hsame, hvalue, hvalue']
      split
      · exact congrArg some
          ((IntType.seen_spelled plus zeros n).trans (IntType.seen_spelled plus' zeros' n).symm)
      · rfl

theorem Edited.number?_eq (h : Edited keys d d') (hkey : key ∈ keys) :
    d.settings.number? t key = d'.settings.number? t key := by
  have hseen : (d.value? key).map t.seen = (d'.value? key).map t.seen := by
    induction h with
    | rel _ _ hedit => exact hedit.seen_eq hkey
    | refl _ => rfl
    | symm _ _ _ ih => exact ih.symm
    | trans _ _ _ _ _ ih ih' => exact ih.trans ih'
  rw [Settings.number?_eq, Settings.number?_eq]
  exact congrArg Option.join hseen

end EnvText

/-- What a document assigns is what a load of it installs, if nothing is registered to revise it. -/
theorem Loader.fresh_document {V : Vocabulary} {σ : Type} {l : Loader V σ} {w : World V σ}
    {d : EnvText.Document} (hrevision : w.store.registry.revision = none)
    (hfile : l.read w.outside w.store.path = .ok d.text.toUTF8) :
    (l.fresh w).1 = .ok d.settings := by
  rw [fresh, hfile, loadContent, EnvText.parseBytes_document, hrevision]
  rfl

end LiveConfig
