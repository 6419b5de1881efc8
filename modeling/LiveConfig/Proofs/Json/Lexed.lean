import LiveConfig.Json.Printer
import LiveConfig.Json.Reader
import LiveConfig.Proofs.Numeral.Decimal
import Mathlib.Tactic.SplitIfs
/-!
The lexer finds the tokens of a value in its compact text.

Every part of a compact text is read back whatever follows it; only a number or a word has to be
followed by a character that cannot continue it. Numbers are whole and fit into 64 bits.
-/

set_option autoImplicit false

namespace LiveConfig.Json

/-! ### Values and their tokens -/

/-- A whole number of 64 bits, with a sign or without. -/
def Number.Bounded : Number → Prop
  | .whole n => -(Width.w64.span / 2 : Nat) ≤ n ∧ n < Width.w64.span
  | .real _ => False

mutual

/-- Every number in the value is a whole number of 64 bits. -/
def Integral : Json → Prop
  | .null | .bool _ | .text _ => True
  | .number n => n.Bounded
  | .list items => IntegralItems items
  | .record ms => IntegralMembers ms

def IntegralItems : List Json → Prop
  | [] => True
  | j :: items => Integral j ∧ IntegralItems items

def IntegralMembers : List (String × Json) → Prop
  | [] => True
  | (_, j) :: ms => Integral j ∧ IntegralMembers ms

end

mutual

def tokens : Json → List Token
  | .null => [.null]
  | .bool b => [.bool b]
  | .number n => [.number n]
  | .text s => [.text s]
  | .list items => .openList :: (itemTokens true items ++ [.closeList])
  | .record ms => .openRecord :: (memberTokens true ms ++ [.closeRecord])

def itemTokens (first : Bool) : List Json → List Token
  | [] => []
  | j :: items => (if first then [] else [.comma]) ++ (tokens j ++ itemTokens false items)

def memberTokens (first : Bool) : List (String × Json) → List Token
  | [] => []
  | (n, j) :: ms =>
      (if first then [] else [.comma]) ++ .text n :: .colon :: (tokens j ++ memberTokens false ms)

end

def Delimited (l : List Char) : Prop := ∀ c ∈ l.head?, isNumberChar c = false ∧ c.isLower = false

variable {read rest : List Char}

/-! ### Marks, words and numbers -/

theorem lex_mark {c : Char} {t : Token} (h : start? c = some ([t], .between)) (rest : List Char) :
    lex .between (c :: rest) = (lex .between rest).map (t :: ·) := by
  rw [lex_between, h]
  rfl

theorem lex_space {c : Char} (h : start? c = some ([], .between)) (rest : List Char) :
    lex .between (c :: rest) = lex .between rest := by
  rw [lex_between, h]
  exact Option.map_id_apply

theorem lex_word {t : Token} (h : lex (.word read) [] = some [t]) (hrest : Delimited rest) :
    lex (.word read) rest = (lex .between rest).map (t :: ·) := by
  cases rest with
  | nil => exact h
  | cons c l =>
      obtain ⟨-, hlower⟩ := hrest c rfl
      obtain ⟨w, hw, ht⟩ := Option.bind_eq_some_iff.mp h
      cases ht
      have hend : ¬c.isLower = true := by
        rw [hlower]
        exact Bool.false_ne_true
      rw [lex_word_cons, if_neg hend, hw]
      rfl

theorem lex_word_chars {l : List Char} (h : ∀ c ∈ l, c.isLower = true) :
    lex (.word read) (l ++ rest) = lex (.word (l.reverse ++ read)) rest := by
  induction l generalizing read with
  | nil => rfl
  | cons c l ih =>
      have hrest := @ih (c :: read) fun d hd => h d (List.mem_cons_of_mem c hd)
      rw [List.cons_append, lex_word_cons, if_pos (h c List.mem_cons_self), hrest,
        List.reverse_cons, List.append_assoc, List.singleton_append]

theorem lex_letters {c : Char} {l : List Char} {t : Token}
    (hstart : start? c = some ([], .word [c])) (hl : l.all Char.isLower = true)
    (h : lex (.word (l.reverse ++ [c])) [] = some [t]) (hrest : Delimited rest) :
    lex .between (c :: l ++ rest) = (lex .between rest).map (t :: ·) := by
  rw [List.cons_append, lex_between, hstart, Option.bind_some,
    lex_word_chars (List.all_eq_true.mp hl), lex_word h hrest]
  exact Option.map_id_apply

theorem lex_number {n : Number} (h : number? read.reverse = some n) (hrest : Delimited rest) :
    lex (.number read) rest = (lex .between rest).map (.number n :: ·) := by
  cases rest with
  | nil =>
      have hend : lex (.number read) [] =
          (number? read.reverse).bind fun n => some [.number n] := rfl
      rw [hend, h]
      rfl
  | cons c l =>
      obtain ⟨hnumber, -⟩ := hrest c rfl
      have hend : ¬isNumberChar c = true := by
        rw [hnumber]
        exact Bool.false_ne_true
      rw [lex_number_cons, if_neg hend, h]
      rfl

theorem lex_number_chars {l : List Char} (h : ∀ c ∈ l, isNumberChar c = true) :
    lex (.number read) (l ++ rest) = lex (.number (l.reverse ++ read)) rest := by
  induction l generalizing read with
  | nil => rfl
  | cons c l ih =>
      have hrest := @ih (c :: read) fun d hd => h d (List.mem_cons_of_mem c hd)
      rw [List.cons_append, lex_number_cons, if_pos (h c List.mem_cons_self), hrest,
        List.reverse_cons, List.append_assoc, List.singleton_append]

theorem isNumberChar_of_isDigit {c : Char} (h : c.isDigit = true) : isNumberChar c = true := by
  simp [isNumberChar, h]

theorem start?_digit {c : Char} (h : c.isDigit = true) : start? c = some ([], .number [c]) := by
  have hne : ∀ d : Char, d.isDigit = false → c ≠ d := by
    rintro d hd rfl
    rw [h] at hd
    cases hd
  have hspace : isSpace c = false := by
    simp [isSpace, hne ' ' rfl, hne '\t' rfl, hne '\n' rfl, hne '\r' rfl]
  simp [start?, hspace, h, hne '"' rfl, hne '[' rfl, hne ']' rfl, hne '{' rfl, hne '}' rfl,
    hne ',' rfl, hne ':' rfl]

theorem lex_numeral {c : Char} {l : List Char} {n : Number}
    (hstart : start? c = some ([], .number [c])) (hl : ∀ d ∈ l, d.isDigit = true)
    (hread : number? (c :: l) = some n) (hrest : Delimited rest) :
    lex .between (c :: l ++ rest) = (lex .between rest).map (.number n :: ·) := by
  have hchars : ∀ d ∈ l, isNumberChar d = true := fun d hd => isNumberChar_of_isDigit (hl d hd)
  have hread : number? (l.reverse ++ [c]).reverse = some n := by simpa using hread
  rw [List.cons_append, lex_between, hstart, Option.bind_some, lex_number_chars hchars,
    lex_number hread hrest]
  exact Option.map_id_apply

theorem lex_render_number {n : Number} (h : n.Bounded) (hrest : Delimited rest) :
    lex .between (n.render ++ rest) = (lex .between rest).map (.number n :: ·) := by
  cases n with
  | real x => exact h.elim
  | whole n =>
      obtain ⟨hmin, hmax⟩ := h
      have hdigits : ∀ c ∈ Nat.toDigits 10 n.natAbs, c.isDigit = true := fun c hc =>
        Nat.isDigit_of_mem_toDigits (by decide) (by decide) hc
      rw [Number.render, Numeral.toList_toString]
      by_cases hneg : n < 0
      · have hread : number? ('-' :: Nat.toDigits 10 n.natAbs) = some (.whole n) := by
          have hvalue : -(n.natAbs : Int) = n := by omega
          rw [number?_minus (by omega) (by omega), hvalue]
        rw [if_pos hneg]
        exact lex_numeral (by decide) hdigits hread hrest
      · have hread : number? (Nat.toDigits 10 n.natAbs) = some (.whole n) := by
          have hvalue : (n.natAbs : Int) = n := by omega
          rw [number?_toDigits (by omega), hvalue]
        rw [if_neg hneg, List.nil_append]
        cases hl : Nat.toDigits 10 n.natAbs with
        | nil => exact absurd hl (List.ne_nil_of_length_pos Nat.length_toDigits_pos)
        | cons c l =>
            rw [hl] at hdigits hread
            have hl : ∀ d ∈ l, d.isDigit = true := fun d hd => hdigits d (List.mem_cons_of_mem c hd)
            exact lex_numeral (start?_digit (hdigits c List.mem_cons_self)) hl hread hrest

/-! ### Texts -/

theorem hexDigit?_digitChar : ∀ n < 16, hexDigit? (Nat.digitChar n) = some n := by
  decide

theorem hexUnit?_control {n : Nat} (h : n < 32) :
    hexUnit? '0' '0' (Nat.digitChar (n / 16)) (Nat.digitChar (n % 16)) = some n := by
  have hzero : hexDigit? '0' = some 0 := by decide
  have hhigh := hexDigit?_digitChar (n / 16) (by omega)
  have hlow := hexDigit?_digitChar (n % 16) (by omega)
  have hvalue : ((0 * 16 + 0) * 16 + n / 16) * 16 + n % 16 = n := by omega
  simp only [hexUnit?, hzero, hhigh, hlow, Option.bind_eq_bind, Option.bind_some, hvalue]
  rfl

/-- A control character that is written with its number is read as itself, whatever follows. -/
theorem lex_control {c : Char} (h : c.toNat < 32) (rest : List Char) :
    lex (.text read) ('\\' :: 'u' :: '0' :: '0' :: Nat.digitChar (c.toNat / 16) ::
      Nat.digitChar (c.toNat % 16) :: rest) = lex (.text (c :: read)) rest := by
  have hunit := hexUnit?_control h
  have hchar : Char.ofNat c.toNat = c := Char.ofNat_toNat c
  have hhigh : ¬(0xD800 ≤ c.toNat ∧ c.toNat < 0xDC00) := by omega
  have hlow : ¬(0xDC00 ≤ c.toNat ∧ c.toNat < 0xE000) := by omega
  have hpair : ¬(0xD800 ≤ c.toNat ∧ c.toNat < 0xE000) := by omega
  -- the lexer looks ahead for the second half of a pair
  by_cases hnext : ∃ e f g k l, rest = '\\' :: 'u' :: e :: f :: g :: k :: l
  · obtain ⟨e, f, g, k, l, rfl⟩ := hnext
    rw [lex, hunit]
    simp only [Option.bind_eq_bind, Option.bind_some, if_neg hhigh, if_neg hlow, hchar]
  · rw [lex, hunit]
    · simp only [Option.bind_eq_bind, Option.bind_some, if_neg hpair, hchar]
    · intro e f g k l hl
      exact hnext ⟨e, f, g, k, l, hl⟩

theorem lex_letter {c d : Char} (hd : d ≠ 'u') (h : unescape? d = some c) (rest : List Char) :
    lex (.text read) ('\\' :: d :: rest) = lex (.text (c :: read)) rest := by
  rw [lex, h]
  · rfl
  · intro _ _ _ _ _ _ _ _ _ hu
    exact absurd hu hd
  · intro _ _ _ _ _ hu
    exact absurd hu hd

theorem lex_visible {c : Char} (hquote : c ≠ '"') (hslash : c ≠ '\\') (h : 32 ≤ c.toNat)
    (rest : List Char) : lex (.text read) (c :: rest) = lex (.text (c :: read)) rest := by
  rw [lex, if_neg (Nat.not_lt.mpr h)]
  · exact hquote
  · intro _ _ _ _ _ _ _ _ _ hc
    exact absurd hc hslash
  · intro _ _ _ _ _ hc
    exact absurd hc hslash
  · intro _ _ hc
    exact absurd hc hslash
  · intro hc
    exact absurd hc hslash

theorem lex_escape (c : Char) (rest : List Char) :
    lex (.text read) (escape c ++ rest) = lex (.text (c :: read)) rest := by
  have hchar : ∀ {n}, c.toNat = n → c = Char.ofNat n := by
    rintro n rfl
    exact (Char.ofNat_toNat c).symm
  unfold escape
  split_ifs with hquote hslash hback htab hline hfeed hreturn hcontrol
  · exact lex_letter (by decide) (by rw [hquote]; rfl) rest
  · exact lex_letter (by decide) (by rw [hslash]; rfl) rest
  · exact lex_letter (by decide) (by rw [hchar hback]; rfl) rest
  · exact lex_letter (by decide) (by rw [hchar htab]; rfl) rest
  · exact lex_letter (by decide) (by rw [hchar hline]; rfl) rest
  · exact lex_letter (by decide) (by rw [hchar hfeed]; rfl) rest
  · exact lex_letter (by decide) (by rw [hchar hreturn]; rfl) rest
  · exact lex_control hcontrol rest
  · exact lex_visible hquote hslash (Nat.le_of_not_lt hcontrol) rest

theorem lex_escaped (l : List Char) (rest : List Char) :
    lex (.text read) (l.flatMap escape ++ rest) = lex (.text (l.reverse ++ read)) rest := by
  induction l generalizing read with
  | nil => rfl
  | cons c l ih =>
      rw [List.flatMap_cons, List.append_assoc, lex_escape, ih, List.reverse_cons, List.append_assoc,
        List.singleton_append]

theorem lex_renderText (s : String) (rest : List Char) :
    lex .between (renderText s ++ rest) = (lex .between rest).map (.text s :: ·) := by
  have hquote : start? '"' = some ([], .text []) := by decide
  have hbody : renderText s ++ rest = '"' :: (s.toList.flatMap escape ++ '"' :: rest) := by
    simp [renderText]
  have hclose : lex (.text s.toList.reverse) ('"' :: rest) =
      (lex .between rest).bind fun ts =>
        some (.text (String.ofList s.toList.reverse.reverse) :: ts) := rfl
  rw [List.reverse_reverse, String.ofList_toList] at hclose
  rw [hbody, lex_between, hquote, Option.bind_some, lex_escaped, List.append_nil, hclose]
  cases lex .between rest <;> rfl

/-! ### Values -/

theorem delimited_mark {c : Char} (h : isNumberChar c = false ∧ c.isLower = false)
    (rest : List Char) : Delimited (c :: rest) := by
  rintro d ⟨⟩
  exact h

theorem delimited_renderItems (hrest : Delimited rest) (items : List Json) :
    Delimited (renderItems false items ++ rest) := by
  cases items with
  | nil => exact hrest
  | cons j items => exact delimited_mark (by decide) _

theorem delimited_renderMembers (hrest : Delimited rest) (ms : List (String × Json)) :
    Delimited (renderMembers false ms ++ rest) := by
  cases ms with
  | nil => exact hrest
  | cons m ms => exact delimited_mark (by decide) _

theorem lex_comma (first : Bool) (rest : List Char) :
    lex .between ((if first then [] else [',']) ++ rest) =
      (lex .between rest).map ((if first then [] else [Token.comma]) ++ ·) := by
  cases first with
  | true => simp
  | false => exact lex_mark (by decide) rest

mutual

theorem lex_render : ∀ {j : Json} {rest : List Char}, j.Integral → Delimited rest →
    lex .between (render j ++ rest) = (lex .between rest).map (tokens j ++ ·)
  | .null, rest, _, hrest => by
      rw [render, tokens]
      exact lex_letters (by decide) (by decide) (by decide) hrest
  | .bool true, rest, _, hrest => by
      rw [render, tokens]
      exact lex_letters (by decide) (by decide) (by decide) hrest
  | .bool false, rest, _, hrest => by
      rw [render, tokens]
      exact lex_letters (by decide) (by decide) (by decide) hrest
  | .number n, rest, h, hrest => by
      rw [render, tokens]
      exact lex_render_number h hrest
  | .text s, rest, _, _ => by
      rw [render, tokens]
      exact lex_renderText s rest
  | .list items, rest, h, _ => by
      have hend : Delimited (']' :: rest) := delimited_mark (by decide) rest
      have hclose : lex .between (']' :: rest) = (lex .between rest).map (.closeList :: ·) :=
        lex_mark (by decide) rest
      have hbody := lex_renderItems true h hend
      rw [render, tokens, List.append_assoc, List.singleton_append, List.cons_append,
        lex_mark (t := .openList) (by decide), hbody, hclose]
      simp [Function.comp_def]
  | .record ms, rest, h, _ => by
      have hend : Delimited ('}' :: rest) := delimited_mark (by decide) rest
      have hclose : lex .between ('}' :: rest) = (lex .between rest).map (.closeRecord :: ·) :=
        lex_mark (by decide) rest
      have hbody := lex_renderMembers true h hend
      rw [render, tokens, List.append_assoc, List.singleton_append, List.cons_append,
        lex_mark (t := .openRecord) (by decide), hbody, hclose]
      simp [Function.comp_def]

theorem lex_renderItems (first : Bool) : ∀ {items : List Json} {rest : List Char},
    IntegralItems items → Delimited rest → lex .between (renderItems first items ++ rest) =
      (lex .between rest).map (itemTokens first items ++ ·)
  | [], rest, _, _ => by simp [renderItems, itemTokens]
  | j :: items, rest, ⟨hj, hitems⟩, hrest => by
      have hnext := delimited_renderItems hrest items
      rw [renderItems, itemTokens, List.append_assoc, List.append_assoc, lex_comma,
        lex_render hj hnext, lex_renderItems false hitems hrest]
      simp [Function.comp_def]

theorem lex_renderMembers (first : Bool) : ∀ {ms : List (String × Json)} {rest : List Char},
    IntegralMembers ms → Delimited rest → lex .between (renderMembers first ms ++ rest) =
      (lex .between rest).map (memberTokens first ms ++ ·)
  | [], rest, _, _ => by simp [renderMembers, memberTokens]
  | (n, j) :: ms, rest, ⟨hj, hms⟩, hrest => by
      have hnext := delimited_renderMembers hrest ms
      rw [renderMembers, memberTokens, List.append_assoc, List.append_assoc, lex_comma,
        lex_renderText, List.cons_append, lex_mark (t := .colon) (by decide), List.append_assoc,
        lex_render hj hnext, lex_renderMembers false hms hrest]
      simp [Function.comp_def]

end

end LiveConfig.Json
