import LiveConfig.Proofs.Json.Lexed
import LiveConfig.Proofs.Json.Plain
/-!
A value is read back from its compact text.

The reader takes the tokens of a value to the value, whatever is open around it, so with no bound on
how deep values lie in each other every value with whole numbers of 64 bits is read back.
-/

set_option autoImplicit false

namespace LiveConfig.Json

/-! ### From tokens to values -/

theorem build?_step {e e' : Expect} {stack stack' : List Frame} {t : Token}
    (h : step? none e stack t = some (e', stack')) (ts : List Token) :
    build? none e stack (t :: ts) = build? none e' stack' ts := by
  rw [build?, h]
  rfl

theorem build?_itemOrEnd (j : Json) (stack : List Frame) (ts : List Token) :
    build? none .itemOrEnd stack (tokens j ++ ts) = build? none .value stack (tokens j ++ ts) := by
  have hbegin : ∀ t rest, t ≠ .closeList → build? none .itemOrEnd stack (t :: rest) =
      build? none .value stack (t :: rest) := by
    intro t rest ht
    have hstep : step? none .itemOrEnd stack t = begin? none stack t := by
      rw [step?]
      intro _ _ _ hclose
      exact absurd hclose ht
    rw [build?, build?, hstep]
    rfl
  cases j <;> exact hbegin _ _ nofun

mutual

theorem build?_tokens : ∀ (j : Json) (stack : List Frame) (ts : List Token),
    build? none .value stack (tokens j ++ ts) = build? none (.after j) stack ts
  | .null, stack, ts => build?_step rfl ts
  | .bool b, stack, ts => build?_step rfl ts
  | .number n, stack, ts => build?_step rfl ts
  | .text s, stack, ts => build?_step rfl ts
  | .list [], stack, ts => by
      have hopen : build? none .value stack (tokens (.list []) ++ ts) =
          build? none .itemOrEnd (.list [] :: stack) (.closeList :: ts) := build?_step rfl _
      rw [hopen]
      exact build?_step rfl ts
  | .list (j :: items), stack, ts => by
      have hopen : build? none .value stack (tokens (.list (j :: items)) ++ ts) =
          build? none .itemOrEnd (.list [] :: stack)
            (tokens j ++ (itemTokens false items ++ .closeList :: ts)) := by
        simp only [tokens, itemTokens, if_true, List.nil_append, List.append_assoc, List.cons_append]
        exact build?_step rfl _
      rw [hopen, build?_itemOrEnd, build?_tokens j, build?_items items j [] stack ts]
      rfl
  | .record [], stack, ts => by
      have hopen : build? none .value stack (tokens (.record []) ++ ts) =
          build? none (.nameOrEnd []) stack (.closeRecord :: ts) := build?_step rfl _
      rw [hopen]
      exact build?_step rfl ts
  | .record ((n, j) :: ms), stack, ts => by
      have hopen : build? none .value stack (tokens (.record ((n, j) :: ms)) ++ ts) =
          build? none (.nameOrEnd []) stack
            (.text n :: .colon :: (tokens j ++ (memberTokens false ms ++ .closeRecord :: ts))) := by
        simp only [tokens, memberTokens, if_true, List.nil_append, List.append_assoc,
          List.cons_append]
        exact build?_step rfl _
      have hname : ∀ ts, build? none (.nameOrEnd []) stack (.text n :: ts) =
          build? none (.colon [] n) stack ts := build?_step rfl
      have hcolon : ∀ ts, build? none (.colon [] n) stack (.colon :: ts) =
          build? none .value (.record [] n :: stack) ts := build?_step rfl
      rw [hopen, hname, hcolon, build?_tokens j, build?_members ms j n [] stack ts]
      rfl

theorem build?_items : ∀ (items : List Json) (v : Json) (done : List Json) (stack : List Frame)
    (ts : List Token),
    build? none (.after v) (.list done :: stack) (itemTokens false items ++ .closeList :: ts) =
      build? none (.after (.list ((v :: done).reverse ++ items))) stack ts
  | [], v, done, stack, ts => by
      rw [List.append_nil]
      exact build?_step rfl ts
  | j :: items, v, done, stack, ts => by
      have hcomma : build? none (.after v) (.list done :: stack)
            (itemTokens false (j :: items) ++ .closeList :: ts) =
          build? none .value (.list (v :: done) :: stack)
            (tokens j ++ (itemTokens false items ++ .closeList :: ts)) := by
        simp only [itemTokens, Bool.false_eq_true, if_false, List.append_assoc, List.cons_append,
          List.nil_append]
        exact build?_step rfl _
      rw [hcomma, build?_tokens j, build?_items items j (v :: done) stack ts]
      simp

theorem build?_members : ∀ (ms : List (String × Json)) (v : Json) (n : String)
    (done : List (String × Json)) (stack : List Frame) (ts : List Token),
    build? none (.after v) (.record done n :: stack)
        (memberTokens false ms ++ .closeRecord :: ts) =
      build? none (.after (.record (((n, v) :: done).reverse ++ ms))) stack ts
  | [], v, n, done, stack, ts => by
      rw [List.append_nil]
      exact build?_step rfl ts
  | (n', j) :: ms, v, n, done, stack, ts => by
      have hcomma : build? none (.after v) (.record done n :: stack)
            (memberTokens false ((n', j) :: ms) ++ .closeRecord :: ts) =
          build? none (.name ((n, v) :: done)) stack
            (.text n' :: .colon :: (tokens j ++ (memberTokens false ms ++ .closeRecord :: ts))) := by
        simp only [memberTokens, Bool.false_eq_true, if_false, List.append_assoc, List.cons_append,
          List.nil_append]
        exact build?_step rfl _
      have hname : ∀ ts, build? none (.name ((n, v) :: done)) stack (.text n' :: ts) =
          build? none (.colon ((n, v) :: done) n') stack ts := build?_step rfl
      have hcolon : ∀ ts, build? none (.colon ((n, v) :: done) n') stack (.colon :: ts) =
          build? none .value (.record ((n, v) :: done) n' :: stack) ts := build?_step rfl
      rw [hcomma, hname, hcolon, build?_tokens j, build?_members ms j n' ((n, v) :: done) stack ts]
      simp

end

/-! ### From texts to values -/

theorem lex_spaces {blanks : List Char} (h : ∀ c ∈ blanks, isSpace c = true) :
    lex .between blanks = some [] := by
  induction blanks with
  | nil => rfl
  | cons c blanks ih =>
      have hstart : start? c = some ([], .between) := by
        rw [start?, if_pos (h c List.mem_cons_self)]
      rw [lex_space hstart]
      exact ih fun d hd => h d (List.mem_cons_of_mem c hd)

theorem delimited_spaces {blanks : List Char} (h : ∀ c ∈ blanks, isSpace c = true) :
    Delimited blanks := by
  cases blanks with
  | nil => nofun
  | cons c blanks =>
      refine delimited_mark ?_ blanks
      have hspace := h c List.mem_cons_self
      simp only [isSpace, Bool.or_eq_true, beq_iff_eq] at hspace
      rcases hspace with ((rfl | rfl) | rfl) | rfl <;> decide

/-- A value is read from its compact text, with blanks behind it or without. -/
theorem read?_compact {j : Json} (h : j.Integral) {blanks : String}
    (hblanks : ∀ c ∈ blanks.toList, isSpace c = true) :
    read? none (j.compact ++ blanks) = some j := by
  have htokens : tokens? (j.compact ++ blanks) = some (tokens j) := by
    rw [tokens?, String.toList_append, compact, String.toList_ofList,
      lex_render h (delimited_spaces hblanks), lex_spaces hblanks]
    simp
  have hbuild := build?_tokens j [] []
  rw [List.append_nil] at hbuild
  rw [read?, htokens]
  exact hbuild

/-! ### Numbers of plain values -/

theorem integralMembers_iff {ms : List (String × Json)} :
    IntegralMembers ms ↔ ∀ m ∈ ms, m.2.Integral := by
  induction ms with
  | nil => exact iff_of_true trivial nofun
  | cons m ms ih => rw [IntegralMembers, List.forall_mem_cons, ih]

mutual

theorem Integral.plain : ∀ {j : Json}, j.Integral → j.plain.Integral
  | .null, h | .bool _, h | .number _, h | .text _, h => h
  | .list _, h => IntegralItems.plain h
  | .record _, h => by
      have hms := integralMembers_iff.mp (IntegralMembers.plain h)
      refine integralMembers_iff.mpr fun m hm => ?_
      exact hms m (mem_of_mem_arrange hm)

theorem IntegralItems.plain :
    ∀ {items : List Json}, IntegralItems items → IntegralItems (plainItems items)
  | [], _ => trivial
  | _ :: _, ⟨hj, hitems⟩ => ⟨hj.plain, hitems.plain⟩

theorem IntegralMembers.plain :
    ∀ {ms : List (String × Json)}, IntegralMembers ms → IntegralMembers (plainMembers ms)
  | [], _ => trivial
  | (_, _) :: _, ⟨hj, hms⟩ => ⟨hj.plain, hms.plain⟩

end

end LiveConfig.Json
