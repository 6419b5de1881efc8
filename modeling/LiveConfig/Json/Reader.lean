import LiveConfig.Json.Token
/-!
Reading a JSON value from its tokens.

The reader keeps a stack of the lists and objects that are open. Each token is one step, so the
reader needs no bound of its own; a bound on how many may be open at once can be given.
-/

set_option autoImplicit false

namespace LiveConfig.Json

/-- A list or an object that is not closed yet, with its parts so far, last first. -/
inductive Frame where
  | list (items : List Json)
  | record (members : List (String × Json)) (name : String)

inductive Expect where
  | value
  | itemOrEnd
  | nameOrEnd (members : List (String × Json))
  | name (members : List (String × Json))
  | colon (members : List (String × Json)) (name : String)
  /-- A value is complete; what follows belongs to the innermost open frame. -/
  | after (value : Json)

def Token.scalar? : Token → Option Json
  | .null => some .null
  | .bool b => some (.bool b)
  | .number n => some (.number n)
  | .text s => some (.text s)
  | _ => none

def mayOpen (limit : Option Nat) (stack : List Frame) : Bool :=
  match limit with
  | none => true
  | some n => stack.length < n

def begin? (limit : Option Nat) (stack : List Frame) (t : Token) : Option (Expect × List Frame) :=
  match t with
  | .openList => if mayOpen limit stack then some (.itemOrEnd, .list [] :: stack) else none
  | .openRecord => if mayOpen limit stack then some (.nameOrEnd [], stack) else none
  | t => t.scalar?.map fun v => (.after v, stack)

def step? (limit : Option Nat) : Expect → List Frame → Token → Option (Expect × List Frame)
  | .value, stack, t => begin? limit stack t
  | .itemOrEnd, .list items :: stack, .closeList => some (.after (.list items.reverse), stack)
  | .itemOrEnd, stack, t => begin? limit stack t
  | .nameOrEnd ms, stack, .closeRecord => some (.after (.record ms.reverse), stack)
  | .nameOrEnd ms, stack, .text n => some (.colon ms n, stack)
  | .nameOrEnd _, _, _ => none
  | .name ms, stack, .text n => some (.colon ms n, stack)
  | .name _, _, _ => none
  | .colon ms n, stack, .colon => some (.value, .record ms n :: stack)
  | .colon _ _, _, _ => none
  | .after v, .list items :: stack, .comma => some (.value, .list (v :: items) :: stack)
  | .after v, .list items :: stack, .closeList =>
      some (.after (.list (v :: items).reverse), stack)
  | .after v, .record ms n :: stack, .comma => some (.name ((n, v) :: ms), stack)
  | .after v, .record ms n :: stack, .closeRecord =>
      some (.after (.record ((n, v) :: ms).reverse), stack)
  | .after _, _, _ => none

/-- Runs the reader over the tokens; at the end one value must be complete and nothing open. -/
def build? (limit : Option Nat) : Expect → List Frame → List Token → Option Json
  | .after v, [], [] => some v
  | _, _, [] => none
  | e, stack, t :: ts => do
      let (e, stack) ← step? limit e stack t
      build? limit e stack ts

/-- Reads one JSON value with at most `limit` lists and objects open at once. -/
def read? (limit : Option Nat) (s : String) : Option Json := do
  build? limit .value [] (← tokens? s)

end LiveConfig.Json
