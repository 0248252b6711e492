import ElmPrerender.Decimal.Binary64

/-!
JSON values. The members of an object keep the order in which their names were first met.
-/

namespace ElmPrerender.Json

/-- Whole numbers are kept exactly as long as they fit 64 bits, with or without sign. -/
inductive Number where
  | integer (value : Int)
  | float (value : Decimal.Binary64)
  deriving DecidableEq, Repr

inductive Value where
  | null
  | bool (value : Bool)
  | number (value : Number)
  | string (value : String)
  | array (items : List Value)
  | object (members : List (String × Value))
  deriving Repr, Inhabited

/-- The members of an object, each name at most once. -/
abbrev Members := List (String × Value)

namespace Members

def get? (members : Members) (name : String) : Option Value :=
  (List.find? (fun m => m.1 == name) members).map (·.2)

/-- A name that is already there keeps its place and takes the new value. -/
def insert : Members → String → Value → Members
  | [], name, value => [(name, value)]
  | (other, old) :: rest, name, value =>
    if other = name then (other, value) :: rest else (other, old) :: insert rest name value

/-- The members as they come out of a text, where a name may be repeated. -/
def ofList (written : List (String × Value)) : Members :=
  written.foldl (fun members m => members.insert m.1 m.2) []

end Members

namespace Value

mutual
def decideEq : (a b : Value) → Decidable (a = b)
  | .null, .null => isTrue rfl
  | .bool a, .bool b =>
    if h : a = b then isTrue (by rw [h]) else isFalse (by intro e; cases e; exact h rfl)
  | .number a, .number b =>
    if h : a = b then isTrue (by rw [h]) else isFalse (by intro e; cases e; exact h rfl)
  | .string a, .string b =>
    if h : a = b then isTrue (by rw [h]) else isFalse (by intro e; cases e; exact h rfl)
  | .array a, .array b => match decideEqItems a b with
    | isTrue h => isTrue (by rw [h])
    | isFalse h => isFalse (by intro e; cases e; exact h rfl)
  | .object a, .object b => match decideEqMembers a b with
    | isTrue h => isTrue (by rw [h])
    | isFalse h => isFalse (by intro e; cases e; exact h rfl)
  | .null, .bool _ | .null, .number _ | .null, .string _ | .null, .array _ | .null, .object _
  | .bool _, .null | .bool _, .number _ | .bool _, .string _ | .bool _, .array _
  | .bool _, .object _ | .number _, .null | .number _, .bool _ | .number _, .string _
  | .number _, .array _ | .number _, .object _ | .string _, .null | .string _, .bool _
  | .string _, .number _ | .string _, .array _ | .string _, .object _ | .array _, .null
  | .array _, .bool _ | .array _, .number _ | .array _, .string _ | .array _, .object _
  | .object _, .null | .object _, .bool _ | .object _, .number _ | .object _, .string _
  | .object _, .array _ => isFalse (by intro e; cases e)

def decideEqItems : (a b : List Value) → Decidable (a = b)
  | [], [] => isTrue rfl
  | [], _ :: _ => isFalse (by intro e; cases e)
  | _ :: _, [] => isFalse (by intro e; cases e)
  | a :: as, b :: bs => match decideEq a b, decideEqItems as bs with
    | isTrue h, isTrue h' => isTrue (by rw [h, h'])
    | isFalse h, _ => isFalse (by intro e; cases e; exact h rfl)
    | _, isFalse h => isFalse (by intro e; cases e; exact h rfl)

def decideEqMembers : (a b : List (String × Value)) → Decidable (a = b)
  | [], [] => isTrue rfl
  | [], _ :: _ => isFalse (by intro e; cases e)
  | _ :: _, [] => isFalse (by intro e; cases e)
  | (m, a) :: as, (n, b) :: bs =>
    match String.decEq m n, decideEq a b, decideEqMembers as bs with
    | isTrue h, isTrue h', isTrue h'' => isTrue (by rw [h, h', h''])
    | isFalse h, _, _ => isFalse (by intro e; cases e; exact h rfl)
    | _, isFalse h, _ => isFalse (by intro e; cases e; exact h rfl)
    | _, _, isFalse h => isFalse (by intro e; cases e; exact h rfl)
end

end Value

instance : DecidableEq Value := Value.decideEq

end ElmPrerender.Json
