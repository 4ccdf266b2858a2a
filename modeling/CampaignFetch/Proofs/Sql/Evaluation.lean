import CampaignFetch.Fetch.Condition
import CampaignFetch.Proofs.Sql.Grammar

/-!
# The value of a clause

Clauses are evaluated on a row with three truth values, null being the third. An expression that
mixes types has no value.

A column of integers or timestamps has a value that is no text. It is known by its text form here,
which a cast gives for an integer and `to_char` with the pattern of columns for a timestamp.

* `Logic.and`, `Logic.or`: the connectives of three truth values.
* `Tree.eval`: the value of an expression.
-/

namespace CampaignFetch.Sql

/-! ## Values -/

/-- A value of an expression. -/
inductive Value where
  | null
  | truth (value : Bool)
  | text (value : String)
  | integer (value : Nat)
  /-- A value of a column that is no text, with its text form. -/
  | stored (type : ColumnType) (text : String)
  deriving DecidableEq, Repr

/-- A truth value, unknown being the third one. -/
abbrev Logic := Option Bool

namespace Logic

/-- False if either is false, else unknown if either is unknown. -/
def and : Logic → Logic → Logic
  | some false, _ => some false
  | _, some false => some false
  | some true, some true => some true
  | _, _ => none

/-- True if either is true, else unknown if either is unknown. -/
def or : Logic → Logic → Logic
  | some true, _ => some true
  | _, some true => some true
  | some false, some false => some false
  | _, _ => none

theorem and_eq_true_iff {a b : Logic} : and a b = some true ↔ a = some true ∧ b = some true := by
  rcases a with _ | _ | _ <;> rcases b with _ | _ | _ <;> decide

theorem or_eq_true_iff {a b : Logic} : or a b = some true ↔ a = some true ∨ b = some true := by
  rcases a with _ | _ | _ <;> rcases b with _ | _ | _ <;> decide

end Logic

namespace Value

/-- The value of a truth value; the unknown one is null. -/
def ofLogic : Logic → Value
  | none => .null
  | some b => .truth b

/-- The truth value of a value. -/
def logic? : Value → Option Logic
  | .null => some none
  | .truth b => some (some b)
  | _ => none

@[simp] theorem logic?_ofLogic (b : Logic) : (ofLogic b).logic? = some b := by
  cases b <;> rfl

theorem ofLogic_eq_true_iff {b : Logic} : ofLogic b = .truth true ↔ b = some true := by
  cases b <;> simp [ofLogic]

/-- The value of a text that may be null. -/
def ofText? : Option String → Value
  | none => .null
  | some s => .text s

/-- Whether two values are equal: unknown if either is null. -/
def equal : Value → Value → Option Logic
  | .null, _ => some none
  | _, .null => some none
  | .text a, .text b => some (some (a = b))
  | .integer m, .integer n => some (some (m = n))
  | _, _ => none

/-- Whether a value is equal to one of others. -/
def isIn (value : Value) : List Value → Option Logic
  | [] => some (some false)
  | item :: items => do return .or (← value.equal item) (← value.isIn items)

/-- The value as a type. -/
def cast (type : String) (value : Value) : Option Value :=
  match type, value with
  | "text", .null => some .null
  | "text", .text s => some (.text s)
  | "text", .integer n => some (.text (Text.ofInt n))
  | "text", .stored .integer s => some (.text s)
  | _, _ => none

/-- The value of a function. -/
def call (function : String) (arguments : List Value) : Option Value :=
  match function, arguments with
  | "lower", [.null] => some .null
  | "lower", [.text s] => some (.text (Text.lowercase s))
  | "to_char", [.null, .text _] => some .null
  | "to_char", [.stored .timestamp s, .text pattern] =>
    if pattern = Condition.timestampPattern then some (.text s) else none
  | _, _ => none

end Value

/-! ## Expressions -/

/-- What a clause is evaluated on: a row and the values of the placeholders. -/
structure Scope where
  row : Row
  params : List Json

namespace Scope

/-- The column with a table and a name. -/
def column? (table name : String) : Option Column :=
  (Kind.campaign.columns ++ Kind.adGroup.columns).find? fun c =>
    c.kind.table = table ∧ c.name = name

/-- The value of a column. -/
def column (s : Scope) (c : Column) : Value :=
  match s.row.text? c, c.type with
  | none, _ => .null
  | some text, .text => .text text
  | some text, type => .stored type text

/-- The value of a placeholder; placeholders are numbered from one. -/
def param? (s : Scope) (number : Nat) : Option Value :=
  if number = 0 then none
  else match s.params[number - 1]? with
    | some .null => some .null
    | some (.string text) => some (.text text)
    | _ => none

end Scope

/-- What an expression of a level is evaluated to. -/
abbrev Level.Meaning : Level → Type
  | .linked .comma => List Value
  | _ => Value

/-- The truth value of two linked by a connective. -/
def Value.connect (connective : Logic → Logic → Logic) (a b : Value) : Option Value := do
  return ofLogic (connective (← a.logic?) (← b.logic?))

/-- The value of an expression. -/
def Tree.eval (s : Scope) {l : Level} : Tree l → Option l.Meaning
  | .column t n => (Scope.column? t n).map s.column
  | .param k => s.param? k
  | .number n => some (.integer n)
  | .literal text => some (.text text)
  | .call f arguments => do Value.call f (← arguments.eval s)
  | .group inner => inner.eval s
  | .typed inner casts => do casts.foldlM (fun value type => value.cast type) (← inner.eval s)
  | .plain inner => inner.eval s
  | .isIn inner items => do return .ofLogic (← (← inner.eval s).isIn (← items.eval s))
  | .one .equal inner => inner.eval s
  | .one .and inner => inner.eval s
  | .one .or inner => inner.eval s
  | .one .comma inner => do return [← inner.eval s]
  | .more .equal left right => do return .ofLogic (← (← left.eval s).equal (← right.eval s))
  | .more .and first others => do (← first.eval s).connect .and (← others.eval s)
  | .more .or first others => do (← first.eval s).connect .or (← others.eval s)
  | .more .comma first others => do return (← first.eval s) :: (← others.eval s)

end CampaignFetch.Sql
