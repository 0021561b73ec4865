import SingleAuth.Storage.Schema

open fallible

namespace singleauth.storage

/-- The operator of a clause; `unsupported` is any text that is none of them. -/
inductive Operator where
  | eq | ne | lt | lte | gt | gte | isIn | notIn | contains | startsWith | endsWith
  | unsupported (text : String)
  deriving DecidableEq

inductive Connector where
  | and | or
  | unsupported (text : String)
  deriving DecidableEq

inductive ComparisonMode where
  | sensitive | insensitive
  | unsupported (text : String)
  deriving DecidableEq

/-- One predicate of a query as a caller writes it. What is left out has a default. -/
structure Where where
  field : String
  value : Value
  operator : Option Operator := none
  connector : Option Connector := none
  mode : Option ComparisonMode := none

/-- A predicate with its defaults filled in. -/
structure Clause where
  field : String
  value : Value
  operator : Operator
  connector : Connector
  mode : ComparisonMode

def isSlice : Value → Bool
  | .slice _ _ => true
  | _ => false

def Operator.text : Operator → String
  | .eq => "eq"
  | .ne => "ne"
  | .lt => "lt"
  | .lte => "lte"
  | .gt => "gt"
  | .gte => "gte"
  | .isIn => "in"
  | .notIn => "not_in"
  | .contains => "contains"
  | .startsWith => "starts_with"
  | .endsWith => "ends_with"
  | .unsupported text => text

def Where.normalize (library : Library) (clause : Where) : Except StorageError Clause := do
  require (clause.field ≠ "") (Sentinel.invalidQuery.error "where field is empty")
  let operator := clause.operator.getD .eq
  let connector := clause.connector.getD .and
  let mode := clause.mode.getD .sensitive
  match operator with
  | .unsupported text => .error (Sentinel.invalidQuery.error ("unsupported operator " ++ library.quote text))
  | _ => .ok ()
  match connector with
  | .unsupported text => .error (Sentinel.invalidQuery.error ("unsupported connector " ++ library.quote text))
  | _ => .ok ()
  match mode with
  | .unsupported text => .error (Sentinel.invalidQuery.error ("unsupported comparison mode " ++ library.quote text))
  | _ => .ok ()
  require (¬ (operator = .isIn ∨ operator = .notIn) ∨ isSlice clause.value)
    (Sentinel.invalidQuery.error (operator.text ++ " value must be an array"))
  return { field := clause.field, value := clause.value, operator, connector, mode }

end singleauth.storage
